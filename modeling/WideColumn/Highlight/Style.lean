/-!
# Terminal styles

A terminal shows a text in a style when the style's sequence stands before it and the reset sequence
after it. A text that holds a reset itself would end the style early, so the style is started again
there.

Main definitions: `Style`, `Style.paint`.
-/

namespace WideColumn

/-- How a terminal shows a text. -/
inductive Style where
  /-- As it is. -/
  | plain
  | green
  | boldBlue
  | magenta
  | yellow
  | cyan
  | dimmed
  | boldGreen
  | boldYellow
  | boldRed
  deriving DecidableEq, Repr

namespace Style

/-- The parameters of the sequence that starts a style. -/
def codes : Style → String
  | plain => ""
  | green => "32"
  | boldBlue => "1;34"
  | magenta => "35"
  | yellow => "33"
  | cyan => "36"
  | dimmed => "2"
  | boldGreen => "1;32"
  | boldYellow => "1;33"
  | boldRed => "1;31"

/-- The sequence that starts a style. -/
def opening (style : Style) : List Char := ['\x1b', '['] ++ style.codes.toList ++ ['m']

/-- The sequence that ends every style. -/
def reset : List Char := ['\x1b', '[', '0', 'm']

/-- The text with the style started again after each reset in it. -/
def restarted (style : Style) : List Char → List Char
  | '\x1b' :: '[' :: '0' :: 'm' :: r => reset ++ style.opening ++ restarted style r
  | c :: r => c :: restarted style r
  | [] => []

/-- The text in a style. Without colors, and in the plain style, it stays as it is. -/
def paint (style : Style) (colors : Bool) (s : List Char) : List Char :=
  if colors && style != .plain then style.opening ++ style.restarted s ++ reset else s

/-- The text in a style. -/
def paintText (style : Style) (colors : Bool) (s : String) : String :=
  String.ofList (style.paint colors s.toList)

end Style

end WideColumn
