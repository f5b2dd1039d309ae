import WideColumn.Highlight.Token
import WideColumn.Text.Split

/-!
# Highlighting

A text is highlighted line by line, so a style never reaches past the end of a line.

Main definitions: `Highlight.highlightLine`, `Highlight.highlight`.
-/

namespace WideColumn.Highlight

/-- The line with its tokens in their styles. -/
def highlightLine (language : Language) (colors : Bool) (line : List Char) : List Char :=
  (tokens language line).flatMap fun token => token.style.paint colors token.text

/-- The text with its tokens in their styles, or as it is if highlighting is off. -/
def highlight (language : Language) (enabled colors : Bool) (text : String) : String :=
  if enabled then
    let lines := (Text.splitAt '\n' text.toList).map (highlightLine language colors)
    String.ofList (['\n'].intercalate lines)
  else text

end WideColumn.Highlight
