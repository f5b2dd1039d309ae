/-!
# ASCII case

The database folds the names of its types, and this library compares a few fixed words, without
regard to the case of ASCII letters and of no others: `Char.toLower` and `Char.toUpper` of core
map exactly those letters, and here they are lifted to whole texts.

Main definitions: `Text.asciiLower`, `Text.asciiUpper`, `Text.eqIgnoringAsciiCase`.
-/

namespace WideColumn.Text

/-- The text with its ASCII capitals made small. -/
def asciiLower (s : List Char) : List Char := s.map Char.toLower

/-- The text with its small ASCII letters made capital. -/
def asciiUpper (s : List Char) : List Char := s.map Char.toUpper

/-- The two texts agree up to the case of ASCII letters. -/
def eqIgnoringAsciiCase (s t : List Char) : Bool := asciiLower s == asciiLower t

@[simp] theorem asciiLower_nil : asciiLower [] = [] := rfl

@[simp] theorem asciiLower_cons (c : Char) (s : List Char) :
    asciiLower (c :: s) = c.toLower :: asciiLower s := rfl

@[simp] theorem asciiLower_append (s t : List Char) :
    asciiLower (s ++ t) = asciiLower s ++ asciiLower t := by
  simp [asciiLower]

@[simp] theorem length_asciiLower (s : List Char) : (asciiLower s).length = s.length := by
  simp [asciiLower]

end WideColumn.Text
