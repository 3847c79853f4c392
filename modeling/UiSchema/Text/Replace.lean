/-!
# Replacing a word

Every occurrence of a word is replaced, from left to right; inserted text is not read again.
-/

set_option autoImplicit false

namespace UiSchema.Text

/-- Replaces a word behind the next `skip` characters, which are left out. -/
def replaceFrom (word replacement : List Char) : Nat → List Char → List Char
  | _, [] => []
  | skip + 1, _ :: rest => replaceFrom word replacement skip rest
  | 0, c :: rest =>
    if word.isPrefixOf (c :: rest) then
      replacement ++ replaceFrom word replacement (word.length - 1) rest
    else c :: replaceFrom word replacement 0 rest

/-- The text with every occurrence of a word replaced. -/
def replaceAll (word replacement text : String) : String :=
  String.ofList (replaceFrom word.toList replacement.toList 0 text.toList)

end UiSchema.Text
