/-!
# Cutting text at a character

`pieces` cuts at every occurrence of a separator and always yields at least one piece; `join` puts
pieces back with the separator between them, and undoes `pieces`.
-/

set_option autoImplicit false

namespace UiSchema.Text

def pieces (separator : Char) : List Char → List (List Char)
  | [] => [[]]
  | c :: rest =>
    if c = separator then [] :: pieces separator rest
    else match pieces separator rest with
      | [] => [[c]]
      | head :: tail => (c :: head) :: tail

def join (separator : Char) : List (List Char) → List Char
  | [] => []
  | [piece] => piece
  | piece :: rest => piece ++ separator :: join separator rest

/-- The text before and after the first separator. -/
def cutOnce (separator : Char) : List Char → Option (List Char × List Char)
  | [] => none
  | c :: rest =>
    if c = separator then some ([], rest)
    else (cutOnce separator rest).map (fun p => (c :: p.1, p.2))

theorem pieces_ne_nil (separator : Char) (cs : List Char) : pieces separator cs ≠ [] := by
  cases cs with
  | nil => simp [pieces]
  | cons c rest =>
    simp only [pieces]
    split
    · simp
    · split <;> simp

theorem join_pieces (separator : Char) (cs : List Char) :
    join separator (pieces separator cs) = cs := by
  induction cs with
  | nil => simp [pieces, join]
  | cons c rest ih =>
    have hne := pieces_ne_nil separator rest
    simp only [pieces]
    split
    · rename_i h
      cases hp : pieces separator rest with
      | nil => exact absurd hp hne
      | cons head tail => rw [hp] at ih; simp [join, ih, h]
    · cases hp : pieces separator rest with
      | nil => exact absurd hp hne
      | cons head tail =>
        rw [hp] at ih
        cases tail <;> simp_all [join]

/-- Pieces of a string at a separator. -/
def splitOn (separator : Char) (s : String) : List String :=
  (pieces separator s.toList).map String.ofList

/-- Strings with a separator between them. -/
def joinWith (separator : String) : List String → String
  | [] => ""
  | [s] => s
  | s :: rest => s ++ separator ++ joinWith separator rest

end UiSchema.Text
