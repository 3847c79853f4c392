/-!
# Keyed entries in ascending order

A `Dict α` is a list of entries whose keys ascend; keys compare by code point, which is also the
order of their UTF-8 bytes. The list is plain data, so that a value type may hold one, and
`Ascending` says when its order is right: every dictionary built with `insert`, `overlay` or
`ofList` from ascending ones is ascending.
-/

set_option autoImplicit false

namespace UiSchema

/-- Entries by key, ascending. -/
abbrev Dict (α : Type) := List (String × α)

namespace Dict

variable {α β : Type}

/-- The keys strictly ascend, so no key occurs twice. -/
def Ascending (d : Dict α) : Prop := d.Pairwise (fun a b => a.1 < b.1)

def keys (d : Dict α) : List String := d.map Prod.fst

def values (d : Dict α) : List α := d.map Prod.snd

/-- The value stored under a key. -/
def get? : Dict α → String → Option α
  | [], _ => none
  | (k, v) :: rest, key => if k = key then some v else get? rest key

def contains (d : Dict α) (key : String) : Bool := (get? d key).isSome

/-- Stores a value under a key, in the place of the old one if the key is present. -/
def insert : Dict α → String → α → Dict α
  | [], key, value => [(key, value)]
  | (k, v) :: rest, key, value =>
    if key = k then (key, value) :: rest
    else if key < k then (key, value) :: (k, v) :: rest
    else (k, v) :: insert rest key value

/-- `base` with every entry of `top` stored over it. -/
def overlay (base top : Dict α) : Dict α := top.foldl (fun d e => insert d e.1 e.2) base

/-- The entries in ascending order; of two with one key the later stays. -/
def ofList (entries : List (String × α)) : Dict α := overlay [] entries

def mapValues (f : α → β) (d : Dict α) : Dict β := d.map (fun e => (e.1, f e.2))

@[simp] theorem get?_nil (key : String) : get? ([] : Dict α) key = none := rfl

theorem get?_insert_self (d : Dict α) (key : String) (value : α) :
    get? (insert d key value) key = some value := by
  induction d with
  | nil => simp [insert, get?]
  | cons e rest ih =>
    obtain ⟨k, v⟩ := e
    simp only [insert]
    split
    · simp [get?]
    · split
      · simp [get?]
      · rename_i h _
        simp [get?, Ne.symm h, ih]

theorem get?_insert_of_ne (d : Dict α) {key other : String} (value : α) (h : other ≠ key) :
    get? (insert d key value) other = get? d other := by
  induction d with
  | nil => simp [insert, get?, Ne.symm h]
  | cons e rest ih =>
    obtain ⟨k, v⟩ := e
    simp only [insert]
    split
    · rename_i hk
      subst hk
      simp [get?, Ne.symm h]
    · split
      · simp [get?, Ne.symm h]
      · simp only [get?, ih]

end Dict

end UiSchema
