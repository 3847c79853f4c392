import UiSchema.Text.Pieces

/-!
# Options and operands

A line of words is read level by level. An option's value follows it or is joined to it by an equals
sign, and only a joined one may start with a hyphen. Behind two hyphens all is operands. A value that
stands on its own is held back and checked when the next option or operand has been recognised, or at
the end of its level; a joined one is checked at once. An option that asks for information ends the
reading unless something in front of it is refused.
-/

set_option autoImplicit false

namespace UiSchema.Command

/-- Why a line asks for nothing to be run. -/
inductive Halt where
  /-- it asks how to call, or which version this is -/
  | informed
  | refused
deriving DecidableEq

abbrev Reading := Except Halt

inductive OptionKind where
  | value
  | flag
  | information
deriving DecidableEq

structure OptionSpec where
  name : String
  letter : Option Char := none
  kind : OptionKind := .value
  repeatable : Bool := false
  accepts : String → Bool := fun _ => true

/-- What may stand on one level of a line. -/
structure Level where
  options : List OptionSpec
  /-- which operand is accepted, where there is one -/
  operand : Option (String → Bool)

/-- What was read last and is still to be checked. -/
inductive Held where
  | nothing
  | waiting (o : OptionSpec)
  | valued (o : OptionSpec) (value : String)
  | operand (value : String)

structure Scan where
  held : Held := .nothing
  options : List (OptionSpec × String) := []
  operand : Option String := none
  /-- two hyphens were read -/
  literal : Bool := false

namespace Scan

/-- Stores an option with its value. -/
def store (s : Scan) (o : OptionSpec) (value : String) : Reading Scan :=
  if !o.accepts value then .error .refused
  else if !o.repeatable && s.options.any (fun e => e.1.name == o.name) then .error .refused
  else .ok { s with held := .nothing, options := s.options ++ [(o, value)] }

/-- Checks what was held back. -/
def settle (level : Level) (s : Scan) : Reading Scan :=
  match s.held with
  | .nothing => .ok s
  | .waiting _ => .error .refused
  | .valued o value => s.store o value
  | .operand value =>
    match level.operand with
    | some accepts =>
      if accepts value then .ok { s with held := .nothing, operand := some value }
      else .error .refused
    | none => .error .refused

/-- An option that takes no value. -/
def switch (level : Level) (s : Scan) (o : OptionSpec) : Reading Scan := do
  let s ← s.settle level
  if o.kind = .information then .error .informed else s.store o ""

/-- An option with a value, which may be joined to it. -/
def valued (level : Level) (s : Scan) (o : OptionSpec) (joined : Option (List Char)) :
    Reading Scan := do
  let s ← s.settle level
  match joined with
  | some value => s.store o (String.ofList value)
  | none => .ok { s with held := .waiting o }

/-- Reads an option given by its name. -/
def long (level : Level) (s : Scan) (text : List Char) : Reading Scan :=
  let (name, joined) := match Text.cutOnce '=' text with
    | some (name, value) => (name, some value)
    | none => (text, none)
  match level.options.find? (fun o => o.name == String.ofList name) with
  | none => .error .refused
  | some o =>
    if o.kind = .value then s.valued level o joined
    else if joined.isSome then .error .refused
    else s.switch level o

/-- Reads options given by their letters; what follows one that takes a value is its value. -/
def letters (level : Level) (s : Scan) : List Char → Reading Scan
  | [] => .ok s
  | letter :: rest =>
    match level.options.find? (fun o => o.letter == some letter) with
    | none => .error .refused
    | some o =>
      if o.kind = .value then
        match rest with
        | [] => s.valued level o none
        | '=' :: value => s.valued level o (some value)
        | value => s.valued level o (some value)
      else do
        let s ← s.switch level o
        letters level s rest

/-- Reads a word that is no option. -/
def plain (level : Level) (s : Scan) (word : String) : Reading Scan := do
  let s ← s.settle level
  if level.operand.isNone || s.operand.isSome then .error .refused
  else .ok { s with held := .operand word }

/-- What a word is by its first characters. -/
inductive Word where
  | separator
  | long (text : List Char)
  | letters (text : List Char)
  | plain

def wordOf (word : String) : Word :=
  match word.toList with
  | ['-', '-'] => .separator
  | '-' :: '-' :: text => .long text
  | '-' :: letter :: rest => .letters (letter :: rest)
  | _ => .plain

/-- Reads one word. -/
def word (level : Level) (s : Scan) (w : String) : Reading Scan :=
  if s.literal then s.plain level w
  else
    match wordOf w with
    | .separator => .ok { s with literal := true }
    | .long text => s.long level text
    | .letters text => s.letters level text
    | .plain =>
      match s.held with
      | .waiting o => .ok { s with held := .valued o w }
      | _ => s.plain level w

/-- Reads all words of a level. -/
def words (level : Level) (s : Scan) (line : List String) : Reading Scan := do
  let s ← line.foldlM (word level) s
  s.settle level

/-- Whether the next word may name what follows on the next level. -/
def atName (s : Scan) : Bool :=
  match s.held with
  | .waiting _ => false
  | _ => !s.literal

/-- Reads the words in front of a name, and gives the name with the words behind it. -/
def untilName (isName : String → Bool) (level : Level) (s : Scan) :
    List String → Reading (Scan × String × List String)
  | [] => .error .refused
  | w :: rest =>
    if s.atName && isName w then .ok (s, w, rest)
    else do
      let s ← s.word level w
      untilName isName level s rest

def values (s : Scan) (name : String) : List String :=
  (s.options.filter (fun e => e.1.name == name)).map Prod.snd

def value? (s : Scan) (name : String) : Option String := (s.values name).head?

def has (s : Scan) (name : String) : Bool := (s.value? name).isSome

end Scan

end UiSchema.Command
