import UiSchema.Decode.Codec

/-!
# Records

A record describes a structure as a list of fields in declared order. It is read from an object,
whose keys are visited in ascending order, or from an array by position; it is written as an object
of the fields that are not left out. An *exact* record refuses keys that it does not know.
-/

set_option autoImplicit false

namespace UiSchema

/-- One field of a structure `σ`: how a value is stored in it and what is written of it. -/
structure RecordField (σ : Type) where
  name : String
  aliases : List String
  required : Bool
  load : Json → σ → Except DecodeError σ
  save : σ → Option Json

namespace RecordField

variable {σ α : Type}

def mandatory (name : String) (codec : Codec α) (set : α → σ → σ) (get : σ → α) :
    RecordField σ where
  name := name
  aliases := []
  required := true
  load v s := (codec.decode v).map (fun a => set a s)
  save s := some (codec.encode (get s))

/-- A field that may be absent; null counts as absent. -/
def optional (name : String) (codec : Codec α) (set : Option α → σ → σ) (get : σ → Option α) :
    RecordField σ where
  name := name
  aliases := []
  required := false
  load v s := match v with
    | .null => .ok (set none s)
    | v => (codec.decode v).map (fun a => set (some a) s)
  save s := (get s).map codec.encode

/-- An optional field that is written as null when it is absent. -/
def nullable (name : String) (codec : Codec α) (set : Option α → σ → σ) (get : σ → Option α) :
    RecordField σ :=
  { optional name codec set get with save := fun s => some (((get s).map codec.encode).getD .null) }

/-- A field that keeps its initial value when it is absent, and is always written. -/
def defaulted (name : String) (codec : Codec α) (set : α → σ → σ) (get : σ → α) :
    RecordField σ :=
  { mandatory name codec set get with required := false }

/-- A field that keeps its initial value when it is absent, and is left out when it is empty. -/
def unlessEmpty (name : String) (codec : Codec (List α)) (set : List α → σ → σ)
    (get : σ → List α) : RecordField σ :=
  { mandatory name codec set get with
    required := false
    save := fun s => if (get s).isEmpty then none else some (codec.encode (get s)) }

def withAlias (f : RecordField σ) (other : String) : RecordField σ :=
  { f with aliases := f.aliases ++ [other] }

def isNamed (f : RecordField σ) (key : String) : Bool := f.name == key || f.aliases.contains key

end RecordField

/-- A structure `σ` as a list of fields. Decoding starts from `initial`, which holds the values of
absent fields; every required field is stored over it. -/
structure Record (σ : Type) where
  name : String
  exact : Bool
  fields : List (RecordField σ)
  initial : σ

namespace Record

variable {σ : Type}

/-- All keys, each alias behind its field. -/
def knownKeys (r : Record σ) : List String := r.fields.flatMap (fun f => f.name :: f.aliases)

def field? (r : Record σ) (key : String) : Option (RecordField σ) :=
  r.fields.find? (fun f => f.isNamed key)

/-- Stores the entries of an object one by one; `seen` are the names of the fields stored so far. -/
def loadEntries (r : Record σ) :
    List (String × Json) → List String → σ → Except DecodeError (List String × σ)
  | [], seen, s => .ok (seen, s)
  | (key, v) :: rest, seen, s =>
    match r.field? key with
    | none => if r.exact then .error (.unknownField key r.knownKeys) else loadEntries r rest seen s
    | some f =>
      if seen.contains f.name then .error (.duplicateField f.name)
      else do
        let s ← f.load v s
        loadEntries r rest (f.name :: seen) s

/-- The first required field that was not stored. -/
def missing? (r : Record σ) (seen : List String) : Option String :=
  (r.fields.find? (fun f => f.required && !seen.contains f.name)).map RecordField.name

/-- Stores the items of an array by position; `index` is the position of the next field. -/
def loadItems (r : Record σ) (given : Nat) :
    List (RecordField σ) → List Json → Nat → σ → Except DecodeError σ
  | [], [], _, s => .ok s
  | [], _ :: _, _, _ => .error (.tooManyItems given)
  | f :: fs, [], index, s =>
    if f.required then .error (.tooFewItems index r.name r.fields.length)
    else loadItems r given fs [] (index + 1) s
  | f :: fs, v :: vs, index, s => do
    let s ← f.load v s
    loadItems r given fs vs (index + 1) s

def decode (r : Record σ) (v : Json) : Except DecodeError σ :=
  match v with
  | .obj entries => do
    let (seen, s) ← r.loadEntries entries [] r.initial
    match r.missing? seen with
    | some name => .error (.missingField name)
    | none => .ok s
  | .arr items => r.loadItems items.length r.fields items 0 r.initial
  | v => .error (.unexpected v (.record r.name))

/-- The object of the fields that are not left out, in declared order. -/
def encode (r : Record σ) (s : σ) : Json :=
  .obj (r.fields.filterMap (fun f => (f.save s).map (fun v => (f.name, v))))

def codec (r : Record σ) : Codec σ := ⟨r.decode, r.encode⟩

end Record

end UiSchema
