import UiSchema.Json.Basic
import UiSchema.Text.Reader

/-!
# Moments

A date, a time of day, or both with an offset from universal time. A moment stands in a document as
it is; as a value it is an object with its normal text under a key of its own. A table whose first
key is that one stands for a moment too, and `momentText?` reads its text.
-/

set_option autoImplicit false

namespace UiSchema.Toml

open Text

def padded (width n : Nat) : String :=
  let ds := Nat.toDigits 10 n
  String.ofList (List.replicate (width - ds.length) '0' ++ ds)

def isLeapYear (year : Nat) : Bool := year % 4 == 0 && (year % 100 != 0 || year % 400 == 0)

def daysInMonth (year month : Nat) : Nat :=
  if month = 2 then (if isLeapYear year then 29 else 28)
  else if month = 4 ∨ month = 6 ∨ month = 9 ∨ month = 11 then 30
  else 31

def readSeparator (c : Char) : List Char → Option (List Char)
  | d :: rest => if d = c then some rest else none
  | [] => none

/-- A date, as its text. -/
def readDate : Reader String := fun cs => do
  let (year, cs) ← readFixed digit? 10 4 0 cs
  let cs ← readSeparator '-' cs
  let (month, cs) ← readFixed digit? 10 2 0 cs
  let cs ← readSeparator '-' cs
  let (day, cs) ← readFixed digit? 10 2 0 cs
  if 1 ≤ month ∧ month ≤ 12 ∧ 1 ≤ day ∧ day ≤ daysInMonth year month then
    some (padded 4 year ++ "-" ++ padded 2 month ++ "-" ++ padded 2 day, cs)
  else none

/-- Digits of a second's fraction: nine at most count, and zeros at the end are not written. -/
def fractionText (ds : List Nat) : String :=
  let kept := ((ds.take 9).reverse.dropWhile (· == 0)).reverse
  if kept.isEmpty then "" else "." ++ String.join (kept.map (padded 1))

/-- A time of day, as its text; its hour is at most `lastHour`. -/
def readTime (lastHour : Nat) : Reader String := fun cs => do
  let (hour, cs) ← readFixed digit? 10 2 0 cs
  let cs ← readSeparator ':' cs
  let (minute, cs) ← readFixed digit? 10 2 0 cs
  let cs ← readSeparator ':' cs
  let (second, cs) ← readFixed digit? 10 2 0 cs
  let (fraction, cs) ← match cs with
    | '.' :: rest => match readDigits rest with
      | ([], _) => none
      | found => some found
    | cs => some ([], cs)
  if hour ≤ lastHour ∧ minute ≤ 59 ∧ second ≤ 60 then
    some (padded 2 hour ++ ":" ++ padded 2 minute ++ ":" ++ padded 2 second ++
      fractionText fraction, cs)
  else none

/-- An offset of so many minutes to the east or, `west`, to the west. -/
def offsetText (west : Bool) (minutes : Nat) : String :=
  (if west && decide (0 < minutes) then "-" else "+") ++ padded 2 (minutes / 60) ++ ":" ++
    padded 2 (minutes % 60)

/-- An offset from universal time, as its text; `accepts` says which hours and minutes may stand in
it. -/
def readOffset (accepts : Nat → Nat → Bool) : Reader String
  | 'Z' :: rest => some ("Z", rest)
  | 'z' :: rest => some ("Z", rest)
  | c :: rest =>
    if c = '+' ∨ c = '-' then do
      let (hour, rest) ← readFixed digit? 10 2 0 rest
      let rest ← readSeparator ':' rest
      let (minute, rest) ← readFixed digit? 10 2 0 rest
      if accepts hour minute then some (offsetText (c == '-') (hour * 60 + minute), rest) else none
    else none
  | [] => none

def isDayTimeMark (c : Char) : Bool := c == 'T' || c == 't' || c == ' '

/-- A time of day behind a date. -/
def readDayTime : Reader String
  | c :: rest =>
    if isDayTimeMark c then do
      let (time, rest) ← readTime 23 rest
      let onClock (hour minute : Nat) : Bool := decide (hour ≤ 23 ∧ minute ≤ 59)
      let (offset, rest) := (readOffset onClock rest).getD ("", rest)
      some ("T" ++ time ++ offset, rest)
    else none
  | [] => none

def momentKey : String := "$__toml_private_datetime"

/-- The value of a moment. -/
def momentValue (text : String) : Json := .obj [(momentKey, .str text)]

/-- A value that is the whole text. -/
def readAll {α : Type} (read : Reader α) (cs : List Char) : Option α :=
  match read cs with
  | some (a, []) => some a
  | _ => none

/-- A time of day behind its mark, with an offset of a day at most. -/
def dayTimeText? (cs : List Char) : Option String := do
  let (time, rest) ← readTime 24 cs
  let withinDay (hour minute : Nat) : Bool := decide (hour * 60 + minute ≤ 24 * 60)
  match rest with
  | [] => some ("T" ++ time)
  | rest => (readAll (readOffset withinDay) rest).map (fun offset => "T" ++ time ++ offset)

/-- The normal text of a moment that is given as text. Here the hour may be 24. -/
def momentText? (text : String) : Option String :=
  match text.toList with
  | a :: b :: ':' :: rest => readAll (readTime 24) (a :: b :: ':' :: rest)
  | cs => do
    let (date, rest) ← readDate cs
    match rest with
    | [] => some date
    | c :: rest => if isDayTimeMark c then (dayTimeText? rest).map (date ++ ·) else none

end UiSchema.Toml
