import GuildRoles.Json.Value
import GuildRoles.Text.Integer

/-!
# Decoding values into typed data

The decoders of this library turn a `Value` into typed data and say what was wrong when they
cannot. A fault names the value found and what was expected ("invalid type: integer `5`,
expected a string"), a value out of range ("invalid value: integer `-1`, expected u32"), a
missing field, a list of the wrong length, or an unknown name of a variant.

Records are read from objects or, field by field, from lists. An object is checked in the order
of its keys: every known key's value is decoded, and the first fault wins; only then are missing
fields looked for, in the order the record declares them. Unknown keys are ignored.
-/

namespace GuildRoles.Json

/-- Why a value could not be decoded: the sentence of the fault. -/
structure DecodeError where
  message : String
  deriving DecidableEq, Repr

/-- The result of a decoder. -/
abbrev Decoded (α : Type) := Except DecodeError α

namespace DecodeError

/-- A value of the wrong kind. -/
def invalidType (v : Value) (expected : String) : DecodeError :=
  ⟨"invalid type: " ++ v.describe ++ ", expected " ++ expected⟩

/-- A value of the right kind that is out of range. -/
def invalidValue (found expected : String) : DecodeError :=
  ⟨"invalid value: " ++ found ++ ", expected " ++ expected⟩

/-- A required field that is absent. -/
def missingField (name : String) : DecodeError := ⟨"missing field `" ++ name ++ "`"⟩

/-- A list of the wrong length. -/
def invalidLength (n : Nat) (expected : String) : DecodeError :=
  ⟨"invalid length " ++ toString n ++ ", expected " ++ expected⟩

/-- The names of variants as a message lists them. -/
def listNames : List String → String
  | [] => "there are no variants"
  | [a] => "expected `" ++ a ++ "`"
  | [a, b] => "expected `" ++ a ++ "` or `" ++ b ++ "`"
  | names => "expected one of " ++ ", ".intercalate (names.map fun n => "`" ++ n ++ "`")

/-- A name that is not one of the variants. -/
def unknownVariant (name : String) (variants : List String) : DecodeError :=
  ⟨"unknown variant `" ++ name ++ "`, " ++ listNames variants⟩

end DecodeError

namespace Decode

/-- A text. -/
def string : Value → Decoded String
  | .str s => .ok s
  | v => .error (.invalidType v "a string")

/-- A boolean. -/
def bool : Value → Decoded Bool
  | .bool b => .ok b
  | v => .error (.invalidType v "a boolean")

/-- An integer of a fixed width, named as messages name it (`u16`, `i32`, ...). -/
def integer (w : Text.IntWidth) (name : String) : Value → Decoded Int
  | .num (.nat n) =>
    if (n : Int) ≤ w.hi then .ok n
    else .error (.invalidValue ("integer `" ++ toString n ++ "`") name)
  | .num (.neg n) =>
    if w.lo ≤ n then .ok n
    else .error (.invalidValue ("integer `" ++ toString n ++ "`") name)
  | v => .error (.invalidType v name)

/-- A natural number of a fixed unsigned width. -/
def natural (w : Text.IntWidth) (name : String) (v : Value) : Decoded Nat :=
  (integer w name v).map Int.toNat

/-- Absent when null, otherwise decoded. -/
def option {α : Type} (f : Value → Decoded α) : Value → Decoded (Option α)
  | .null => .ok none
  | v => some <$> f v

/-- A list, every item decoded in order. -/
def list {α : Type} (f : Value → Decoded α) : Value → Decoded (List α)
  | .arr items => items.mapM f
  | v => .error (.invalidType v "a sequence")

/-- A pair written as a list of two items. -/
def pair {α β : Type} (f : Value → Decoded α) (g : Value → Decoded β) : Value → Decoded (α × β)
  | .arr [] => .error (.invalidLength 0 "a tuple of size 2")
  | .arr [_] => .error (.invalidLength 1 "a tuple of size 2")
  | .arr (a :: b :: rest) => do
    let x ← f a
    let y ← g b
    if rest.isEmpty then pure (x, y)
    else .error (.invalidLength (rest.length + 2) "fewer elements in array")
  | v => .error (.invalidType v "a tuple of size 2")

/-- A variant without data, named by a text or by the one key of an object whose value is
null. -/
def variant {α : Type} (variants : List (String × α)) : Value → Decoded α
  | .str s => byName s
  | .obj [(k, v)] => do
    let a ← byName k
    match v with
    | .null => pure a
    | v => .error (.invalidType v "unit")
  | .obj _ => .error (.invalidValue "map" "map with a single key")
  | v => .error (.invalidType v "string or map")
where
  /-- The variant of a name. -/
  byName (s : String) : Decoded α :=
    match variants.lookup s with
    | some a => .ok a
    | none => .error (.unknownVariant s (variants.map Prod.fst))

/-- The check that a known key's value decodes, for the first pass over an object. -/
abbrev FieldCheck := String × (Value → Decoded Unit)

/-- A check made from a decoder. -/
def check {α : Type} (name : String) (f : Value → Decoded α) : FieldCheck :=
  (name, fun v => (f v).map fun _ => ())

/-- Decodes the value of every known key, in the order of the entries; unknown keys are
skipped. -/
def checkEntries (checks : List FieldCheck) : List (String × Value) → Decoded Unit
  | [] => .ok ()
  | (k, v) :: rest =>
    match checks.lookup k with
    | some c => do c v; checkEntries checks rest
    | none => checkEntries checks rest

/-- The value of a required field. -/
def required {α : Type} (entries : List (String × Value)) (name : String)
    (f : Value → Decoded α) : Decoded α :=
  match entries.lookup name with
  | some v => f v
  | none => .error (.missingField name)

/-- The value of a field that may be absent, with the value taken when it is. -/
def withDefault {α : Type} (entries : List (String × Value)) (name : String)
    (f : Value → Decoded α) (default : α) : Decoded α :=
  match entries.lookup name with
  | some v => f v
  | none => .ok default

/-- The item at a position of a record written as a list, or the fault of a list too short. -/
def item {α : Type} (items : List Value) (i : Nat) (expected : String)
    (f : Value → Decoded α) : Decoded α :=
  match items[i]? with
  | some v => f v
  | none => .error (.invalidLength i expected)

/-- The item at a position of a record written as a list, or a default past its end. -/
def itemOr {α : Type} (items : List Value) (i : Nat) (f : Value → Decoded α) (default : α) :
    Decoded α :=
  match items[i]? with
  | some v => f v
  | none => .ok default

/-- A record written as a list may not have more items than fields. -/
def noSurplus (items : List Value) (fields : Nat) : Decoded Unit :=
  if items.length ≤ fields then .ok ()
  else .error (.invalidLength items.length "fewer elements in array")

end Decode

end GuildRoles.Json
