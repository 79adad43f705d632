import GuildRoles.Json.Reader
import GuildRoles.Json.Decode

/-!
# Reading typed data from JSON text

Reading a text straight into typed data, with the place of the first fault. Each reader here
checks the text against one kind of data and returns the value it read; a fault of syntax is
placed where it was found, and a fault of meaning (a value of the wrong kind, a missing field)
at the place the reader of the enclosing value had reached when it gave up.

* A text, a number of a width, or a list: anything else is a value of the wrong kind, which is
  read first, unless it opens a list or object, to be named in the fault.
* A flag takes any value; a list or object is refused once it is opened, and is then closed if
  it is empty.
* A record comes as an object or as a list of its fields. Fields of an object are read in the
  order of the text; a field given twice is a fault at its second key, unknown fields are
  skipped, and missing required fields are faults after the object. A list of fields may stop
  early only after a field with a default.

Readers take the depth budget of `Json.Read.value`. Records come back as objects with their
entries in the order read, ready for the value decoders.
-/

namespace GuildRoles.Json

namespace Read

/-- A reader of one typed value, given the depth budget. -/
abbrev Field := Nat → Read Value

/-- A fault of meaning placed at the cursor. -/
def meaningHere {α : Type} (text : String) : Read α := do
  throw ⟨.meaning text, some (← get).place⟩

/-- A value of the wrong kind, placed at the cursor. -/
def invalidType {α : Type} (found expected : String) : Read α :=
  meaningHere ("invalid type: " ++ found ++ ", expected " ++ expected)

/-- Reads a literal, a number or a string from its first byte, if the byte starts one. -/
def scalar (b : UInt8) : Read (Option Value) := do
  match b with
  | 110 => do bump; ident [117, 108, 108]; pure (some .null)
  | 116 => do bump; ident [114, 117, 101]; pure (some (.bool true))
  | 102 => do bump; ident [97, 108, 115, 101]; pure (some (.bool false))
  | 45 => do bump; pure (some (.num (← number false)))
  | 34 => do bump; pure (some (.str (← string)))
  | b => if isDigit b then pure (some (.num (← number true))) else pure none

/-- Refuses the next value as one of the wrong kind, naming it: a literal, number or string is
read first, a list or object is not. -/
def peekInvalidType {α : Type} (expected : String) : Read α := do
  match ← blank with
  | none => failPeek .eofInValue
  | some 91 => invalidType "sequence" expected
  | some 123 => invalidType "map" expected
  | some b =>
    match ← scalar b with
    | some v => invalidType v.describe expected
    | none => failPeek .expectedValue

/-- Turns the fault of a value decoder into a fault of meaning. -/
def decoded {α : Type} (r : Decoded α) : Read α :=
  match r with
  | .ok a => pure a
  | .error e => failMeaning e.message

/-- A text. -/
def text : Field := fun _ => fixPlace do
  match ← blank with
  | none => failPeek .eofInValue
  | some 34 => do bump; pure (.str (← string))
  | some _ => peekInvalidType "a string"

/-- A number of a width, named as messages name it. -/
def integer (w : Text.IntWidth) (name : String) : Field := fun _ => fixPlace do
  match ← blank with
  | none => failPeek .eofInValue
  | some 45 => do
    bump
    let v := Value.num (← number false)
    let _ ← decoded (Decode.integer w name v)
    pure v
  | some b =>
    if isDigit b then do
      let v := Value.num (← number true)
      let _ ← decoded (Decode.integer w name v)
      pure v
    else peekInvalidType name

/-- A value that may be null. -/
def option (f : Field) : Field := fun budget => do
  match ← blank with
  | some 110 => do bump; ident [117, 108, 108]; pure .null
  | _ => f budget

/-- The items of a list, each read by `f`. -/
def listItems (f : Field) (budget : Nat) : Nat → Bool → List Value → Read (List Value)
  | 0, _, acc => pure acc.reverse
  | fuel + 1, first, acc => do
    match ← itemStart first with
    | none => pure acc.reverse
    | some () =>
      let v ← f budget
      listItems f budget fuel false (v :: acc)

/-- A list of values, each read by `f`. -/
def list (f : Field) : Field := fun budget => fixPlace do
  match ← blank with
  | none => failPeek .eofInValue
  | some 91 => do
    enter budget
    bump
    let items ← thenEnd (do listItems f (budget - 1) (← fuelLeft) true []) listEnd
    pure (.arr items)
  | some _ => peekInvalidType "a sequence"

/-- Any value, kept as it is. -/
def anyValue : Field := fun budget => do value budget (← fuelLeft)

/-- A flag: a boolean, a number, or a text; the value decoder `check` says which are flags. -/
def flag (expected : String) (check : Value → Decoded Bool) : Field := fun budget => fixPlace do
  match ← blank with
  | none => failPeek .eofInValue
  | some 91 => do
    enter budget
    bump
    thenEnd (failMeaning ("invalid type: sequence, expected " ++ expected)) listEnd
  | some 123 => do
    enter budget
    bump
    thenEnd (failMeaning ("invalid type: map, expected " ++ expected)) objectEnd
  | some b =>
    match ← scalar b with
    | some v =>
      let _ ← decoded (check v)
      pure v
    | none => failPeek .expectedValue

/-- A variant without data of one of `names`: its name as a text, or an object of one entry
whose key is the name and whose value is null. -/
def variant (names : List String) : Field := fun budget => do
  let name : Read String := fixPlace do
    match ← blank with
    | none => failPeek .eofInValue
    | some 34 => do
      bump
      let s ← string
      if names.contains s then pure s
      else failMeaning (DecodeError.unknownVariant s names).message
    | some _ => peekInvalidType "variant identifier"
  match ← blank with
  | some 123 => do
    enter budget
    bump
    let s ← name
    colon
    fixPlace do
      match ← blank with
      | none => failPeek .eofInValue
      | some 110 => do bump; ident [117, 108, 108]
      | some _ => peekInvalidType "unit"
    match ← blank with
    | some 125 => do bump; pure (.str s)
    | some _ => fail .expectedValue
    | none => fail .eofInObject
  | some 34 => do pure (.str (← name))
  | some _ => failPeek .expectedValue
  | none => failPeek .eofInValue

/-- A field of a record: its name, whether it is required, and its reader. -/
structure FieldSpec where
  name : String
  required : Bool
  read : Field

/-- The shape of a record: the names messages give it and its fields in order. -/
structure RecordSpec where
  name : String
  fields : List FieldSpec

/-- Reads the entries of a record object up to its closing brace; a missing required field is a
fault there. -/
def recordEntries (spec : RecordSpec) (budget : Nat) :
    Nat → Bool → List (String × Value) → Read (List (String × Value))
  | 0, _, acc => pure acc.reverse
  | fuel + 1, first, acc => do
    match ← keyStart first with
    | none =>
      match spec.fields.find? fun f => f.required && !(acc.any fun e => e.1 == f.name) with
      | some f => failMeaning ("missing field `" ++ f.name ++ "`")
      | none => pure acc.reverse
    | some () =>
      let key ← string
      match spec.fields.find? fun f => f.name == key with
      | some f =>
        if acc.any fun e => e.1 == key then failMeaning ("duplicate field `" ++ key ++ "`")
        else
          colon
          let v ← f.read budget
          recordEntries spec budget fuel false ((key, v) :: acc)
      | none =>
        colon
        skip
        recordEntries spec budget fuel false acc

/-- Reads the fields of a record given as a list, in order; the list may end only before a
field with a default. -/
def recordItems (spec : RecordSpec) (budget : Nat) :
    Nat → List FieldSpec → Bool → List (String × Value) → Read (List (String × Value))
  | _, [], _, acc => pure acc.reverse
  | i, f :: rest, first, acc => do
    match ← itemStart first with
    | none =>
      if f.required then
        failMeaning ("invalid length " ++ toString i ++ ", expected struct " ++ spec.name ++
          " with " ++ toString spec.fields.length ++ " elements")
      else recordItems spec budget (i + 1) rest first acc
    | some () =>
      let v ← f.read budget
      recordItems spec budget (i + 1) rest false ((f.name, v) :: acc)

/-- A record, as an object or a list of its fields. -/
def record (spec : RecordSpec) : Field := fun budget => fixPlace do
  match ← blank with
  | none => failPeek .eofInValue
  | some 91 => do
    enter budget
    bump
    pure (.obj (← thenEnd (recordItems spec (budget - 1) 0 spec.fields true []) listEnd))
  | some 123 => do
    enter budget
    bump
    pure (.obj (← thenEnd (do recordEntries spec (budget - 1) (← fuelLeft) true []) objectEnd))
  | some _ => peekInvalidType ("struct " ++ spec.name)

/-- Reads a whole text with `f`, then only blanks may follow, and decodes what was read. -/
def wholeText {α : Type} (f : Field) (d : Value → Decoded α) : Read α := do
  let v ← f depthBudget
  match ← blank with
  | some _ => failPeek .trailingCharacters
  | none => fixPlace (decoded (d v))

end Read

/-- Reads a whole text as typed data with a reader and a decoder of what it read. -/
def readText {α : Type} (f : Read.Field) (d : Value → Decoded α) (s : String) :
    Except ReadError α :=
  ((Read.wholeText f d).run.run (Cursor.ofString s)).1

end GuildRoles.Json
