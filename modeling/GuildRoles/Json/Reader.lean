import GuildRoles.Json.Cursor

/-!
# JSON text to values

Reading a whole text as a `Value`. Lists and objects may nest 127 deep; one level more is a
fault. An object keeps the last entry of a repeated key. After the value only blanks may follow.

The item and entry loops follow the separators: a comma is needed between items, a comma before
a closing bracket is a trailing comma, and a missing closing bracket at the end of the text is an
end-of-file fault of the list or object being read.
-/

namespace GuildRoles.Json

namespace Read

/-- Depth budget for nested lists and objects. -/
def depthBudget : Nat := 128

/-- Checks the depth budget before a nested list or object is entered. -/
def enter (budget : Nat) : Read Unit :=
  if budget ≤ 1 then failPeek .recursionLimit else pure ()

/-- The separator before a list item: `none` at the closing bracket, which stays unread. -/
def itemStart (first : Bool) : Read (Option Unit) := do
  match ← blank with
  | some 93 => pure none
  | some 44 =>
    if first then failPeek .expectedValue
    else
      bump
      match ← blank with
      | some 93 => failPeek .trailingComma
      | some _ => pure (some ())
      | none => failPeek .eofInValue
  | some _ => if first then pure (some ()) else failPeek .expectedListCommaOrEnd
  | none => failPeek .eofInList

/-- The separator before an object key: `none` at the closing brace, which stays unread; the
opening quote of the key is consumed. -/
def keyStart (first : Bool) : Read (Option Unit) := do
  let b ← blank
  let b ← match b with
    | some 125 => pure none
    | some 44 =>
      if first then failPeek .keyMustBeString
      else do
        bump
        let b ← blank
        pure (some b)
    | some x => if first then pure (some (some x)) else failPeek .expectedObjectCommaOrEnd
    | none => failPeek .eofInObject
  match b with
  | none => pure none
  | some (some 34) => do bump; pure (some ())
  | some (some 125) => failPeek .trailingComma
  | some (some _) => failPeek .keyMustBeString
  | some none => failPeek .eofInValue

/-- The colon between a key and its value. -/
def colon : Read Unit := do
  match ← blank with
  | some 58 => bump
  | some _ => failPeek .expectedColon
  | none => failPeek .eofInObject

/-- The end of a list after its last item. -/
def listEnd : Read Unit := do
  match ← blank with
  | some 93 => bump
  | some 44 =>
    bump
    match ← blank with
    | some 93 => failPeek .trailingComma
    | _ => failPeek .trailingCharacters
  | some _ => failPeek .trailingCharacters
  | none => failPeek .eofInList

/-- The end of an object after its last entry. -/
def objectEnd : Read Unit := do
  match ← blank with
  | some 125 => bump
  | some 44 => failPeek .trailingComma
  | some _ => failPeek .trailingCharacters
  | none => failPeek .eofInObject

/-- Runs the body of a list or object, then its end, even when the body failed; the first
fault wins. -/
def thenEnd {α : Type} (body : Read α) (close : Read Unit) : Read α := do
  let r ← attempt body
  let e ← attempt close
  match r, e with
  | .ok a, .ok () => pure a
  | .error err, _ => throw err
  | .ok _, .error err => throw err

mutual

/-- Reads one value; `budget` bounds the nesting and `fuel` the work. -/
def value : Nat → Nat → Read Value
  | _, 0 => fail .eofInValue
  | budget, fuel + 1 => do
    match ← blank with
    | none => failPeek .eofInValue
    | some 110 => do bump; ident [117, 108, 108]; pure .null
    | some 116 => do bump; ident [114, 117, 101]; pure (.bool true)
    | some 102 => do bump; ident [97, 108, 115, 101]; pure (.bool false)
    | some 45 => do bump; pure (.num (← number false))
    | some 34 => do bump; pure (.str (← string))
    | some 91 => do
      enter budget
      bump
      let items ← thenEnd (items (budget - 1) fuel true []) listEnd
      pure (.arr items)
    | some 123 => do
      enter budget
      bump
      let entries ← thenEnd (entries (budget - 1) fuel true []) objectEnd
      pure (Value.ofEntries entries)
    | some b =>
      if isDigit b then pure (.num (← number true)) else failPeek .expectedValue

/-- Reads list items up to the closing bracket, which stays unread. -/
def items : Nat → Nat → Bool → List Value → Read (List Value)
  | _, 0, _, acc => pure acc.reverse
  | budget, fuel + 1, first, acc => do
    match ← itemStart first with
    | none => pure acc.reverse
    | some () =>
      let v ← value budget fuel
      items budget fuel false (v :: acc)

/-- Reads object entries up to the closing brace, which stays unread. -/
def entries : Nat → Nat → Bool → List (String × Value) → Read (List (String × Value))
  | _, 0, _, acc => pure acc.reverse
  | budget, fuel + 1, first, acc => do
    match ← keyStart first with
    | none => pure acc.reverse
    | some () =>
      let key ← string
      colon
      let v ← value budget fuel
      entries budget fuel false ((key, v) :: acc)

end

/-- Reads a whole text as one value followed by blanks only. -/
def document : Read Value := do
  let v ← value depthBudget (← fuelLeft)
  match ← blank with
  | some _ => failPeek .trailingCharacters
  | none => pure v

end Read

/-- The value of a JSON text, or the first fault with its place. -/
def Value.parse (s : String) : Except ReadError Value :=
  (Read.document.run.run (Cursor.ofString s)).1

end GuildRoles.Json
