/-!
# Integers written in decimal

Reading a fixed-width integer from text: an optional sign (`-` only where the width is signed),
then ASCII digits, nothing else and no blanks. Reading stops at the first fault from the left: a
character that is not a digit, or a prefix whose value already leaves the range.

Main statement: `readInt_ok_mem`, a value that is read lies in the range.
-/

namespace GuildRoles.Text

/-- Why a text is not an integer of a given width. -/
inductive IntError where
  | empty
  | invalidDigit
  | tooLarge
  | tooSmall
  deriving DecidableEq, Repr

/-- The sentence that describes a fault. -/
def IntError.message : IntError → String
  | .empty => "cannot parse integer from empty string"
  | .invalidDigit => "invalid digit found in string"
  | .tooLarge => "number too large to fit in target type"
  | .tooSmall => "number too small to fit in target type"

/-- The range of an integer width, ends included. -/
structure IntWidth where
  lo : Int
  hi : Int
  /-- Whether a leading `-` is allowed. -/
  signed : Bool

namespace IntWidth

/-- Unsigned 16-bit values. -/
def u16 : IntWidth := ⟨0, Int.pow 2 16 - 1, false⟩
/-- Unsigned 32-bit values. -/
def u32 : IntWidth := ⟨0, Int.pow 2 32 - 1, false⟩
/-- Unsigned 64-bit values. -/
def u64 : IntWidth := ⟨0, Int.pow 2 64 - 1, false⟩
/-- Signed 32-bit values. -/
def i32 : IntWidth := ⟨-Int.pow 2 31, Int.pow 2 31 - 1, true⟩
/-- Signed 64-bit values. -/
def i64 : IntWidth := ⟨-Int.pow 2 63, Int.pow 2 63 - 1, true⟩

end IntWidth

/-- The value of an ASCII digit. -/
def digitValue? (c : Char) : Option Nat :=
  if '0' ≤ c ∧ c ≤ '9' then some (c.toNat - '0'.toNat) else none

/-- Accumulates digits from the left, failing at the first non-digit or once the value leaves the
range; `negative` says whether the value being built is the negation of the digits. -/
def readDigits (w : IntWidth) (negative : Bool) : Int → List Char → Except IntError Int
  | acc, [] => .ok acc
  | acc, c :: cs =>
    match digitValue? c with
    | none => .error .invalidDigit
    | some d =>
      let next := if negative then acc * 10 - d else acc * 10 + d
      if next > w.hi then .error .tooLarge
      else if next < w.lo then .error .tooSmall
      else readDigits w negative next cs

/-- Reads an integer of width `w` from a character list. -/
def readIntChars (w : IntWidth) : List Char → Except IntError Int
  | [] => .error .empty
  | ['+'] => .error .invalidDigit
  | ['-'] => .error .invalidDigit
  | '+' :: ds => readDigits w false 0 ds
  | '-' :: ds => if w.signed then readDigits w true 0 ds else .error .invalidDigit
  | ds => readDigits w false 0 ds

/-- Reads an integer of width `w` from a text. -/
def readInt (w : IntWidth) (s : String) : Except IntError Int := readIntChars w s.toList

/-- Reads a natural number below `2 ^ 64`, or nothing. -/
def readU64? (s : String) : Option Nat :=
  match readInt .u64 s with
  | .ok n => some n.toNat
  | .error _ => none

private theorem readDigits_mem (w : IntWidth) (negative : Bool) (acc : Int) (cs : List Char)
    (hacc : w.lo ≤ acc ∧ acc ≤ w.hi) (n : Int) (h : readDigits w negative acc cs = .ok n) :
    w.lo ≤ n ∧ n ≤ w.hi := by
  induction cs generalizing acc with
  | nil => simp only [readDigits, Except.ok.injEq] at h; subst h; exact hacc
  | cons c cs ih =>
    simp only [readDigits] at h
    cases hd : digitValue? c with
    | none => simp [hd] at h
    | some d =>
      simp only [hd] at h
      generalize (if negative then acc * 10 - d else acc * 10 + d) = next at h
      by_cases h1 : next > w.hi
      · simp [h1] at h
      · by_cases h2 : next < w.lo
        · simp [h1, h2] at h
        · simp only [h1, h2, if_false] at h
          exact ih next ⟨by omega, by omega⟩ h

theorem readInt_ok_mem (w : IntWidth) (s : String) (n : Int) (hw : w.lo ≤ 0 ∧ 0 ≤ w.hi)
    (h : readInt w s = .ok n) : w.lo ≤ n ∧ n ≤ w.hi := by
  unfold readInt readIntChars at h
  split at h
  · simp at h
  · simp at h
  · simp at h
  · exact readDigits_mem w _ 0 _ hw n h
  · split at h
    · exact readDigits_mem w _ 0 _ hw n h
    · simp at h
  · exact readDigits_mem w _ 0 _ hw n h

end GuildRoles.Text
