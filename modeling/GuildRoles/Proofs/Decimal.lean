import GuildRoles.Text.Integer
import Mathlib.Data.Nat.Digits.Defs
import Mathlib.Tactic.Linarith
import Mathlib.Tactic.Ring

/-!
# Integers written in decimal

What `Text.readIntChars` reads, said without the reader: a text writes the integer `n` in a width
(`Text.WritesInt`) when it is an optional `+`, or a `-` where the width is signed, before at least
one ASCII digit, and `n` lies in the width's range.

The reader checks the range after every digit, so it could stop early; it does so exactly when the
whole number is out of range, since the prefixes of a number move away from zero
(`Text.readDigits_eq_ok`).

Main statement: `Text.readIntChars_eq_ok`.
-/

namespace GuildRoles
namespace Text

/-- The number a list of ASCII digits writes, the most significant digit first. -/
def decimalValue (ds : List Char) : Nat :=
  Nat.ofDigits 10 (ds.map fun c => c.toNat - '0'.toNat).reverse

theorem decimalValue_cons (c : Char) (ds : List Char) :
    decimalValue (c :: ds) = (c.toNat - '0'.toNat) * 10 ^ ds.length + decimalValue ds := by
  simp only [decimalValue, List.map_cons, List.reverse_cons, Nat.ofDigits_append, Nat.ofDigits_singleton,
    List.length_reverse, List.length_map]
  ring

/-- The value of digits with a sign: taken away when the number is negative. -/
def signed (negative : Bool) (v : Nat) : Int := if negative then -(v : Int) else v

@[simp] theorem signed_false (v : Nat) : signed false v = v := rfl

@[simp] theorem signed_true (v : Nat) : signed true v = -(v : Int) := rfl

/-- A list of characters writes the integer `n` for a width: an optional `+`, or a `-` where the
width is signed, before at least one ASCII digit, with `n` in the width's range. -/
def WritesInt (w : IntWidth) (cs : List Char) (n : Int) : Prop :=
  ∃ ds, ds ≠ [] ∧ (∀ c ∈ ds, c.isDigit) ∧
    ((cs = ds ∨ cs = '+' :: ds) ∧ n = decimalValue ds ∨
      w.signed ∧ cs = '-' :: ds ∧ n = -(decimalValue ds : Int)) ∧
    w.lo ≤ n ∧ n ≤ w.hi

theorem isDigit_iff {c : Char} : c.isDigit = true ↔ '0' ≤ c ∧ c ≤ '9' := by
  simp only [Char.isDigit, Bool.and_eq_true, decide_eq_true_eq, ge_iff_le]
  exact Iff.rfl

theorem digitValue?_eq_some {c : Char} {d : Nat} :
    digitValue? c = some d ↔ c.isDigit ∧ d = c.toNat - '0'.toNat := by
  rw [isDigit_iff]
  by_cases h : '0' ≤ c ∧ c ≤ '9'
  · simp only [digitValue?, if_pos h, Option.some.injEq]
    exact ⟨fun e => ⟨h, e.symm⟩, fun ⟨_, e⟩ => e.symm⟩
  · simp only [digitValue?, if_neg h, reduceCtorEq, false_iff]
    exact fun h' => h h'.1

theorem digitValue?_eq_none {c : Char} : digitValue? c = none ↔ c.isDigit = false := by
  rw [← Bool.not_eq_true, isDigit_iff]
  by_cases h : '0' ≤ c ∧ c ≤ '9' <;> simp [digitValue?, h]

variable {w : IntWidth}

/-- Reading digits onto an accumulator that has the number's sign gives the accumulator shifted
past the digits plus their signed value, exactly when every character is a digit and that value
lies in the range. -/
theorem readDigits_eq_ok (hw : w.lo ≤ 0 ∧ 0 ≤ w.hi) (negative : Bool) {acc : Int}
    (hsign : if negative then acc ≤ 0 else 0 ≤ acc) (hacc : w.lo ≤ acc ∧ acc ≤ w.hi) (cs : List Char)
    (n : Int) :
    readDigits w negative acc cs = .ok n ↔ (∀ c ∈ cs, c.isDigit) ∧
      n = acc * 10 ^ cs.length + signed negative (decimalValue cs) ∧ w.lo ≤ n ∧ n ≤ w.hi := by
  induction cs generalizing acc with
  | nil =>
    have hv : signed negative (decimalValue []) = 0 := by cases negative <;> rfl
    simp only [readDigits, Except.ok.injEq, List.not_mem_nil, IsEmpty.forall_iff, implies_true,
      List.length_nil, pow_zero, mul_one, hv, add_zero, true_and]
    constructor
    · rintro rfl
      exact ⟨rfl, hacc⟩
    · rintro ⟨rfl, -⟩
      rfl
  | cons c cs ih =>
    cases hd : digitValue? c with
    | none => simp [readDigits, hd, digitValue?_eq_none.1 hd]
    | some d =>
      obtain ⟨hc, rfl⟩ := digitValue?_eq_some.1 hd
      simp only [readDigits, hd, List.forall_mem_cons, hc, true_and, List.length_cons]
      set next : Int := if negative then acc * 10 - ↑(c.toNat - '0'.toNat) else acc * 10 + ↑(c.toNat - '0'.toNat)
        with hnext
      -- the value after this digit keeps the accumulator's sign
      have hsign' : if negative then next ≤ 0 else 0 ≤ next := by
        cases negative <;> simp only [hnext, Bool.false_eq_true, if_true, if_false] at hsign ⊢ <;> omega
      have hval : acc * 10 ^ (cs.length + 1) + signed negative (decimalValue (c :: cs)) =
          next * 10 ^ cs.length + signed negative (decimalValue cs) := by
        rw [decimalValue_cons]
        cases negative <;> simp only [hnext, signed, Bool.false_eq_true, if_true, if_false] <;> push_cast <;>
          ring
      have hpow : (1 : Int) ≤ 10 ^ cs.length := one_le_pow₀ (by norm_num)
      rw [hval]
      -- a check that fails here fails for the whole number too, which lies beyond `next`
      by_cases hhi : next > w.hi
      · simp only [hhi, if_true, reduceCtorEq, false_iff, not_and]
        rintro - rfl - hle
        cases negative <;> simp only [signed, Bool.false_eq_true, if_true, if_false] at hsign' hle <;>
          nlinarith
      · by_cases hlo : next < w.lo
        · simp only [hhi, hlo, if_true, if_false, reduceCtorEq, false_iff, not_and]
          rintro - rfl hge -
          cases negative <;> simp only [signed, Bool.false_eq_true, if_true, if_false] at hsign' hge <;>
            nlinarith
        · simp only [hhi, hlo, if_false]
          exact ih hsign' ⟨by omega, by omega⟩

/-! The sign character decides how the rest is written: digits cannot start with a sign. -/

theorem writesInt_plus {rest : List Char} {n : Int} :
    WritesInt w ('+' :: rest) n ↔
      rest ≠ [] ∧ (∀ c ∈ rest, c.isDigit) ∧ n = decimalValue rest ∧ w.lo ≤ n ∧ n ≤ w.hi := by
  constructor
  · rintro ⟨ds, hne, hd, (⟨h | h, rfl⟩ | ⟨-, h, -⟩), hr⟩
    · subst h
      exact absurd (hd '+' (by simp)) (by decide)
    · cases h
      exact ⟨hne, hd, rfl, hr⟩
    · cases h
  · rintro ⟨hne, hd, rfl, hr⟩
    exact ⟨rest, hne, hd, .inl ⟨.inr rfl, rfl⟩, hr⟩

theorem writesInt_minus {rest : List Char} {n : Int} :
    WritesInt w ('-' :: rest) n ↔
      w.signed ∧ rest ≠ [] ∧ (∀ c ∈ rest, c.isDigit) ∧ n = -(decimalValue rest : Int) ∧
        w.lo ≤ n ∧ n ≤ w.hi := by
  constructor
  · rintro ⟨ds, hne, hd, (⟨h | h, -⟩ | ⟨hs, h, rfl⟩), hr⟩
    · subst h
      exact absurd (hd '-' (by simp)) (by decide)
    · cases h
    · cases h
      exact ⟨hs, hne, hd, rfl, hr⟩
  · rintro ⟨hs, hne, hd, rfl, hr⟩
    exact ⟨rest, hne, hd, .inr ⟨hs, rfl, rfl⟩, hr⟩

theorem writesInt_unsigned {c : Char} {rest : List Char} {n : Int} (hp : c ≠ '+') (hm : c ≠ '-') :
    WritesInt w (c :: rest) n ↔
      (∀ d ∈ c :: rest, d.isDigit) ∧ n = decimalValue (c :: rest) ∧ w.lo ≤ n ∧ n ≤ w.hi := by
  constructor
  · rintro ⟨ds, -, hd, (⟨h | h, rfl⟩ | ⟨-, h, -⟩), hr⟩
    · subst h
      exact ⟨hd, rfl, hr⟩
    · cases h
      exact absurd rfl hp
    · cases h
      exact absurd rfl hm
  · rintro ⟨hd, rfl, hr⟩
    exact ⟨c :: rest, by simp, hd, .inl ⟨.inl rfl, rfl⟩, hr⟩

/-- Reading an integer accepts exactly the texts that write one in the width. -/
theorem readIntChars_eq_ok (hw : w.lo ≤ 0 ∧ 0 ≤ w.hi) (cs : List Char) (n : Int) :
    readIntChars w cs = .ok n ↔ WritesInt w cs n := by
  -- reading digits from zero gives their signed value
  have hzero : ∀ negative ds, readDigits w negative 0 ds = .ok n ↔
      (∀ c ∈ ds, c.isDigit) ∧ n = signed negative (decimalValue ds) ∧ w.lo ≤ n ∧ n ≤ w.hi := by
    intro negative ds
    rw [readDigits_eq_ok hw negative (by cases negative <;> simp) hw]
    simp
  rcases cs with _ | ⟨c, rest⟩
  · simp [readIntChars, WritesInt]
  -- one case per line of the reader: a sign alone, a sign before digits, or digits
  by_cases hp : c = '+'
  · subst hp
    rw [writesInt_plus]
    rcases rest with _ | ⟨r, rs⟩
    · simp [readIntChars.eq_2]
    · rw [readIntChars.eq_4 _ _ (by simp), hzero]
      simp
  by_cases hm : c = '-'
  · subst hm
    rw [writesInt_minus]
    rcases rest with _ | ⟨r, rs⟩
    · simp [readIntChars.eq_3]
    · rw [readIntChars.eq_5 _ _ (by simp)]
      by_cases hs : w.signed
      · rw [if_pos hs, hzero]
        simp [hs]
      · simp [hs]
  rw [writesInt_unsigned hp hm,
    readIntChars.eq_6 _ _ (by simp) (by simp [hp]) (by simp [hm]) (by simp [hp]) (by simp [hm]), hzero]
  simp

theorem WritesInt.range {cs : List Char} {n : Int} (h : WritesInt w cs n) : w.lo ≤ n ∧ n ≤ w.hi :=
  let ⟨_, _, _, _, hr⟩ := h
  hr

namespace IntWidth

/-! The widths that are read all hold zero, the value digits are read onto. -/

theorem u32_bounds : u32.lo ≤ 0 ∧ 0 ≤ u32.hi := by decide

theorem i32_bounds : i32.lo ≤ 0 ∧ 0 ≤ i32.hi := by decide

theorem u64_bounds : u64.lo ≤ 0 ∧ 0 ≤ u64.hi := by decide

end IntWidth

end Text

end GuildRoles
