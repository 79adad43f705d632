import GuildRoles.Guild.Basic
import GuildRoles.Proofs.Decimal

/-!
# The orders of ids

Role ids are ordered as their texts, and user ids numeric ones first (`UserId.cmp`). Both orders
are lawful: comparing two ids the other way round gives the opposite answer, the order is
transitive, and two ids compare equal only when they are the same. The sets and maps of ids that
the guild and the store keep as strictly increasing lists therefore behave as sets and maps.

For user ids the order is the lexicographic order of the pair (number, text) among numeric ids,
which is how `isLE_trans` is proved. Over all ids it is the lexicographic order of three keys:
whether the id is not numeric, its number, its text (`UserId.cmp_eq_lex`), where an id is numeric
when its text writes a number of 64 bits (`UserId.numeric?_eq_some`).

Main statement: `UserId.cmp_total_order`.
-/

namespace GuildRoles

namespace RoleId

theorem compare_def (a b : RoleId) : compare a b = compare a.text b.text := rfl

instance : Std.TransOrd RoleId where
  eq_swap {a b} := Std.OrientedOrd.eq_swap (a := a.text) (b := b.text)
  isLE_trans {a b c} := Std.TransOrd.isLE_trans (a := a.text) (b := b.text) (c := c.text)

instance : Std.LawfulEqOrd RoleId where
  compare_self {a} := Std.ReflOrd.compare_self (a := a.text)
  eq_of_compare {a b} h := by
    cases a
    cases b
    exact congrArg RoleId.mk (Std.LawfulEqOrd.eq_of_compare h)

end RoleId

namespace UserId

theorem compare_def (a b : UserId) : compare a b = cmp a b := rfl

/-- Two numeric ids compare as the pairs of their number and their text. -/
private theorem cmp_of_numeric {a b : UserId} {x y : Nat} (ha : a.numeric? = some x)
    (hb : b.numeric? = some y) :
    cmp a b = compareLex (compareOn Prod.fst) (compareOn Prod.snd) (x, a.text) (y, b.text) := by
  simp [cmp, ha, hb, compareLex, compareOn]

instance : Std.TransOrd UserId where
  eq_swap {a b} := by
    rw [compare_def, compare_def]
    rcases ha : a.numeric? with _ | x <;> rcases hb : b.numeric? with _ | y
    · simpa [cmp, ha, hb] using Std.OrientedOrd.eq_swap
    · simp [cmp, ha, hb]
    · simp [cmp, ha, hb]
    · rw [cmp_of_numeric ha hb, cmp_of_numeric hb ha]
      exact Std.OrientedCmp.eq_swap
  isLE_trans {a b c} hab hbc := by
    rw [compare_def] at *
    -- a non-numeric id is above every numeric one, so the mixed cases contradict a hypothesis
    rcases ha : a.numeric? with _ | x <;> rcases hb : b.numeric? with _ | y <;>
      rcases hc : c.numeric? with _ | z <;> simp only [cmp, ha, hb, hc] at hab hbc ⊢
    case none.none.none => exact Std.TransOrd.isLE_trans hab hbc
    case some.some.some =>
      have h := @Std.TransCmp.isLE_trans _ (compareLex (compareOn Prod.fst) (compareOn Prod.snd)) _
        (x, a.text) (y, b.text) (z, c.text)
      simpa [compareLex, compareOn] using h hab hbc
    all_goals simp_all

instance : Std.LawfulEqOrd UserId where
  compare_self {a} := by
    rw [compare_def]
    rcases ha : a.numeric? with _ | x <;> simp [cmp, ha]
  eq_of_compare {a b} h := by
    rw [compare_def] at h
    obtain ⟨ta⟩ := a
    obtain ⟨tb⟩ := b
    congr
    rcases ha : numeric? ⟨ta⟩ with _ | x <;> rcases hb : numeric? ⟨tb⟩ with _ | y <;>
      simp only [cmp, ha, hb, Ordering.then_eq_eq, reduceCtorEq] at h
    case none.none => exact Std.LawfulEqOrd.eq_of_compare h
    case some.some => exact Std.LawfulEqOrd.eq_of_compare h.2

/-- An id is numeric exactly when its text writes a number of 64 bits: an optional `+`, then
ASCII digits, with a value below `2 ^ 64`. -/
theorem numeric?_eq_some {u : UserId} {n : Nat} :
    u.numeric? = some n ↔ Text.WritesInt .u64 u.text.toList n := by
  have hread := Text.readIntChars_eq_ok Text.IntWidth.u64_bounds u.text.toList
  rw [← hread]
  unfold numeric? Text.readU64? Text.readInt
  cases h : Text.readIntChars .u64 u.text.toList with
  | error e => simp
  | ok m =>
    -- a value that is read is in range, so it is its own natural number
    have hm : 0 ≤ m := ((hread m).1 h).range.1
    simp only [Option.some.injEq, Except.ok.injEq]
    omega

/-- The order of ids is lexicographic on three keys: non-numeric ids after numeric ones, then the
number, then the text. -/
theorem cmp_eq_lex (a b : UserId) :
    cmp a b = ((compare a.numeric?.isNone b.numeric?.isNone).then
      (compare (a.numeric?.getD 0) (b.numeric?.getD 0))).then (compare a.text b.text) := by
  rcases ha : a.numeric? with _ | x <;> rcases hb : b.numeric? with _ | y <;> simp [cmp, ha, hb]
  -- a numeric id against a non-numeric one: the first key decides
  all_goals rfl

/-- The order of ids is a total order in which only an id equals itself, and it is the
lexicographic order of (not numeric, number, text), numeric meaning a decimal number of 64
bits. -/
theorem cmp_total_order (a b c : UserId) :
    (∀ n, a.numeric? = some n ↔ Text.WritesInt .u64 a.text.toList n) ∧
      cmp a b = ((compare a.numeric?.isNone b.numeric?.isNone).then
        (compare (a.numeric?.getD 0) (b.numeric?.getD 0))).then (compare a.text b.text) ∧
      (cmp a b = .eq ↔ a.text = b.text) ∧
      cmp b a = (cmp a b).swap ∧
      (cmp a b = .lt → cmp b c = .lt → cmp a c = .lt) := by
  refine ⟨fun _ => numeric?_eq_some, cmp_eq_lex a b, ?_, ?_, ?_⟩ <;> simp only [← compare_def]
  -- the three laws are those of the lawful order instances above
  · rw [Std.LawfulEqCmp.compare_eq_iff_eq]
    exact ⟨congrArg text, fun h => by cases a; cases b; cases h; rfl⟩
  · exact Std.OrientedCmp.eq_swap
  · exact Std.TransCmp.lt_trans

/-- Snowflakes in their order: the smaller number first, whatever its leading zeros, and a number
before a word. -/
theorem cmp_total_order_snowflakes :
    cmp ⟨"12"⟩ ⟨"0099"⟩ = .lt ∧ cmp ⟨"0099"⟩ ⟨"abc"⟩ = .lt ∧ cmp ⟨"12"⟩ ⟨"abc"⟩ = .lt :=
  have h₁ : cmp ⟨"12"⟩ ⟨"0099"⟩ = .lt := by decide
  have h₂ : cmp ⟨"0099"⟩ ⟨"abc"⟩ = .lt := by decide
  ⟨h₁, h₂, (cmp_total_order ⟨"12"⟩ ⟨"0099"⟩ ⟨"abc"⟩).2.2.2.2 h₁ h₂⟩

end UserId

end GuildRoles
