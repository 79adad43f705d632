import GuildRoles.Guild.Error
import Mathlib.Tactic.SplitIfs

/-!
# Name clashes read back from messages

A gateway that reports its refusals only as text says that a role name is taken with the sentence
`The role '<name>' already exists`. Reading a message strips the prefix `The role '` and then the
suffix `' already exists` from what is left. The two share the quote character, so a short
message such as `The role ' already exists` has both as a prefix and a suffix but is no clash:
stripping them one after the other never lets them overlap.

Main statement: `GuildError.fromMessage_reads_clashes`. A message is read as a clash of `n`
exactly when it is the sentence for `n`, whatever quotes or copies of the suffix `n` holds, and
every other message is kept as a failed request.
-/

namespace GuildRoles

namespace GuildError

/-- A text is cut between a prefix and a suffix exactly when it is the prefix, the middle and the
suffix in a row. -/
theorem between_eq_some_iff {pre suf s x : List Char} :
    between pre suf s = some x ↔ s = pre ++ x ++ suf := by
  constructor
  · intro h
    unfold between at h
    dsimp only at h
    split_ifs at h with hpre hsuf
    cases h
    have hs : pre ++ s.drop pre.length = s :=
      List.prefix_iff_eq_append.1 (List.isPrefixOf_iff_prefix.1 hpre)
    have hr := List.suffix_iff_eq_append.1 (List.isSuffixOf_iff_suffix.1 hsuf)
    rw [List.append_assoc, hr, hs]
  · rintro rfl
    simp [between, List.isPrefixOf_iff_prefix, List.isSuffixOf_iff_suffix]

/-- A message is read as the clash of `n` exactly when it is the sentence of that clash. -/
theorem fromMessage_eq_roleExists_iff {m n : String} :
    fromMessage m = .roleExists n ↔ m = clashPrefix ++ n ++ clashSuffix := by
  rw [← String.toList_inj, String.toList_append, String.toList_append, ← between_eq_some_iff,
    fromMessage]
  cases between clashPrefix.toList clashSuffix.toList m.toList with
  | none => simp
  | some name => simp [← String.toList_inj, String.toList_ofList]

/-- A message is kept as a failed request exactly when it is the sentence of no clash. -/
theorem fromMessage_eq_request_iff {m : String} :
    fromMessage m = .request m ↔ ∀ n, m ≠ clashPrefix ++ n ++ clashSuffix := by
  simp only [ne_eq, ← String.toList_inj, String.toList_append, ← between_eq_some_iff, fromMessage]
  cases between clashPrefix.toList clashSuffix.toList m.toList with
  | none => simp
  -- the middle that was cut out is a name whose sentence the message is
  | some name => simpa using ⟨String.ofList name, by simp⟩

example : fromMessage "The role ' already exists" = .request "The role ' already exists" := by
  decide

/-- Every message is a clash or a failed request, decided by the clash sentence alone; the
sentence of a clash reads back as that clash. -/
theorem fromMessage_reads_clashes (name m n : String) :
    fromMessage (roleExists name).message = roleExists name ∧
      (fromMessage m = roleExists n ↔ m = "The role '" ++ n ++ "' already exists") ∧
      (fromMessage m = request m ↔ ∀ n', m ≠ "The role '" ++ n' ++ "' already exists") :=
  ⟨fromMessage_eq_roleExists_iff.2 rfl, fromMessage_eq_roleExists_iff, fromMessage_eq_request_iff⟩

end GuildError

end GuildRoles
