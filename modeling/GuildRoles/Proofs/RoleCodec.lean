import GuildRoles.Role.Codec
import GuildRoles.Proofs.AdminCalls

/-!
# Roles read back from their JSON values

A role is written as an object of its fourteen fields, and each field is read back as it was
written: texts as texts, the kind by its name, numbers within their widths, flags as booleans
(`decodeColor_ofNat`, `decodePosition_ofInt`, `Flag.decode_bool`, …). A filter reference is
written as its text and read through `FilterRef.ofString`, so the one reference that does not come
back is a named filter called `wildcard`: it is read as the wildcard. `FilterRef.canonical` says
what a reference comes back as.

No role that decoding gives has such a reference (`Role.decode_canonical`), so on those roles
writing and reading back is the identity, and a value written, read and written again is the
value first written.

Main statement: `Role.toValue_roundTrip`.
-/

namespace GuildRoles

open Json

namespace FilterRef

/-- The reference a reference is read back as: a named filter called `wildcard` becomes the
wildcard, every other reference stays as it is. -/
def canonical : FilterRef → FilterRef
  | .wildcard => .wildcard
  | .named n => if n = wildcardName then .wildcard else .named n

theorem ofString_text (f : FilterRef) : ofString f.text = f.canonical := by
  cases f <;> rfl

theorem canonical_ofString (s : String) : (ofString s).canonical = ofString s := by
  unfold ofString
  split
  · rfl
  · rename_i h
    simp [canonical, h]

theorem text_canonical (f : FilterRef) : f.canonical.text = f.text := by
  cases f with
  | wildcard => rfl
  | named n =>
    by_cases h : n = wildcardName
    · simp [canonical, h, text]
    · simp [canonical, h, text]

@[simp] theorem decode_toValue (f : FilterRef) : decode f.toValue = .ok f.canonical := by
  simp [decode, toValue, Decode.string, Except.map, ofString_text]

/-- A decoded reference is one that reads back as itself. -/
theorem canonical_of_decode {v : Value} {f : FilterRef} (h : decode v = .ok f) : f.canonical = f := by
  obtain ⟨s, -, rfl⟩ := Except.map_eq_ok.1 h
  exact canonical_ofString s

end FilterRef

/-! ### Each field reads back -/

@[simp] theorem RoleKind.decode_toValue (k : RoleKind) : RoleKind.decode k.toValue = .ok k := by
  cases k <;> rfl

@[simp] theorem Flag.decode_bool (b : Bool) : Flag.decode (.bool b) = .ok b := rfl

@[simp] theorem decodeColor_ofNat (c : UInt32) : decodeColor (.ofNat c.toNat) = .ok c := by
  have h : (c.toNat : Int) ≤ Text.IntWidth.u32.hi := by
    have := c.toNat_lt
    rw [show Text.IntWidth.u32.hi = 4294967295 by decide]
    omega
  simp [decodeColor, Value.ofNat, Decode.integer, h, Except.map]

@[simp] theorem decodePermissions_ofNat (x : UInt64) : decodePermissions (.ofNat x.toNat) = .ok x := by
  have h : (x.toNat : Int) ≤ Text.IntWidth.u64.hi := by
    have := x.toNat_lt
    rw [show Text.IntWidth.u64.hi = 18446744073709551615 by decide]
    omega
  simp [decodePermissions, Value.ofNat, Decode.integer, h, Except.map]

/-- A position is written as a natural number when it is not negative and as a negative integer
otherwise; either way it reads back. -/
@[simp] theorem decodePosition_ofInt (p : Int32) : decodePosition (.ofInt p.toInt) = .ok p := by
  have hrange : Text.IntWidth.i32.lo ≤ p.toInt ∧ p.toInt ≤ Text.IntWidth.i32.hi := by
    have hlo := p.le_toInt
    have hhi := p.toInt_lt
    rw [show Text.IntWidth.i32.lo = -2147483648 by decide,
      show Text.IntWidth.i32.hi = 2147483647 by decide]
    omega
  unfold decodePosition Value.ofInt
  split
  · simp [Decode.integer, hrange.1, Except.map, Int32.ofInt_toInt]
  · rename_i hneg
    simp only [Decode.integer, Int.toNat_of_nonneg (Int.not_lt.1 hneg), hrange.2, if_true, Except.map]
    exact congrArg Except.ok (Int32.ofInt_toInt p)

/-! ### Fields found by decoding -/

namespace Json.Decode

theorem required_eq_ok {α : Type} {entries : List (String × Value)} {name : String}
    {f : Value → Decoded α} {a : α} (h : required entries name f = .ok a) : ∃ v, f v = .ok a := by
  unfold required at h
  split at h
  · exact ⟨_, h⟩
  · cases h

theorem item_eq_ok {α : Type} {items : List Value} {i : Nat} {expected : String}
    {f : Value → Decoded α} {a : α} (h : item items i expected f = .ok a) : ∃ v, f v = .ok a := by
  unfold item at h
  split at h
  · exact ⟨_, h⟩
  · cases h

end Json.Decode

namespace Role

/-- Every field of a role is found in its object and read back, the references as `canonical`
makes them. -/
theorem decode_toValue (r : Role) :
    decode r.toValue = .ok { r with filterA := r.filterA.canonical, filterB := r.filterB.canonical } := by
  simp [decode, toValue, ofEntries, checks, Decode.checkEntries, Decode.check, Decode.required,
    Decode.withDefault, Decode.string, List.lookup_cons, bind, Except.bind, pure, Except.pure, Except.map]

/-- A role read from an object refers to its filters as they read back. -/
theorem ofEntries_canonical {entries : List (String × Value)} {r : Role} (h : ofEntries entries = .ok r) :
    r.filterA.canonical = r.filterA ∧ r.filterB.canonical = r.filterB := by
  unfold ofEntries at h
  -- the checks, the two names and the kind come before the references
  obtain ⟨_, -, h⟩ := Except.bind_eq_ok.1 h
  obtain ⟨_, -, h⟩ := Except.bind_eq_ok.1 h
  obtain ⟨_, -, h⟩ := Except.bind_eq_ok.1 h
  obtain ⟨_, -, h⟩ := Except.bind_eq_ok.1 h
  obtain ⟨fa, ha, h⟩ := Except.bind_eq_ok.1 h
  obtain ⟨fb, hb, h⟩ := Except.bind_eq_ok.1 h
  -- the fields with defaults follow, and the role is built from what was read
  repeat obtain ⟨_, -, h⟩ := Except.bind_eq_ok.1 h
  cases h
  obtain ⟨va, hva⟩ := Decode.required_eq_ok ha
  obtain ⟨vb, hvb⟩ := Decode.required_eq_ok hb
  exact ⟨FilterRef.canonical_of_decode hva, FilterRef.canonical_of_decode hvb⟩

/-- A role read from a list of its fields refers to its filters as they read back. -/
theorem ofItems_canonical {items : List Value} {r : Role} (h : ofItems items = .ok r) :
    r.filterA.canonical = r.filterA ∧ r.filterB.canonical = r.filterB := by
  unfold ofItems at h
  obtain ⟨_, -, h⟩ := Except.bind_eq_ok.1 h
  obtain ⟨_, -, h⟩ := Except.bind_eq_ok.1 h
  obtain ⟨_, -, h⟩ := Except.bind_eq_ok.1 h
  obtain ⟨fa, ha, h⟩ := Except.bind_eq_ok.1 h
  obtain ⟨fb, hb, h⟩ := Except.bind_eq_ok.1 h
  repeat obtain ⟨_, -, h⟩ := Except.bind_eq_ok.1 h
  cases h
  obtain ⟨va, hva⟩ := Decode.item_eq_ok ha
  obtain ⟨vb, hvb⟩ := Decode.item_eq_ok hb
  exact ⟨FilterRef.canonical_of_decode hva, FilterRef.canonical_of_decode hvb⟩

/-- No decoded role refers to a named filter called `wildcard`. -/
theorem decode_canonical {v : Value} {r : Role} (h : decode v = .ok r) :
    r.filterA.canonical = r.filterA ∧ r.filterB.canonical = r.filterB := by
  cases v with
  | obj entries => exact ofEntries_canonical h
  | arr items => exact ofItems_canonical h
  | _ => cases h

theorem toValue_canonical (r : Role) :
    ({ r with filterA := r.filterA.canonical, filterB := r.filterB.canonical } : Role).toValue = r.toValue := by
  simp [toValue, FilterRef.toValue, FilterRef.text_canonical]

/-- Writing a role and reading it back gives the role, except that a named filter called
`wildcard` comes back as the wildcard. So on every role that decoding gives, writing and reading
back is the identity, and writing, reading and writing again writes what was first written. -/
theorem toValue_roundTrip :
    (∀ r : Role, decode r.toValue = .ok { r with filterA := r.filterA.canonical, filterB := r.filterB.canonical }) ∧
    (∀ v r, decode v = .ok r → decode r.toValue = .ok r) ∧
    ∀ r : Role, (decode r.toValue).map toValue = .ok r.toValue := by
  refine ⟨decode_toValue, fun v r h => ?_, fun r => ?_⟩
  · obtain ⟨ha, hb⟩ := decode_canonical h
    rw [decode_toValue, ha, hb]
  · rw [decode_toValue]
    exact congrArg Except.ok (toValue_canonical r)

/-- The object of the role `officer` whose first filter is the wildcard, with the flag `sync`
written as the text `1`. -/
def officerValue : Value :=
  .obj [("filter_a", .str "wildcard"), ("filter_b", .str "officers"), ("name", .str "Officers"),
    ("short_name", .str "officer"), ("sync", .str "1")]

/-- The role that `officerValue` stands for. -/
def officer : Role :=
  { shortName := "officer", name := "Officers", filterA := .wildcard, filterB := .named "officers",
    sync := true }

/-- The role `officer` read from `officerValue` is written and read back as itself. -/
theorem toValue_roundTrip_officer : decode officerValue = .ok officer ∧ decode officer.toValue = .ok officer :=
  have h : decode officerValue = .ok officer := rfl
  ⟨h, toValue_roundTrip.2.1 _ _ h⟩

end Role

end GuildRoles
