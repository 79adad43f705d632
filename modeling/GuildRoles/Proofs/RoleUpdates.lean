import GuildRoles.Proofs.AdminCalls
import GuildRoles.Proofs.Reconcile
import GuildRoles.Proofs.Decimal
import Mathlib.Tactic.SplitIfs

/-!
# Changing one attribute of a role

An administrator changes one attribute of a role by its key and a text. An empty text is refused
before anything else. The display name takes the text as it is. A number is read from the
trimmed text in the width of its attribute (`Text.WritesInt`: an optional `+`, or a `-` for the
signed position, then ASCII digits, the value in range); a text that is no such number is
refused, quoted as given. A flag is read from the trimmed text as `1`, `0`, `true` or `false`,
the words in any ASCII letter case (`Flag.Spells`); another text is refused, quoted trimmed. A
change touches no other attribute (`Role.SameExcept`), and the store keeps the changed role in
place of the old one, or keeps the old one when the change is refused.

The reading of numbers is taken from its declarative description (`Text.readIntChars_eq_ok`).

Main statement: `Role.update_attribute`.
-/

namespace GuildRoles

/-! ### Flags -/

namespace Flag

/-- The texts of a flag: `1` or `true` for yes, `0` or `false` for no, the words in any ASCII
letter case. -/
def Spells (t : String) (b : Bool) : Prop :=
  if b then t = "1" ∨ t.toList.map Char.toLower = ['t', 'r', 'u', 'e']
  else t = "0" ∨ t.toList.map Char.toLower = ['f', 'a', 'l', 's', 'e']

theorem parse_eq_ok {v : String} {b : Bool} : parse v = .ok b ↔ Spells (Text.trim v) b := by
  unfold parse sameLetters
  generalize Text.trim v = t
  dsimp only
  rw [show "true".toList.map Char.toLower = ['t', 'r', 'u', 'e'] from rfl,
    show "false".toList.map Char.toLower = ['f', 'a', 'l', 's', 'e'] from rfl]
  simp only [beq_iff_eq]
  -- the four tests of the code, in order; a text passes at most one of them
  split_ifs with h1 h0 ht hf
  · subst h1
    cases b <;> simp [Spells]
  · subst h0
    cases b <;> simp [Spells]
  · cases b <;> simp [Spells, h1, h0, ht]
  · cases b <;> simp [Spells, h1, h0, hf]
  · cases b <;> simp [Spells, h1, h0, ht, hf]

theorem parse_error_text {v : String} {e : FlagError} (h : parse v = .error e) : e = ⟨Text.trim v⟩ := by
  unfold parse at h
  dsimp only at h
  split_ifs at h
  cases h
  rfl

theorem parse_eq_error {v : String} {e : FlagError} :
    parse v = .error e ↔ (∀ b, ¬ Spells (Text.trim v) b) ∧ e = ⟨Text.trim v⟩ := by
  constructor
  · intro h
    refine ⟨fun b hb => ?_, parse_error_text h⟩
    rw [← parse_eq_ok, h] at hb
    cases hb
  · rintro ⟨hno, rfl⟩
    cases hp : parse v with
    | ok b => exact absurd (parse_eq_ok.1 hp) (hno b)
    | error e => rw [parse_error_text hp]

end Flag

/-! ### Attributes and how their texts are read -/

/-- The value of an attribute of a role. -/
inductive AttributeValue where
  | text (s : String)
  | number (n : Int)
  | flag (b : Bool)
  deriving DecidableEq, Repr

/-- The attribute of a role that a key names. -/
def Role.valueAt (r : Role) : RoleKey → AttributeValue
  | .name => .text r.name
  | .color => .number r.color.toNat
  | .position => .number r.position.toInt
  | .permissions => .number r.permissions.toNat
  | .hoist => .flag r.hoist
  | .joinable => .flag r.joinable
  | .managed => .flag r.managed
  | .mentionable => .flag r.mentionable
  | .sig => .flag r.sig
  | .sync => .flag r.sync

/-- How the value of a key is read from an administrator's text. -/
inductive ValueReading where
  | text
  | number (w : Text.IntWidth)
  | flag

/-- The reading of each key: the display name as text, the colour, position and permissions as
numbers of their widths, and the rest as flags. -/
def RoleKey.reading : RoleKey → ValueReading
  | .name => .text
  | .color => .number .u32
  | .position => .number .i32
  | .permissions => .number .u64
  | .hoist | .joinable | .managed | .mentionable | .sig | .sync => .flag

/-- The values a text gives under a reading: the text itself, the integer its trimmed text writes,
or the flag its trimmed text spells. -/
def ValueReading.Gives : ValueReading → String → AttributeValue → Prop
  | .text, v, x => x = .text v
  | .number w, v, x => ∃ n, Text.WritesInt w (Text.trim v).toList n ∧ x = .number n
  | .flag, v, x => ∃ b, Flag.Spells (Text.trim v) b ∧ x = .flag b

/-- The refusal of a text that gives no value for a key: a number quotes the text as given, a flag
the trimmed text. -/
def RoleKey.fault (k : RoleKey) (v : String) : RoleUpdateError :=
  match k.reading with
  | .flag => .invalidFlag ⟨Text.trim v⟩
  | _ => .invalidNumber k v

namespace ValueReading

variable {v : String}

theorem gives_text : ∃ x, text.Gives v x := ⟨_, rfl⟩

theorem not_gives_number {w : Text.IntWidth} :
    (∀ x, ¬ (number w).Gives v x) ↔ ∀ n, ¬ Text.WritesInt w (Text.trim v).toList n :=
  ⟨fun h n hw => h _ ⟨n, hw, rfl⟩, fun h _ ⟨n, hw, _⟩ => h n hw⟩

theorem not_gives_flag : (∀ x, ¬ flag.Gives v x) ↔ ∀ b, ¬ Flag.Spells (Text.trim v) b :=
  ⟨fun h b hb => h _ ⟨b, hb, rfl⟩, fun h _ ⟨b, hb, _⟩ => h b hb⟩

end ValueReading

/-- `r'` is `r` with at most the attribute of key `k` changed. -/
def Role.SameExcept (r r' : Role) (k : RoleKey) : Prop :=
  r'.shortName = r.shortName ∧ r'.kind = r.kind ∧ r'.filterA = r.filterA ∧ r'.filterB = r.filterB ∧
    ∀ k', k' ≠ k → r'.valueAt k' = r.valueAt k'

theorem Except.bind_pure_eq_ok {ε α β : Type} {x : Except ε α} {f : α → β} {b : β} :
    (x >>= fun a => pure (f a)) = .ok b ↔ ∃ a, x = .ok a ∧ f a = b := by
  cases x <;> simp [bind, Except.bind, pure, Except.pure]

theorem Except.bind_pure_eq_error {ε α β : Type} {x : Except ε α} {f : α → β} {e : ε} :
    (x >>= fun a => pure (f a)) = .error e ↔ x = .error e := by
  cases x <;> simp [bind, Except.bind, pure, Except.pure]

namespace Role

variable {w : Text.IntWidth} {k : RoleKey} {v : String}

theorem readNumber_eq_ok (hw : w.lo ≤ 0 ∧ 0 ≤ w.hi) {n : Int} :
    readNumber w k v = .ok n ↔ Text.WritesInt w (Text.trim v).toList n := by
  rw [← Text.readIntChars_eq_ok hw, readNumber, Text.readInt]
  cases Text.readIntChars w (Text.trim v).toList <;> simp

theorem readNumber_eq_error (hw : w.lo ≤ 0 ∧ 0 ≤ w.hi) {e : RoleUpdateError} :
    readNumber w k v = .error e ↔ (∀ n, ¬ Text.WritesInt w (Text.trim v).toList n) ∧ e = .invalidNumber k v := by
  simp only [← Text.readIntChars_eq_ok hw, readNumber, Text.readInt]
  cases Text.readIntChars w (Text.trim v).toList <;> simp [eq_comm]

theorem readFlag_eq_ok {b : Bool} : readFlag v = .ok b ↔ Flag.Spells (Text.trim v) b := by
  rw [← Flag.parse_eq_ok, readFlag]
  cases Flag.parse v <;> simp

theorem readFlag_eq_error {e : RoleUpdateError} :
    readFlag v = .error e ↔ (∀ b, ¬ Flag.Spells (Text.trim v) b) ∧ e = .invalidFlag ⟨Text.trim v⟩ := by
  unfold readFlag
  cases hp : Flag.parse v with
  | ok b =>
    simp only [reduceCtorEq, false_iff, not_and]
    exact fun hno => absurd (Flag.parse_eq_ok.1 hp) (hno b)
  | error e' =>
    obtain ⟨hno, rfl⟩ := Flag.parse_eq_error.1 hp
    simp [hno, eq_comm]

/-! A number read in the width of its attribute is kept exactly by the attribute's type. -/

theorem u32_roundTrip {n : Int} (hr : Text.IntWidth.u32.lo ≤ n ∧ n ≤ Text.IntWidth.u32.hi) :
    ((n.toNat.toUInt32.toNat : Nat) : Int) = n := by
  rw [show Text.IntWidth.u32.lo = 0 by decide, show Text.IntWidth.u32.hi = 4294967295 by decide] at hr
  rw [UInt32.toNat_ofNat_of_lt' (by rw [show UInt32.size = 4294967296 from rfl]; omega)]
  omega

theorem i32_roundTrip {n : Int} (hr : Text.IntWidth.i32.lo ≤ n ∧ n ≤ Text.IntWidth.i32.hi) :
    n.toInt32.toInt = n := by
  rw [show Text.IntWidth.i32.lo = -2147483648 by decide, show Text.IntWidth.i32.hi = 2147483647 by decide] at hr
  exact Int32.toInt_ofInt_of_le (by omega) (by omega)

theorem u64_roundTrip {n : Int} (hr : Text.IntWidth.u64.lo ≤ n ∧ n ≤ Text.IntWidth.u64.hi) :
    ((n.toNat.toUInt64.toNat : Nat) : Int) = n := by
  rw [show Text.IntWidth.u64.lo = 0 by decide, show Text.IntWidth.u64.hi = 18446744073709551615 by decide] at hr
  rw [UInt64.toNat_ofNat_of_lt' (by rw [show UInt64.size = 18446744073709551616 from rfl]; omega)]
  omega

/-- What an accepted change did: the text gave the new value of the key's attribute, and nothing
else changed. -/
theorem update_eq_ok {r r' : Role} (h : r.update k v = .ok r') :
    k.reading.Gives v (r'.valueAt k) ∧ r.SameExcept r' k := by
  unfold update at h
  split at h
  · cases h
  -- the change writes the field of its key and no other
  cases k
  case name =>
    cases h
    exact ⟨rfl, rfl, rfl, rfl, rfl, fun k' hk => by cases k' <;> simp_all [valueAt]⟩
  case color =>
    obtain ⟨n, hn, rfl⟩ := Except.bind_pure_eq_ok.1 h
    have hw := (readNumber_eq_ok Text.IntWidth.u32_bounds).1 hn
    exact ⟨⟨n, hw, congrArg AttributeValue.number (u32_roundTrip hw.range)⟩, rfl, rfl, rfl, rfl,
      fun k' hk => by cases k' <;> simp_all [valueAt]⟩
  case position =>
    obtain ⟨n, hn, rfl⟩ := Except.bind_pure_eq_ok.1 h
    have hw := (readNumber_eq_ok Text.IntWidth.i32_bounds).1 hn
    exact ⟨⟨n, hw, congrArg AttributeValue.number (i32_roundTrip hw.range)⟩, rfl, rfl, rfl, rfl,
      fun k' hk => by cases k' <;> simp_all [valueAt]⟩
  case permissions =>
    obtain ⟨n, hn, rfl⟩ := Except.bind_pure_eq_ok.1 h
    have hw := (readNumber_eq_ok Text.IntWidth.u64_bounds).1 hn
    exact ⟨⟨n, hw, congrArg AttributeValue.number (u64_roundTrip hw.range)⟩, rfl, rfl, rfl, rfl,
      fun k' hk => by cases k' <;> simp_all [valueAt]⟩
  -- the six flags are read alike, each into its own field
  all_goals
    obtain ⟨b, hb, rfl⟩ := Except.bind_pure_eq_ok.1 h
    exact ⟨⟨b, readFlag_eq_ok.1 hb, rfl⟩, rfl, rfl, rfl, rfl, fun k' hk => by cases k' <;> simp_all [valueAt]⟩

/-- A change with a text that is not empty is refused exactly when the text gives the key no
value, and then with the key's fault. -/
theorem update_eq_error {r : Role} (hv : v ≠ "") {e : RoleUpdateError} :
    r.update k v = .error e ↔ (∀ x, ¬ k.reading.Gives v x) ∧ e = k.fault v := by
  unfold update
  rw [if_neg (by simpa [String.isEmpty_iff] using hv)]
  cases k
  case name =>
    obtain ⟨x, hx⟩ := @ValueReading.gives_text v
    simp only [reduceCtorEq, false_iff, not_and]
    exact fun h => absurd hx (h x)
  case color =>
    rw [Except.bind_pure_eq_error, readNumber_eq_error Text.IntWidth.u32_bounds]
    exact and_congr ValueReading.not_gives_number.symm Iff.rfl
  case position =>
    rw [Except.bind_pure_eq_error, readNumber_eq_error Text.IntWidth.i32_bounds]
    exact and_congr ValueReading.not_gives_number.symm Iff.rfl
  case permissions =>
    rw [Except.bind_pure_eq_error, readNumber_eq_error Text.IntWidth.u64_bounds]
    exact and_congr ValueReading.not_gives_number.symm Iff.rfl
  all_goals
    rw [Except.bind_pure_eq_error, readFlag_eq_error]
    exact and_congr ValueReading.not_gives_flag.symm Iff.rfl

end Role

/-! ### The store's change of a role -/

namespace Policy

theorem checkRole_eq_ok_of {p : Policy} {r : Role}
    (hw : (r.filterA.isWildcard && r.filterB.isWildcard) = false)
    (hf : ∀ f ∈ r.referencedFilters, p.hasFilter f = true) : p.checkRole r = .ok () := by
  unfold checkRole
  rw [if_neg (by simp [hw])]
  exact Except.forM_eq_ok.2 fun f hm => by simp [ensureFilter, hf f hm]

end Policy

namespace Store

variable {s : Store} {ns : Namespace} {short : String} {r : Role} {k : RoleKey} {v : String}

/-- On a well-formed store, changing a stored role keeps the changed role in its place and returns
it, the changed role naming the same filters as before; a refused change is refused by the store
with the role's fault. -/
theorem updateRole_of_role (hs : s.WellFormed) (hr : s.role ns short = .ok r) :
    (∀ r', r.update k v = .ok r' → ∃ p, s.policy? ns = some p ∧
      s.updateRole ns short k v = .ok (r', s.setPolicy ns { p with roles := Sorted.put short r' p.roles })) ∧
    ∀ e, r.update k v = .error e → s.updateRole ns short k v = .error (.roleUpdate e) := by
  obtain ⟨p, hp, hget⟩ : ∃ p, s.policy? ns = some p ∧ Sorted.get? short p.roles = some r := by
    unfold Store.role at hr
    split at hr
    · rename_i r₀ hr₀
      cases hr
      exact Option.bind_eq_some_iff.1 hr₀
    · cases hr
  have hpw := hs.policy? hp
  have hmem := Sorted.mem_of_get? hget
  refine ⟨fun r' hu => ⟨p, hp, ?_⟩, fun e hu => by simp [Store.updateRole, hp, hget, hu]⟩
  -- the changed role names the filters the stored one named, so it passes the store's check
  obtain ⟨-, -, -, ha, hb, -⟩ := Role.update_eq_ok hu
  have hc : p.checkRole r' = .ok () := by
    apply Policy.checkRole_eq_ok_of
    · rw [ha, hb]
      exact hpw.role_named _ hmem
    · rw [show r'.referencedFilters = r.referencedFilters by simp [Role.referencedFilters, ha, hb]]
      exact hpw.role_filters _ hmem
  simp [Store.updateRole, hp, hget, hu, hc, bind, Except.bind, pure, Except.pure]

end Store

namespace Role

/-- Changing the attribute of key `k` of any role `r` to the text `v`. An empty text is refused
with `emptyValue k`. Otherwise an accepted change sets the attribute to the value the text gives
under the key's reading (the text itself for the display name, the integer the trimmed text writes
in the attribute's width, the flag the trimmed text spells) and changes nothing else; the change
is refused exactly when the text gives no value, with the key's fault (the text as given for a
number, the trimmed text for a flag). A store reached through its calls applies exactly this to
its stored role: it keeps the changed role in its place and returns it, or refuses with the
role's fault and is left as it was. -/
theorem update_attribute (r : Role) (k : RoleKey) (v : String) :
    (v = "" → r.update k v = .error (.emptyValue k)) ∧
    (∀ r', r.update k v = .ok r' → k.reading.Gives v (r'.valueAt k) ∧ r.SameExcept r' k) ∧
    (v ≠ "" → ∀ e, r.update k v = .error e ↔ (∀ x, ¬ k.reading.Gives v x) ∧ e = k.fault v) ∧
    ∀ (s : Store) ns short, s.Reachable → s.role ns short = .ok r →
      (∀ r', r.update k v = .ok r' → ∃ p, s.policy? ns = some p ∧
        s.updateRole ns short k v = .ok (r', s.setPolicy ns { p with roles := Sorted.put short r' p.roles })) ∧
      ∀ e, r.update k v = .error e → s.updateRole ns short k v = .error (.roleUpdate e) ∧
        (Store.Call.updateRole ns short k v).apply s = s := by
  refine ⟨fun hv => by simp [update, hv], fun r' => update_eq_ok, fun hv e => update_eq_error hv,
    fun s ns short hs hr => ?_⟩
  obtain ⟨hok, herr⟩ := @Store.updateRole_of_role s ns short r k v hs.wellFormed hr
  refine ⟨hok, fun e hu => ⟨herr e hu, ?_⟩⟩
  simp [Store.Call.apply, Store.Call.run, herr e hu, Except.map, Store.Outcome.ofExcept]

/-- The colour of role `a` of `twoRoleStore` cannot be set to `red`: the store refuses the change
with the number fault quoting `red`, and keeps the role as it was. -/
theorem update_attribute_red :
    Cycle.twoRoleStore.Reachable ∧ Cycle.twoRoleStore.role "corp" "a" = .ok (Cycle.membersRole "a" "A") ∧
      Cycle.twoRoleStore.updateRole "corp" "a" .color "red" = .error (.roleUpdate (.invalidNumber .color "red")) ∧
      (Store.Call.updateRole "corp" "a" .color "red").apply Cycle.twoRoleStore = Cycle.twoRoleStore := by
  have hr : Cycle.twoRoleStore.role "corp" "a" = .ok (Cycle.membersRole "a" "A") := rfl
  have hu : (Cycle.membersRole "a" "A").update .color "red" = .error (.invalidNumber .color "red") := rfl
  exact ⟨Cycle.twoRoleStore_reachable, hr,
    ((update_attribute _ .color "red").2.2.2 _ _ _ Cycle.twoRoleStore_reachable hr).2 _ hu⟩

end Role

end GuildRoles
