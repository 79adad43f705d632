import GuildRoles.Sorted

/-!
# Sorted lists as sets and maps

The sets and maps of the library are lists kept strictly increasing under a lawful order
(`Increasing`, and `Keyed` for the keys of a map). This module gives them their meaning as sets and
maps, which is what the statements about guilds, stores and plans are written in:

* membership of `insert`, `ofList`, `erase`, `inter`, `diff` and `union` (`mem_union`, …), and
  `contains_iff`, which turns the Boolean test into membership;
* lookups: on a keyed map `get?` finds exactly the entries (`get?_eq_some_iff`), `put` replaces
  the entry of its key (`mem_put`), and `mapOfList` keeps the last entry of each key
  (`get?_mapOfList`);
* every operation keeps a list increasing, and two increasing lists with the same elements are
  equal (`Increasing.ext`).
-/

namespace GuildRoles.Sorted

variable {α β : Type} [Ord α]

/-- A list whose elements increase strictly: a set, listed in order. -/
def Increasing (xs : List α) : Prop := xs.Pairwise fun a b => compare a b = .lt

/-- A list of entries whose keys increase strictly: a map, listed in key order. -/
def Keyed (es : List (α × β)) : Prop := Increasing (es.map Prod.fst)

theorem increasing_nil : Increasing ([] : List α) := List.Pairwise.nil

theorem keyed_nil : Keyed ([] : List (α × β)) := List.Pairwise.nil

theorem increasing_cons {x : α} {xs : List α} :
    Increasing (x :: xs) ↔ (∀ y ∈ xs, compare x y = .lt) ∧ Increasing xs := List.pairwise_cons

theorem keyed_cons {e : α × β} {es : List (α × β)} :
    Keyed (e :: es) ↔ (∀ e' ∈ es, compare e.1 e'.1 = .lt) ∧ Keyed es := by
  simp [Keyed, Increasing, List.pairwise_cons]

theorem Increasing.sublist {xs ys : List α} (h : Increasing ys) (hs : xs.Sublist ys) :
    Increasing xs := List.Pairwise.sublist hs h

theorem Increasing.filter {xs : List α} (h : Increasing xs) (p : α → Bool) :
    Increasing (xs.filter p) := h.sublist List.filter_sublist

theorem Keyed.filter {es : List (α × β)} (h : Keyed es) (p : α × β → Bool) :
    Keyed (es.filter p) := Increasing.sublist h (List.filter_sublist.map Prod.fst)

theorem Keyed.remove {es : List (α × β)} (h : Keyed es) (k : α) : Keyed (remove k es) :=
  h.filter _

private theorem mem_keys_put {k k' : α} {v : β} {es : List (α × β)} (h : k' ∈ (put k v es).map Prod.fst) :
    k' = k ∨ k' ∈ es.map Prod.fst := by
  induction es with
  | nil => simpa [put] using h
  | cons e es ih =>
    obtain ⟨k'', w⟩ := e
    unfold put at h
    split at h <;> simp only [List.map_cons, List.mem_cons] at h ⊢
    · exact h
    · rcases h with h | h
      · exact Or.inr (Or.inl h)
      · exact Or.inr (Or.inr h)
    · rcases h with h | h
      · exact Or.inr (Or.inl h)
      · rcases ih h with h | h
        · exact Or.inl h
        · exact Or.inr (Or.inr h)

section Lawful

variable [Std.LawfulEqOrd α]

@[simp] theorem compare_eq_iff {x y : α} : compare x y = .eq ↔ x = y :=
  Std.LawfulEqCmp.compare_eq_iff_eq

@[simp] theorem contains_iff {x : α} {xs : List α} : contains x xs = true ↔ x ∈ xs := by
  unfold contains
  rw [List.any_eq_true]
  constructor
  · rintro ⟨y, hy, h⟩
    rwa [compare_eq_iff.1 (beq_iff_eq.1 h)]
  · intro h
    exact ⟨x, h, beq_iff_eq.2 Std.ReflOrd.compare_self⟩

@[simp] theorem contains_eq_false {x : α} {xs : List α} : contains x xs = false ↔ x ∉ xs := by
  rw [← contains_iff, Bool.not_eq_true]

@[simp] theorem mem_erase {x y : α} {xs : List α} : y ∈ erase x xs ↔ y ∈ xs ∧ y ≠ x := by
  simp only [erase, List.mem_filter, bne_iff_ne, ne_eq, compare_eq_iff]
  exact and_congr_right fun _ => ⟨fun h e => h e.symm, fun h e => h e.symm⟩

@[simp] theorem mem_inter {x : α} {xs ys : List α} : x ∈ inter xs ys ↔ x ∈ xs ∧ x ∈ ys := by
  simp [inter]

@[simp] theorem mem_diff {x : α} {xs ys : List α} : x ∈ diff xs ys ↔ x ∈ xs ∧ x ∉ ys := by
  simp [diff]

private theorem mem_foldl_insert {y : α} (xs acc : List α) :
    y ∈ xs.foldl (fun acc x => insert x acc) acc ↔ y ∈ acc ∨ y ∈ xs := by
  induction xs generalizing acc with
  | nil => simp
  | cons x xs ih =>
    rw [List.foldl_cons, ih, mem_insert, List.mem_cons, or_comm (a := y = x), or_assoc]

@[simp] theorem mem_ofList {x : α} {xs : List α} : x ∈ ofList xs ↔ x ∈ xs := by
  simp [ofList, mem_foldl_insert]

@[simp] theorem mem_union {x : α} {xs ys : List α} : x ∈ union xs ys ↔ x ∈ xs ∨ x ∈ ys :=
  mem_foldl_insert ys xs

theorem mem_remove {k : α} {e : α × β} {es : List (α × β)} :
    e ∈ remove k es ↔ e ∈ es ∧ e.1 ≠ k := by
  simp only [remove, List.mem_filter, bne_iff_ne, ne_eq, compare_eq_iff]
  exact and_congr_right fun _ => ⟨fun h e => h e.symm, fun h e => h e.symm⟩

/-- `put` adds its key to the keys of a list and removes none. -/
theorem mem_keys_put_iff {k k' : α} {v : β} {es : List (α × β)} :
    k' ∈ (put k v es).map Prod.fst ↔ k' = k ∨ k' ∈ es.map Prod.fst := by
  refine ⟨mem_keys_put, fun h => ?_⟩
  induction es with
  | nil => simpa [put] using h
  | cons e es ih =>
    obtain ⟨k'', w⟩ := e
    unfold put
    split <;> simp only [List.map_cons, List.mem_cons] at h ⊢
    · exact h
    · rename_i hk
      rcases h with h | h | h
      · exact Or.inl (h.trans (Std.LawfulEqCmp.compare_eq_iff_eq.1 hk))
      · exact Or.inl h
      · exact Or.inr h
    · rcases h with h | h | h
      · exact Or.inr (ih (Or.inl h))
      · exact Or.inl h
      · exact Or.inr (ih (Or.inr h))

theorem Increasing.nodup {xs : List α} (h : Increasing xs) : xs.Nodup :=
  h.imp fun hlt heq => by subst heq; simp [Std.ReflOrd.compare_self] at hlt

end Lawful

section Trans

variable [Std.TransOrd α] [Std.LawfulEqOrd α]

theorem increasing_insert (x : α) {xs : List α} (h : Increasing xs) : Increasing (insert x xs) := by
  induction xs with
  | nil => exact List.pairwise_singleton _ x
  | cons y ys ih =>
    rw [increasing_cons] at h
    unfold insert
    split
    · rename_i hxy
      refine increasing_cons.2 ⟨?_, increasing_cons.2 h⟩
      intro z hz
      rcases List.mem_cons.1 hz with rfl | hz
      · exact hxy
      · exact Std.TransCmp.lt_trans hxy (h.1 z hz)
    · exact increasing_cons.2 h
    · rename_i hxy
      refine increasing_cons.2 ⟨?_, ih h.2⟩
      intro z hz
      rcases (mem_insert x z ys).1 hz with rfl | hz
      · exact Std.OrientedCmp.lt_of_gt hxy
      · exact h.1 z hz

private theorem increasing_foldl_insert (xs : List α) {acc : List α} (h : Increasing acc) :
    Increasing (xs.foldl (fun acc x => insert x acc) acc) := by
  induction xs generalizing acc with
  | nil => exact h
  | cons x xs ih => exact ih (increasing_insert x h)

theorem increasing_ofList (xs : List α) : Increasing (ofList xs) :=
  increasing_foldl_insert xs increasing_nil

theorem increasing_union (ys : List α) {xs : List α} (h : Increasing xs) :
    Increasing (union xs ys) := increasing_foldl_insert ys h

/-- An increasing list is determined by its elements. -/
theorem Increasing.ext {xs ys : List α} (hx : Increasing xs) (hy : Increasing ys)
    (h : ∀ z, z ∈ xs ↔ z ∈ ys) : xs = ys := by
  apply List.Perm.eq_of_pairwise _ hx hy
  · exact (List.perm_ext_iff_of_nodup hx.nodup hy.nodup).2 h
  · intro a b _ _ hab hba
    exact absurd (Std.OrientedCmp.gt_of_lt hab) (by simp [hba])

end Trans

/-! ### Lookups -/

@[simp] theorem get?_nil {k : α} : get? k ([] : List (α × β)) = none := rfl

section Lookup

variable [Std.LawfulEqOrd α] [DecidableEq α]

theorem get?_cons {k k' : α} {v : β} {es : List (α × β)} :
    get? k ((k', v) :: es) = if k = k' then some v else get? k es := by
  simp [get?]


theorem get?_append {k : α} (es es' : List (α × β)) :
    get? k (es ++ es') = (get? k es).or (get? k es') := by
  induction es with
  | nil => simp
  | cons e es ih =>
    obtain ⟨k', v⟩ := e
    rw [List.cons_append, get?_cons, get?_cons]
    split <;> simp [ih]

theorem mem_of_get? {k : α} {v : β} {es : List (α × β)} (h : get? k es = some v) : (k, v) ∈ es := by
  induction es with
  | nil => simp at h
  | cons e es ih =>
    obtain ⟨k', w⟩ := e
    rw [get?_cons] at h
    split at h
    · rename_i hk
      subst hk
      simp_all
    · exact List.mem_cons_of_mem _ (ih h)

theorem get?_isSome_of_mem {k : α} {v : β} {es : List (α × β)} (h : (k, v) ∈ es) :
    (get? k es).isSome := by
  induction es with
  | nil => simp at h
  | cons e es ih =>
    obtain ⟨k', w⟩ := e
    rw [get?_cons]
    split
    · rfl
    · rename_i hk
      rcases List.mem_cons.1 h with h | h
      · exact absurd (Prod.mk.inj h).1 hk
      · exact ih h

theorem get?_eq_none_iff {k : α} {es : List (α × β)} : get? k es = none ↔ k ∉ es.map Prod.fst := by
  constructor
  · intro h hk
    obtain ⟨⟨k', v⟩, he, rfl⟩ := List.mem_map.1 hk
    have hs := get?_isSome_of_mem he
    rw [h] at hs
    exact Bool.false_ne_true hs
  · intro h
    cases hg : get? k es with
    | none => rfl
    | some v => exact absurd (List.mem_map_of_mem (f := Prod.fst) (mem_of_get? hg)) h

/-- Putting under one key leaves the lookups of every other key alone. -/
theorem get?_put_ne {k k' : α} {v : β} {es : List (α × β)} (h : k' ≠ k) :
    get? k' (put k v es) = get? k' es := by
  induction es with
  | nil => simp [put, get?_cons, h]
  | cons e es ih =>
    obtain ⟨k'', w⟩ := e
    simp only [put]
    split
    · simp [get?_cons, h]
    · rename_i hk
      rw [compare_eq_iff] at hk
      subst hk
      simp [get?_cons, h]
    · rw [get?_cons, get?_cons, ih]

theorem get?_put_eq {k k' : α} {v : β} {es : List (α × β)} :
    get? k' (put k v es) = if k' = k then some v else get? k' es := by
  split
  · rename_i h
    subst h
    exact get?_put k' v es
  · exact get?_put_ne ‹_›

theorem get?_remove {k k' : α} {es : List (α × β)} :
    get? k' (remove k es) = if k' = k then none else get? k' es := by
  induction es with
  | nil => simp [remove]
  | cons e es ih =>
    obtain ⟨k'', w⟩ := e
    unfold remove at ih ⊢
    by_cases h2 : k'' = k
    · subst h2
      rw [List.filter_cons_of_neg (by simp), ih, get?_cons]
      by_cases h1 : k' = k'' <;> simp [h1]
    · have keep : (compare k k'' != Ordering.eq) = true :=
        bne_iff_ne.2 fun h => h2 (compare_eq_iff.1 h).symm
      rw [List.filter_cons, if_pos keep, get?_cons, get?_cons, ih]
      by_cases h1 : k' = k
      · subst h1
        simp [Ne.symm h2]
      · simp [h1]

theorem get?_alter {k k' : α} {d : β} {f : β → β} {es : List (α × β)} :
    get? k' (alter k d f es) = if k' = k then some (f ((get? k es).getD d)) else get? k' es :=
  get?_put_eq

/-- The map of a list of entries looks a key up in the reversed list: a later entry of a key
replaces an earlier one. -/
theorem get?_mapOfList {k : α} (es : List (α × β)) : get? k (mapOfList es) = get? k es.reverse := by
  suffices ∀ acc : List (α × β),
      get? k (es.foldl (fun acc e => put e.1 e.2 acc) acc) = (get? k es.reverse).or (get? k acc) by
    unfold mapOfList
    simpa using this []
  induction es with
  | nil => simp
  | cons e es ih =>
    intro acc
    obtain ⟨k', v⟩ := e
    rw [List.foldl_cons, ih, List.reverse_cons, get?_append, get?_put_eq, get?_cons]
    by_cases hk : k = k' <;> simp [hk]

/-- Every value a map of a list gives comes from an entry of the list. -/
theorem mem_of_get?_mapOfList {k : α} {v : β} {es : List (α × β)}
    (h : get? k (mapOfList es) = some v) : (k, v) ∈ es := by
  rw [get?_mapOfList] at h
  exact List.mem_reverse.1 (mem_of_get? h)

/-- A map of a list has the keys of the list. -/
theorem mem_keys_mapOfList {k : α} {es : List (α × β)} :
    k ∈ (mapOfList es).map Prod.fst ↔ k ∈ es.map Prod.fst := by
  rw [← Decidable.not_iff_not, ← get?_eq_none_iff, get?_mapOfList, get?_eq_none_iff, List.map_reverse,
    List.mem_reverse]

/-- Changing every value of a map changes the value each key finds. -/
theorem get?_map_values {γ : Type} {k : α} (f : β → γ) (es : List (α × β)) :
    get? k (es.map fun e => (e.1, f e.2)) = (get? k es).map f := by
  induction es with
  | nil => rfl
  | cons e es ih =>
    rw [List.map_cons, get?_cons, get?_cons, ih]
    split <;> rfl

/-- On a map the lookup of a key finds exactly its entry. -/
theorem get?_eq_some_iff {k : α} {v : β} {es : List (α × β)} (h : Keyed es) :
    get? k es = some v ↔ (k, v) ∈ es := by
  refine ⟨mem_of_get?, fun hm => ?_⟩
  induction es with
  | nil => simp at hm
  | cons e es ih =>
    obtain ⟨k', w⟩ := e
    rw [keyed_cons] at h
    rw [get?_cons]
    rcases List.mem_cons.1 hm with he | he
    · obtain ⟨rfl, rfl⟩ := Prod.mk.inj he
      simp
    · have hlt := h.1 _ he
      have hne : k ≠ k' := by
        rintro rfl
        simp [Std.ReflOrd.compare_self] at hlt
      rw [if_neg hne]
      exact ih h.2 he

/-- On a list of entries with distinct keys, the lookup of a key finds exactly its entry. -/
theorem get?_eq_some_of_nodup {k : α} {v : β} {es : List (α × β)} (h : (es.map Prod.fst).Nodup) :
    get? k es = some v ↔ (k, v) ∈ es := by
  induction es with
  | nil => simp
  | cons e es ih =>
    obtain ⟨k', w⟩ := e
    rw [List.map_cons, List.nodup_cons] at h
    rw [get?_cons, List.mem_cons]
    by_cases hk : k = k'
    · subst hk
      have hnot : (k, v) ∉ es := fun he => h.1 (List.mem_map.2 ⟨_, he, rfl⟩)
      simp [hnot, eq_comm]
    · simp [hk, ih h.2]

end Lookup

section KeyedMaps

variable [Std.TransOrd α] [Std.LawfulEqOrd α]

theorem keyed_put (k : α) (v : β) {es : List (α × β)} (h : Keyed es) : Keyed (put k v es) := by
  induction es with
  | nil => exact List.pairwise_singleton _ k
  | cons e es ih =>
    obtain ⟨k', w⟩ := e
    rw [keyed_cons] at h
    unfold put
    split
    · rename_i hk
      refine keyed_cons.2 ⟨?_, keyed_cons.2 h⟩
      intro e he
      rcases List.mem_cons.1 he with rfl | he
      · exact hk
      · exact Std.TransCmp.lt_trans hk (h.1 e he)
    · rename_i hk
      rw [compare_eq_iff] at hk
      subst hk
      exact keyed_cons.2 h
    · rename_i hk
      refine keyed_cons.2 ⟨?_, ih h.2⟩
      intro e he
      rcases mem_keys_put (List.mem_map_of_mem (f := Prod.fst) he) with hek | hek
      · rw [hek]
        exact Std.OrientedCmp.lt_of_gt hk
      · obtain ⟨e', he', hee'⟩ := List.mem_map.1 hek
        rw [← hee']
        exact h.1 e' he'

theorem keyed_mapOfList (es : List (α × β)) : Keyed (mapOfList es) := by
  suffices ∀ acc : List (α × β), Keyed acc → Keyed (es.foldl (fun acc e => put e.1 e.2 acc) acc) from
    this [] keyed_nil
  induction es with
  | nil => exact fun _ h => h
  | cons e es ih => exact fun acc h => ih _ (keyed_put e.1 e.2 h)

/-- A map is determined by its entries. -/
theorem Keyed.ext {es es' : List (α × β)} (h : Keyed es) (h' : Keyed es') (he : ∀ e, e ∈ es ↔ e ∈ es') :
    es = es' := by
  -- two entries with distinct keys are distinct
  have hne : ∀ a b : α × β, a.1 ≠ b.1 → a ≠ b := fun a b hab heq => hab (congrArg Prod.fst heq)
  have hnd : es.Nodup := List.Pairwise.of_map Prod.fst hne h.nodup
  have hnd' : es'.Nodup := List.Pairwise.of_map Prod.fst hne h'.nodup
  unfold Keyed Increasing at h h'
  apply List.Perm.eq_of_pairwise _ (List.pairwise_map.1 h) (List.pairwise_map.1 h')
  · exact (List.perm_ext_iff_of_nodup hnd hnd').2 he
  · intro a b _ _ hab hba
    exact absurd (Std.OrientedCmp.gt_of_lt hab) (by simp [hba])

/-- Putting under a key the map has keeps its keys. -/
theorem keys_put_of_mem {k : α} {v : β} {es : List (α × β)} (h : Keyed es) (hk : k ∈ es.map Prod.fst) :
    (put k v es).map Prod.fst = es.map Prod.fst :=
  Increasing.ext (keyed_put k v h) h fun k' => by
    rw [mem_keys_put_iff]
    exact ⟨fun h' => h'.elim (fun he => he ▸ hk) id, Or.inr⟩

/-- The entries of a map after `put`: the new one, and the old ones of the other keys. -/
theorem mem_put [DecidableEq α] {k : α} {v : β} {e : α × β} {es : List (α × β)} (h : Keyed es) :
    e ∈ put k v es ↔ e = (k, v) ∨ (e ∈ es ∧ e.1 ≠ k) := by
  obtain ⟨k', v'⟩ := e
  rw [← get?_eq_some_iff (keyed_put k v h), get?_put_eq]
  by_cases hk : k' = k
  · subst hk
    simp [eq_comm]
  · simp [hk, get?_eq_some_iff h]

end KeyedMaps

end GuildRoles.Sorted
