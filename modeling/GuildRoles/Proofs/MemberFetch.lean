import GuildRoles.Guild.Session
import GuildRoles.Proofs.GuildState

/-!
# Fetching every member

A session fetches the members of a guild page by page, each page after the largest id of the one
before, until a page comes back shorter than the page size. On a well-formed guild the pages are
consecutive runs of the members in id order, so the fetch returns every member once, in id order,
after `n / p + 1` requests for `n` members and a page size `p` in `1..1000`
(`Session.members_eq_ok`); a guild told to refuse member listings fails the first request
(`Session.members_eq_error`). Either way only the request counter of the guild changes.

The induction is on the fuel of `fetchPages`, with the members split into those fetched and those
still to come; the fuel `n + 1` that `members` gives is more than the `n / p` full pages need.
-/

namespace GuildRoles

namespace Sorted

variable {α β : Type} [Ord α] [Std.TransOrd α]

/-- A key above every key of a map is put at its end. -/
theorem put_eq_append {k : α} {v : β} {es : List (α × β)} (h : ∀ e ∈ es, compare e.1 k = .lt) :
    put k v es = es ++ [(k, v)] := by
  induction es with
  | nil => rfl
  | cons e es ih =>
    obtain ⟨k', w⟩ := e
    have hgt : compare k k' = .gt := Std.OrientedCmp.gt_of_lt (h _ (List.mem_cons_self ..))
    simp only [put, hgt, List.cons_append]
    rw [ih fun e he => h e (List.mem_cons_of_mem _ he)]

end Sorted

namespace UserId

/-- The largest id of an increasing list is its last one. -/
private theorem foldl_max_of_increasing {u : UserId} {us : List UserId} (h : Sorted.Increasing (u :: us)) :
    us.foldl (fun m v => if cmp m v == .gt then m else v) u = (u :: us).getLast (by simp) := by
  induction us generalizing u with
  | nil => rfl
  | cons v vs ih =>
    have huv : cmp u v = .lt := (Sorted.increasing_cons.1 h).1 v (List.mem_cons_self ..)
    rw [List.foldl_cons, List.getLast_cons (by simp), if_neg (by simp [huv])]
    exact ih (Sorted.increasing_cons.1 h).2

theorem maximum?_of_increasing {us : List UserId} (h : Sorted.Increasing us) :
    maximum? us = us.getLast? := by
  cases us with
  | nil => rfl
  | cons u us => rw [maximum?, foldl_max_of_increasing h, List.getLast?_eq_some_getLast]

end UserId

namespace Guild

@[simp] theorem view_userId {g : Guild} {u : UserId} {s : Seat} : (g.view u s).userId = u := rfl

theorem view_congr {g g' : Guild} (h : g.roles = g'.roles) : g.view = g'.view := by
  funext u s
  simp only [view, h]

end Guild

namespace Session

variable (s : Session) {g : Guild}

/-- The members after the last key of `pre`, of a sorted member list `pre ++ rest`, are `rest`. -/
private theorem filter_after {pre rest : List (UserId × Seat)} (hk : Sorted.Keyed (pre ++ rest))
    {after : Option UserId}
    (hafter : (after = none ∧ pre = []) ∨ ∃ pre₀ s₀, pre = pre₀ ++ [(after.getD ⟨""⟩, s₀)] ∧ after.isSome) :
    (pre ++ rest).filter (fun e => after.all fun a => UserId.cmp e.1 a == .gt) = rest := by
  rcases hafter with ⟨rfl, rfl⟩ | ⟨pre₀, s₀, rfl, hsome⟩
  · simp
  · obtain ⟨a, rfl⟩ := Option.isSome_iff_exists.1 hsome
    simp only [Option.getD_some] at hk ⊢
    have hp : (pre₀.map Prod.fst ++ [a] ++ rest.map Prod.fst).Pairwise (fun x y => compare x y = .lt) := by
      simpa [Sorted.Keyed, Sorted.Increasing, List.map_append] using hk
    rw [List.pairwise_append, List.pairwise_append] at hp
    simp only [← UserId.compare_def]
    rw [List.filter_append, List.filter_eq_nil_iff.2, List.filter_eq_self.2, List.nil_append]
    · intro e he
      have := hp.2.2 a (by simp) e.1 (List.mem_map_of_mem he)
      simp [Option.all, Std.OrientedCmp.gt_of_lt this]
    · intro e he
      rcases List.mem_append.1 he with he | he
      · have := hp.1.2.2 e.1 (List.mem_map_of_mem he) a (by simp)
        simp [Option.all, this]
      · simp [List.mem_singleton.1 he, Option.all]

private theorem keyed_of_sublist {es es' : List (UserId × Seat)} (h : Sorted.Keyed es')
    (hs : es.Sublist es') : Sorted.Keyed es := Sorted.Increasing.sublist h (hs.map Prod.fst)

/-- Views put one after another, in increasing id order, land at the end of the map. -/
private theorem foldl_put_views (pre mid : List (UserId × Seat)) (hk : Sorted.Keyed (pre ++ mid)) :
    (mid.map fun e => g.view e.1 e.2).foldl (fun acc m => Sorted.put m.userId m acc)
        (pre.map fun e => (e.1, g.view e.1 e.2)) = (pre ++ mid).map fun e => (e.1, g.view e.1 e.2) := by
  induction mid generalizing pre with
  | nil => simp
  | cons e mid ih =>
    have hlt : ∀ e' ∈ pre.map (fun e => (e.1, g.view e.1 e.2)), compare e'.1 e.1 = .lt := by
      intro e' he'
      obtain ⟨e'', he'', rfl⟩ := List.mem_map.1 he'
      have hp : ((pre.map Prod.fst) ++ e.1 :: mid.map Prod.fst).Pairwise (fun x y => compare x y = .lt) := by
        simpa [Sorted.Keyed, Sorted.Increasing] using hk
      exact (List.pairwise_append.1 hp).2.2 _ (List.mem_map_of_mem he'') _ (List.mem_cons_self ..)
    rw [List.map_cons, List.foldl_cons, Guild.view_userId, Sorted.put_eq_append hlt]
    have := ih (pre ++ [e]) (by simpa using hk)
    simpa using this

private theorem fetchPages_eq (hg : g.WellFormed) (hf : g.faults.listMembers = none)
    (hp : 0 < s.pageSize) (hp' : s.pageSize ≤ Guild.maxPageSize) :
    ∀ (fuel : Nat) (pre rest : List (UserId × Seat)) (after : Option UserId) (h : Guild),
      g.members = pre ++ rest → rest.length / s.pageSize < fuel →
      ((after = none ∧ pre = []) ∨ ∃ pre₀ s₀, pre = pre₀ ++ [(after.getD ⟨""⟩, s₀)] ∧ after.isSome) →
      h.roles = g.roles → h.members = g.members → h.faults = g.faults →
      s.fetchPages fuel after (pre.map fun e => (e.1, g.view e.1 e.2)) h =
        (.ok g.allMembers,
          { h with memberPageRequests := h.memberPageRequests + (rest.length / s.pageSize + 1) }) := by
  intro fuel
  induction fuel with
  | zero => exact fun _ _ _ _ _ hfuel => absurd hfuel (Nat.not_lt_zero _)
  | succ fuel ih =>
    intro pre rest after h hsplit hfuel hafter hr hm hfl
    have hk : Sorted.Keyed (pre ++ rest) := hsplit ▸ hg.members_keyed
    have hview : h.countPageRequest.view = g.view := Guild.view_congr hr
    -- the page: the next `pageSize` members after those already fetched
    have hpage : h.countPageRequest.membersPage after s.pageSize =
        .ok ((rest.take s.pageSize).map fun e => g.view e.1 e.2) := by
      have hsize : ¬(s.pageSize = 0 ∨ s.pageSize > Guild.maxPageSize) := by omega
      have hfc : h.countPageRequest.faults.listMembers = none := by
        simp [Guild.countPageRequest, hfl, hf]
      have hmc : h.countPageRequest.members = pre ++ rest := by
        simp [Guild.countPageRequest, hm, hsplit]
      rw [Guild.membersPage, hfc]
      simp only [hsize, if_false]
      rw [hmc, filter_after hk hafter, hview]
    have hacc := foldl_put_views (g := g) pre (rest.take s.pageSize)
      (keyed_of_sublist hk ((List.take_sublist _ _).append_left pre))
    unfold fetchPages
    simp only [Guild.listMembersPage, hpage, hacc, List.length_map, List.length_take]
    split
    · -- a short page: the rest fit in it, and the fetch is done
      rename_i hshort
      have hlen : rest.length < s.pageSize := by omega
      rw [List.take_of_length_le (by omega), ← hsplit, List.map_map]
      refine Prod.ext rfl ?_
      simp [Guild.countPageRequest, Nat.div_eq_of_lt hlen]
    · -- a full page: go on after its largest id
      rename_i hfull
      have hlen : s.pageSize ≤ rest.length := by omega
      have hne : rest.take s.pageSize ≠ [] := List.ne_nil_of_length_pos (by simp; omega)
      obtain ⟨t₀, b, hb⟩ : ∃ t₀ b, rest.take s.pageSize = t₀ ++ [b] :=
        ⟨_, _, (List.dropLast_append_getLast hne).symm⟩
      have hkeys : Sorted.Keyed (pre ++ (t₀ ++ [b]) ++ rest.drop s.pageSize) := by
        rw [← hb, List.append_assoc, List.take_append_drop]
        exact hk
      have hmax : UserId.maximum? (List.map Member.userId
          (List.map (fun e => g.view e.1 e.2) (rest.take s.pageSize))) = some b.1 := by
        have hinc : Sorted.Keyed (rest.take s.pageSize) :=
          keyed_of_sublist hk ((List.take_sublist _ _).trans (List.sublist_append_right pre rest))
        rw [List.map_map, show (Member.userId ∘ fun e => g.view e.1 e.2) = Prod.fst from rfl,
          UserId.maximum?_of_increasing hinc, hb]
        simp
      -- the largest id of the page is above the last id fetched before
      have hadv : (after.all fun a => UserId.cmp b.1 a == .gt) = true := by
        rcases hafter with ⟨rfl, -⟩ | ⟨pre₀, s₀, rfl, hsome⟩
        · rfl
        · obtain ⟨a, rfl⟩ := Option.isSome_iff_exists.1 hsome
          have hp : ((pre₀.map Prod.fst ++ [a]) ++ (t₀.map Prod.fst ++ [b.1]) ++
              (rest.drop s.pageSize).map Prod.fst).Pairwise (fun x y => compare x y = .lt) := by
            simpa [Sorted.Keyed, Sorted.Increasing] using hkeys
          have hab := (List.pairwise_append.1 (List.pairwise_append.1 hp).1).2.2 a (by simp) b.1 (by simp)
          simp [Option.all, ← UserId.compare_def, Std.OrientedCmp.gt_of_lt hab]
      rw [hmax]
      simp only [hadv, if_true]
      have hrec := ih (pre ++ rest.take s.pageSize) (rest.drop s.pageSize) (some b.1) h.countPageRequest
        (by rw [hsplit, List.append_assoc, List.take_append_drop])
        (by rw [List.length_drop]; rw [Nat.div_eq_sub_div hp hlen] at hfuel; omega)
        (Or.inr ⟨pre ++ t₀, b.2, by rw [hb]; simp, rfl⟩) hr hm hfl
      rw [hrec]
      refine Prod.ext rfl ?_
      simp only [Guild.countPageRequest, List.length_drop, Guild.mk.injEq, and_true, true_and]
      rw [Nat.div_eq_sub_div hp hlen]
      omega

/-- On a well-formed guild that answers member listings, a page size in `1..1000` fetches every
member once, in id order, after `n / p + 1` requests; nothing else of the guild changes. -/
theorem members_eq_ok (hg : g.WellFormed) (hf : g.faults.listMembers = none)
    (hp : 0 < s.pageSize) (hp' : s.pageSize ≤ Guild.maxPageSize) :
    s.members g = (.ok g.allMembers,
      { g with memberPageRequests := g.memberPageRequests + (g.members.length / s.pageSize + 1) }) :=
  fetchPages_eq s hg hf hp hp' _ [] g.members none g rfl
    (Nat.lt_succ_of_le (Nat.div_le_self _ _)) (Or.inl ⟨rfl, rfl⟩) rfl rfl rfl

/-- A guild told to refuse member listings fails the first page request. -/
theorem members_eq_error {e : GuildError} (hf : g.faults.listMembers = some e) :
    s.members g = (.error e, g.countPageRequest) := by
  simp [members, fetchPages, Guild.listMembersPage, Guild.membersPage, Guild.countPageRequest, hf]

/-- A member fetch with a page size in `1..1000` only counts page requests, and what it returns is
every member. -/
theorem members_run (hg : g.WellFormed) (hp : 0 < s.pageSize) (hp' : s.pageSize ≤ Guild.maxPageSize) :
    ∃ k, (s.members g).2 = { g with memberPageRequests := g.memberPageRequests + k } ∧
      ∀ ms, (s.members g).1 = .ok ms → ms = g.allMembers := by
  cases hf : g.faults.listMembers with
  | none =>
    rw [members_eq_ok s hg hf hp hp']
    exact ⟨_, rfl, fun ms h => (Except.ok.inj h).symm⟩
  | some e =>
    rw [members_eq_error s hf]
    exact ⟨1, rfl, fun ms h => by cases h⟩

/-- The page size a session is given is clamped into `1..1000`. -/
theorem withPageSize_bounds (k : Nat) :
    0 < (s.withPageSize k).pageSize ∧ (s.withPageSize k).pageSize ≤ Guild.maxPageSize := by
  simp only [withPageSize, Guild.maxPageSize]
  omega

/-- Whatever page size a session is given, clamped to `p` in `1..1000`: on a well-formed guild
that answers member listings, fetching the members takes exactly `n / p + 1` page requests for
`n` members, never finds the pagination stuck, and returns every member once, as listings show
them, in id order; a guild told to refuse member listings answers the first request with its
error. -/
theorem withPageSize_members (k : Nat) (hg : g.WellFormed) :
    (g.faults.listMembers = none →
      (s.withPageSize k).members g = (.ok g.allMembers, { g with memberPageRequests :=
          g.memberPageRequests + (g.members.length / max 1 (min k Guild.maxPageSize) + 1) }) ∧
        Sorted.Increasing (g.allMembers.map Member.userId)) ∧
    ∀ e, g.faults.listMembers = some e →
      (s.withPageSize k).members g = (.error e, { g with memberPageRequests := g.memberPageRequests + 1 }) := by
  obtain ⟨hp, hp'⟩ := withPageSize_bounds s k
  refine ⟨fun hf => ⟨members_eq_ok _ hg hf hp hp', ?_⟩, fun e hf => members_eq_error _ hf⟩
  -- listings keep the ids of the member map, whose keys increase
  have hids : g.allMembers.map Member.userId = g.members.map Prod.fst := by
    simp [Guild.allMembers, Function.comp_def]
  rw [hids]
  exact hg.members_keyed

end Session

/-- A guild of four members whose ids are ordered by number first (`+7` and `07` both read as
seven, and are then ordered as texts) and then as texts. -/
def mixedIdGuild : Guild :=
  { members := [(⟨"+7"⟩, ⟨"b", []⟩), (⟨"07"⟩, ⟨"c", []⟩), (⟨"12"⟩, ⟨"a", []⟩), (⟨"abc"⟩, ⟨"d", []⟩)] }

theorem mixedIdGuild_wellFormed : mixedIdGuild.WellFormed :=
  ⟨by unfold Sorted.Keyed Sorted.Increasing; decide, by unfold Sorted.Keyed Sorted.Increasing; decide,
    by decide⟩

/-- Pages of three members: the four members of `mixedIdGuild` take two requests. -/
theorem withPageSize_members_mixedIds : mixedIdGuild.WellFormed ∧
    (mixedIdGuild.faults.listMembers = none →
      (({} : Session).withPageSize 3).members mixedIdGuild = (.ok mixedIdGuild.allMembers,
        { mixedIdGuild with memberPageRequests := mixedIdGuild.memberPageRequests +
          (mixedIdGuild.members.length / max 1 (min 3 Guild.maxPageSize) + 1) }) ∧
        Sorted.Increasing (mixedIdGuild.allMembers.map Member.userId)) ∧
    ∀ e, mixedIdGuild.faults.listMembers = some e →
      (({} : Session).withPageSize 3).members mixedIdGuild =
        (.error e, { mixedIdGuild with memberPageRequests := mixedIdGuild.memberPageRequests + 1 }) :=
  ⟨mixedIdGuild_wellFormed, Session.withPageSize_members {} 3 mixedIdGuild_wellFormed⟩

example : mixedIdGuild.members.length / max 1 (min 3 Guild.maxPageSize) + 1 = 2 := by decide

end GuildRoles
