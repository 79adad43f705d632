/-!
# Sorted lists as sets and maps

Sets of names and ids, and maps keyed by them, are kept as lists that are strictly increasing
under the type's `Ord` order. Inserting an element that is already there, or putting a key that
is already there, keeps the list's shape; every listing of such a set or map is in key order.

Main statements:
* `mem_insert`: the elements of `insert x xs` are `x` and the elements of `xs`, for an order
  whose `.eq` means equality.
* `get?_put`: after `put k v`, looking up `k` gives `v`.
-/

namespace GuildRoles.Sorted

variable {α β : Type} [Ord α]

/-- Inserts an element into a strictly increasing list. -/
def insert (x : α) : List α → List α
  | [] => [x]
  | y :: ys =>
    match compare x y with
    | .lt => x :: y :: ys
    | .eq => y :: ys
    | .gt => y :: insert x ys

/-- The strictly increasing list of the elements of a list. -/
def ofList (xs : List α) : List α := xs.foldl (fun acc x => insert x acc) []

/-- Whether an element is present. -/
def contains (x : α) (xs : List α) : Bool := xs.any fun y => compare x y == .eq

/-- Removes an element. -/
def erase (x : α) (xs : List α) : List α := xs.filter fun y => compare x y != .eq

/-- The elements of `xs` that are in `ys`. -/
def inter (xs ys : List α) : List α := xs.filter fun x => contains x ys

/-- The elements of `xs` that are not in `ys`. -/
def diff (xs ys : List α) : List α := xs.filter fun x => !contains x ys

/-- The union of two sets. -/
def union (xs ys : List α) : List α := ys.foldl (fun acc y => insert y acc) xs

/-- Whether two sets have the same elements. -/
def sameElements (xs ys : List α) : Bool :=
  xs.length == ys.length && xs.all fun x => contains x ys

/-- The value of a key in a list of entries. -/
def get? (k : α) : List (α × β) → Option β
  | [] => none
  | (k', v) :: rest => if compare k k' == .eq then some v else get? k rest

/-- Puts a value under a key, replacing the value already there, keeping keys increasing. -/
def put (k : α) (v : β) : List (α × β) → List (α × β)
  | [] => [(k, v)]
  | (k', w) :: rest =>
    match compare k k' with
    | .lt => (k, v) :: (k', w) :: rest
    | .eq => (k', v) :: rest
    | .gt => (k', w) :: put k v rest

/-- Removes the entry of a key. -/
def remove (k : α) (entries : List (α × β)) : List (α × β) :=
  entries.filter fun e => compare k e.1 != .eq

/-- Changes the value under a key with a function, starting from a default when absent. -/
def alter (k : α) (default : β) (f : β → β) (entries : List (α × β)) : List (α × β) :=
  put k (f ((get? k entries).getD default)) entries

/-- A map from entries, a later entry for a key replacing an earlier one. -/
def mapOfList (entries : List (α × β)) : List (α × β) :=
  entries.foldl (fun acc e => put e.1 e.2 acc) []

theorem mem_insert [Std.LawfulEqOrd α] (x y : α) (xs : List α) :
    y ∈ insert x xs ↔ y = x ∨ y ∈ xs := by
  induction xs with
  | nil => simp [insert]
  | cons z zs ih =>
    simp only [insert]
    split
    · simp
    · rename_i h
      have := Std.LawfulEqCmp.eq_of_compare h
      subst this
      simp only [List.mem_cons]
      constructor
      · intro h; exact Or.inr h
      · rintro (h | h)
        · exact Or.inl h
        · exact h
    · simp only [List.mem_cons, ih]
      constructor
      · rintro (h | h | h)
        · exact Or.inr (Or.inl h)
        · exact Or.inl h
        · exact Or.inr (Or.inr h)
      · rintro (h | h | h)
        · exact Or.inr (Or.inl h)
        · exact Or.inl h
        · exact Or.inr (Or.inr h)

theorem get?_put [Std.LawfulEqOrd α] (k : α) (v : β) (entries : List (α × β)) :
    get? k (put k v entries) = some v := by
  induction entries with
  | nil => simp [put, get?, Std.compare_self]
  | cons e rest ih =>
    obtain ⟨k', w⟩ := e
    simp only [put]
    split
    · simp [get?, Std.compare_self]
    · rename_i h
      simp [get?, h]
    · rename_i h
      have : (compare k k' == .eq) = false := by simp [h]
      simp [get?, this, ih]

end GuildRoles.Sorted
