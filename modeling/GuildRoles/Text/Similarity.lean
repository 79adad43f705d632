import GuildRoles.Json.Binary64

/-!
# Jaro similarity of texts

The Jaro similarity of two texts `a` and `b` counts the characters they share: a character of `a`
matches the first unmatched equal character of `b` that stands at most
`max(|a|, |b|) / 2 - 1` places from it. With `m` matches, of which `t` pairs stand in a different
order in the two texts, the similarity is `(m / |a| + m / |b| + (m - t) / m) / 3`; it is `1` for
two empty texts and `0` when nothing matches.

The similarity is computed in binary64 arithmetic, each quotient and sum rounded to the nearest
binary64 number in the order written, and compared with the binary64 number nearest to `7/10`.
The rounding matters at the threshold: `config` and `cosns` are exactly `7/10` similar, but the
rounded sums give `0.7000000000000001`, which is above it. A `Score` is the exact value of such
a rounded number, so scores compare without further rounding.
-/

namespace GuildRoles.Text

open Json

/-- A similarity as the fraction `num / den`; `den` is positive. -/
structure Score where
  num : Nat
  den : Nat
  deriving DecidableEq, Repr

namespace Score

/-- Whether one score is at least another. -/
def atLeast (x y : Score) : Bool := x.num * y.den ≥ y.num * x.den

/-- Whether one score is above another. -/
def above (x y : Score) : Bool := x.num * y.den > y.num * x.den

/-- The exact value of a binary64 number that is not negative. -/
def ofBinary64 (x : Binary64) : Score := ⟨x.ratio.1, x.ratio.2⟩

end Score

/-- The binary64 number nearest to `p / q`, for a ratio well inside the finite range. -/
def nearest (p q : Nat) : Binary64 :=
  (Binary64.ofRatio false p q).getD ⟨false, 0, Binary64.minExponent⟩

/-- The rounded sum of two binary64 numbers well inside the finite range. -/
def plus (x y : Binary64) : Binary64 := (x.add y).getD x

/-- The threshold a similarity must exceed: the binary64 number nearest to `7/10`. -/
def threshold : Score := Score.ofBinary64 (nearest 7 10)

/-- The distance within which two characters may match. -/
def matchRange (a b : List Char) : Nat := max a.length b.length / 2 - 1

/-- Marks the matches: each character of `a`, in order, takes the first unmarked equal character
of `b` within `range` places. Gives the marks of `a` (in reverse) and of `b`. -/
def markMatches (b : List Char) (range : Nat) :
    Nat → List Char → List Bool → List Bool → List Bool × List Bool
  | _, [], ma, mb => (ma, mb)
  | i, c :: cs, ma, mb =>
    let lo := i - range
    let hi := min b.length (i + range + 1)
    match (List.range' lo (hi - lo)).find? fun j => b[j]? == some c && mb[j]? == some false with
    | some j => markMatches b range (i + 1) cs (true :: ma) (mb.set j true)
    | none => markMatches b range (i + 1) cs (false :: ma) mb

/-- The characters of a text that carry a mark. -/
def marked (cs : List Char) (marks : List Bool) : List Char :=
  (cs.zip marks).filterMap fun p => if p.2 then some p.1 else none

/-- The Jaro similarity of two texts. -/
def jaro (a b : List Char) : Score :=
  if a.isEmpty && b.isEmpty then ⟨1, 1⟩
  else if a.isEmpty || b.isEmpty then ⟨0, 1⟩
  else
    let range := matchRange a b
    let (ma, mb) := markMatches b range 0 a [] (List.replicate b.length false)
    let sa := marked a ma.reverse
    let sb := marked b mb
    let m := sa.length
    let t := ((sa.zip sb).filter fun p => p.1 != p.2).length / 2
    if m = 0 then ⟨0, 1⟩
    else
      let sum := plus (plus (nearest m a.length) (nearest m b.length)) (nearest (m - t) m)
      Score.ofBinary64 ((sum.div (Binary64.ofNat 3)).getD sum)

/-- The candidate most similar to a text among those more similar to it than `threshold`; of
equally similar candidates the last one is taken. -/
def mostSimilar (s : String) (candidates : List String) : Option String :=
  let scored := candidates.filterMap fun c =>
    let x := jaro s.toList c.toList
    if x.above threshold then some (c, x) else none
  (scored.foldl (fun best p =>
    match best with
    | some (_, y) => if p.2.atLeast y then some p else best
    | none => some p) none).map (·.1)

example : mostSimilar "jsn" ["namespace", "quiet", "json", "help"] = some "json" := by decide
example : mostSimilar "bogus" ["namespace", "quiet", "json", "help"] = none := by decide
example : mostSimilar "cosns" ["namespace", "config", "json"] = some "config" := by decide

end GuildRoles.Text
