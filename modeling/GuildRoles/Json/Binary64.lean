/-!
# Binary64 numbers in exact arithmetic

A finite binary64 number is `(-1)^negative · mantissa · 2^exponent` with a 53-bit mantissa. All
operations here work on natural numbers: a value is rounded from an exact ratio to the nearest
binary64 (ties to the even mantissa), sums, products and quotients round the exact result once,
and the shortest decimal that reads back is found by testing decimal grids of growing fineness.

* `ofRatio` rounds a ratio of naturals; `none` means the result is too large to be finite.
* `ofDecimal` reads `significand · 10^exponent` the way the JSON reader of the input format does:
  the significand is rounded first and then multiplied or divided by a rounded power of ten.
* `shortest` gives the digits and exponent of the shortest decimal in the rounding interval,
  the nearest one when several have that length.
* `text` writes a value with those digits: positionally between `1e-5` and `1e16`, with an
  exponent otherwise, and always with a point or an exponent (`1.0`, `1e30`, `1.5e-7`);
  messages name a value the same way, with `+` before a positive exponent (`messageText`).
-/

namespace GuildRoles.Json

/-- A finite binary64 number. The mantissa is below `2^53`, the exponent between `-1074` and
`971`, and the mantissa is at least `2^52` unless the exponent is `-1074`. -/
structure Binary64 where
  negative : Bool
  mantissa : Nat
  exponent : Int
  deriving DecidableEq, Repr

namespace Binary64

/-- The least exponent: subnormal numbers are multiples of `2^-1074`. -/
def minExponent : Int := -1074

/-- The greatest exponent of a finite number. -/
def maxExponent : Int := 971

/-- Whether the value is a zero of either sign. -/
def isZero (x : Binary64) : Bool := x.mantissa == 0

/-- The magnitude as a ratio of naturals. -/
def ratio (x : Binary64) : Nat × Nat :=
  if x.exponent ≥ 0 then (x.mantissa * Nat.pow 2 x.exponent.toNat, 1)
  else (x.mantissa, Nat.pow 2 (-x.exponent).toNat)

/-- Whether `num / den ≥ 2^k`. -/
def ratioAtLeastPow (num den : Nat) (k : Int) : Bool :=
  if k ≥ 0 then den * Nat.pow 2 k.toNat ≤ num else den ≤ num * Nat.pow 2 (-k).toNat

/-- The floor of the binary logarithm of `num / den`, for positive `num` and `den`. -/
def log2Ratio (num den : Nat) : Int :=
  let k : Int := (Nat.log2 num : Int) - Nat.log2 den
  if ratioAtLeastPow num den k then k else k - 1

/-- The quotient and remainder of `num / (den · 2^e)`, with the divisor they refer to. -/
def scaleDown (num den : Nat) (e : Int) : Nat × Nat × Nat :=
  let n := if e ≥ 0 then num else num * Nat.pow 2 (-e).toNat
  let d := if e ≥ 0 then den * Nat.pow 2 e.toNat else den
  (n / d, n % d, d)

/-- The binary64 number nearest to `num / den`, ties going to the even mantissa, or `none` when
that number would exceed the finite range. The denominator is taken to be positive. -/
def ofRatio (negative : Bool) (num den : Nat) : Option Binary64 :=
  if num = 0 then some ⟨negative, 0, minExponent⟩
  else
    let e := max (log2Ratio num den - 52) minExponent
    let (q, r, d) := scaleDown num den e
    let up := 2 * r > d || (2 * r == d && q % 2 == 1)
    let q := if up then q + 1 else q
    let (m, e) := if q = Nat.pow 2 53 then (Nat.pow 2 52, e + 1) else (q, e)
    if e > maxExponent then none else some ⟨negative, m, e⟩

/-- The number with the sign changed. -/
def neg (x : Binary64) : Binary64 := { x with negative := !x.negative }

/-- The rounded product, or `none` when it is too large. -/
def mul (x y : Binary64) : Option Binary64 :=
  let (a, b) := x.ratio
  let (c, d) := y.ratio
  ofRatio (x.negative != y.negative) (a * c) (b * d)

/-- The rounded quotient by a nonzero number, or `none` when it is too large. -/
def div (x y : Binary64) : Option Binary64 :=
  let (a, b) := x.ratio
  let (c, d) := y.ratio
  ofRatio (x.negative != y.negative) (a * d) (b * c)

/-- The rounded sum, or `none` when it is too large. An exact zero from numbers of opposite signs
is a positive zero. -/
def add (x y : Binary64) : Option Binary64 :=
  let (a, b) := x.ratio
  let (c, d) := y.ratio
  if x.negative == y.negative then ofRatio x.negative (a * d + c * b) (b * d)
  else if a * d > c * b then ofRatio x.negative (a * d - c * b) (b * d)
  else if a * d < c * b then ofRatio y.negative (c * b - a * d) (b * d)
  else some ⟨false, 0, minExponent⟩

/-- A natural number rounded to binary64; numbers below `2^1024` are always finite. -/
def ofNat (n : Nat) : Binary64 := (ofRatio false n 1).getD ⟨false, 0, minExponent⟩

/-- The power of ten `10^k`, rounded. -/
def pow10 (k : Nat) : Binary64 := ofNat (Nat.pow 10 k)

/-- Scales a value by `10^exponent` with one rounded product or quotient when the power is at
most `10^308`, and by steps of `10^308` downwards otherwise; `none` on overflow. The fuel bounds
the number of steps. -/
def scalePow10 (f : Binary64) (exponent : Int) : Nat → Option Binary64
  | 0 => some f
  | fuel + 1 =>
    if exponent.natAbs ≤ 308 then
      if exponent ≥ 0 then f.mul (pow10 exponent.toNat) else f.div (pow10 exponent.natAbs)
    else if f.isZero then some f
    else if exponent ≥ 0 then none
    else
      match f.div (pow10 308) with
      | some g => scalePow10 g (exponent + 308) fuel
      | none => none

/-- The value of a decimal `significand · 10^exponent` read from JSON text, or `none` when it is
out of range. The significand is rounded first, then scaled. -/
def ofDecimal (negative : Bool) (significand : Nat) (exponent : Int) : Option Binary64 :=
  (scalePow10 (ofNat significand) exponent 16).map fun f => if negative then f.neg else f

/-! ### Shortest decimal text -/

/-- The rounding interval of a nonzero value as numerators over `2^(exponent - 2)`:
`(lower, value, upper)`. -/
def interval (x : Binary64) : Nat × Nat × Nat :=
  let m := x.mantissa
  let lower := if m = Nat.pow 2 52 ∧ x.exponent > minExponent then 4 * m - 1 else 4 * m - 2
  (lower, 4 * m, 4 * m + 2)

/-- The ratio `N · 2^b / 10^k` as a pair of naturals. -/
def gridRatio (n : Nat) (b k : Int) : Nat × Nat :=
  (n * Nat.pow 2 b.toNat * Nat.pow 10 (-k).toNat, Nat.pow 2 (-b).toNat * Nat.pow 10 k.toNat)

/-- The least `d` with `d ≥ p / q` (or `d > p / q` when the end is excluded). -/
def ceilFrom (p q : Nat) (inclusive : Bool) : Nat :=
  if p % q = 0 then (if inclusive then p / q else p / q + 1) else p / q + 1

/-- The greatest `d` with `d ≤ p / q` (or `d < p / q` when the end is excluded). -/
def floorTo (p q : Nat) (inclusive : Bool) : Nat :=
  if p % q = 0 ∧ !inclusive then p / q - 1 else p / q

/-- Of the multiples `d · 10^k` of the grid in the rounding interval, the one nearest to the
value, ties going to the even `d`; `none` when the grid has no point there. -/
def gridPoint (x : Binary64) (k : Int) : Option Nat :=
  let (lo, v, hi) := x.interval
  let b := x.exponent - 2
  let inclusive := x.mantissa % 2 == 0
  let (plo, q) := gridRatio lo b k
  let (pv, _) := gridRatio v b k
  let (phi, _) := gridRatio hi b k
  let dmin := ceilFrom plo q inclusive
  let dmax := floorTo phi q inclusive
  if dmin > dmax ∨ phi < q * dmin then none
  else
    let below := pv / q
    let above := below + 1
    -- distances to the value, in units of 1/q
    let dBelow := pv - below * q
    let dAbove := above * q - pv
    let best :=
      if below < dmin then dmin
      else if above > dmax then below
      else if dBelow < dAbove then below
      else if dAbove < dBelow then above
      else if below % 2 = 0 then below else above
    some (max dmin (min best dmax))

/-- An exponent `k` with `10^k` above every point of the rounding interval of a value. -/
def gridStart (x : Binary64) : Int := (x.exponent + 54) * 30103 / 100000 + 1

/-- Searches grids from exponent `k` downwards for the first that meets the interval. -/
def searchGrid (x : Binary64) : Int → Nat → Nat × Int
  | k, 0 => (x.mantissa, k)
  | k, fuel + 1 =>
    match gridPoint x k with
    | some d => if d = 0 then searchGrid x (k - 1) fuel else (d, k)
    | none => searchGrid x (k - 1) fuel

/-- Removes trailing zero digits, raising the exponent. -/
def dropZeros : Nat → Int → Nat → Nat × Int
  | d, k, 0 => (d, k)
  | d, k, fuel + 1 => if d ≠ 0 ∧ d % 10 = 0 then dropZeros (d / 10) (k + 1) fuel else (d, k)

/-- The digits `d` and exponent `k` of the shortest decimal `d · 10^k` that rounds to the
magnitude of a nonzero value, without trailing zeros. -/
def shortest (x : Binary64) : Nat × Int :=
  let (d, k) := searchGrid x x.gridStart 48
  dropZeros d k 40

/-- The decimal digits of a natural number. -/
def digitChars (n : Nat) : List Char := Nat.toDigits 10 n

/-- The text of a value: the shortest digits, positional for decimal exponents between `-5` and
`16`, and with `e` and a signed exponent otherwise; integral values end in `.0`. A positive
exponent carries a `+` when `markPositive` is set. -/
def textWith (markPositive : Bool) (x : Binary64) : String :=
  let sign := if x.negative then "-" else ""
  if x.isZero then sign ++ "0.0"
  else
    let (d, k) := x.shortest
    let ds := digitChars d
    let len : Int := ds.length
    let kk := len + k
    let zeros (n : Int) : List Char := List.replicate n.toNat '0'
    let body : List Char :=
      if 0 ≤ k ∧ kk ≤ 16 then ds ++ zeros k ++ ['.', '0']
      else if 0 < kk ∧ kk ≤ 16 then ds.take kk.toNat ++ '.' :: ds.drop kk.toNat
      else if -5 < kk ∧ kk ≤ 0 then ['0', '.'] ++ zeros (-kk) ++ ds
      else
        let expSign := if markPositive && kk - 1 ≥ 0 then "+" else ""
        let expText := (expSign ++ toString (kk - 1)).toList
        match ds with
        | [c] => c :: 'e' :: expText
        | c :: rest => c :: '.' :: rest ++ 'e' :: expText
        | [] => expText
    sign ++ String.ofList body

/-- The text of a value in JSON output (`1e16`). -/
def text (x : Binary64) : String := textWith false x

/-- The text of a value as messages name it (`1e+16`). -/
def messageText (x : Binary64) : String := textWith true x

example : (ofDecimal false 15 (-1)).map text = some "1.5" := by decide
example : (ofDecimal false 1 16).map messageText = some "1e+16" := by decide
example : (ofDecimal false 7 (-6)).map messageText = some "7e-6" := by decide
example : (ofDecimal false 8 0).map text = some "8.0" := by decide

end Binary64

end GuildRoles.Json
