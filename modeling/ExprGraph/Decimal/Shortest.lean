/-
  ExprGraph.Decimal.Shortest

  The decimal with the fewest digits that reads back as a given binary number.

  The reals that round to `m * 2 ^ q` form an interval around it, which holds its ends exactly when
  `m` is even.  For one digit, two digits and so on, the multiples of a power of ten next to the
  number are its floor and the one above; the first grid on which one of the two lies in the interval
  gives the answer.  Of two such neighbours the nearer is taken, and of two equally near ones the
  greater.  All comparisons are exact, in natural numbers.
-/

import ExprGraph.Decimal.Binary

namespace ExprGraph

/-- The number `digits * 10 ^ exponent`. -/
structure Decimal where
  digits : Nat
  exponent : Int
deriving DecidableEq, Repr

namespace Decimal

/-! ## One grid -/

/-- A number and its rounding interval measured on the grid of multiples of a power of ten: a
    multiple `c` stands for `c * step`, the number for `4 * m * unit`. -/
structure OnGrid where
  step : Nat
  /-- A quarter of the distance to the neighbour above. -/
  unit : Nat

/-- The number as seen on the grid of multiples of `10 ^ exponent`. -/
def Binary.onGrid (x : Binary) (exponent : Int) : OnGrid where
  step := Nat.pow 10 exponent.toNat * Nat.pow 2 (2 - x.q).toNat
  unit := Nat.pow 2 (x.q - 2).toNat * Nat.pow 10 (-exponent).toNat

/-- Whether the multiple `c` of the grid lies in the interval of the reals that round to `x`. -/
def Binary.readsBack (x : Binary) (g : OnGrid) (c : Nat) : Bool :=
  let low := (4 * x.m - if x.narrowBelow then 1 else 2) * g.unit
  let high := (4 * x.m + 2) * g.unit
  let value := c * g.step
  if x.m % 2 = 0 then low ≤ value && value ≤ high else low < value && value < high

/-- The multiple of the grid next to `x` that reads back as `x`, if there is one. -/
def Binary.neighbour? (x : Binary) (g : OnGrid) : Option Nat :=
  let value := 4 * x.m * g.unit
  let below := value / g.step
  match x.readsBack g below, x.readsBack g (below + 1) with
  | true, true => some (if 2 * value < (2 * below + 1) * g.step then below else below + 1)
  | true, false => some below
  | false, true => some (below + 1)
  | false, false => none

/-! ## All grids -/

/-- The number of decimal digits of `n`, none for zero. -/
def digitCount (n : Nat) : Nat := if n = 0 then 0 else (Nat.toDigits 10 n).length

/-- The least `k` with `x < 10 ^ k`, for a number other than zero. -/
def Binary.scale (x : Binary) : Int :=
  let num := x.m * Nat.pow 2 x.q.toNat
  let den := Nat.pow 2 (-x.q).toNat
  if den ≤ num then digitCount (num / den) else 1 - (digitCount ((den - 1) / num) : Int)

/-- The least digit count up to which the search goes; so many digits always suffice. -/
def maxDigits : Nat := 17

/-- The multiple of `10 ^ (scale - n)` found for the least number of digits `n`. -/
def Binary.search? (x : Binary) (scale : Int) : Option Decimal :=
  (List.range maxDigits).findSome? fun i =>
    let exponent := scale - (i + 1 : Nat)
    (x.neighbour? (x.onGrid exponent)).map fun c => ⟨c, exponent⟩

/-- The exact decimal value of `m * 2 ^ q`. -/
def Binary.exact (x : Binary) : Decimal :=
  if 0 ≤ x.q then ⟨x.m * Nat.pow 2 x.q.toNat, 0⟩ else ⟨x.m * Nat.pow 5 (-x.q).toNat, x.q⟩

/-- The same number without zeros at the end of its digits; the fuel bounds their number. -/
def strip : Nat → Decimal → Decimal
  | 0, d => d
  | fuel + 1, d =>
    if d.digits ≠ 0 ∧ d.digits % 10 = 0 then strip fuel ⟨d.digits / 10, d.exponent + 1⟩ else d

/-- The shortest decimal that reads back as `x`, the number not being zero. -/
def Binary.shortest (x : Binary) : Decimal :=
  let d := (x.search? x.scale).getD x.exact
  d.strip (digitCount d.digits)

end Decimal

end ExprGraph
