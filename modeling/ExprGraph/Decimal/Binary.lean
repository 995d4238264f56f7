/-
  ExprGraph.Decimal.Binary

  Binary floating-point numbers read from their bits.  A format says how many bits hold the fraction
  and how many the exponent; what the bits of a finite number denote is `m * 2 ^ q`, exactly.

  Between two powers of two the numbers of a format are equally far apart.  At a power of two the
  neighbour below is half as far away as the neighbour above, and the number is marked as such.
-/

namespace ExprGraph.Decimal

/-- The layout of a binary floating-point format. -/
structure BinaryFormat where
  fractionBits : Nat
  exponentBits : Nat

def BinaryFormat.double : BinaryFormat := ⟨52, 11⟩

def BinaryFormat.single : BinaryFormat := ⟨23, 8⟩

/-- The magnitude of a finite number, `m * 2 ^ q`. -/
structure Binary where
  m : Nat
  q : Int
  /-- Whether the neighbour below is half as far away as the neighbour above. -/
  narrowBelow : Bool
deriving DecidableEq, Repr

/-- What the bits of a floating-point number denote. -/
inductive Datum where
  | nan
  | infinity (negative : Bool)
  | finite (negative : Bool) (magnitude : Binary)
deriving DecidableEq, Repr

/-- The number that the bits denote in the given format. -/
def BinaryFormat.decode (f : BinaryFormat) (bits : Nat) : Datum :=
  let fractions := Nat.pow 2 f.fractionBits
  let exponents := Nat.pow 2 f.exponentBits
  let fraction := bits % fractions
  let exponent := bits / fractions % exponents
  let negative := bits / fractions / exponents % 2 == 1
  -- The exponent of the last fraction bit is counted from this offset.
  let offset : Int := (Nat.pow 2 (f.exponentBits - 1) : Int) - 1 + f.fractionBits
  if exponent = exponents - 1 then
    if fraction = 0 then .infinity negative else .nan
  else if exponent = 0 then
    .finite negative ⟨fraction, 1 - offset, false⟩
  else
    .finite negative
      ⟨fractions + fraction, (exponent : Int) - offset, fraction == 0 && exponent > 1⟩

example : BinaryFormat.double.decode 0x3FF8000000000000 =
    .finite false ⟨0x18000000000000, -52, false⟩ := by decide

example : BinaryFormat.single.decode 0xBF800000 = .finite true ⟨0x800000, -23, true⟩ := by decide

end ExprGraph.Decimal
