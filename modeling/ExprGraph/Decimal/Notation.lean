/-
  ExprGraph.Decimal.Notation

  The text of floating-point numbers: the shortest digits that read back, positionally from 0.0001
  up to below 10^16 with at least one digit on either side of the point, otherwise as a leading
  digit, the other digits after a point if there are any, and the power of ten after an `e`.
-/

import ExprGraph.Decimal.Shortest

namespace ExprGraph.Decimal

/-- The least exponent of the leading digit of a number written positionally. -/
def plainFrom : Int := -4

/-- The least exponent of the leading digit from which on numbers are written with an exponent. -/
def plainBelow : Int := 16

def zeros (n : Nat) : List Char := List.replicate n '0'

/-- Digits around a point, the leading one with exponent `e`. -/
def positional (ds : List Char) (e : Int) : List Char :=
  if e < 0 then
    ['0', '.'] ++ zeros (-e - 1).toNat ++ ds
  else
    let whole := e.toNat + 1
    if ds.length ≤ whole then ds ++ zeros (whole - ds.length) ++ ['.', '0']
    else ds.take whole ++ '.' :: ds.drop whole

/-- A leading digit, the others after a point, and the exponent. -/
def scientific (ds : List Char) (e : Int) : List Char :=
  let fraction := match ds.drop 1 with
    | [] => []
    | rest => '.' :: rest
  ds.take 1 ++ fraction ++ 'e' :: (toString e).toList

def render (d : Decimal) : List Char :=
  let ds := Nat.toDigits 10 d.digits
  let e := d.exponent + ds.length - 1
  if plainFrom ≤ e ∧ e < plainBelow then positional ds e else scientific ds e

/-- The text of a number of any floating-point format. -/
def Datum.text : Datum → String
  | .nan => "NaN"
  | .infinity negative => if negative then "-inf" else "inf"
  | .finite negative x =>
    let magnitude := if x.m = 0 then ['0', '.', '0'] else x.shortest.render
    String.ofList (if negative then '-' :: magnitude else magnitude)

def floatText (x : Float) : String := (BinaryFormat.double.decode x.toBits.toNat).text

def float32Text (x : Float32) : String := (BinaryFormat.single.decode x.toBits.toNat).text

example : floatText 0.1 = "0.1" := by decide +kernel

example : floatText 1e16 = "1e16" := by decide +kernel

example : floatText 2.98023223876953125e-8 = "2.9802322387695313e-8" := by decide +kernel

end ExprGraph.Decimal
