/-
  ExprGraph.Json.Basic

  JSON values.  A number written without fraction and exponent is an integer of any size; all
  others are kept apart from the integers, even when their value is a whole number.
-/

namespace ExprGraph

inductive Json where
  | null
  | bool (b : Bool)
  /-- A number written as an integer. -/
  | int (n : Int)
  /-- A number written with a fraction or an exponent. -/
  | real (x : Float)
  | str (s : String)
  | arr (items : List Json)
  | obj (fields : List (String × Json))
deriving Inhabited

namespace Json

/-- The value of the first field of that name of an object. -/
def field? : Json → String → Option Json
  | .obj fields, name => fields.lookup name
  | _, _ => none

def nat (n : Nat) : Json := .int (.ofNat n)

/-- The natural number below `bound` that an integer value stands for. -/
def natBelow? (bound : Nat) : Json → Option Nat
  | .int (.ofNat n) => if n < bound then some n else none
  | _ => none

theorem natBelow?_nat (bound n : Nat) :
    (nat n).natBelow? bound = if n < bound then some n else none := rfl

def word32? (j : Json) : Option UInt32 := (j.natBelow? UInt32.size).map UInt32.ofNat

def word64? (j : Json) : Option UInt64 := (j.natBelow? UInt64.size).map UInt64.ofNat

theorem word32?_nat_toNat (w : UInt32) : (nat w.toNat).word32? = some w := by
  simp [word32?, natBelow?_nat, UInt32.size, w.toNat_lt]

end Json

end ExprGraph
