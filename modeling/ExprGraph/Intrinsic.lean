/-
  ExprGraph.Intrinsic

  Hints for code generation: which machine operation, if any, a primitive stands for.
-/

namespace ExprGraph

/-- The machine operation that a primitive stands for. -/
inductive Intrinsic where
  /-- No machine operation: a call to compiled code. -/
  | none
  | fpAdd
  | fpSub
  | fpMul
  | fpDiv
  | fpNeg
  | fpSqrt
  | fpSin
  | fpCos
  | fpPow
  | intAdd
  | intSub
  | intMul
  | intSDiv
  | intNeg
deriving DecidableEq, Repr

namespace Intrinsic

instance : Inhabited Intrinsic := ⟨.none⟩

def all : List Intrinsic :=
  [.none, .fpAdd, .fpSub, .fpMul, .fpDiv, .fpNeg, .fpSqrt, .fpSin, .fpCos, .fpPow,
   .intAdd, .intSub, .intMul, .intSDiv, .intNeg]

def name : Intrinsic → String
  | .none => "none"
  | .fpAdd => "fp_add"
  | .fpSub => "fp_sub"
  | .fpMul => "fp_mul"
  | .fpDiv => "fp_div"
  | .fpNeg => "fp_neg"
  | .fpSqrt => "fp_sqrt"
  | .fpSin => "fp_sin"
  | .fpCos => "fp_cos"
  | .fpPow => "fp_pow"
  | .intAdd => "int_add"
  | .intSub => "int_sub"
  | .intMul => "int_mul"
  | .intSDiv => "int_sdiv"
  | .intNeg => "int_neg"

/-- The capitalised name of a hint, by which it is stored. -/
def tag : Intrinsic → String
  | .none => "None"
  | .fpAdd => "FpAdd"
  | .fpSub => "FpSub"
  | .fpMul => "FpMul"
  | .fpDiv => "FpDiv"
  | .fpNeg => "FpNeg"
  | .fpSqrt => "FpSqrt"
  | .fpSin => "FpSin"
  | .fpCos => "FpCos"
  | .fpPow => "FpPow"
  | .intAdd => "IntAdd"
  | .intSub => "IntSub"
  | .intMul => "IntMul"
  | .intSDiv => "IntSDiv"
  | .intNeg => "IntNeg"

def ofName? (s : String) : Option Intrinsic := all.find? fun i => i.name == s

def ofTag? (s : String) : Option Intrinsic := all.find? fun i => i.tag == s

def isBuiltin (i : Intrinsic) : Bool := i != .none

/-- Whether the hint is the one a primitive has unless told otherwise. -/
def isDefault (i : Intrinsic) : Bool := i == default

theorem mem_all (i : Intrinsic) : i ∈ all := by cases i <;> decide

theorem name_injective {i j : Intrinsic} (h : i.name = j.name) : i = j := by
  have hall : ∀ i ∈ all, ∀ j ∈ all, i.name = j.name → i = j := by decide
  exact hall i i.mem_all j j.mem_all h

theorem ofTag?_tag (i : Intrinsic) : ofTag? i.tag = some i := by cases i <;> decide

end Intrinsic

end ExprGraph
