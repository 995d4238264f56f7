/-
  ExprGraph.Namespace.Builtins

  The standard primitives: arithmetic on numbers of 64 bits, some functions of one or two numbers,
  and a clamp to the unit interval that generated code has to declare.  Integers wrap around.
-/

import ExprGraph.Namespace.Basic

namespace ExprGraph

structure Builtin where
  name : String
  function : NativeValue
  intrinsic : Intrinsic
  /-- Whether generated code has to declare the symbol. -/
  explicitSymbol : Bool

namespace Builtin

def unary (symbol : String) (f : Float → Float) : NativeValue :=
  ⟨.fn .host .float [.float], ⟨symbol, f⟩⟩

def binary (symbol : String) (f : Float → Float → Float) : NativeValue :=
  ⟨.fn .host .float [.float, .float], ⟨symbol, f⟩⟩

def binaryInt (symbol : String) (f : Int64 → Int64 → Int64) : NativeValue :=
  ⟨.fn .host .int [.int, .int], ⟨symbol, f⟩⟩

/-- The nearest number from 0 to 1; what is not a number stays so. -/
def clamp01 (x : Float) : Float := if x < 0 then 0 else if 1 < x then 1 else x

/-- The standard primitives, in the order in which they are defined.  Each of them has the name of
    the native function behind it. -/
def all : List Builtin :=
  [⟨"add2_f64", binary "add2_f64" (· + ·), .fpAdd, false⟩,
   ⟨"sub2_f64", binary "sub2_f64" (· - ·), .fpSub, false⟩,
   ⟨"mul2_f64", binary "mul2_f64" (· * ·), .fpMul, false⟩,
   ⟨"div2_f64", binary "div2_f64" (· / ·), .fpDiv, false⟩,
   ⟨"neg_f64", unary "neg_f64" (fun x => -x), .fpNeg, false⟩,
   ⟨"add2_i64", binaryInt "add2_i64" (· + ·), .intAdd, false⟩,
   ⟨"mul2_i64", binaryInt "mul2_i64" (· * ·), .intMul, false⟩,
   ⟨"sqrt", unary "sqrt" Float.sqrt, .fpSqrt, false⟩,
   ⟨"sin", unary "sin" Float.sin, .fpSin, false⟩,
   ⟨"cos", unary "cos" Float.cos, .fpCos, false⟩,
   ⟨"pow", binary "pow" Float.pow, .fpPow, false⟩,
   ⟨"clamp01", ⟨.fn .foreign .float [.float], ⟨"clamp01", clamp01⟩⟩, .none, true⟩]

/-- The names that the standard primitives take up, in the order of their slots. -/
def names : List String :=
  ["add2_f64", "sub2_f64", "mul2_f64", "div2_f64", "neg_f64", "add2_i64", "mul2_i64", "sqrt", "sin",
    "cos", "pow", "clamp01"]

/-- The primitive that a table entry describes. -/
def build (d : Builtin) : Except ConstructError Primitive :=
  (Primitive.build d.name d.function).map fun p =>
    { p with intrinsic := d.intrinsic, explicitSymbol := d.explicitSymbol }

end Builtin

namespace Namespace

/-- Defines standard primitives one after the other, up to the first that cannot be defined. -/
def defineBuiltins (ns : Namespace) : List Builtin → Outcome Namespace ResolveError Unit
  | [] => .pure () ns
  | d :: ds => (ns.definePrimitive d.build).andThen fun _ ns => ns.defineBuiltins ds

/-- Defines all standard primitives; those defined before a failure stay defined. -/
def registerBuiltins (ns : Namespace) : Outcome Namespace ResolveError Unit :=
  ns.defineBuiltins Builtin.all

end Namespace

end ExprGraph
