/-
  ExprGraph.Native.Call

  Calling a native function that is known only by a tagged reference.  The arguments choose the
  native types under which the function may be recovered: without arguments an integer is returned,
  with one number a number, each under either calling convention; two numbers or two integers give
  another one under the convention of the host.
-/

import ExprGraph.Native.Reference

namespace ExprGraph.TaggedRef

/-- What a function of the given native type computes, if the reference leads to one. -/
def code? (r : TaggedRef) (convention : Convention) (ret : NativeTy) (args : List NativeTy) :
    Option (NativeTy.Curried args ret.Carrier) :=
  (r.recover? (.fn convention ret args)).map
    fun (f : NativeFunction (NativeTy.Curried args ret.Carrier)) => f.code

def nullary? (r : TaggedRef) : Option Int64 :=
  (r.code? .host .int []).or (r.code? .foreign .int [])

def unary? (r : TaggedRef) : Option (Float → Float) :=
  (r.code? .host .float [.float]).or (r.code? .foreign .float [.float])

def binary? (r : TaggedRef) : Option (Float → Float → Float) :=
  r.code? .host .float [.float, .float]

def binaryInt? (r : TaggedRef) : Option (Int64 → Int64 → Int64) :=
  r.code? .host .int [.int, .int]

/-- The value of the function that a reference leads to on some arguments, if the reference leads to
    a function that takes them. -/
def call? (r : TaggedRef) : List NativeValue → Option NativeValue
  | [] => r.nullary?.map fun n => ⟨.int, n⟩
  | [⟨.float, x⟩] => r.unary?.map fun f => ⟨.float, f x⟩
  | [⟨.float, x⟩, ⟨.float, y⟩] => r.binary?.map fun f => ⟨.float, f x y⟩
  | [⟨.int, m⟩, ⟨.int, n⟩] => r.binaryInt?.map fun f => ⟨.int, f m n⟩
  | _ => none

end ExprGraph.TaggedRef
