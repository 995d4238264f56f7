/-
  ExprGraph.Native.Reference

  Tagged references claim a type for a native value that they do not own.

  A reference gives the value back only as the native type that the value has, and only if the
  claimed type describes it.  A wrong claim can therefore lose a value but never change its type.
-/

import ExprGraph.Native.Value
import ExprGraph.Ty.Text

namespace ExprGraph

/-- What an address leads to. -/
inductive Address where
  /-- The first instruction of a native function. -/
  | entry
  /-- The cell in which a node keeps its value. -/
  | storage
deriving DecidableEq, Repr

/-- A reference to a native value under a claimed type. -/
structure TaggedRef where
  /-- The type that the value is claimed to have. -/
  claimed : Ty
  target : NativeValue

namespace TaggedRef

/-- The value, if it has the native type `t` and the claim describes `t`. -/
def recover? (r : TaggedRef) (t : NativeTy) : Option t.Carrier :=
  if r.claimed = t.descr then r.target.as? t else none

/-- A reference leads to the cell, also when the cell holds a function. -/
def address (_ : TaggedRef) : Address := .storage

/-- The structure text of a reference to a cell whose address is written as `slot`. -/
def structureText (slot : String) (r : TaggedRef) : String :=
  Text.wrapped "TaggedRef" (r.claimed.shortName ++ " @ " ++ slot)

end TaggedRef

end ExprGraph
