/-
  ExprGraph.Native.Value

  Native values that carry their native type.
-/

import ExprGraph.Native.Basic

namespace ExprGraph

/-- A native value with its type. -/
structure NativeValue where
  type : NativeTy
  value : type.Carrier

namespace NativeValue

/-- The value, if it has the native type `t`. -/
def as? (v : NativeValue) (t : NativeTy) : Option t.Carrier :=
  if h : v.type = t then some (h ▸ v.value) else none

theorem as?_self (v : NativeValue) : v.as? v.type = some v.value := by simp [as?]

theorem as?_eq_none_iff {v : NativeValue} {t : NativeTy} : v.as? t = none ↔ v.type ≠ t := by
  simp [as?]

end NativeValue

end ExprGraph
