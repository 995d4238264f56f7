/-
  ExprGraph.Native.Text

  The text of native values: `()` for the unit, decimals for integers, the shortest digits for
  floating-point numbers, quotes around texts, an address for a function, and the name of a record
  type with the texts of its fields.

  Addresses differ from run to run.  How one run writes them is a function `address` from native
  values to texts that everything with an address in its text takes first.
-/

import ExprGraph.Native.Value
import ExprGraph.Decimal.Notation
import ExprGraph.Text.Quoted
import ExprGraph.Text.Structure

namespace ExprGraph

namespace NativeTy

mutual
/-- The text of a value of a native type. -/
def textOf (address : NativeValue → String) : (t : NativeTy) → t.Carrier → String
  | .unit, _ => "()"
  | .bool, b => cond b "true" "false"
  | .int32, n => toString (Int32.toInt n)
  | .int, n => toString (Int64.toInt n)
  | .float32, x => Decimal.float32Text x
  | .float, x => Decimal.floatText x
  | .string, s => Text.quote s
  | .fn convention ret args, f => address ⟨.fn convention ret args, f⟩
  | .record name _ fields, r => Text.constructed name (fieldTexts address fields r)

def fieldTexts (address : NativeValue → String) : (ts : List NativeTy) → Record ts → List String
  | [], _ => []
  | t :: ts, (v, vs) => t.textOf address v :: fieldTexts address ts vs
end

end NativeTy

/-- The text of a native value. -/
def NativeValue.text (address : NativeValue → String) (v : NativeValue) : String :=
  v.type.textOf address v.value

end ExprGraph
