/-
  ExprGraph.Expr.Structure

  The structure text of a tree: every constructor by name with its fields, on one line.
-/

import ExprGraph.Expr.Capability

namespace ExprGraph

def BindingPath.structureText : BindingPath → String
  | .lexical link slot =>
    Text.withFields "Local" [("link", toString link.toNat), ("slot", toString slot.toNat)]
  | .global slot => Text.withFields "Global" [("slot", toString slot.toNat)]

def Span.structureText (s : Span) : String :=
  Text.withFields "Span" [("start", toString s.start.toNat), ("end", toString s.stop.toNat)]

def NativeValue.constantText (address : NativeValue → String) (v : NativeValue) : String :=
  Text.withFields "Constant" [("value_td", v.type.descr.descrText), ("value", v.text address)]

def Primitive.structureText (address : NativeValue → String) (p : Primitive) : String :=
  Text.withFields "Primitive"
    [("name", Text.quote p.name), ("value_td", p.type.descrText),
     ("value", address p.function),
     ("explicit_symbol_def", if p.explicitSymbol then "true" else "false"),
     ("intrinsic", p.intrinsic.tag)]

/-- The structure text of the cell that holds a variable's path. -/
def Bindings.cellText (b : Bindings) (v : Variable) : String :=
  Text.wrapped "OnceLock" ((b.path? v).elim "<uninit>" BindingPath.structureText)

def Variable.structureText (b : Bindings) (v : Variable) : String :=
  Text.withFields "Variable"
    [("name", Text.quote v.name), ("value_type", v.type.descrText),
     ("span", Text.optional (v.span.map Span.structureText)), ("path", b.cellText v)]

namespace Expr

mutual
/-- The structure text of a tree. -/
def structureText (address : NativeValue → String) (b : Bindings) : Expr → String
  | .const value => Text.wrapped "Constant" (value.constantText address)
  | .prim p => Text.wrapped "Primitive" (p.structureText address)
  | .var v => Text.wrapped "Variable" (v.structureText b)
  | .apply type fn args =>
    Text.wrapped "Apply"
      (Text.withFields "Apply"
        [("value_type", type.descrText), ("fn_expr", fn.structureText address b),
         ("args", Text.listed (structureTexts address b args))])
  | .lambda name type signature params body =>
    Text.wrapped "Lambda"
      (Text.withFields "Lambda"
        [("name", Text.quote name), ("fn_type", type.descrText),
         ("type_str", Text.quote signature),
         ("params", Text.listed (params.map fun v => Text.wrapped "Variable" (v.structureText b))),
         ("body", body.structureText address b)])

def structureTexts (address : NativeValue → String) (b : Bindings) : List Expr → List String
  | [] => []
  | e :: es => e.structureText address b :: structureTexts address b es
end

end Expr

end ExprGraph
