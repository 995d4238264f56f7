/-
  ExprGraph.Expr.Outline

  The outline of a tree: a line for each node, before the lines of its children, indented by its
  depth.  A line shows what the node is, for a bound variable also its path, and on demand its type.
-/

import ExprGraph.Expr.Capability

namespace ExprGraph.Expr

/-- How an outline is laid out. -/
structure OutlineStyle where
  /-- The number of blanks per level. -/
  indentWidth : Nat := 2
  /-- Whether each line ends in the type of the node. -/
  showTypes : Bool := true

/-- What a node is, in a few words. -/
def headline (address : NativeValue → String) (b : Bindings) : Expr → String
  | .const value => "const " ++ value.text address
  | .prim p => "primitive " ++ p.name
  | .apply _ _ _ => "apply"
  | .var v =>
    match b.path? v with
    | some path => "var " ++ v.name ++ " @ " ++ path.text
    | none => "var " ++ v.name
  | .lambda name _ _ _ _ => "lambda " ++ name

/-- The text of a node without its indentation. -/
def label (address : NativeValue → String) (style : OutlineStyle) (b : Bindings) (e : Expr) :
    String :=
  e.headline address b ++ if style.showTypes then " : " ++ e.type.shortName else ""

def line (address : NativeValue → String) (style : OutlineStyle) (b : Bindings) (depth : Nat)
    (e : Expr) : String :=
  String.ofList (List.replicate (depth * style.indentWidth) ' ') ++ e.label address style b ++ "\n"

def paramLines (address : NativeValue → String) (style : OutlineStyle) (b : Bindings) (depth : Nat)
    (params : List Variable) : String :=
  String.join (params.map fun v => (Expr.var v).line address style b depth)

mutual
/-- The outline of a tree whose root is at the given depth. -/
def outlineAt (address : NativeValue → String) (style : OutlineStyle) (b : Bindings) :
    Nat → Expr → String
  | depth, .const value => (Expr.const value).line address style b depth
  | depth, .prim p => (Expr.prim p).line address style b depth
  | depth, .var v => (Expr.var v).line address style b depth
  | depth, .apply type fn args =>
    (Expr.apply type fn args).line address style b depth ++
      outlineAt address style b (depth + 1) fn ++ outlineAllAt address style b (depth + 1) args
  | depth, .lambda name type signature params body =>
    (Expr.lambda name type signature params body).line address style b depth ++
      paramLines address style b (depth + 1) params ++ outlineAt address style b (depth + 1) body

def outlineAllAt (address : NativeValue → String) (style : OutlineStyle) (b : Bindings) :
    Nat → List Expr → String
  | _, [] => ""
  | depth, e :: es => outlineAt address style b depth e ++ outlineAllAt address style b depth es
end

def outline (address : NativeValue → String) (style : OutlineStyle) (b : Bindings) (e : Expr) :
    String :=
  e.outlineAt address style b 0

end ExprGraph.Expr
