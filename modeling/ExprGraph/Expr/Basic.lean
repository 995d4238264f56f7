/-
  ExprGraph.Expr.Basic

  Expression nodes: literal values, native functions under a name, calls, variables and named
  functions.  Calls and functions carry their type, and functions its short name too, fixed when they
  are built.
-/

import ExprGraph.Kind
import ExprGraph.Intrinsic
import ExprGraph.Native.Reference
import ExprGraph.Expr.Variable

namespace ExprGraph

/-- A native function under a name. -/
structure Primitive where
  name : String
  type : Ty
  result : Ty
  function : NativeValue
  /-- Whether generated code has to declare the symbol. -/
  explicitSymbol : Bool := false
  /-- The machine operation that the function stands for. -/
  intrinsic : Intrinsic := .none

/-- A node of an expression graph with everything below it. -/
inductive Expr where
  | const (value : NativeValue)
  | prim (p : Primitive)
  /-- The call of `fn` on `args`, of the given type. -/
  | apply (type : Ty) (fn : Expr) (args : List Expr)
  /-- A reference to a binding. -/
  | var (v : Variable)
  /-- The function `name` of the given type, with the short name of that type, its parameters and
      its body. -/
  | lambda (name : String) (type : Ty) (signature : String) (params : List Variable) (body : Expr)

namespace Expr

/-- Induction on trees, with one hypothesis for each argument of a call. -/
@[elab_as_elim, induction_eliminator] theorem induct {motive : Expr → Prop}
    (const : ∀ value, motive (.const value)) (prim : ∀ p, motive (.prim p))
    (apply : ∀ type fn args, motive fn → (∀ arg ∈ args, motive arg) → motive (.apply type fn args))
    (var : ∀ v, motive (.var v))
    (lambda : ∀ name type signature params body, motive body →
      motive (.lambda name type signature params body)) :
    ∀ e : Expr, motive e
  | .const value => const value
  | .prim p => prim p
  | .apply type fn args =>
    apply type fn args (induct const prim apply var lambda fn) fun arg _ =>
      induct const prim apply var lambda arg
  | .var v => var v
  | .lambda name type signature params body =>
    lambda name type signature params body (induct const prim apply var lambda body)

def kind : Expr → Kind
  | .const _ => .constant
  | .prim _ => .primitive
  | .apply _ _ _ => .apply
  | .var _ => .variable
  | .lambda _ _ _ _ _ => .lambda

/-- The type of the values that an expression produces. -/
def type : Expr → Ty
  | .const value => value.type.descr
  | .prim p => p.type
  | .apply type _ _ => type
  | .var v => v.type
  | .lambda _ type _ _ _ => type

/-- The nodes directly below a node, from left to right. -/
def children : Expr → List Expr
  | .const _ | .prim _ | .var _ => []
  | .apply _ fn args => fn :: args
  | .lambda _ _ _ params body => params.map .var ++ [body]

/-- The name of a function or primitive. -/
def functionName? : Expr → Option String
  | .prim p => some p.name
  | .lambda name _ _ _ _ => some name
  | _ => none

/-- What names a node in one word: its type for values and calls, its name for the rest. -/
def caption : Expr → String
  | .prim p => p.name
  | .var v => v.name
  | .lambda name _ _ _ _ => name
  | e => e.type.shortName

@[simp] theorem kind_const (v : NativeValue) : (const v).kind = .constant := rfl

@[simp] theorem kind_prim (p : Primitive) : (prim p).kind = .primitive := rfl

@[simp] theorem kind_apply (t : Ty) (f : Expr) (as : List Expr) : (apply t f as).kind = .apply := rfl

@[simp] theorem kind_var (v : Variable) : (var v).kind = .variable := rfl

@[simp] theorem kind_lambda (n : String) (t : Ty) (s : String) (ps : List Variable) (e : Expr) :
    (lambda n t s ps e).kind = .lambda := rfl

@[simp] theorem type_const (v : NativeValue) : (const v).type = v.type.descr := rfl

@[simp] theorem type_prim (p : Primitive) : (prim p).type = p.type := rfl

@[simp] theorem type_apply (t : Ty) (f : Expr) (as : List Expr) : (apply t f as).type = t := rfl

@[simp] theorem type_var (v : Variable) : (var v).type = v.type := rfl

@[simp] theorem type_lambda (n : String) (t : Ty) (s : String) (ps : List Variable) (e : Expr) :
    (lambda n t s ps e).type = t := rfl

end Expr

end ExprGraph
