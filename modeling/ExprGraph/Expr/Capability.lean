/-
  ExprGraph.Expr.Capability

  What a consumer can ask of a node.  A constant has a value, a function can be called, and a
  primitive is both; variables, functions and calls show their parts.  Asking a node for what its
  kind does not provide is an error that names both.
-/

import ExprGraph.Expr.Basic
import ExprGraph.Native.Text

namespace ExprGraph

/-- Something that a consumer can ask a node for. -/
inductive Capability where
  | constant
  | function
  | primitive
  | variable
  | lambda
  | apply
deriving DecidableEq, Repr

def Capability.name : Capability → String
  | .constant => "constant"
  | .function => "function"
  | .primitive => "primitive"
  | .variable => "variable"
  | .lambda => "lambda"
  | .apply => "apply"

/-- A node was asked for a capability that its kind does not provide. -/
structure CapabilityError where
  requested : Capability
  found : Kind
deriving DecidableEq, Repr

def CapabilityError.message (e : CapabilityError) : String :=
  e.found.name ++ " node does not provide the " ++ e.requested.name ++ " capability"

/-! ## Views -/

/-- A node with a fixed value. -/
structure ConstantView where
  type : Ty
  /-- The stored value under that type. -/
  value : TaggedRef
  /-- The value as it is displayed, for a way to write addresses. -/
  text : (NativeValue → String) → String

/-- A node that can be called. -/
structure FunctionView where
  name : String
  /-- The types of the arguments, in order. -/
  argTypes : List Ty
  result : Ty

def FunctionView.arity (f : FunctionView) : Nat := f.argTypes.length

def FunctionView.arg? (f : FunctionView) (i : Nat) : Option Ty := f.argTypes[i]?

structure LambdaView where
  name : String
  type : Ty
  signature : String
  params : List Variable
  body : Expr

structure ApplyView where
  type : Ty
  fn : Expr
  args : List Expr

namespace Primitive

/-- A primitive shows the address of its function, and refers to the cell that holds it. -/
def constantView (p : Primitive) : ConstantView :=
  ⟨p.type, ⟨p.type, p.function⟩, fun address => address p.function⟩

/-- A primitive is called with the arguments of its type. -/
def functionView (p : Primitive) : FunctionView := ⟨p.name, p.type.args, p.result⟩

/-- The address of a primitive is that of its function. -/
def functionAddress (_ : Primitive) : Address := .entry

end Primitive

namespace Expr

def lacks (e : Expr) (requested : Capability) : CapabilityError := ⟨requested, e.kind⟩

/-- The node as a constant, which primitives are too. -/
def asConstant : Expr → Except CapabilityError ConstantView
  | .const value =>
    .ok ⟨value.type.descr, ⟨value.type.descr, value⟩, fun address => value.text address⟩
  | .prim p => .ok p.constantView
  | e => .error (e.lacks .constant)

/-- The node as something to call: a function definition or a primitive. -/
def asFunction : Expr → Except CapabilityError FunctionView
  | .lambda name _ _ params body => .ok ⟨name, params.map (·.type), body.type⟩
  | .prim p => .ok p.functionView
  | e => .error (e.lacks .function)

def asPrimitive : Expr → Except CapabilityError Primitive
  | .prim p => .ok p
  | e => .error (e.lacks .primitive)

def asVariable : Expr → Except CapabilityError Variable
  | .var v => .ok v
  | e => .error (e.lacks .variable)

def asLambda : Expr → Except CapabilityError LambdaView
  | .lambda name type signature params body => .ok ⟨name, type, signature, params, body⟩
  | e => .error (e.lacks .lambda)

def asApply : Expr → Except CapabilityError ApplyView
  | .apply type fn args => .ok ⟨type, fn, args⟩
  | e => .error (e.lacks .apply)

end Expr

end ExprGraph
