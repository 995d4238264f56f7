/-
  ExprGraph.Expr.Build

  Building nodes.  Each builder checks its parts in a fixed order and reports the first fault, so
  what it returns is well typed.

  A primitive needs a name, a function type whose arguments are those of the native type, a result,
  and finally agreement in everything else.  A function needs a name and then, from left to right,
  parameters that are variables with new names.  A call needs an operator of function type with a
  result, as many arguments as the operator takes, and the right type for each.
-/

import ExprGraph.Expr.Basic

namespace ExprGraph

/-- Why a node cannot be built. -/
inductive ConstructError where
  | emptyName (kind : Kind)
  | notAFunction (name : String) (found : Ty)
  | missingReturnType (name : String) (found : Ty)
  /-- The description `found` is not that of the native type, which is `expected`. -/
  | descriptorMismatch (name : String) (expected found : Ty)
  | parameterNotVariable (lambda : String) (index : Nat) (found : Kind)
  | duplicateParameter (lambda param : String)
  | operatorNotCallable (found : Ty)
  | arityMismatch (expected found : Nat)
  | argTypeMismatch (index : Nat) (expected found : Ty)
deriving DecidableEq

def ConstructError.message : ConstructError → String
  | .emptyName kind => kind.name ++ " node requires a non-empty name"
  | .notAFunction name found =>
    "primitive `" ++ name ++ "`: expected function type, found " ++ found.shortName
  | .missingReturnType name found =>
    "`" ++ name ++ "`: function type " ++ found.shortName ++ " has no return type"
  | .descriptorMismatch name expected found =>
    "primitive `" ++ name ++ "`: descriptor " ++ found.shortName ++
      " does not describe native type " ++ expected.shortName
  | .parameterNotVariable lambda index found =>
    "lambda `" ++ lambda ++ "`: parameter " ++ toString index ++ " is a " ++ found.name ++
      " node, expected variable"
  | .duplicateParameter lambda param =>
    "lambda `" ++ lambda ++ "`: duplicate parameter `" ++ param ++ "`"
  | .operatorNotCallable found => "apply: operator of type " ++ found.shortName ++ " is not callable"
  | .arityMismatch expected found =>
    "apply: operator expects " ++ toString expected ++ " argument(s), found " ++ toString found
  | .argTypeMismatch index expected found =>
    "apply: argument " ++ toString index ++ " has type " ++ found.shortName ++ ", expected " ++
      expected.shortName

/-! ## Leaves -/

/-- The variable node number `id`. -/
def Variable.build (id : Nat) (name : String) (type : Ty) (span : Option Span) :
    Except ConstructError Variable :=
  if name = "" then .error (.emptyName .variable) else .ok ⟨id, name, type, span⟩

/-- The primitive `name` for a native function that `type` is said to describe. -/
def Primitive.buildAs (name : String) (function : NativeValue) (type : Ty) :
    Except ConstructError Primitive :=
  let native := function.type.descr
  if name = "" then .error (.emptyName .primitive)
  else if type.isFunction = false then .error (.notAFunction name type)
  else if type.args ≠ native.args then .error (.descriptorMismatch name native type)
  else
    match type.result? with
    | none => .error (.missingReturnType name type)
    | some result =>
      if type ≠ native then .error (.descriptorMismatch name native type)
      else .ok { name, type, result, function }

/-- The primitive `name` for a native function, described as its native type is. -/
def Primitive.build (name : String) (function : NativeValue) : Except ConstructError Primitive :=
  Primitive.buildAs name function function.type.descr

namespace Expr

/-! ## Functions -/

/-- The variables behind parameter nodes; `seen` holds the names of the parameters before them and
    `index` their number. -/
def parameters (lambda : String) : List String → Nat → List Expr →
    Except ConstructError (List Variable)
  | _, _, [] => .ok []
  | seen, index, e :: rest =>
    match e with
    | .var v =>
      if v.name ∈ seen then .error (.duplicateParameter lambda v.name)
      else
        match parameters lambda (v.name :: seen) (index + 1) rest with
        | .ok vs => .ok (v :: vs)
        | .error fault => .error fault
    | e => .error (.parameterNotVariable lambda index e.kind)

/-- The type of the function with the given parameters and body. -/
def lambdaType (params : List Variable) (body : Expr) : Ty :=
  .fn (some body.type) (params.map (·.type))

/-- The function `name` with parameter nodes and a body. -/
def mkLambda (name : String) (params : List Expr) (body : Expr) : Except ConstructError Expr :=
  if name = "" then .error (.emptyName .lambda)
  else
    match parameters name [] 0 params with
    | .ok vs =>
      let type := lambdaType vs body
      .ok (.lambda name type type.shortName vs body)
    | .error fault => .error fault

/-! ## Calls -/

/-- What an operator is called in messages: its name if it has one, else its kind. -/
def operatorName (e : Expr) : String := e.functionName?.getD e.kind.name

/-- The first position, counted from `index`, at which two lists of types differ, with the types
    there; the lists are compared as far as both go. -/
def firstMismatch? : Nat → List Ty → List Ty → Option (Nat × Ty × Ty)
  | index, t :: ts, u :: us =>
    if t = u then firstMismatch? (index + 1) ts us else some (index, t, u)
  | _, _, _ => none

/-- The call of an operator on arguments. -/
def mkApply (fn : Expr) (args : List Expr) : Except ConstructError Expr :=
  if fn.type.isFunction = false then .error (.operatorNotCallable fn.type)
  else
    match fn.type.result? with
    | none => .error (.missingReturnType fn.operatorName fn.type)
    | some result =>
      if fn.type.args.length ≠ args.length then
        .error (.arityMismatch fn.type.args.length args.length)
      else
        match firstMismatch? 0 fn.type.args (args.map type) with
        | some (index, expected, found) => .error (.argTypeMismatch index expected found)
        | none => .ok (.apply result fn args)

end Expr

end ExprGraph
