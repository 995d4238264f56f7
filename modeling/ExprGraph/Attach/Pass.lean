/-
  ExprGraph.Attach.Pass

  Attaching a tree to an environment gives each of its variables the path of its name.  A function
  opens a scope with the names of its parameters and attaches the parameters, from left to right,
  and then its body inside that scope; a call attaches its operator and then its arguments.

  The first error ends the pass, and what was bound before it stays bound.  A variable keeps the
  path it was given first: meeting the same path again changes nothing, and another one is an error.
-/

import ExprGraph.Attach.Outcome
import ExprGraph.Binding.Env
import ExprGraph.Expr.Basic

namespace ExprGraph

/-- Why a variable cannot be given a path. -/
inductive BindError where
  /-- The environment has no such name. -/
  | unbound (name : String) (span : Option Span)
  /-- The variable has another path already. -/
  | rebound (name : String) (previous attempted : BindingPath) (span : Option Span)
deriving DecidableEq

namespace BindError

def name : BindError → String
  | .unbound name _ => name
  | .rebound name _ _ _ => name

def span : BindError → Option Span
  | .unbound _ span => span
  | .rebound _ _ _ span => span

def message : BindError → String
  | .unbound name _ => "unbound variable: " ++ name
  | .rebound name previous attempted _ =>
    "variable `" ++ name ++ "` is already bound to " ++ previous.text ++ ", cannot rebind to " ++
      attempted.text

end BindError

abbrev Attachment := Outcome Bindings BindError Unit

/-- Gives a variable the path of its name. -/
def Variable.attach (env : Env) (v : Variable) (b : Bindings) : Attachment :=
  match env.lookup? v.name with
  | none => .fail (.unbound v.name v.span) b
  | some path =>
    match b.path? v with
    | none => ⟨.ok (), b.bind v path, [.variableBound v.name path]⟩
    | some previous =>
      if previous = path then .pure () b else .fail (.rebound v.name previous path v.span) b

def attachParams (env : Env) : List Variable → Bindings → Attachment
  | [], b => .pure () b
  | v :: vs, b => (v.attach env b).andThen fun _ b => attachParams env vs b

namespace Expr

mutual
/-- Gives each variable of a tree the path of its name. -/
def attach (env : Env) : Expr → Bindings → Attachment
  | .const _, b => .pure () b
  | .prim _, b => .pure () b
  | .var v, b => v.attach env b
  | .apply _ fn args, b => (fn.attach env b).andThen fun _ b => attachAll env args b
  | .lambda name _ _ params body, b =>
    let inner := env.enter (params.map (·.name))
    (Outcome.emit (.enteringLambda name params.length) b).andThen fun _ b =>
      (attachParams inner params b).andThen fun _ b => body.attach inner b

/-- Gives each variable of several trees the path of its name, one tree after the other. -/
def attachAll (env : Env) : List Expr → Bindings → Attachment
  | [], b => .pure () b
  | e :: es, b => (e.attach env b).andThen fun _ b => attachAll env es b
end

end Expr

end ExprGraph
