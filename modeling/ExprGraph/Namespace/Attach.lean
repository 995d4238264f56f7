/-
  ExprGraph.Namespace.Attach

  Attaching whole programs.  A single tree is attached under a name of its own, and a namespace
  attaches its functions in the order of their slots, each against all definitions, so that a
  function may refer to itself and to later ones.  Primitives have nothing to attach.
-/

import ExprGraph.Namespace.Basic
import ExprGraph.Expr.Structure

namespace ExprGraph

/-- What a tree is called when attaching it fails: its name if it has one, else its kind between
    angle brackets. -/
def Expr.definitionName (root : Expr) : String :=
  root.functionName?.getD ("<" ++ root.kind.name ++ ">")

/-- Attaches one complete tree. -/
def Expr.attachTree (root : Expr) (env : Env) (b : Bindings) : Outcome Bindings ResolveError Unit :=
  (Outcome.emit (.attachingTree root.kind) b).andThen fun _ b =>
    ((root.attach env b).mapError (.bind root.definitionName)).andThen fun _ b =>
      Outcome.emit .treeAttached b

namespace Namespace

/-- Attaches the functions among some definitions, in order. -/
def attachDefs (env : Env) : List Definition → Bindings → Outcome Bindings ResolveError Unit
  | [], b => .pure () b
  | d :: ds, b =>
    match d.node.kind with
    | .lambda =>
      ((d.node.attach env b).mapError (.bind d.name)).andThen fun _ b => attachDefs env ds b
    | _ => attachDefs env ds b

theorem attachDefs_cons_of_lambda {d : Definition} (h : d.node.kind = .lambda) (env : Env)
    (ds : List Definition) (b : Bindings) :
    attachDefs env (d :: ds) b =
      ((d.node.attach env b).mapError (.bind d.name)).andThen fun _ b => attachDefs env ds b := by
  rw [attachDefs, h]

/-- Definitions that are no functions are passed over. -/
theorem attachDefs_cons_of_ne {d : Definition} (h : d.node.kind ≠ .lambda) (env : Env)
    (ds : List Definition) (b : Bindings) : attachDefs env (d :: ds) b = attachDefs env ds b := by
  rw [attachDefs]
  split
  case h_1 hkind => exact absurd hkind h
  case h_2 => rfl

/-- Attaches every function of the namespace against the namespace. -/
def attachAll (ns : Namespace) (b : Bindings) : Outcome Bindings ResolveError Unit :=
  (Outcome.emit (.attachingGlobals ns.size) b).andThen fun _ b => attachDefs ns.env ns.defs b

/-- A constructor around entries, each a key and a value. -/
def structureText (address : NativeValue → String) (ns : Namespace) (b : Bindings) : String :=
  let entries := ns.defs.map fun d => Text.quote d.name ++ ": " ++ d.node.structureText address b
  Text.withFields "GlobalEnv" [("defs", "\x7b" ++ Text.commaSeparated entries ++ "\x7d")]

end Namespace

end ExprGraph
