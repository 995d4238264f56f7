/-
  ExprGraph.Attach.Event

  What attaching and defining report while they run.  An event has a level, a message and fields
  sorted by their keys.
-/

import ExprGraph.Kind
import ExprGraph.Binding.Path

namespace ExprGraph

/-- A report of one step. -/
inductive Event where
  /-- A function with `arity` parameters starts attaching. -/
  | enteringLambda (name : String) (arity : Nat)
  | variableBound (name : String) (path : BindingPath)
  /-- A function was defined in the global namespace. -/
  | globalDefined (kind : Kind) (name : String) (slot : UInt32)
  /-- The definitions of a namespace start attaching. -/
  | attachingGlobals (count : Nat)
  | attachingTree (kind : Kind)
  | treeAttached
deriving DecidableEq, Repr

namespace Event

def level : Event → String
  | .variableBound _ _ => "TRACE"
  | _ => "DEBUG"

/-- The text of an event without its fields. -/
def message : Event → String
  | .enteringLambda _ _ => "attaching lambda scope"
  | .variableBound _ _ => "variable bound"
  | .globalDefined _ _ _ => "global defined"
  | .attachingGlobals _ => "attaching globals"
  | .attachingTree _ => "attaching tree"
  | .treeAttached => "tree attached"

/-- The fields of an event as keys and values, sorted by key. -/
def fields : Event → List (String × String)
  | .enteringLambda name arity => [("lambda", name), ("n_arg", toString arity)]
  | .variableBound name path => [("name", name), ("path", path.text)]
  | .globalDefined kind name slot =>
    [("kind", kind.name), ("name", name), ("slot", toString slot.toNat)]
  | .attachingGlobals count => [("n_def", toString count)]
  | .attachingTree kind => [("kind", kind.name)]
  | .treeAttached => []

end Event

end ExprGraph
