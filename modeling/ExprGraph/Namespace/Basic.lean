/-
  ExprGraph.Namespace.Basic

  The global namespace: functions and primitives under their own names, in the order in which they
  were defined.  The slot of a definition is its position, and no name is defined twice.
-/

import ExprGraph.Attach.Pass
import ExprGraph.Expr.Build

namespace ExprGraph

/-- Why something cannot be defined or attached. -/
inductive ResolveError where
  | duplicateDefinition (name : String) (previousSlot : UInt32)
  | notCallable (found : Kind)
  | bind (definition : String) (cause : BindError)
  | construct (cause : ConstructError)
deriving DecidableEq

def ResolveError.message : ResolveError → String
  | .duplicateDefinition name previousSlot =>
    "duplicate definition: " ++ name ++ " (previously defined in slot " ++
      toString previousSlot.toNat ++ ")"
  | .notCallable found =>
    "only lambdas and primitives can be defined globally, found " ++ found.name
  | .bind definition cause => "in `" ++ definition ++ "`: " ++ cause.message
  | .construct cause => cause.message

/-- A function or primitive under a name. -/
structure Definition where
  name : String
  node : Expr

/-- The global definitions, from slot 0 on. -/
structure Namespace where
  defs : List Definition

namespace Namespace

def empty : Namespace := ⟨[]⟩

def size (ns : Namespace) : Nat := ns.defs.length

def isEmpty (ns : Namespace) : Bool := ns.defs.isEmpty

/-- The position of the definition of a name. -/
def slotOf? (ns : Namespace) (name : String) : Option Nat :=
  ns.defs.findIdx? fun d => d.name == name

/-- The node that a name is defined as. -/
def lookup? (ns : Namespace) (name : String) : Option Expr :=
  (ns.defs.find? fun d => d.name == name).map (·.node)

def get? (ns : Namespace) (slot : UInt32) : Option Definition := ns.defs[slot.toNat]?

/-- The global path of a defined name. -/
def path? (ns : Namespace) (name : String) : Option BindingPath :=
  (ns.slotOf? name).map fun slot => .global (UInt32.ofNat slot)

def env (ns : Namespace) : Env := ⟨ns.path?⟩

/-- Defines a function or primitive under its own name and answers its slot. -/
def define (ns : Namespace) (node : Expr) : Outcome Namespace ResolveError UInt32 :=
  match node.functionName? with
  | none => .fail (.notCallable node.kind) ns
  | some name =>
    match ns.slotOf? name with
    | some previous => .fail (.duplicateDefinition name (UInt32.ofNat previous)) ns
    | none =>
      let slot := UInt32.ofNat ns.size
      ⟨.ok slot, ⟨ns.defs ++ [⟨name, node⟩]⟩, [.globalDefined node.kind name slot]⟩

/-- Builds a primitive, adjusts it and defines it. -/
def definePrimitive (ns : Namespace) (built : Except ConstructError Primitive) :
    Outcome Namespace ResolveError UInt32 :=
  match built with
  | .error cause => .fail (.construct cause) ns
  | .ok p => ns.define (.prim p)

end Namespace

end ExprGraph
