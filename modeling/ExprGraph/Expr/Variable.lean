/-
  ExprGraph.Expr.Variable

  Variable nodes and the binding paths given to them.  A node is told apart by its number, so two
  references with the same name are two nodes, and a node used twice in a tree is one.

  The binding path is no part of the node: `Bindings` gives each node its path, and a node without
  one is unbound.
-/

import ExprGraph.Ty.Basic
import ExprGraph.Span
import ExprGraph.Binding.Path

namespace ExprGraph

/-- A reference to a named binding. -/
structure Variable where
  id : Nat
  name : String
  type : Ty
  /-- Where the reference was read. -/
  span : Option Span
deriving DecidableEq

/-- The binding path of each variable node that has one. -/
def Bindings : Type := Variable → Option BindingPath

namespace Bindings

def path? (b : Bindings) (v : Variable) : Option BindingPath := b v

def empty : Bindings := fun _ => none

/-- The bindings in which `v` has the path `p` and all other nodes are as before. -/
def bind (b : Bindings) (v : Variable) (p : BindingPath) : Bindings :=
  fun w => if w = v then some p else b w

@[ext] theorem ext {b c : Bindings} (h : ∀ v, b.path? v = c.path? v) : b = c := funext h

@[simp] theorem path?_empty (v : Variable) : empty.path? v = none := rfl

@[simp] theorem path?_bind_self (b : Bindings) (v : Variable) (p : BindingPath) :
    (b.bind v p).path? v = some p := by
  simp [path?, bind]

theorem path?_bind_of_ne (b : Bindings) {v w : Variable} (p : BindingPath) (h : w ≠ v) :
    (b.bind v p).path? w = b.path? w := by
  simp [path?, bind, h]

end Bindings

end ExprGraph
