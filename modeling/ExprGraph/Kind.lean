/-
  ExprGraph.Kind

  The five kinds of expression nodes.  A primitive names a fixed native function, so it is a
  constant too; no other kind refines another.
-/

namespace ExprGraph

/-- The kind of an expression node. -/
inductive Kind where
  | constant
  /-- A native function under a name. -/
  | primitive
  | apply
  /-- A reference to a binding. -/
  | variable
  | lambda
deriving DecidableEq, Repr, Inhabited

namespace Kind

/-- All kinds, in the order of their indices. -/
def all : List Kind := [.constant, .primitive, .apply, .variable, .lambda]

def index : Kind → Nat
  | .constant => 0
  | .primitive => 1
  | .apply => 2
  | .variable => 3
  | .lambda => 4

def name : Kind → String
  | .constant => "constant"
  | .primitive => "primitive"
  | .apply => "apply"
  | .variable => "variable"
  | .lambda => "lambda"

/-- The capitalised name of a kind, by which it is stored. -/
def tag : Kind → String
  | .constant => "Constant"
  | .primitive => "Primitive"
  | .apply => "Apply"
  | .variable => "Variable"
  | .lambda => "Lambda"

def ofName? (s : String) : Option Kind := all.find? fun k => k.name == s

def ofTag? (s : String) : Option Kind := all.find? fun k => k.tag == s

/-- Whether every node of the first kind counts as a node of the second. -/
def refines (a b : Kind) : Bool := a == b || (a == .primitive && b == .constant)

theorem mem_all (k : Kind) : k ∈ all := by cases k <;> decide

theorem tag_injective {a b : Kind} (h : a.tag = b.tag) : a = b := by
  cases a <;> cases b <;> simp [tag] at h ⊢

theorem ofTag?_tag (k : Kind) : ofTag? k.tag = some k := by cases k <;> decide

end Kind

end ExprGraph
