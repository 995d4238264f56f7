/-
  ExprGraph.Binding.Env

  Environments answer names with binding paths.  Entering a scope puts its names in front of an
  environment: a name of the scope is found at its first position, without crossing a scope, and
  every other name where the outer environment has it, one scope further away.
-/

import ExprGraph.Binding.Path
import ExprGraph.Text.Quoted
import ExprGraph.Text.Structure

namespace ExprGraph

/-- What each name stands for at some point of a tree. -/
structure Env where
  /-- The path of a name, if the name is bound. -/
  lookup? : String → Option BindingPath

namespace Env

/-! ## Bases -/

def empty : Env := ⟨fun _ => none⟩

/-- The environment that answers from a table, in which the first entry for a name counts. -/
def ofList (table : List (String × BindingPath)) : Env := ⟨fun name => table.lookup name⟩

@[simp] theorem lookup?_empty (name : String) : empty.lookup? name = none := rfl

@[simp] theorem lookup?_ofList (table : List (String × BindingPath)) (name : String) :
    (ofList table).lookup? name = table.lookup name := rfl

/-! ## Scopes -/

/-- The environment inside a scope that binds `names` to the slots 0, 1, … -/
def enter (outer : Env) (names : List String) : Env where
  lookup? name :=
    match names.idxOf? name with
    | some slot => some (.lexical 0 (UInt32.ofNat slot))
    | none => (outer.lookup? name).map BindingPath.outward

/-- The environment inside nested scopes, given from the outermost to the innermost. -/
def enterAll (outer : Env) (scopes : List (List String)) : Env := scopes.foldl enter outer

@[simp] theorem enterAll_nil (outer : Env) : outer.enterAll [] = outer := rfl

@[simp] theorem enterAll_cons (outer : Env) (names : List String) (scopes : List (List String)) :
    outer.enterAll (names :: scopes) = (outer.enter names).enterAll scopes := rfl

theorem enterAll_append (outer : Env) (ss ts : List (List String)) :
    outer.enterAll (ss ++ ts) = (outer.enterAll ss).enterAll ts := by
  simp [enterAll]

theorem lookup?_enter (outer : Env) (names : List String) (name : String) :
    (outer.enter names).lookup? name =
      match names.idxOf? name with
      | some slot => some (.lexical 0 (UInt32.ofNat slot))
      | none => (outer.lookup? name).map BindingPath.outward := rfl

/-- The structure text of a scope, which leaves the outer environment out. -/
def scopeText (names : List String) : String :=
  Text.withSomeFields "LocalEnv" [("names", Text.listed (names.map Text.quote))]

end Env

end ExprGraph
