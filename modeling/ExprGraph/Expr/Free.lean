/-
  ExprGraph.Expr.Free

  The names that a tree refers to without binding them.  A function binds the names of its
  parameters in its body, and not its own name.
-/

import Std.Data.TreeSet
import ExprGraph.Expr.Basic

namespace ExprGraph.Expr

mutual
/-- The names referred to in a tree and not bound in it. -/
def freeVariables : Expr → Std.TreeSet String
  | .const _ | .prim _ => ∅
  | .var v => {v.name}
  | .apply _ fn args => fn.freeVariables ∪ freeVariablesAll args
  | .lambda _ _ _ params body => params.foldl (fun free p => free.erase p.name) body.freeVariables

def freeVariablesAll : List Expr → Std.TreeSet String
  | [] => ∅
  | e :: es => e.freeVariables ∪ freeVariablesAll es
end

end ExprGraph.Expr
