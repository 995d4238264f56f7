/-
  ExprGraph.Expr.Traverse

  Walking a tree, each node before its children and the children from left to right.  A node that is
  used several times is met at each use.

  `visit` shows every node to a visitor with a state of its own and returns how many there were.
  `visitUntil` stops at the first node at which the visitor asks it to; `preorder` is the list of
  nodes that both go through.
-/

import ExprGraph.Expr.Basic

namespace ExprGraph.Expr

/-! ## The list of nodes -/

mutual
/-- The nodes of a tree, each before its children. -/
def preorder : Expr → List Expr
  | .const value => [.const value]
  | .prim p => [.prim p]
  | .var v => [.var v]
  | .apply type fn args => .apply type fn args :: (fn.preorder ++ preorderAll args)
  | .lambda name type signature params body =>
    .lambda name type signature params body :: (params.map .var ++ body.preorder)

def preorderAll : List Expr → List Expr
  | [] => []
  | e :: es => e.preorder ++ preorderAll es
end

/-! ## Visits -/

variable {σ : Type}

/-- Shows variables to a visitor, one after the other. -/
def visitParams (f : Expr → σ → σ) : List Variable → σ → σ × Nat
  | [], s => (s, 0)
  | v :: vs, s =>
    let (s, n) := visitParams f vs (f (.var v) s)
    (s, n + 1)

mutual
/-- Shows every node to a visitor; the result is its last state and the number of nodes. -/
def visit (f : Expr → σ → σ) : Expr → σ → σ × Nat
  | .const value, s => (f (.const value) s, 1)
  | .prim p, s => (f (.prim p) s, 1)
  | .var v, s => (f (.var v) s, 1)
  | .apply type fn args, s =>
    let (s, n) := visit f fn (f (.apply type fn args) s)
    let (s, m) := visitAll f args s
    (s, 1 + n + m)
  | .lambda name type signature params body, s =>
    let (s, n) := visitParams f params (f (.lambda name type signature params body) s)
    let (s, m) := visit f body s
    (s, 1 + n + m)

def visitAll (f : Expr → σ → σ) : List Expr → σ → σ × Nat
  | [], s => (s, 0)
  | e :: es, s =>
    let (s, n) := visit f e s
    let (s, m) := visitAll f es s
    (s, n + m)
end

/-- How a visit that may stop ended, with the number of nodes shown. -/
inductive Flow where
  /-- The visitor asked to stop at the last node shown. -/
  | stopped (count : Nat)
  | completed (count : Nat)
deriving DecidableEq, Repr

structure Visit (σ : Type) where
  state : σ
  /-- The number of nodes shown so far. -/
  count : Nat
  /-- Whether the visitor has asked to stop. -/
  stopped : Bool

/-- Shows one node to a visitor, unless it has asked to stop; the visitor answers whether to stop
    and with its next state. -/
def Visit.show (f : Expr → σ → Bool × σ) (e : Expr) (v : Visit σ) : Visit σ :=
  if v.stopped then v
  else
    let (stop, s) := f e v.state
    ⟨s, v.count + 1, stop⟩

mutual
/-- Goes on with a visit through a tree. -/
def visitFrom (f : Expr → σ → Bool × σ) : Expr → Visit σ → Visit σ
  | .const value, v => v.show f (.const value)
  | .prim p, v => v.show f (.prim p)
  | .var x, v => v.show f (.var x)
  | .apply type fn args, v =>
    let v := v.show f (.apply type fn args)
    if v.stopped then v else visitAllFrom f args (visitFrom f fn v)
  | .lambda name type signature params body, v =>
    let v := v.show f (.lambda name type signature params body)
    if v.stopped then v
    else visitFrom f body (params.foldl (fun v x => v.show f (.var x)) v)

def visitAllFrom (f : Expr → σ → Bool × σ) : List Expr → Visit σ → Visit σ
  | [], v => v
  | e :: es, v => if v.stopped then v else visitAllFrom f es (visitFrom f e v)
end

/-- Shows the nodes to a visitor up to the first at which it asks to stop. -/
def visitUntil (f : Expr → σ → Bool × σ) (e : Expr) (s : σ) : σ × Flow :=
  let v := visitFrom f e ⟨s, 0, false⟩
  (v.state, if v.stopped then .stopped v.count else .completed v.count)

end ExprGraph.Expr
