/-
  ExprGraph.Proofs.Expr.Context

  A tree around a place.

  A `Context` is a tree with a place in it left open, and `Context.fill` puts an expression there.
  The nodes of a tree that are no variables are those that some context fills to the tree
  (`Context.mem_preorder_iff_exists_fill`), so what holds for every context holds at every such
  node.  What two expressions have in common is carried over to the trees around them: being
  constructible with one type, the types of their nodes, and every relation between their
  occurrences that more functions around both do not disturb.
-/

import Mathlib.Data.List.Forall2
import ExprGraph.Proofs.Expr.Typing

namespace ExprGraph

/-- A tree with a place in it left open. -/
inductive Context where
  | hole
  /-- The place is in the operator of a call. -/
  | operator (type : Ty) (c : Context) (args : List Expr)
  /-- The place is in an argument of a call, between the others. -/
  | argument (type : Ty) (fn : Expr) (before : List Expr) (c : Context) (after : List Expr)
  /-- The place is in the body of a function. -/
  | body (name : String) (type : Ty) (signature : String) (params : List Variable) (c : Context)

namespace Context

/-- The tree with an expression in the place. -/
def fill : Context → Expr → Expr
  | .hole, e => e
  | .operator type c args, e => .apply type (c.fill e) args
  | .argument type fn before c after, e => .apply type fn (before ++ c.fill e :: after)
  | .body name type signature params c, e => .lambda name type signature params (c.fill e)

/-- The nodes of a tree, but for its variables, are what contexts that give the tree are filled
    with. -/
theorem mem_preorder_iff_exists_fill {n e : Expr} (h : n.kind ≠ .variable) :
    n ∈ e.preorder ↔ ∃ c : Context, c.fill n = e := by
  constructor
  · intro hn
    induction e with
    | const value => exact ⟨.hole, List.mem_singleton.mp hn⟩
    | prim p => exact ⟨.hole, List.mem_singleton.mp hn⟩
    | var v => exact ⟨.hole, List.mem_singleton.mp hn⟩
    | apply type fn args ihFn ihArgs =>
      rcases Expr.mem_preorder_apply.mp hn with hroot | hn | ⟨arg, harg, hn⟩
      · exact ⟨.hole, hroot⟩
      · obtain ⟨c, rfl⟩ := ihFn hn
        exact ⟨.operator type c args, rfl⟩
      · obtain ⟨c, rfl⟩ := ihArgs arg harg hn
        obtain ⟨before, after, rfl⟩ := List.append_of_mem harg
        exact ⟨.argument type fn before c after, rfl⟩
    | lambda name type signature params body ih =>
      rcases Expr.mem_preorder_lambda.mp hn with hroot | hn | hn
      · exact ⟨.hole, hroot⟩
      · obtain ⟨p, -, rfl⟩ := List.mem_map.mp hn
        exact absurd rfl h
      · obtain ⟨c, rfl⟩ := ih hn
        exact ⟨.body name type signature params c, rfl⟩
  · rintro ⟨c, rfl⟩
    induction c with
    | hole => exact n.mem_preorder_self
    | operator type c args ih => exact Expr.mem_preorder_apply.mpr (.inr (.inl ih))
    | argument type fn before c after ih =>
      have harg : c.fill n ∈ before ++ c.fill n :: after := by simp
      exact Expr.mem_preorder_apply.mpr (.inr (.inr ⟨c.fill n, harg, ih⟩))
    | body name type signature params c ih =>
      exact Expr.mem_preorder_lambda.mpr (.inr (.inr ih))

/-! ## Two expressions in one place -/

variable {e e' : Expr}

theorem type_fill (c : Context) (h : e'.type = e.type) : (c.fill e').type = (c.fill e).type := by
  cases c with
  | hole => exact h
  | operator type c args => rfl
  | argument type fn before c after => rfl
  | body name type signature params c => rfl

theorem map_type_preorder_fill (c : Context)
    (h : e'.preorder.map Expr.type = e.preorder.map Expr.type) :
    (c.fill e').preorder.map Expr.type = (c.fill e).preorder.map Expr.type := by
  induction c with
  | hole => exact h
  | operator type c args ih => simp [fill, Expr.preorder, ih]
  | argument type fn before c after ih =>
    simp [fill, Expr.preorder, Expr.preorderAll_eq_flatMap, ih]
  | body name type signature params c ih => simp [fill, Expr.preorder, ih]

/-- In the place of a constructible expression, another one of its type will do as well. -/
theorem constructible_fill {c : Context} (h : Constructible (c.fill e)) (he' : Constructible e')
    (htype : e'.type = e.type) : Constructible (c.fill e') := by
  induction c with
  | hole => exact he'
  | operator type c args ih =>
    obtain ⟨hfn, hargs, hcall⟩ := Constructible.apply_iff.mp h
    refine Constructible.apply_iff.mpr ⟨ih hfn, hargs, ?_⟩
    exact (c.type_fill htype).trans hcall
  | argument type fn before c after ih =>
    obtain ⟨hfn, hargs, hcall⟩ := Constructible.apply_iff.mp h
    have hbefore : ∀ arg ∈ before, Constructible arg := fun arg harg => hargs arg (by simp [harg])
    have hafter : ∀ arg ∈ after, Constructible arg := fun arg harg => hargs arg (by simp [harg])
    have hplace : Constructible (c.fill e') := ih (hargs (c.fill e) (by simp))
    refine Constructible.apply_iff.mpr ⟨hfn, ?_, ?_⟩
    · intro arg harg
      rcases List.mem_append.mp harg with harg | harg
      · exact hbefore arg harg
      · rcases List.mem_cons.mp harg with rfl | harg
        · exact hplace
        · exact hafter arg harg
    · have htypes : (before ++ c.fill e' :: after).map Expr.type =
          (before ++ c.fill e :: after).map Expr.type := by
        simp [c.type_fill htype]
      exact hcall.trans (by rw [htypes])
  | body name type signature params c ih =>
    obtain ⟨hparams, hbody, hname, hnodup, htypes, hsignature⟩ := Constructible.lambda_iff.mp h
    refine Constructible.lambda_iff.mpr ⟨hparams, ih hbody, hname, hnodup, ?_, hsignature⟩
    rw [c.type_fill htype]
    exact htypes

/-- A relation between occurrences that more functions around them do not disturb holds all over
    two trees that differ in one place, if it holds there. -/
theorem forall₂_occurrences_fill {related : Occurrence → Occurrence → Prop}
    (hrefl : ∀ o, related o o)
    (hwithin : ∀ params o o', related o o' → related (o.within params) (o'.within params))
    (c : Context) (h : List.Forall₂ related e.occurrences e'.occurrences) :
    List.Forall₂ related (c.fill e).occurrences (c.fill e').occurrences := by
  have hsame : ∀ os : List Occurrence, List.Forall₂ related os os :=
    fun os => List.forall₂_same.mpr fun o _ => hrefl o
  induction c with
  | hole => exact h
  | operator type c args ih =>
    rw [fill, fill, Expr.occurrences_apply, Expr.occurrences_apply]
    exact List.rel_append ih (hsame _)
  | argument type fn before c after ih =>
    rw [fill, fill, Expr.occurrences_apply, Expr.occurrences_apply, List.flatMap_append,
      List.flatMap_append, List.flatMap_cons, List.flatMap_cons]
    exact List.rel_append (hsame _) (List.rel_append (hsame _) (List.rel_append ih (hsame _)))
  | body name type signature params c ih =>
    rw [fill, fill, Expr.occurrences_lambda, Expr.occurrences_lambda, List.forall₂_map_left_iff,
      List.forall₂_map_right_iff]
    have hparts := List.rel_append (hsame (params.map fun v => Occurrence.mk v [])) ih
    exact hparts.imp fun o o' ho => hwithin params o o' ho

end Context

end ExprGraph
