/-
  ExprGraph.Proofs.Expr.Renaming

  Another name for a parameter.

  `Expr.renameFree` changes the uses of a name that a tree does not bind, so in the body of a
  function it changes just what a parameter binds (`Expr.occurrences_renameFree`).  A `Parameter` is
  a parameter of a function anywhere in a tree, and `Parameter.renamed` gives it another name
  together with the uses that it binds.  If it can have that name (`Parameter.CanBe`), no function
  in between catches what it binds and it does not catch any other use, so that each occurrence
  keeps its binder, by position (`Parameter.sameBinding_tree`).  The types and the free names of the
  tree stay as they are, and the tree stays constructible.
-/

import Mathlib.Data.List.Nodup
import ExprGraph.Proofs.Expr.Context
import ExprGraph.Proofs.Expr.Resolution

namespace ExprGraph

/-- A variable of the same type, read at the same place, with another name and a number of its
    own. -/
def Variable.rename (number : Nat → Nat) (name : String) (v : Variable) : Variable :=
  { v with id := number v.id, name }

theorem Variable.not_mem_map_name_iff {vs : List Variable} {name : String} :
    name ∉ vs.map (·.name) ↔ ∀ v ∈ vs, v.name ≠ name := by simp

/-! ## Uses that a tree does not bind -/

namespace Expr

variable (number : Nat → Nat) (x y : String)

mutual
/-- The tree with the name `y` in the place of `x` wherever the tree does not bind `x`. -/
def renameFree : Expr → Expr
  | .const value => .const value
  | .prim p => .prim p
  | .var v => .var (if v.name = x then v.rename number y else v)
  | .apply type fn args => .apply type fn.renameFree (renameFreeAll args)
  | .lambda name type signature params body =>
    .lambda name type signature params
      (if x ∈ params.map (·.name) then body else body.renameFree)

def renameFreeAll : List Expr → List Expr
  | [] => []
  | e :: es => e.renameFree :: renameFreeAll es
end

theorem renameFreeAll_eq_map (es : List Expr) :
    renameFreeAll number x y es = es.map (renameFree number x y) := by
  induction es with
  | nil => rfl
  | cons e es ih => rw [renameFreeAll, ih, List.map_cons]

end Expr

namespace Occurrence

variable (number : Nat → Nat) (x y : String)

/-- The occurrence with the name `y`, if it has the name `x` and its tree does not bind it. -/
def renameFree (o : Occurrence) : Occurrence :=
  if o.var.name = x ∧ o.binder? = none then ⟨o.var.rename number y, o.enclosing⟩ else o

variable {number x y}

theorem renameFree_of_bound {o : Occurrence} (h : o.binder? ≠ none) :
    o.renameFree number x y = o := if_neg fun hfree => h hfree.2

theorem renameFree_of_ne {o : Occurrence} (h : o.var.name ≠ x) :
    o.renameFree number x y = o := if_neg fun hfree => h hfree.1

/-- A function that has a parameter `x` binds all uses of `x`. -/
theorem renameFree_within_of_mem {params : List Variable} (h : x ∈ params.map (·.name))
    (o : Occurrence) : (o.within params).renameFree number x y = o.within params := by
  by_cases hname : o.var.name = x
  · refine renameFree_of_bound fun hnone => ?_
    obtain ⟨p, hp, hsame⟩ := List.mem_map.mp h
    exact (binder?_within_eq_none_iff.mp hnone).2 p hp (hsame.trans hname.symm)
  · exact renameFree_of_ne hname

theorem renameFree_within_of_not_mem {params : List Variable} (h : x ∉ params.map (·.name))
    (o : Occurrence) :
    (o.within params).renameFree number x y = (o.renameFree number x y).within params := by
  by_cases hname : o.var.name = x
  · -- No parameter has the name, so the use is bound with the function around it if it is without.
    have hparams : ∀ p ∈ params, p.name ≠ o.var.name := by
      rw [hname]
      exact Variable.not_mem_map_name_iff.mp h
    have hbinder : (o.within params).binder? = none ↔ o.binder? = none :=
      binder?_within_eq_none_iff.trans (and_iff_left hparams)
    unfold renameFree
    by_cases hfree : o.binder? = none
    · rw [if_pos ⟨hname, hbinder.mpr hfree⟩, if_pos ⟨hname, hfree⟩]
      rfl
    · rw [if_neg fun h => hfree (hbinder.mp h.2), if_neg fun h => hfree h.2]
  · have hwithin : (o.within params).var.name ≠ x := hname
    rw [renameFree_of_ne hwithin, renameFree_of_ne hname]

end Occurrence

namespace Expr

variable {number : Nat → Nat} {x y : String}

/-- Just the uses of `x` that the tree does not bind have the name `y` afterwards. -/
theorem occurrences_renameFree (e : Expr) :
    (e.renameFree number x y).occurrences =
      e.occurrences.map (Occurrence.renameFree number x y) := by
  induction e with
  | const value => rfl
  | prim p => rfl
  | var v =>
    have hfree : Occurrence.binder? ⟨v, []⟩ = none := rfl
    by_cases hname : v.name = x
    · simp [renameFree, Occurrence.renameFree, hname, hfree]
    · simp [renameFree, Occurrence.renameFree, hname]
  | apply type fn args ihFn ihArgs =>
    have hargs : (args.map (renameFree number x y)).flatMap occurrences =
        (args.flatMap occurrences).map (Occurrence.renameFree number x y) := by
      rw [List.flatMap_map, List.map_flatMap]
      exact List.flatMap_congr ihArgs
    rw [renameFree, renameFreeAll_eq_map, occurrences_apply, occurrences_apply, List.map_append,
      ihFn, hargs]
  | lambda name type signature params body ih =>
    -- A parameter is bound by its own function and keeps its name in any case.
    have hparams : (params.map fun v => Occurrence.mk v []).map
          (Occurrence.renameFree number x y ∘ Occurrence.within params) =
        (params.map fun v => Occurrence.mk v []).map (Occurrence.within params) := by
      rw [List.map_map, List.map_map]
      refine List.map_congr_left fun v hv => ?_
      exact Occurrence.renameFree_of_bound (binder?_param_ne_none hv [])
    rw [renameFree, occurrences_lambda, occurrences_lambda, List.map_map, List.map_append,
      List.map_append, hparams]
    congr 1
    by_cases hshadow : x ∈ params.map (·.name)
    · rw [if_pos hshadow]
      exact List.map_congr_left fun o _ => (Occurrence.renameFree_within_of_mem hshadow o).symm
    · rw [if_neg hshadow, ih, List.map_map]
      exact List.map_congr_left fun o _ => (Occurrence.renameFree_within_of_not_mem hshadow o).symm

theorem type_renameFree (e : Expr) : (e.renameFree number x y).type = e.type := by
  cases e with
  | const value => rfl
  | prim p => rfl
  | var v =>
    rw [renameFree, type_var, type_var]
    split <;> rfl
  | apply type fn args => rfl
  | lambda name type signature params body => rfl

theorem map_type_preorder_renameFree (e : Expr) :
    (e.renameFree number x y).preorder.map Expr.type = e.preorder.map Expr.type := by
  induction e with
  | const value => rfl
  | prim p => rfl
  | var v =>
    have htype : ((Expr.var v).renameFree number x y).type = (Expr.var v).type :=
      (Expr.var v).type_renameFree
    rw [renameFree] at htype ⊢
    simp only [preorder, List.map_cons, List.map_nil, htype]
  | apply type fn args ihFn ihArgs =>
    have hargs : ((args.map (renameFree number x y)).flatMap preorder).map Expr.type =
        (args.flatMap preorder).map Expr.type := by
      rw [List.flatMap_map, List.map_flatMap, List.map_flatMap]
      exact List.flatMap_congr ihArgs
    simp only [renameFree, preorder, renameFreeAll_eq_map, preorderAll_eq_flatMap, List.map_cons,
      List.map_append, ihFn, hargs, type_apply]
  | lambda name type signature params body ih =>
    simp only [renameFree, preorder, List.map_cons, List.map_append, type_lambda]
    split
    · rfl
    · rw [ih]

end Expr

theorem Constructible.renameFree {number : Nat → Nat} {x y : String} {e : Expr}
    (h : Constructible e) (hy : y ≠ "") : Constructible (e.renameFree number x y) := by
  induction e with
  | const value => exact h
  | prim p => exact h
  | var v =>
    rw [Expr.renameFree]
    split
    · exact var_iff.mpr hy
    · exact h
  | apply type fn args ihFn ihArgs =>
    obtain ⟨hfn, hargs, hcall⟩ := apply_iff.mp h
    rw [Expr.renameFree, Expr.renameFreeAll_eq_map]
    refine apply_iff.mpr ⟨ihFn hfn, ?_, ?_⟩
    · intro arg harg
      obtain ⟨arg, hmem, rfl⟩ := List.mem_map.mp harg
      exact ihArgs arg hmem (hargs arg hmem)
    · have htypes : (args.map (Expr.renameFree number x y)).map Expr.type = args.map Expr.type := by
        rw [List.map_map]
        exact List.map_congr_left fun arg _ => arg.type_renameFree
      show (fn.renameFree number x y).type = _
      rw [htypes, Expr.type_renameFree]
      exact hcall
  | lambda name type signature params body ih =>
    obtain ⟨hparams, hbody, hname, hnodup, htype, hsignature⟩ := lambda_iff.mp h
    rw [Expr.renameFree]
    split
    · exact h
    · refine lambda_iff.mpr ⟨hparams, ih hbody, hname, hnodup, ?_, hsignature⟩
      rw [Expr.type_renameFree]
      exact htype

/-! ## Occurrences that are bound alike -/

theorem Occurrence.binder?_within (params : List Variable) (o : Occurrence) :
    (o.within params).binder? =
      match o.binder? with
      | some found => some found
      | none => ((params.map (·.name)).idxOf? o.var.name).map fun slot =>
          (o.enclosing.length, slot) := by
  have hscopes : (o.within params).scopes = o.scopes ++ [params.map (·.name)] := by
    simp [scopes, within]
  have hlength : o.scopes.length = o.enclosing.length := List.length_map _
  rw [binder?, hscopes, nearest?_append_singleton, hlength]
  rfl

/-- Two occurrences are bound by parameters at the same position, or else have the same free name;
    and they are equally deep in their trees and were read at the same place. -/
structure SameBinding (o o' : Occurrence) : Prop where
  binder : o'.binder? = o.binder?
  name : o.binder? = none → o'.var.name = o.var.name
  depth : o'.enclosing.length = o.enclosing.length
  span : o'.var.span = o.var.span

namespace SameBinding

variable {o o' : Occurrence}

theorem refl (o : Occurrence) : SameBinding o o := ⟨rfl, fun _ => rfl, rfl, rfl⟩

theorem within (h : SameBinding o o') (params : List Variable) :
    SameBinding (o.within params) (o'.within params) where
  binder := by
    rw [Occurrence.binder?_within, Occurrence.binder?_within, h.binder]
    cases hb : o.binder? with
    | some found => rfl
    | none => rw [h.name hb, h.depth]
  name := fun hb => h.name (Occurrence.binder?_within_eq_none_iff.mp hb).1
  depth := by
    have hdepth := h.depth
    simp [Occurrence.within, hdepth]
  span := h.span

/-- Occurrences that are bound alike have the same path in every environment. -/
theorem path? (h : SameBinding o o') (env : Env) : o'.path? env = o.path? env := by
  cases hb : o.binder? with
  | some found =>
    rw [Occurrence.path?_of_binder? hb, Occurrence.path?_of_binder? (h.binder.trans hb)]
  | none =>
    rw [Occurrence.path?_of_binder?_eq_none hb,
      Occurrence.path?_of_binder?_eq_none (h.binder.trans hb), h.name hb, h.depth]

/-- A name that one of the occurrences has and that nothing binds there is such a name among
    occurrences that are bound alike, too. -/
theorem exists_free_iff {os os' : List Occurrence} (h : List.Forall₂ SameBinding os os')
    (name : String) :
    (∃ o' ∈ os', o'.var.name = name ∧ o'.binder? = none) ↔
      ∃ o ∈ os, o.var.name = name ∧ o.binder? = none := by
  induction h with
  | nil => rfl
  | @cons o o' os os' ho _ ih =>
    have hhead : (o'.var.name = name ∧ o'.binder? = none) ↔
        (o.var.name = name ∧ o.binder? = none) := by
      rw [ho.binder]
      refine and_congr_left fun hb => ?_
      rw [ho.name hb]
    rw [List.exists_mem_cons_iff, List.exists_mem_cons_iff, hhead, ih]

/-- Trees whose occurrences are bound alike have the same free names. -/
theorem toList_freeVariables {e e' : Expr}
    (h : List.Forall₂ SameBinding e.occurrences e'.occurrences) :
    e'.freeVariables.toList = e.freeVariables.toList := by
  have hmem : ∀ name, name ∈ e'.freeVariables ↔ name ∈ e.freeVariables := by
    intro name
    rw [Expr.mem_freeVariables_iff, Expr.mem_freeVariables_iff]
    exact exists_free_iff h name
  exact (Std.TreeSet.Equiv.of_forall_mem_iff hmem).toList_eq

end SameBinding

/-! ## Positions in a scope with one name changed -/

theorem idxOf?_append_cons_of_ne {names names' : List String} {x y name : String} (hx : name ≠ x)
    (hy : name ≠ y) : (names ++ x :: names').idxOf? name = (names ++ y :: names').idxOf? name := by
  induction names with
  | nil => simp [List.idxOf?_cons, hx.symm, hy.symm]
  | cons first names ih =>
    rw [List.cons_append, List.cons_append, List.idxOf?_cons, List.idxOf?_cons, ih]

theorem idxOf?_append_cons_self {names names' : List String} {x : String} (h : x ∉ names) :
    (names ++ x :: names').idxOf? x = some names.length := by
  induction names with
  | nil => simp [List.idxOf?_cons]
  | cons first names ih =>
    rw [List.mem_cons, not_or] at h
    obtain ⟨hfirst, hrest⟩ := h
    simp [List.idxOf?_cons, Ne.symm hfirst, ih hrest]

/-! ## Renaming a parameter -/

/-- A parameter of a function in a tree, with everything around it. -/
structure Parameter where
  /-- The tree around the function. -/
  context : Context
  functionName : String
  /-- The type of the function. -/
  type : Ty
  signature : String
  /-- The parameters in front of this one. -/
  before : List Variable
  var : Variable
  /-- The parameters after this one. -/
  after : List Variable
  body : Expr

namespace Parameter

def params (p : Parameter) : List Variable := p.before ++ p.var :: p.after

def function (p : Parameter) : Expr :=
  .lambda p.functionName p.type p.signature p.params p.body

def tree (p : Parameter) : Expr := p.context.fill p.function

/-- The parameter with another name, and with it what it binds. -/
def renamed (number : Nat → Nat) (name : String) (p : Parameter) : Parameter :=
  { p with var := p.var.rename number name, body := p.body.renameFree number p.var.name name }

/-- A name that the parameter can have: no other parameter of the function has it, it is not free in
    the body, and no function inside has such a parameter around what is bound here. -/
structure CanBe (p : Parameter) (name : String) : Prop where
  nonempty : name ≠ ""
  unshared : ∀ q ∈ p.before ++ p.after, q.name ≠ name
  unused : name ∉ p.body.freeVariables
  uncaptured : ∀ o ∈ p.body.occurrences, o.var.name = p.var.name → o.binder? = none →
    ∀ params ∈ o.enclosing, ∀ q ∈ params, q.name ≠ name

/-- Every parameter of every function in a tree is one of its parameters. -/
theorem exists_of_mem {tree : Expr} {name : String} {type : Ty} {signature : String}
    {params : List Variable} {body : Expr} {v : Variable}
    (h : .lambda name type signature params body ∈ tree.preorder) (hv : v ∈ params) :
    ∃ p : Parameter, p.tree = tree ∧ p.var = v ∧
      p.function = .lambda name type signature params body := by
  obtain ⟨c, rfl⟩ := (Context.mem_preorder_iff_exists_fill (by simp)).mp h
  obtain ⟨before, after, rfl⟩ := List.append_of_mem hv
  exact ⟨⟨c, name, type, signature, before, v, after, body⟩, rfl, rfl, rfl⟩

/-! ## The renamed parameter binds what it bound -/

variable {number : Nat → Nat} {name : String} {p : Parameter} {o : Occurrence}

theorem map_name_params (p : Parameter) :
    p.params.map (·.name) = p.before.map (·.name) ++ p.var.name :: p.after.map (·.name) := by
  simp [params]

theorem map_name_params_renamed (number : Nat → Nat) (name : String) (p : Parameter) :
    (p.renamed number name).params.map (·.name) =
      p.before.map (·.name) ++ name :: p.after.map (·.name) := by
  simp [params, renamed, Variable.rename]

/-- What this parameter does not bind is bound elsewhere, or has neither of the two names. -/
theorem sameBinding_of_ne
    (h : o.binder? = none → o.var.name ≠ p.var.name ∧ o.var.name ≠ name) :
    SameBinding (o.within p.params) (o.within (p.renamed number name).params) where
  binder := by
    rw [Occurrence.binder?_within, Occurrence.binder?_within, map_name_params_renamed,
      map_name_params]
    cases hb : o.binder? with
    | some found => rfl
    | none =>
      obtain ⟨hold, hnew⟩ := h hb
      rw [idxOf?_append_cons_of_ne hold hnew]
  name := fun _ => rfl
  depth := by simp [Occurrence.within]
  span := rfl

/-- What this parameter binds, itself among it, it still binds when both have the new name. -/
theorem sameBinding_of_bound (hfresh : ∀ q ∈ p.before, q.name ≠ p.var.name ∧ q.name ≠ name)
    (hname : o.var.name = p.var.name) (hfree : o.binder? = none)
    (huncaptured : ∀ params ∈ o.enclosing, ∀ q ∈ params, q.name ≠ name) :
    SameBinding (o.within p.params)
      (Occurrence.within (p.renamed number name).params
        ⟨o.var.rename number name, o.enclosing⟩) := by
  have hfree' : Occurrence.binder? ⟨o.var.rename number name, o.enclosing⟩ = none :=
    Occurrence.binder?_eq_none_iff.mpr huncaptured
  have hold : p.var.name ∉ p.before.map (·.name) :=
    Variable.not_mem_map_name_iff.mpr fun q hq => (hfresh q hq).1
  have hnew : name ∉ p.before.map (·.name) :=
    Variable.not_mem_map_name_iff.mpr fun q hq => (hfresh q hq).2
  -- In both scopes the name comes first at the position of the parameter.
  have hbinder : (o.within p.params).binder? = some (o.enclosing.length, p.before.length) := by
    rw [Occurrence.binder?_within, hfree, hname, map_name_params, idxOf?_append_cons_self hold]
    simp
  have hbinder' : (Occurrence.within (p.renamed number name).params
      ⟨o.var.rename number name, o.enclosing⟩).binder? =
        some (o.enclosing.length, p.before.length) := by
    rw [Occurrence.binder?_within, hfree', map_name_params_renamed]
    show ((p.before.map (·.name) ++ name :: p.after.map (·.name)).idxOf? name).map _ = _
    rw [idxOf?_append_cons_self hnew]
    simp
  refine ⟨hbinder'.trans hbinder.symm, ?_, ?_, rfl⟩
  · intro hnone
    rw [hbinder] at hnone
    cases hnone
  · simp [Occurrence.within]

/-- The function with the renamed parameter binds its occurrences as it did. -/
theorem sameBinding_function (h : p.CanBe name) (hnodup : (p.params.map (·.name)).Nodup) :
    List.Forall₂ SameBinding p.function.occurrences
      (p.renamed number name).function.occurrences := by
  rw [map_name_params, List.nodup_middle, List.nodup_cons, ← List.map_append,
    Variable.not_mem_map_name_iff] at hnodup
  have hother : ∀ q ∈ p.before ++ p.after, q.name ≠ p.var.name ∧ q.name ≠ name :=
    fun q hq => ⟨hnodup.1 q hq, h.unshared q hq⟩
  have hbefore : ∀ q ∈ p.before, q.name ≠ p.var.name ∧ q.name ≠ name :=
    fun q hq => hother q (List.mem_append_left _ hq)
  have hafter : ∀ q ∈ p.after, q.name ≠ p.var.name ∧ q.name ≠ name :=
    fun q hq => hother q (List.mem_append_right _ hq)
  rw [function, function, Expr.occurrences_lambda, Expr.occurrences_lambda,
    List.forall₂_map_left_iff, List.forall₂_map_right_iff]
  refine List.rel_append ?_ ?_
  · have hself : SameBinding (Occurrence.within p.params ⟨p.var, []⟩)
        (Occurrence.within (p.renamed number name).params ⟨p.var.rename number name, []⟩) :=
      sameBinding_of_bound hbefore rfl rfl (by simp)
    simp only [params, renamed, List.map_append, List.map_cons]
    refine List.rel_append ?_ (.cons hself ?_)
    · exact List.forall₂_map_left_iff.mpr (List.forall₂_map_right_iff.mpr
        (List.forall₂_same.mpr fun q hq => sameBinding_of_ne fun _ => hbefore q hq))
    · exact List.forall₂_map_left_iff.mpr (List.forall₂_map_right_iff.mpr
        (List.forall₂_same.mpr fun q hq => sameBinding_of_ne fun _ => hafter q hq))
  · show List.Forall₂ _ p.body.occurrences (p.body.renameFree number p.var.name name).occurrences
    rw [Expr.occurrences_renameFree, List.forall₂_map_right_iff]
    refine List.forall₂_same.mpr fun o ho => ?_
    by_cases hbound : o.var.name = p.var.name ∧ o.binder? = none
    · obtain ⟨hname, hfree⟩ := hbound
      rw [Occurrence.renameFree, if_pos ⟨hname, hfree⟩]
      exact sameBinding_of_bound hbefore hname hfree (h.uncaptured o ho hname hfree)
    · rw [Occurrence.renameFree, if_neg hbound]
      refine sameBinding_of_ne fun hfree => ⟨fun hname => hbound ⟨hname, hfree⟩, ?_⟩
      -- A use of the new name that nothing in the body binds would make the name free there.
      rintro rfl
      exact h.unused (Expr.mem_freeVariables_iff.mpr ⟨o, ho, rfl, hfree⟩)

/-! ## The tree with the renamed parameter -/

theorem constructible_function (hbuilt : Constructible p.tree) : Constructible p.function :=
  hbuilt.of_mem_preorder _
    ((Context.mem_preorder_iff_exists_fill (by simp [function])).mpr ⟨p.context, rfl⟩)

theorem nodup_map_name_params (hbuilt : Constructible p.tree) :
    (p.params.map (·.name)).Nodup :=
  (constructible_function hbuilt).wellTyped.2.1

theorem sameBinding_tree (hbuilt : Constructible p.tree) (h : p.CanBe name) :
    List.Forall₂ SameBinding p.tree.occurrences (p.renamed number name).tree.occurrences :=
  Context.forall₂_occurrences_fill SameBinding.refl (fun params _ _ ho => ho.within params)
    p.context (sameBinding_function h (nodup_map_name_params hbuilt))

theorem map_type_params_renamed (number : Nat → Nat) (name : String) (p : Parameter) :
    (p.renamed number name).params.map (·.type) = p.params.map (·.type) := by
  simp [params, renamed, Variable.rename]

theorem map_type_preorder_tree (number : Nat → Nat) (name : String) (p : Parameter) :
    (p.renamed number name).tree.preorder.map Expr.type = p.tree.preorder.map Expr.type := by
  refine p.context.map_type_preorder_fill ?_
  have hparams : ∀ vs : List Variable,
      (vs.map Expr.var).map Expr.type = vs.map (·.type) := by simp
  have hbody : (p.renamed number name).body.preorder.map Expr.type =
      p.body.preorder.map Expr.type := Expr.map_type_preorder_renameFree p.body
  simp only [function, Expr.preorder, List.map_cons, List.map_append, Expr.type_lambda, hparams,
    map_type_params_renamed, hbody]
  rfl

theorem constructible_function_renamed (hbuilt : Constructible p.function) (h : p.CanBe name) :
    Constructible (p.renamed number name).function := by
  obtain ⟨hparams, hbody, hname, hnodup, htype, hsignature⟩ := Constructible.lambda_iff.mp hbuilt
  refine Constructible.lambda_iff.mpr
    ⟨?_, hbody.renameFree h.nonempty, hname, ?_, ?_, hsignature⟩
  · intro q hq
    rcases List.mem_append.mp hq with hq | hq
    · exact hparams q (List.mem_append_left _ hq)
    · rcases List.mem_cons.mp hq with rfl | hq
      · exact Constructible.var_iff.mpr h.nonempty
      · exact hparams q (List.mem_append_right _ (List.mem_cons_of_mem _ hq))
  · rw [map_name_params, List.nodup_middle, List.nodup_cons, ← List.map_append] at hnodup
    rw [map_name_params_renamed, List.nodup_middle, List.nodup_cons, ← List.map_append]
    exact ⟨Variable.not_mem_map_name_iff.mpr h.unshared, hnodup.2⟩
  · rw [map_type_params_renamed]
    show p.type = .fn (some (p.body.renameFree number p.var.name name).type) _
    rw [Expr.type_renameFree]
    exact htype

theorem constructible_tree_renamed (hbuilt : Constructible p.tree) (h : p.CanBe name) :
    Constructible (p.renamed number name).tree :=
  Context.constructible_fill hbuilt
    (constructible_function_renamed (constructible_function hbuilt) h) rfl

end Parameter

end ExprGraph
