/-
  ExprGraph.Proofs.Attach.Interface

  What a tree and its environment have to do with each other.

  A name is free in a tree exactly if the tree uses it where no function around the use has a
  parameter of that name (`Expr.mem_freeVariables_iff_exists_use`).  Attaching looks up these names
  and no others: environments that agree on them are interchangeable (`Expr.ending_attach_congr`),
  and one that lacks any of them is refused (`Expr.attach_depends_on_freeVariables`).  Scopes around
  a tree that have none of its free names are therefore not noticed, as long as these names stand
  for globals, which look the same from every depth (`Expr.attach_enterAll_of_globals`).
-/

import ExprGraph.Proofs.Attach.Resume

namespace ExprGraph

namespace Expr

/-! ## Uses of names -/

mutual
/-- The occurrences of variables in a tree, the parameters of its functions left out. -/
def uses : Expr → List Occurrence
  | .const _ | .prim _ => []
  | .var v => [⟨v, []⟩]
  | .apply _ fn args => fn.uses ++ usesAll args
  | .lambda _ _ _ params body => body.uses.map (Occurrence.within params)

def usesAll : List Expr → List Occurrence
  | [] => []
  | e :: es => e.uses ++ usesAll es
end

theorem usesAll_eq_flatMap (es : List Expr) : usesAll es = es.flatMap uses := by
  induction es with
  | nil => rfl
  | cons e es ih => rw [usesAll, ih, List.flatMap_cons]

theorem uses_subset_occurrences (e : Expr) : e.uses ⊆ e.occurrences := by
  induction e with
  | const value => exact List.Subset.refl _
  | prim p => exact List.Subset.refl _
  | var v => exact List.Subset.refl _
  | apply type fn args ihFn ihArgs =>
    intro o ho
    rw [uses, usesAll_eq_flatMap] at ho
    rw [occurrences_apply]
    rcases List.mem_append.mp ho with ho | ho
    · exact List.mem_append_left _ (ihFn ho)
    · obtain ⟨arg, harg, ho⟩ := List.mem_flatMap.mp ho
      exact List.mem_append_right _ (List.mem_flatMap.mpr ⟨arg, harg, ihArgs arg harg ho⟩)
  | lambda name type signature params body ih =>
    intro o ho
    rw [uses] at ho
    obtain ⟨inner, hinner, rfl⟩ := List.mem_map.mp ho
    rw [occurrences_lambda]
    exact List.mem_map_of_mem (List.mem_append_right _ (ih hinner))

/-- An occurrence that nothing binds is no parameter. -/
theorem mem_uses_of_binder?_eq_none {e : Expr} {o : Occurrence} (ho : o ∈ e.occurrences)
    (hfree : o.binder? = none) : o ∈ e.uses := by
  induction e generalizing o with
  | const value => exact ho
  | prim p => exact ho
  | var v => exact ho
  | apply type fn args ihFn ihArgs =>
    rw [occurrences_apply] at ho
    rw [uses, usesAll_eq_flatMap]
    rcases List.mem_append.mp ho with ho | ho
    · exact List.mem_append_left _ (ihFn ho hfree)
    · obtain ⟨arg, harg, ho⟩ := List.mem_flatMap.mp ho
      exact List.mem_append_right _ (List.mem_flatMap.mpr ⟨arg, harg, ihArgs arg harg ho hfree⟩)
  | lambda name type signature params body ih =>
    rw [occurrences_lambda] at ho
    obtain ⟨inner, hinner, rfl⟩ := List.mem_map.mp ho
    rcases List.mem_append.mp hinner with hparam | hbody
    · obtain ⟨v, hv, rfl⟩ := List.mem_map.mp hparam
      exact absurd hfree (binder?_param_ne_none hv [])
    · obtain ⟨hnone, -⟩ := Occurrence.binder?_within_eq_none_iff.mp hfree
      exact List.mem_map_of_mem (ih hbody hnone)

/-- A name is free in a tree exactly if the tree uses it where no function has a parameter of that
    name. -/
theorem mem_freeVariables_iff_exists_use {name : String} {e : Expr} :
    name ∈ e.freeVariables ↔
      ∃ o ∈ e.uses, o.var.name = name ∧ ∀ params ∈ o.enclosing, ∀ p ∈ params, p.name ≠ name := by
  rw [mem_freeVariables_iff]
  constructor
  · rintro ⟨o, ho, rfl, hfree⟩
    exact ⟨o, mem_uses_of_binder?_eq_none ho hfree, rfl, Occurrence.binder?_eq_none_iff.mp hfree⟩
  · rintro ⟨o, ho, rfl, hunbound⟩
    exact ⟨o, e.uses_subset_occurrences ho, rfl, Occurrence.binder?_eq_none_iff.mpr hunbound⟩

/-! ## Environments that agree on the free names -/

variable {env env' : Env} {e : Expr}

theorem path?_congr (h : ∀ name ∈ e.freeVariables, env.lookup? name = env'.lookup? name)
    {o : Occurrence} (ho : o ∈ e.occurrences) : o.path? env = o.path? env' := by
  cases hb : o.binder? with
  | some found => rw [Occurrence.path?_of_binder? hb, Occurrence.path?_of_binder? hb]
  | none =>
    have hname : o.var.name ∈ e.freeVariables := mem_freeVariables_iff.mpr ⟨o, ho, rfl, hb⟩
    rw [Occurrence.path?_of_binder?_eq_none hb, Occurrence.path?_of_binder?_eq_none hb,
      h o.var.name hname]

/-- A tree asks for the same in environments that agree on its free names. -/
theorem requests_congr (h : ∀ name ∈ e.freeVariables, env.lookup? name = env'.lookup? name) :
    e.requests env = e.requests env' := by
  refine List.map_congr_left fun o ho => ?_
  rw [Occurrence.request, Occurrence.request, path?_congr h ho]

theorem ending_attach_congr (h : ∀ name ∈ e.freeVariables, env.lookup? name = env'.lookup? name)
    (b : Bindings) : (e.attach env b).ending = (e.attach env' b).ending := by
  rw [ending_attach, ending_attach, requests_congr h]

/-! ## Free names that an environment lacks -/

/-- A tree that was attached found all its free names, also those after a variable that was bound
    before. -/
theorem isSome_lookup?_of_attached {b : Bindings} (hok : (e.attach env b).result = .ok ()) :
    ∀ name ∈ e.freeVariables, (env.lookup? name).isSome = true := by
  rw [result_attach, settle_ok_iff_offered] at hok
  refine forall_isSome_path?_iff.mp fun o ho => ?_
  exact hok.1 (o.request env) (List.mem_map_of_mem ho)

/-- A name reported as unbound is a free one that the environment lacks. -/
theorem lookup?_of_unbound {b : Bindings} {name : String} {span : Option Span}
    (h : (e.attach env b).result = .error (.unbound name span)) :
    name ∈ e.freeVariables ∧ env.lookup? name = none := by
  rw [result_attach] at h
  have hrun : settle (e.requests env) b =
      (.error (.unbound name span), (settle (e.requests env) b).2) := Prod.ext h rfl
  obtain ⟨before, r, after, hsplit, -, hfault⟩ := settle_eq_error_iff.mp hrun
  have hr : r ∈ e.requests env := by
    rw [hsplit]
    exact List.mem_append_right _ (List.mem_cons_self ..)
  obtain ⟨o, ho, rfl⟩ := List.mem_map.mp hr
  obtain ⟨hnone, rfl⟩ := Request.path?_of_fault?_unbound hfault
  -- Without a path the occurrence is bound nowhere, so its name is free and looked up outside.
  have hpath : o.path? env = none := hnone
  cases hb : o.binder? with
  | some found =>
    rw [Occurrence.path?_of_binder? hb] at hpath
    cases hpath
  | none =>
    rw [Occurrence.path?_of_binder?_eq_none hb, Option.map_eq_none_iff] at hpath
    exact ⟨mem_freeVariables_iff.mpr ⟨o, ho, rfl, hb⟩, hpath⟩

/-- The free names of a tree are all that it has to do with its environment.  They are the names
    that it uses outside all functions with such a parameter.  Environments that agree on them have
    the same result and leave the same bindings; an environment that lacks one of them is refused,
    and a name reported as unbound is one that it lacks. -/
theorem attach_depends_on_freeVariables (e : Expr) :
    (∀ name, name ∈ e.freeVariables ↔ ∃ o ∈ e.uses, o.var.name = name ∧
        ∀ params ∈ o.enclosing, ∀ p ∈ params, p.name ≠ name) ∧
      ∀ b : Bindings,
        (∀ env env' : Env, (∀ name ∈ e.freeVariables, env.lookup? name = env'.lookup? name) →
          (e.attach env b).result = (e.attach env' b).result ∧
            (e.attach env b).state = (e.attach env' b).state) ∧
        (∀ env : Env, ∀ name ∈ e.freeVariables, env.lookup? name = none →
          ∃ cause, (e.attach env b).result = .error cause) ∧
        ∀ (env : Env) (name : String) (span : Option Span),
          (e.attach env b).result = .error (.unbound name span) →
            name ∈ e.freeVariables ∧ env.lookup? name = none := by
  refine ⟨fun name => mem_freeVariables_iff_exists_use, fun b => ⟨?_, ?_, ?_⟩⟩
  · intro env env' hagree
    have hending := ending_attach_congr hagree b
    exact ⟨congrArg Prod.fst hending, congrArg Prod.snd hending⟩
  · intro env name hname hlacks
    cases hresult : (e.attach env b).result with
    | error cause => exact ⟨cause, rfl⟩
    | ok _ =>
      have hfound := isSome_lookup?_of_attached hresult name hname
      rw [hlacks] at hfound
      cases hfound
  · intro env name span hunbound
    exact lookup?_of_unbound hunbound

theorem mem_freeVariables_sampleTree {name : String} :
    name ∈ sampleTree.freeVariables ↔ name = "g" ∨ name = "y" := by
  have hnames : name ∈ sampleTree.freeVariables ↔ "g" = name ∨ "y" = name := by
    rw [mem_freeVariables_iff]
    simp [sampleTree, Occurrence.binder?, Occurrence.within, Occurrence.scopes, nearest?_cons]
  rw [hnames, eq_comm (a := "g"), eq_comm (a := "y")]

/-- The name `x`, which the tree binds, may stand for anything outside; without the name `y` the
    tree is refused, here because `g` has another path before it comes to `y`. -/
theorem attach_depends_on_freeVariables_sampleTree :
    let env : Env := .ofList [("x", .global 7), ("g", .global 3), ("y", .lexical 1 0)]
    let lacking : Env := .ofList [("g", .global 3)]
    let b := Bindings.empty.bind ⟨1, "g", .fn (some .float) [.float, .float], none⟩ (.global 9)
    (sampleTree.attach env .empty).result = (sampleTree.attach sampleEnv .empty).result ∧
      (∃ cause, (sampleTree.attach lacking b).result = .error cause) ∧
      (sampleTree.attach lacking b).result =
        .error (.rebound "g" (.global 9) (.global 3) none) := by
  intro env lacking b
  obtain ⟨-, hattach⟩ := sampleTree.attach_depends_on_freeVariables
  have hagree : ∀ name ∈ sampleTree.freeVariables,
      env.lookup? name = sampleEnv.lookup? name := by
    intro name hname
    obtain rfl | rfl := mem_freeVariables_sampleTree.mp hname
    · rfl
    · rfl
  have hy : "y" ∈ sampleTree.freeVariables := mem_freeVariables_sampleTree.mpr (.inr rfl)
  exact ⟨((hattach .empty).1 env sampleEnv hagree).1, (hattach b).2.1 lacking "y" hy rfl, rfl⟩

/-! ## Scopes around a tree -/

/-- A tree whose free names are global or unknown attaches in the same way inside of scopes that
    have none of them; and once it was attached, it is attached inside of all such scopes. -/
theorem attach_enterAll_of_globals (e : Expr) (base : Env) (scopes : List (List String))
    (hglobal : ∀ name ∈ e.freeVariables,
      base.lookup? name = none ∨ ∃ slot, base.lookup? name = some (.global slot))
    (hscopes : ∀ names ∈ scopes, ∀ name ∈ names, name ∉ e.freeVariables) (b : Bindings) :
    (e.attach (base.enterAll scopes) b).result = (e.attach base b).result ∧
      (e.attach (base.enterAll scopes) b).state = (e.attach base b).state ∧
      ((e.attach base b).result = .ok () → ∀ c, (e.attach base b).state ≤ c →
        (e.attach (base.enterAll scopes) c).result = .ok () ∧
          (e.attach (base.enterAll scopes) c).state = c) := by
  have hagree : ∀ name ∈ e.freeVariables,
      (base.enterAll scopes).lookup? name = base.lookup? name := by
    intro name hname
    refine base.lookup?_enterAll_of_global (hglobal name hname) ?_
    intro names hnames hmem
    exact hscopes names hnames name hmem hname
  have hending := ending_attach_congr hagree b
  refine ⟨congrArg Prod.fst hending, congrArg Prod.snd hending, ?_⟩
  intro hok c hc
  have hagain : (e.attach (base.enterAll scopes) c).ending = (.ok (), c) := by
    rw [ending_attach_congr hagree c]
    exact ending_attach_of_attached (le_refl base) hok hc
  exact ⟨congrArg Prod.fst hagain, congrArg Prod.snd hagain⟩

/-- The scopes may have the name `x`, which the tree binds itself. -/
theorem attach_enterAll_of_globals_sampleTree :
    let base : Env := .ofList [("g", .global 3), ("y", .global 4)]
    let scopes := [["x", "z"], ["x"]]
    (sampleTree.attach base .empty).result = .ok () ∧
      (sampleTree.attach (base.enterAll scopes) (sampleTree.attach base .empty).state).result =
        .ok () ∧
      (sampleTree.attach (base.enterAll scopes) (sampleTree.attach base .empty).state).state =
        (sampleTree.attach base .empty).state := by
  intro base scopes
  have hok : (sampleTree.attach base .empty).result = .ok () := rfl
  have hglobal : ∀ name ∈ sampleTree.freeVariables,
      base.lookup? name = none ∨ ∃ slot, base.lookup? name = some (.global slot) := by
    intro name hname
    obtain rfl | rfl := mem_freeVariables_sampleTree.mp hname
    · exact .inr ⟨3, rfl⟩
    · exact .inr ⟨4, rfl⟩
  have hscopes : ∀ names ∈ scopes, ∀ name ∈ names, name ∉ sampleTree.freeVariables := by
    simp [scopes, mem_freeVariables_sampleTree]
  obtain ⟨-, -, hagain⟩ :=
    sampleTree.attach_enterAll_of_globals base scopes hglobal hscopes .empty
  exact ⟨hok, hagain hok _ (le_refl _)⟩

end Expr

end ExprGraph
