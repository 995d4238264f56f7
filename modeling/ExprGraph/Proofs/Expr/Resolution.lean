/-
  ExprGraph.Proofs.Expr.Resolution

  What the name of an occurrence stands for.

  The nearest function around the occurrence that has a parameter of the name binds it
  (`Occurrence.binder?`); if there is none, the environment of the tree decides.  The names left to
  the environment are the free variables of the tree (`Expr.mem_freeVariables_iff`), so an
  environment that has all of them gives every occurrence a path and any other one does not.
  As long as a tree stays within words of 32 bits, the numbers in a path are the numbers of
  functions crossed and of the parameter reached.
-/

import ExprGraph.Proofs.Expr.Occurrence

namespace ExprGraph

namespace Occurrence

/-- The names of the parameters of the functions around an occurrence. -/
def scopes (o : Occurrence) : List (List String) := o.enclosing.map fun params => params.map (·.name)

/-- The parameter that binds an occurrence within its tree: how many functions lie between, and its
    position. -/
def binder? (o : Occurrence) : Option (Nat × Nat) := nearest? o.var.name o.scopes

/-- The path of an occurrence in a tree that is attached to an environment. -/
def path? (env : Env) (o : Occurrence) : Option BindingPath := pathWithin? env o.scopes o.var.name

@[simp] theorem var_within (params : List Variable) (o : Occurrence) :
    (o.within params).var = o.var := rfl

/-! ## The binder of an occurrence -/

theorem binder?_eq_none_iff {o : Occurrence} :
    o.binder? = none ↔ ∀ params ∈ o.enclosing, ∀ p ∈ params, p.name ≠ o.var.name := by
  rw [binder?, nearest?_eq_none_iff, scopes, List.forall_mem_map]
  simp

/-- The parameter reached has the name of the occurrence, and none on the way has it. -/
theorem binder?_eq_some {o : Occurrence} {link slot : Nat} (h : o.binder? = some (link, slot)) :
    (∃ params p, o.enclosing[link]? = some params ∧ params[slot]? = some p ∧
        p.name = o.var.name) ∧
      ∀ params ∈ o.enclosing.take link, ∀ p ∈ params, p.name ≠ o.var.name := by
  obtain ⟨⟨names, hnames, hslot⟩, hpassed⟩ := nearest?_eq_some_iff.mp h
  rw [scopes, List.getElem?_map, Option.map_eq_some_iff] at hnames
  obtain ⟨params, hparams, rfl⟩ := hnames
  -- The position of a name among the names of parameters is that of a parameter.
  obtain ⟨hlt, hname, -⟩ := List.idxOf?_eq_some_iff.mp hslot
  rw [List.length_map] at hlt
  refine ⟨⟨params, params[slot], hparams, List.getElem?_eq_getElem hlt, ?_⟩, ?_⟩
  · rw [List.getElem_map] at hname
    exact hname
  · intro passed hmem p hp hsame
    rw [scopes, ← List.map_take, List.forall_mem_map] at hpassed
    apply hpassed passed hmem
    rw [← hsame]
    exact List.mem_map_of_mem hp

theorem binder?_within_eq_none_iff {params : List Variable} {o : Occurrence} :
    (o.within params).binder? = none ↔ o.binder? = none ∧ ∀ p ∈ params, p.name ≠ o.var.name := by
  rw [binder?_eq_none_iff, binder?_eq_none_iff, within]
  simp [or_imp, forall_and]

/-! ## Paths -/

theorem path?_of_binder? {o : Occurrence} {link slot : Nat} (h : o.binder? = some (link, slot))
    (env : Env) : o.path? env = some (.lexical (UInt32.ofNat link) (UInt32.ofNat slot)) := by
  rw [binder?] at h
  rw [path?, pathWithin?, h]

theorem path?_of_binder?_eq_none {o : Occurrence} (h : o.binder? = none) (env : Env) :
    o.path? env = (env.lookup? o.var.name).map (BindingPath.outwardBy o.enclosing.length) := by
  rw [binder?] at h
  rw [path?, pathWithin?, h]
  simp [scopes]

theorem isSome_path?_iff {env : Env} {o : Occurrence} :
    (o.path? env).isSome = true ↔
      (o.binder? = none → (env.lookup? o.var.name).isSome = true) := pathWithin?_isSome_iff

end Occurrence

namespace Expr

/-! ## Free variables -/

theorem mem_foldl_erase {name : String} {params : List Variable} {free : Std.TreeSet String} :
    name ∈ params.foldl (fun free p => free.erase p.name) free ↔
      name ∈ free ∧ ∀ p ∈ params, p.name ≠ name := by
  induction params generalizing free with
  | nil => simp
  | cons p params ih =>
    rw [List.foldl_cons, ih, Std.TreeSet.mem_erase]
    simp [and_assoc, and_left_comm]

theorem mem_freeVariablesAll {name : String} {es : List Expr} :
    name ∈ freeVariablesAll es ↔ ∃ e ∈ es, name ∈ e.freeVariables := by
  induction es with
  | nil => simp [freeVariablesAll]
  | cons e es ih => simp [freeVariablesAll, ih]

/-- A parameter is bound by its own function, if not by a function nearer to it. -/
theorem binder?_param_ne_none {params : List Variable} {v : Variable} (h : v ∈ params)
    (enclosing : List (List Variable)) :
    (Occurrence.within params ⟨v, enclosing⟩).binder? ≠ none := by
  intro hnone
  exact (Occurrence.binder?_within_eq_none_iff.mp hnone).2 v h rfl

/-- A name is free in a tree exactly if some occurrence of it is not bound within the tree. -/
theorem mem_freeVariables_iff {name : String} {e : Expr} :
    name ∈ e.freeVariables ↔ ∃ o ∈ e.occurrences, o.var.name = name ∧ o.binder? = none := by
  induction e with
  | const value => simp [freeVariables]
  | prim p => simp [freeVariables]
  | var v =>
    have hfree : Occurrence.binder? ⟨v, []⟩ = none := rfl
    simp [freeVariables, hfree]
  | apply type fn args ihFn ihArgs =>
    have hargs : (∃ arg ∈ args, name ∈ arg.freeVariables) ↔
        ∃ o ∈ args.flatMap occurrences, o.var.name = name ∧ o.binder? = none := by
      constructor
      · rintro ⟨arg, harg, hname⟩
        obtain ⟨o, ho, hbound⟩ := (ihArgs arg harg).mp hname
        exact ⟨o, List.mem_flatMap.mpr ⟨arg, harg, ho⟩, hbound⟩
      · rintro ⟨o, ho, hbound⟩
        obtain ⟨arg, harg, ho⟩ := List.mem_flatMap.mp ho
        exact ⟨arg, harg, (ihArgs arg harg).mpr ⟨o, ho, hbound⟩⟩
    rw [freeVariables, Std.TreeSet.mem_union_iff, mem_freeVariablesAll, ihFn, hargs,
      occurrences_apply]
    simp only [List.mem_append, or_and_right, exists_or]
  | lambda _ type signature params body ih =>
    -- A name left over after erasing the parameters is one that no parameter binds in the body;
    -- the parameters themselves are occurrences too, but never free ones.
    rw [freeVariables, mem_foldl_erase, ih, occurrences_lambda]
    constructor
    · rintro ⟨⟨o, ho, rfl, hfree⟩, hparams⟩
      refine ⟨o.within params, List.mem_map_of_mem (List.mem_append_right _ ho), rfl, ?_⟩
      exact Occurrence.binder?_within_eq_none_iff.mpr ⟨hfree, hparams⟩
    · rintro ⟨_, hmem, rfl, hfree⟩
      obtain ⟨o, ho, rfl⟩ := List.mem_map.mp hmem
      rcases List.mem_append.mp ho with hparam | hbody
      · obtain ⟨v, hv, rfl⟩ := List.mem_map.mp hparam
        exact absurd hfree (binder?_param_ne_none hv [])
      · obtain ⟨hnone, hparams⟩ := Occurrence.binder?_within_eq_none_iff.mp hfree
        exact ⟨⟨o, hbody, rfl, hnone⟩, hparams⟩

/-- Every occurrence has a path exactly in the environments that have all free variables. -/
theorem forall_isSome_path?_iff {e : Expr} {env : Env} :
    (∀ o ∈ e.occurrences, (o.path? env).isSome = true) ↔
      ∀ name ∈ e.freeVariables, (env.lookup? name).isSome = true := by
  constructor
  · intro h name hname
    obtain ⟨o, ho, rfl, hfree⟩ := mem_freeVariables_iff.mp hname
    exact Occurrence.isSome_path?_iff.mp (h o ho) hfree
  · intro h o ho
    refine Occurrence.isSome_path?_iff.mpr fun hfree => ?_
    exact h o.var.name (mem_freeVariables_iff.mpr ⟨o, ho, rfl, hfree⟩)

/-! ## Words -/

/-- The number of functions around a node is a word, and so is the number of parameters of each of
    them. -/
def WithinWords (e : Expr) : Prop :=
  ∀ s ∈ e.sites, s.enclosing.length < UInt32.size ∧
    ∀ params ∈ s.enclosing, params.length < UInt32.size

instance (e : Expr) : Decidable e.WithinWords :=
  inferInstanceAs (Decidable (∀ s ∈ e.sites, s.enclosing.length < UInt32.size ∧
    ∀ params ∈ s.enclosing, params.length < UInt32.size))

theorem WithinWords.occurrence {e : Expr} (h : e.WithinWords) {o : Occurrence}
    (ho : o ∈ e.occurrences) :
    o.enclosing.length < UInt32.size ∧ ∀ params ∈ o.enclosing, params.length < UInt32.size := by
  obtain ⟨s, hs, hsame⟩ := exists_site_of_mem_occurrences ho
  rw [← hsame]
  exact h s hs

/-- The numbers that lead to a binder are words. -/
theorem WithinWords.binder?_toNat {e : Expr} (h : e.WithinWords) {o : Occurrence}
    (ho : o ∈ e.occurrences) {link slot : Nat} (hb : o.binder? = some (link, slot)) :
    (UInt32.ofNat link).toNat = link ∧ (UInt32.ofNat slot).toNat = slot := by
  obtain ⟨hdepth, hwidth⟩ := h.occurrence ho
  obtain ⟨⟨params, p, hparams, hp, -⟩, -⟩ := Occurrence.binder?_eq_some hb
  -- Both numbers are positions in lists that are short enough.
  have hlink : link < o.enclosing.length := (List.getElem?_eq_some_iff.mp hparams).1
  have hslot : slot < params.length := (List.getElem?_eq_some_iff.mp hp).1
  have hparams : params.length < UInt32.size := hwidth params (List.mem_of_getElem? hparams)
  exact ⟨UInt32.toNat_ofNat_of_lt' (by omega), UInt32.toNat_ofNat_of_lt' (by omega)⟩

/-- The links that an environment gives to the free names of a tree stay words inside its
    functions. -/
def LinksFit (env : Env) (e : Expr) : Prop :=
  ∀ o ∈ e.occurrences, o.binder? = none →
    ∀ link slot, env.lookup? o.var.name = some (.lexical link slot) →
      link.toNat + o.enclosing.length < UInt32.size

end Expr

/-- What a path says about an occurrence, in plain numbers: it names the parameter that binds the
    occurrence within its tree, or else what the environment has, as many functions further away as
    there are around the occurrence. -/
def Occurrence.Refers (env : Env) (o : Occurrence) : BindingPath → Prop
  | .lexical link slot =>
    o.binder? = some (link.toNat, slot.toNat) ∨
      o.binder? = none ∧ ∃ base, env.lookup? o.var.name = some (.lexical base slot) ∧
        link.toNat = base.toNat + o.enclosing.length
  | .global slot => o.binder? = none ∧ env.lookup? o.var.name = some (.global slot)

namespace Expr

theorem WithinWords.path?_of_binder?_iff {e : Expr} (h : e.WithinWords) {o : Occurrence}
    (ho : o ∈ e.occurrences) {link slot : Nat} (hb : o.binder? = some (link, slot)) (env : Env)
    (p : BindingPath) : o.path? env = some p ↔ o.Refers env p := by
  obtain ⟨hlink, hslot⟩ := h.binder?_toNat ho hb
  rw [Occurrence.path?_of_binder? hb]
  cases p with
  | lexical link' slot' =>
    simp only [Occurrence.Refers, hb, Option.some.injEq, BindingPath.lexical.injEq, Prod.mk.injEq,
      reduceCtorEq, false_and, or_false]
    rw [← UInt32.toNat_inj, ← UInt32.toNat_inj, hlink, hslot]
  | global slot' => simp [Occurrence.Refers, hb]

theorem LinksFit.path?_of_free_iff {env : Env} {e : Expr} (h : e.LinksFit env) {o : Occurrence}
    (ho : o ∈ e.occurrences) (hb : o.binder? = none) (p : BindingPath) :
    o.path? env = some p ↔ o.Refers env p := by
  rw [Occurrence.path?_of_binder?_eq_none hb]
  cases hl : env.lookup? o.var.name with
  | none => cases p <;> simp [Occurrence.Refers, hb, hl]
  | some q =>
    cases q with
    | global slot => cases p <;> simp [Occurrence.Refers, hb, hl]
    | lexical base slot =>
      -- The link does not wrap around, so the sum of words is the sum of numbers.
      have hfits := h o ho hb base slot hl
      have hsum : (base + UInt32.ofNat o.enclosing.length).toNat =
          base.toNat + o.enclosing.length := BindingPath.toNat_add_ofNat hfits
      cases p with
      | global slot' => simp [Occurrence.Refers, hb, hl]
      | lexical link' slot' =>
        simp only [Option.map_some, BindingPath.outwardBy_lexical, Occurrence.Refers, hb, hl]
        simp only [Option.some.injEq, BindingPath.lexical.injEq, reduceCtorEq, false_or, true_and]
        rw [← UInt32.toNat_inj, hsum]
        constructor
        · rintro ⟨hlink, rfl⟩
          exact ⟨base, ⟨rfl, rfl⟩, hlink.symm⟩
        · rintro ⟨_, ⟨rfl, rfl⟩, hlink⟩
          exact ⟨hlink.symm, rfl⟩

/-- While numbers stay words, the path of an occurrence is the one that refers to its binding. -/
theorem path?_eq_some_iff_refers {env : Env} {e : Expr} (hwords : e.WithinWords)
    (hlinks : e.LinksFit env) {o : Occurrence} (ho : o ∈ e.occurrences) (p : BindingPath) :
    o.path? env = some p ↔ o.Refers env p := by
  cases hb : o.binder? with
  | none => exact hlinks.path?_of_free_iff ho hb p
  | some found => exact hwords.path?_of_binder?_iff ho hb env p

end Expr

end ExprGraph
