/-
  ExprGraph.Proofs.Namespace.Addressing

  Attached programs are addressed correctly.

  Attaching a namespace is attaching its functions one after the other, each as a job of its own
  against the whole namespace.  When it succeeds, every occurrence in every function has a path, and
  the path leads to the binder of the occurrence: the nearest function around it with a parameter of
  its name, or else the definition of that name.  Later definitions take nothing of this away.
-/

import ExprGraph.Namespace.Attach
import ExprGraph.Proofs.Attach.Jobs
import ExprGraph.Proofs.Namespace.Definitions

namespace ExprGraph

/-! ## Errors under a name -/

/-- The fault of a variable that an error reports, if it reports one. -/
def ResolveError.cause? : ResolveError → Option BindError
  | .bind _ cause => some cause
  | _ => none

theorem mapError_eq_ok_iff {ε ε' α : Type} {f : ε → ε'} {result : Except ε α} {a : α} :
    result.mapError f = .ok a ↔ result = .ok a := by
  cases result <;> simp [Except.mapError]

namespace Outcome

variable {σ ε ε' ε'' α β : Type}

theorem mapError_mapError (o : Outcome σ ε α) (f : ε → ε') (g : ε' → ε'') :
    (o.mapError f).mapError g = o.mapError (g ∘ f) := by
  obtain ⟨result, state, events⟩ := o
  cases result <;> rfl

theorem mapError_andThen (o : Outcome σ ε α) (next : α → σ → Outcome σ ε β) (f : ε → ε') :
    (o.andThen next).mapError f = (o.mapError f).andThen fun a s => (next a s).mapError f := by
  obtain ⟨result, state, events⟩ := o
  cases result <;> rfl

end Outcome

namespace Namespace

/-! ## Functions as jobs -/

/-- The jobs of the functions among some definitions. -/
def jobs (env : Env) (ds : List Definition) : List Job :=
  (ds.filter fun d => d.node.kind = .lambda).map fun d => ⟨d.node, env⟩

theorem mem_jobs_iff {env : Env} {ds : List Definition} {j : Job} :
    j ∈ jobs env ds ↔ ∃ d ∈ ds, d.node.kind = .lambda ∧ ⟨d.node, env⟩ = j := by
  simp [jobs, and_assoc]

/-- Attaching definitions is attaching their jobs, but for the names in the errors. -/
theorem mapError_attachDefs (env : Env) (ds : List Definition) (b : Bindings) :
    (attachDefs env ds b).mapError ResolveError.cause? =
      (Job.attachEach (jobs env ds) b).mapError some := by
  induction ds generalizing b with
  | nil => rfl
  | cons d ds ih =>
    by_cases hkind : d.node.kind = .lambda
    · have hjobs : jobs env (d :: ds) = ⟨d.node, env⟩ :: jobs env ds := by
        simp [jobs, hkind]
      have hnamed : ((d.node.attach env b).mapError (ResolveError.bind d.name)).mapError
          ResolveError.cause? = (d.node.attach env b).mapError some :=
        Outcome.mapError_mapError ..
      rw [hjobs, attachDefs_cons_of_lambda hkind, Job.attachEach, Outcome.mapError_andThen,
        Outcome.mapError_andThen, hnamed]
      simp only [ih]
    · -- Definitions that are no functions are passed over on both sides.
      have hjobs : jobs env (d :: ds) = jobs env ds := by
        simp [jobs, hkind]
      rw [hjobs, attachDefs_cons_of_ne hkind]
      exact ih b

/-- Attaching definitions leaves the bindings of their jobs and succeeds when these do. -/
theorem attachDefs_jobs (env : Env) (ds : List Definition) (b : Bindings) :
    (attachDefs env ds b).state = (Job.attachEach (jobs env ds) b).state ∧
      ((attachDefs env ds b).result = .ok () ↔
        (Job.attachEach (jobs env ds) b).result = .ok ()) := by
  have hsame := mapError_attachDefs env ds b
  have hresult : (attachDefs env ds b).result.mapError ResolveError.cause? =
      (Job.attachEach (jobs env ds) b).result.mapError some := congrArg Outcome.result hsame
  have hstate : (attachDefs env ds b).state = (Job.attachEach (jobs env ds) b).state :=
    congrArg Outcome.state hsame
  refine ⟨hstate, ?_⟩
  rw [← mapError_eq_ok_iff, hresult, mapError_eq_ok_iff]

theorem attachAll_jobs (ns : Namespace) (b : Bindings) :
    (ns.attachAll b).state = (Job.attachEach (jobs ns.env ns.defs) b).state ∧
      ((ns.attachAll b).result = .ok () ↔
        (Job.attachEach (jobs ns.env ns.defs) b).result = .ok ()) := by
  exact attachDefs_jobs ns.env ns.defs b

/-- Definitions that were attached leave every occurrence in their functions its path. -/
theorem path?_of_attachDefs_ok {env : Env} {ds : List Definition} {b : Bindings}
    (hok : (attachDefs env ds b).result = .ok ()) {d : Definition} (hd : d ∈ ds)
    (hkind : d.node.kind = .lambda) {o : Occurrence} (ho : o ∈ d.node.occurrences) :
    ∃ path, o.path? env = some path ∧ (attachDefs env ds b).state.path? o.var = some path := by
  obtain ⟨hstate, hresult⟩ := attachDefs_jobs env ds b
  have hjob : (⟨d.node, env⟩ : Job) ∈ jobs env ds := mem_jobs_iff.mpr ⟨d, hd, hkind, rfl⟩
  rw [hstate]
  exact Job.path?_of_attachEach_ok (hresult.mp hok) hjob ho

/-- A path leads from an occurrence to its binder: outward over functions without a parameter of the
    name to one that has it, or out of all of them to the definition of the name. -/
def LeadsToBinder (ns : Namespace) (o : Occurrence) : BindingPath → Prop
  | .lexical link slot =>
    link.toNat < o.enclosing.length ∧
      (∃ params p, o.enclosing[link.toNat]? = some params ∧ params[slot.toNat]? = some p ∧
        p.name = o.var.name) ∧
      ∀ params ∈ o.enclosing.take link.toNat, ∀ p ∈ params, p.name ≠ o.var.name
  | .global slot =>
    (∀ params ∈ o.enclosing, ∀ p ∈ params, p.name ≠ o.var.name) ∧
      ∃ d, ns.get? slot = some d ∧ d.name = o.var.name

theorem LeadsToBinder.defineEach {ns : Namespace} {o : Occurrence} {path : BindingPath}
    (h : ns.LeadsToBinder o path) (nodes : List Expr) :
    (ns.defineEach nodes).LeadsToBinder o path := by
  cases path with
  | lexical link slot => exact h
  | global slot =>
    obtain ⟨hfree, d, hget, hname⟩ := h
    exact ⟨hfree, d, get?_defineEach hget nodes, hname⟩

/-- The path of an occurrence in a tree attached to a namespace leads to its binder. -/
theorem leadsToBinder_of_path? {ns : Namespace} (hsize : ns.size ≤ UInt32.size) {e : Expr}
    (hwords : e.WithinWords) {o : Occurrence} (ho : o ∈ e.occurrences) {path : BindingPath}
    (h : o.path? ns.env = some path) : ns.LeadsToBinder o path := by
  cases hb : o.binder? with
  | some found =>
    obtain ⟨link, slot⟩ := found
    obtain ⟨hlink, hslot⟩ := hwords.binder?_toNat ho hb
    obtain ⟨⟨params, p, hparams, hp, hname⟩, hpassed⟩ := Occurrence.binder?_eq_some hb
    rw [Occurrence.path?_of_binder? hb] at h
    obtain rfl := Option.some.inj h
    simp only [LeadsToBinder, hlink, hslot]
    exact ⟨(List.getElem?_eq_some_iff.mp hparams).1, ⟨params, p, hparams, hp, hname⟩, hpassed⟩
  | none =>
    -- The namespace answers, with a global path, which functions in between leave unchanged.
    rw [Occurrence.path?_of_binder?_eq_none hb, Option.map_eq_some_iff] at h
    obtain ⟨base, hbase, rfl⟩ := h
    obtain ⟨slot, d, rfl, hget, hname⟩ := path?_eq_some hsize hbase
    exact ⟨Occurrence.binder?_eq_none_iff.mp hb, d, hget, hname⟩

/-- When all definitions have been attached, every occurrence in every defined function has a path
    that leads to its binder, and it still does after any later definitions. -/
theorem attachAll_leadsToBinder (nodes later : List Expr) (b : Bindings)
    (hsize : (empty.defineEach nodes).size < UInt32.size)
    (hwords : ∀ d ∈ (empty.defineEach nodes).defs, d.node.WithinWords)
    (hok : ((empty.defineEach nodes).attachAll b).result = .ok ()) :
    ∀ d ∈ (empty.defineEach nodes).defs, d.node.kind = .lambda → ∀ o ∈ d.node.occurrences,
      ∃ path, ((empty.defineEach nodes).attachAll b).state.path? o.var = some path ∧
        ((empty.defineEach nodes).defineEach later).LeadsToBinder o path := by
  intro d hd hkind o ho
  generalize empty.defineEach nodes = ns at *
  obtain ⟨hstate, hresult⟩ := ns.attachAll_jobs b
  have hjob : (⟨d.node, ns.env⟩ : Job) ∈ jobs ns.env ns.defs := by
    refine List.mem_map.mpr ⟨d, List.mem_filter.mpr ⟨hd, ?_⟩, rfl⟩
    simpa using hkind
  -- The run leaves each occurrence its own path, and that path leads to the binder.
  obtain ⟨path, hpath, hfinal⟩ := Job.path?_of_attachEach_ok (hresult.mp hok) hjob ho
  have hleads := leadsToBinder_of_path? (Nat.le_of_lt hsize) (hwords d hd) ho hpath
  refine ⟨path, ?_, hleads.defineEach later⟩
  rw [hstate]
  exact hfinal

/-- A function whose body holds a function that calls a definition on the outer parameter, the
    definition that it calls, and a definition refused because its name is taken. -/
def sampleNodes : List Expr :=
  let unary : Ty := .fn (some .float) [.float]
  let outer : Variable := ⟨0, "x", .float, none⟩
  let inner : Variable := ⟨1, "y", .float, none⟩
  let call : Expr := .apply .float (.var ⟨2, "g", unary, none⟩) [.var ⟨3, "x", .float, none⟩]
  let identity : Expr := .lambda "g" unary "float(float)" [inner] (.var inner)
  let nested : Expr := .lambda "h" unary "float(float)" [inner] call
  [.lambda "f" (.fn (some unary) [.float]) "float(float)(float)" [outer] nested, identity, identity]

theorem attachAll_leadsToBinder_sampleNodes :
    ((empty.defineEach sampleNodes).attachAll .empty).result = .ok () ∧
      ∀ d ∈ (empty.defineEach sampleNodes).defs, d.node.kind = .lambda →
        ∀ o ∈ d.node.occurrences,
          ∃ path, ((empty.defineEach sampleNodes).attachAll .empty).state.path? o.var = some path ∧
            ((empty.defineEach sampleNodes).defineEach sampleNodes).LeadsToBinder o path :=
  ⟨by rfl, attachAll_leadsToBinder sampleNodes sampleNodes .empty (by decide) (by decide) (by rfl)⟩

end Namespace

end ExprGraph
