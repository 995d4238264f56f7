/-
  ExprGraph.Proofs.Namespace.Stepwise

  Attaching a namespace is attaching its definitions one at a time.

  The namespace passes over its primitives and reports a failure under the name that a function is
  defined by; a tree that is attached by itself is named by its root, and a primitive attaches with
  nothing to do.  Every definition stands under the name of its node, so both ways come to the same
  (`Namespace.ending_attachTrees`).  The first function that cannot be attached ends the run: what
  stands before it is bound, and what stands only after it is as it was
  (`Namespace.attachAll_eq_attachTrees`).
-/

import ExprGraph.Proofs.Attach.Writes
import ExprGraph.Proofs.Namespace.Absorption
import ExprGraph.Proofs.Namespace.Slots

namespace ExprGraph

/-! ## Complete trees -/

/-- A tree with a name of its own goes by that name. -/
theorem Expr.definitionName_of_functionName? {e : Expr} {name : String}
    (h : e.functionName? = some name) : e.definitionName = name := by
  rw [definitionName, h, Option.getD_some]

/-- A node with a name of its own that is no function definition is a primitive. -/
theorem Expr.kind_eq_primitive {e : Expr} {name : String} (h : e.functionName? = some name)
    (hkind : e.kind ≠ .lambda) : e.kind = .primitive := by
  have hsome : e.functionName?.isSome = true := by
    rw [h]
    rfl
  exact (isSome_functionName?_iff.mp hsome).resolve_left hkind

/-- Attaching a complete tree, without the events. -/
theorem Expr.ending_attachTree (root : Expr) (env : Env) (b : Bindings) :
    (root.attachTree env b).ending =
      ((root.attach env b).mapError (ResolveError.bind root.definitionName)).ending := by
  have hopened : (root.attachTree env b).ending =
      (((root.attach env b).mapError (.bind root.definitionName)).andThen fun _ b =>
        Outcome.emit .treeAttached b).ending := rfl
  rw [hopened, Outcome.ending_andThen]
  cases ((root.attach env b).mapError (ResolveError.bind root.definitionName)).ending with
  | mk result c => cases result <;> rfl

/-- What is written at most to some variables leaves the others as they were. -/
theorem Outcome.WritesOnly.path?_of_not_mem {ε α : Type} {vars : List Variable} {b : Bindings}
    {o : Outcome Bindings ε α} (h : o.WritesOnly vars b) {v : Variable} (hv : v ∉ vars) :
    o.state.path? v = b.path? v := by
  obtain ⟨written, hwrites, hvars⟩ := h
  refine Option.ext fun p => ?_
  rw [hwrites.path?_iff]
  constructor
  · rintro (hbound | hmem)
    · exact hbound
    · exact absurd (hvars _ hmem) hv
  · exact .inl

namespace Namespace

variable {env : Env} {ds : List Definition} {b : Bindings}

/-! ## Definitions one at a time -/

/-- Attaches definitions as complete trees, one after the other, up to the first error. -/
def attachTrees (env : Env) : List Definition → Bindings → Outcome Bindings ResolveError Unit
  | [], b => .pure () b
  | d :: ds, b => (d.node.attachTree env b).andThen fun _ b => attachTrees env ds b

/-- Definitions that stand under the names of their nodes attach alike as complete trees. -/
theorem ending_attachTrees (env : Env) (hnamed : ∀ d ∈ ds, d.node.functionName? = some d.name)
    (b : Bindings) : (attachTrees env ds b).ending = (attachDefs env ds b).ending := by
  induction ds generalizing b with
  | nil => rfl
  | cons d ds ih =>
    obtain ⟨hname, hnamed⟩ := List.forall_mem_cons.mp hnamed
    rw [attachTrees, Outcome.ending_andThen, Expr.ending_attachTree,
      Expr.definitionName_of_functionName? hname]
    by_cases hkind : d.node.kind = .lambda
    · rw [attachDefs_cons_of_lambda hkind, Outcome.ending_andThen]
      simp only [ih hnamed]
    · -- A primitive attaches at once and leaves the bindings to the definitions after it.
      have hprim : d.node.kind = .primitive := Expr.kind_eq_primitive hname hkind
      have hattach : (d.node.attach env b).ending = (.ok (), b) := by
        rw [Expr.ending_attach, Expr.requests, Expr.occurrences_of_primitive hprim]
        rfl
      rw [attachDefs_cons_of_ne hkind, Outcome.ending_mapError, hattach]
      exact ih hnamed b

/-! ## The first function that fails -/

theorem attachDefs_append (env : Env) (ds es : List Definition) (b : Bindings) :
    attachDefs env (ds ++ es) b =
      (attachDefs env ds b).andThen fun _ b => attachDefs env es b := by
  induction ds generalizing b with
  | nil => simp [attachDefs]
  | cons d ds ih =>
    rw [List.cons_append]
    by_cases hkind : d.node.kind = .lambda
    · rw [attachDefs_cons_of_lambda hkind, attachDefs_cons_of_lambda hkind, Outcome.andThen_assoc]
      simp only [ih]
    · rw [attachDefs_cons_of_ne hkind, attachDefs_cons_of_ne hkind, ih]

/-- Definitions that were attached have no unbound variables. -/
theorem isSome_path?_of_attachDefs_ok (hnamed : ∀ d ∈ ds, d.node.functionName? = some d.name)
    (hok : (attachDefs env ds b).result = .ok ()) {d : Definition} (hd : d ∈ ds) {v : Variable}
    (hv : v ∈ d.node.variables) : ((attachDefs env ds b).state.path? v).isSome = true := by
  obtain ⟨o, ho, rfl⟩ := List.mem_map.mp hv
  by_cases hkind : d.node.kind = .lambda
  · obtain ⟨path, -, hpath⟩ := path?_of_attachDefs_ok hok hd hkind ho
    rw [hpath]
    rfl
  · have hprim : d.node.kind = .primitive := Expr.kind_eq_primitive (hnamed d hd) hkind
    rw [Expr.occurrences_of_primitive hprim] at ho
    cases ho

/-- A failing function ends the attachment, with an error under its own name. -/
theorem attachDefs_singleton_of_error {d : Definition} (hkind : d.node.kind = .lambda)
    {cause : BindError} (h : (d.node.attach env b).result = .error cause) :
    (attachDefs env [d] b).result = .error (.bind d.name cause) := by
  have hmapped : ((d.node.attach env b).mapError (ResolveError.bind d.name)).result =
      .error (.bind d.name cause) := by
    rw [Outcome.mapError, h]
    rfl
  rw [attachDefs_cons_of_lambda hkind, Outcome.andThen_of_error hmapped]

/-- An attachment fails at a function before which all definitions were attached. -/
theorem exists_of_attachDefs_error {e : ResolveError}
    (h : (attachDefs env ds b).result = .error e) :
    ∃ before d after cause, ds = before ++ d :: after ∧ d.node.kind = .lambda ∧
      (attachDefs env before b).result = .ok () ∧
      (d.node.attach env (attachDefs env before b).state).result = .error cause ∧
      e = .bind d.name cause := by
  induction ds generalizing b with
  | nil => cases h
  | cons d ds ih =>
    by_cases hkind : d.node.kind = .lambda
    · have hmapped : ((d.node.attach env b).mapError (ResolveError.bind d.name)).result =
          (d.node.attach env b).result.mapError (ResolveError.bind d.name) := rfl
      cases hresult : (d.node.attach env b).result with
      | error cause =>
        rw [hresult] at hmapped
        rw [attachDefs_cons_of_lambda hkind, Outcome.andThen_of_error hmapped] at h
        exact ⟨[], d, ds, cause, rfl, hkind, rfl, hresult, (Except.error.inj h).symm⟩
      | ok a =>
        rw [hresult] at hmapped
        rw [attachDefs_cons_of_lambda hkind, Outcome.andThen_of_ok hmapped] at h
        obtain ⟨before, d', after, cause, rfl, hkind', hbefore, hcause, rfl⟩ := ih h
        refine ⟨d :: before, d', after, cause, rfl, hkind', ?_, ?_, rfl⟩
        · rw [attachDefs_cons_of_lambda hkind, Outcome.andThen_of_ok hmapped]
          exact hbefore
        · rw [attachDefs_cons_of_lambda hkind, Outcome.andThen_of_ok hmapped]
          exact hcause
    · rw [attachDefs_cons_of_ne hkind] at h
      obtain ⟨before, d', after, cause, rfl, hkind', hbefore, hcause, rfl⟩ := ih h
      refine ⟨d :: before, d', after, cause, rfl, hkind', ?_, ?_, rfl⟩
      · rw [attachDefs_cons_of_ne hkind]
        exact hbefore
      · rw [attachDefs_cons_of_ne hkind]
        exact hcause

/-- A failing function leaves what the definitions before it have bound, and does not touch the
    variables that only later definitions use. -/
theorem state_attachDefs_of_error {before : List Definition} {d : Definition}
    (after : List Definition) (hbefore : (attachDefs env before b).result = .ok ())
    {e : ResolveError}
    (hfails : (attachDefs env [d] (attachDefs env before b).state).result = .error e) :
    (attachDefs env before b).state ≤ (attachDefs env (before ++ d :: after) b).state ∧
      ∀ v ∉ (before ++ [d]).flatMap fun d => d.node.variables,
        (attachDefs env (before ++ d :: after) b).state.path? v = b.path? v := by
  constructor
  · rw [attachDefs_append, Outcome.andThen_of_ok hbefore]
    exact le_state_attachDefs env (d :: after) _
  · intro v hv
    have hupTo : (attachDefs env (before ++ [d]) b).result = .error e := by
      rw [attachDefs_append, Outcome.andThen_of_ok hbefore]
      exact hfails
    have hsplit : before ++ d :: after = (before ++ [d]) ++ after := by simp
    rw [hsplit, attachDefs_append, Outcome.andThen_of_error hupTo]
    exact (writesOnly_attachDefs env (before ++ [d]) b).path?_of_not_mem hv

/-- Attaching a namespace has the result and leaves the bindings of attaching its definitions as
    complete trees, one after the other.  An error comes from the first definition that fails after
    all earlier ones were attached, which is a function, under its name; the variables of the
    definitions before it are bound, and those of none but later ones are as they were. -/
theorem attachAll_eq_attachTrees (nodes : List Expr) (b : Bindings) :
    let ns := empty.defineEach nodes
    (ns.attachAll b).result = (attachTrees ns.env ns.defs b).result ∧
      (ns.attachAll b).state = (attachTrees ns.env ns.defs b).state ∧
      ∀ e, (ns.attachAll b).result = .error e →
        ∃ before d after cause, ns.defs = before ++ d :: after ∧ d.node.kind = .lambda ∧
          (attachTrees ns.env before b).result = .ok () ∧
          (d.node.attach ns.env (attachTrees ns.env before b).state).result = .error cause ∧
          e = .bind d.name cause ∧
          (∀ d' ∈ before, ∀ v ∈ d'.node.variables,
            ((ns.attachAll b).state.path? v).isSome = true) ∧
          ∀ v ∉ (before ++ [d]).flatMap fun d => d.node.variables,
            (ns.attachAll b).state.path? v = b.path? v := by
  intro ns
  have hnamed : ∀ d ∈ ns.defs, d.node.functionName? = some d.name :=
    (indexed_empty.defineEach nodes).named
  have hending : (ns.attachAll b).ending = (attachTrees ns.env ns.defs b).ending :=
    (ns.ending_attachAll b).trans (ending_attachTrees ns.env hnamed b).symm
  refine ⟨congrArg Prod.fst hending, congrArg Prod.snd hending, ?_⟩
  intro e he
  have hdefs : (attachDefs ns.env ns.defs b).result = .error e := he
  obtain ⟨before, d, after, cause, hsplit, hkind, hbefore, hcause, rfl⟩ :=
    exists_of_attachDefs_error hdefs
  obtain ⟨hle, hunused⟩ := state_attachDefs_of_error after hbefore
    (attachDefs_singleton_of_error hkind hcause)
  have hnamed' : ∀ d' ∈ before, d'.node.functionName? = some d'.name := by
    intro d' hd'
    refine hnamed d' ?_
    rw [hsplit]
    exact List.mem_append_left _ hd'
  have htrees := ending_attachTrees ns.env hnamed' b
  have hresult : (attachTrees ns.env before b).result = (attachDefs ns.env before b).result :=
    congrArg Prod.fst htrees
  have hstate : (attachTrees ns.env before b).state = (attachDefs ns.env before b).state :=
    congrArg Prod.snd htrees
  have hfinal : (ns.attachAll b).state = (attachDefs ns.env (before ++ d :: after) b).state := by
    rw [← hsplit]
    rfl
  refine ⟨before, d, after, cause, hsplit, hkind, ?_, ?_, rfl, ?_, ?_⟩
  · rw [hresult]
    exact hbefore
  · rw [hstate]
    exact hcause
  · intro d' hd' v hv
    obtain ⟨path, hpath⟩ :=
      Option.isSome_iff_exists.mp (isSome_path?_of_attachDefs_ok hnamed' hbefore hd' hv)
    rw [hfinal, hle v path hpath]
    rfl
  · rw [hfinal]
    exact hunused

/-- A function, a primitive, a function that uses an unknown name, and one more function. -/
def sampleProgram : List Expr :=
  let unary : Ty := .fn (some .int) [.int]
  let x : Variable := ⟨0, "x", .int, none⟩
  let y : Variable := ⟨1, "y", .int, none⟩
  let negation : NativeValue := ⟨.fn .host .int [.int], ⟨"neg", fun (n : Int64) => -n⟩⟩
  [.lambda "id" unary "int(int)" [x] (.var x),
   .prim { name := "neg", type := unary, result := .int, function := negation },
   .lambda "lost" (.fn (some .int) []) "int()" [] (.var ⟨2, "nowhere", .int, none⟩),
   .lambda "late" unary "int(int)" [y] (.var y)]

theorem attachAll_eq_attachTrees_sampleProgram :
    let ns := empty.defineEach sampleProgram
    let e : ResolveError := .bind "lost" (.unbound "nowhere" none)
    (ns.attachAll .empty).result = .error e ∧
      (attachTrees ns.env ns.defs .empty).result = .error e ∧
      ∃ before d after, ns.defs = before ++ d :: after ∧ d.name = "lost" ∧
        (attachTrees ns.env before .empty).result = .ok () := by
  intro ns e
  have hfails : (ns.attachAll .empty).result = .error e := rfl
  obtain ⟨hresult, -, hfirst⟩ := attachAll_eq_attachTrees sampleProgram .empty
  obtain ⟨before, d, after, cause, hsplit, -, hbefore, -, he, -⟩ := hfirst e hfails
  obtain ⟨hname, -⟩ := ResolveError.bind.inj he
  exact ⟨hfails, hresult.symm.trans hfails, before, d, after, hsplit, hname.symm, hbefore⟩

end Namespace

end ExprGraph
