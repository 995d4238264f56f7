/-
  ExprGraph.Proofs.Attach.Account

  The events of an attachment as an account of the nodes that it goes through.

  The account is kept site by site along a visit (`Site.account`): a function is reported with its
  name and the number of its parameters, a variable with its path if this very step has filled its
  cell, and nothing else is reported.  What the cells hold before and after a site is read off the
  flat run through the requests, so the account mentions no attachment.  It ends at the first
  variable that cannot be given its path, that one included (`Site.RunsTo`), and the events of a
  tree and of a namespace are this account between the events that open and close the attachment
  (`attachment_events_eq_account`).
-/

import ExprGraph.Proofs.Namespace.Addressing

namespace ExprGraph

namespace Site

variable {env : Env} {ss ts passed : List Site} {b : Bindings}

/-! ## Requests of sites -/

/-- What the sites ask for, in order. -/
def requests (env : Env) (ss : List Site) : List Request :=
  (ss.filterMap occurrence?).map (·.request env)

theorem requests_cons (env : Env) (s : Site) (ss : List Site) :
    requests env (s :: ss) = requests env [s] ++ requests env ss := by
  rw [requests, requests, requests, ← List.map_append, ← List.filterMap_append,
    List.singleton_append]

theorem requests_singleton (env : Env) (s : Site) :
    requests env [s] = s.occurrence?.toList.map (·.request env) := by
  cases h : s.occurrence? <;> simp [requests, h]

/-- The bindings after a site. -/
def after (env : Env) (s : Site) (b : Bindings) : Bindings := (settle (requests env [s]) b).2

theorem ending_attach_eq_settle (env : Env) (s : Site) (b : Bindings) :
    (s.attach env b).ending = settle (requests env [s]) b := by
  rw [ending_attach, requests_singleton]

theorem state_attach (env : Env) (s : Site) (b : Bindings) :
    (s.attach env b).state = s.after env b :=
  congrArg Prod.snd (s.ending_attach_eq_settle env b)

/-! ## The account -/

/-- What is reported of a site, given the bindings before and after it: a function, or a variable
    that had no path and has one now. -/
def report (s : Site) (b c : Bindings) : List Event :=
  match s.node with
  | .lambda name _ _ params _ => [.enteringLambda name params.length]
  | .var v =>
    match b.path? v, c.path? v with
    | none, some path => [.variableBound v.name path]
    | _, _ => []
  | _ => []

/-- What is reported of sites, one after the other. -/
def account (env : Env) : List Site → Bindings → List Event
  | [], _ => []
  | s :: ss, b => s.report b (s.after env b) ++ account env ss (s.after env b)

/-- A run along sites goes through all of them, or up to the first whose request cannot be met; it
    has passed the sites so far, this one included, and ends with the fault of the request. -/
inductive RunsTo (env : Env) (b : Bindings) (ss : List Site) :
    List Site → Except BindError Unit → Prop where
  | all (hmet : (settle (requests env ss) b).1 = .ok ()) : RunsTo env b ss ss (.ok ())
  | upTo {before later : List Site} {s : Site} {o : Occurrence} {cause : BindError}
      (hsplit : ss = before ++ s :: later) (ho : s.occurrence? = some o)
      (hmet : (settle (requests env before) b).1 = .ok ())
      (hfault : (o.request env).fault? (settle (requests env before) b).2 = some cause) :
      RunsTo env b ss (before ++ [s]) (.error cause)

/-! ## The events of a run along sites -/

theorem events_attach_var (env : Env) (v : Variable) (b : Bindings) :
    (v.attach env b).events =
      match b.path? v, (v.attach env b).state.path? v with
      | none, some path => [.variableBound v.name path]
      | _, _ => [] := by
  unfold Variable.attach
  cases env.lookup? v.name with
  | none => cases hv : b.path? v <;> simp [Outcome.fail, hv]
  | some path =>
    cases hv : b.path? v with
    | none => simp
    | some previous =>
      by_cases hsame : previous = path
      · simp [hsame, Outcome.pure]
      · simp [hsame, Outcome.fail]

/-- A step along a site reports what it has done to the bindings. -/
theorem events_attach (env : Env) (s : Site) (b : Bindings) :
    (s.attach env b).events = s.report b (s.after env b) := by
  rw [← state_attach]
  obtain ⟨node, enclosing⟩ := s
  cases node with
  | var v => exact events_attach_var (innerEnv env enclosing) v b
  | lambda name type signature params body => rfl
  | const value => rfl
  | prim p => rfl
  | apply type fn args => rfl

/-- A site that cannot be attached is an occurrence whose request is at fault. -/
theorem fault?_of_attach_error {s : Site} {cause : BindError}
    (h : (s.attach env b).result = .error cause) :
    ∃ o, s.occurrence? = some o ∧ (o.request env).fault? b = some cause := by
  have hsettle : (settle (requests env [s]) b).1 = .error cause := by
    rw [← ending_attach_eq_settle]
    exact h
  rw [requests_singleton] at hsettle
  cases ho : s.occurrence? with
  | none =>
    rw [ho] at hsettle
    cases hsettle
  | some o =>
    rw [ho] at hsettle
    have hone : (settle [o.request env] b).1 = .error cause := hsettle
    refine ⟨o, rfl, ?_⟩
    cases hfault : (o.request env).fault? b with
    | none =>
      rw [settle_cons_of_met hfault] at hone
      cases hone
    | some e =>
      rw [settle_cons_of_fault hfault] at hone
      rw [Except.error.inj hone]

/-- A run along a site that is met and the sites after it. -/
theorem RunsTo.cons {s : Site} {result : Except BindError Unit}
    (hmet : (settle (requests env [s]) b).1 = .ok ())
    (h : RunsTo env (s.after env b) ss passed result) :
    RunsTo env b (s :: ss) (s :: passed) result := by
  have hsettle : ∀ ts : List Site,
      settle (requests env (s :: ts)) b = settle (requests env ts) (s.after env b) := by
    intro ts
    have hone : settle (requests env [s]) b = (.ok (), s.after env b) := Prod.ext hmet rfl
    rw [requests_cons, settle_append, hone]
  cases h with
  | all hall =>
    refine .all ?_
    rw [hsettle]
    exact hall
  | upTo hsplit ho hbefore hfault =>
    rw [← List.cons_append]
    refine .upTo (by rw [hsplit, List.cons_append]) ho ?_ ?_
    · rw [hsettle]
      exact hbefore
    · rw [hsettle]
      exact hfault

/-- A run along sites reports the account of the sites that it has passed. -/
theorem exists_runsTo (env : Env) (ss : List Site) (b : Bindings) :
    ∃ passed, RunsTo env b ss passed (attachAll env ss b).result ∧
      (attachAll env ss b).events = account env passed b := by
  induction ss generalizing b with
  | nil => exact ⟨[], .all rfl, rfl⟩
  | cons s ss ih =>
    have hending := s.ending_attach_eq_settle env b
    cases hresult : (s.attach env b).result with
    | error cause =>
      obtain ⟨o, ho, hfault⟩ := fault?_of_attach_error hresult
      refine ⟨[s], ?_, ?_⟩
      · rw [attachAll, Outcome.andThen_of_error hresult]
        exact RunsTo.upTo (List.nil_append (s :: ss)).symm ho rfl hfault
      · rw [attachAll, Outcome.andThen_of_error hresult, events_attach]
        simp [account]
    | ok a =>
      have hmet : (settle (requests env [s]) b).1 = .ok () := by
        rw [← hending]
        exact hresult
      obtain ⟨passed, hruns, hevents⟩ := ih (s.after env b)
      refine ⟨s :: passed, ?_, ?_⟩
      · rw [attachAll, Outcome.andThen_of_ok hresult, state_attach]
        exact hruns.cons hmet
      · rw [attachAll, Outcome.andThen_of_ok hresult, state_attach, events_attach, hevents]
        rfl

end Site

/-! ## Trees and namespaces -/

/-- Attaching a complete tree accounts for the sites that it passes, between an event that opens the
    attachment and, if it succeeds, one that closes it. -/
theorem Expr.exists_runsTo_attachTree (root : Expr) (env : Env) (b : Bindings) :
    ∃ passed result, Site.RunsTo env b root.sites passed result ∧
      (root.attachTree env b).result = result.mapError (.bind root.definitionName) ∧
      (root.attachTree env b).events =
        .attachingTree root.kind ::
          (Site.account env passed b ++ if result.isOk then [.treeAttached] else []) := by
  obtain ⟨passed, hruns, hevents⟩ := Site.exists_runsTo env root.sites b
  rw [← attach_eq_attachAll] at hruns hevents
  refine ⟨passed, (root.attach env b).result, hruns, ?_⟩
  have hopened : root.attachTree env b =
      (Outcome.emit (.attachingTree root.kind) b).andThen fun _ b =>
        ((root.attach env b).mapError (.bind root.definitionName)).andThen fun _ b =>
          Outcome.emit .treeAttached b := rfl
  rw [hopened, ← hevents]
  cases hattach : root.attach env b with
  | mk result state events =>
    cases result <;>
      simp [Outcome.andThen, Outcome.emit, Outcome.mapError, hattach, Except.mapError, Except.isOk,
        Except.toBool]

namespace Namespace

/-- Attaching definitions is a run along the sites of the functions among them, but for the names
    in the errors. -/
theorem mapError_attachDefs_eq_attachAll (env : Env) (ds : List Definition) (b : Bindings) :
    (attachDefs env ds b).mapError ResolveError.cause? =
      (Site.attachAll env ((ds.filter fun d => d.node.kind = .lambda).flatMap fun d =>
        d.node.sites) b).mapError some := by
  have hsites : ∀ (es : List Expr) (b : Bindings),
      Job.attachEach (es.map fun e => ⟨e, env⟩) b =
        Site.attachAll env (es.flatMap Expr.sites) b := by
    intro es
    induction es with
    | nil => exact fun _ => rfl
    | cons e es ih =>
      intro b
      rw [List.map_cons, List.flatMap_cons, Job.attachEach, Site.attachAll_append,
        Expr.attach_eq_attachAll]
      simp only [ih]
  have hfunctions := hsites ((ds.filter fun d => d.node.kind = .lambda).map (·.node)) b
  rw [mapError_attachDefs]
  rw [List.map_map, List.flatMap_map] at hfunctions
  exact congrArg (Outcome.mapError some) hfunctions

/-- Attaching a namespace opens with an event and then accounts for the sites of its functions, in
    the order of their slots, as far as it passes them. -/
theorem exists_runsTo_attachAll (ns : Namespace) (b : Bindings) :
    ∃ passed result,
      Site.RunsTo ns.env b
        ((ns.defs.filter fun d => d.node.kind = .lambda).flatMap fun d => d.node.sites) passed
        result ∧
      (ns.attachAll b).result.mapError ResolveError.cause? = result.mapError some ∧
      (ns.attachAll b).events = .attachingGlobals ns.size :: Site.account ns.env passed b := by
  let sites := (ns.defs.filter fun d => d.node.kind = .lambda).flatMap fun d => d.node.sites
  obtain ⟨passed, hruns, hevents⟩ := Site.exists_runsTo ns.env sites b
  have hsame := mapError_attachDefs_eq_attachAll ns.env ns.defs b
  have hreported : (attachDefs ns.env ns.defs b).events = Site.account ns.env passed b :=
    (congrArg Outcome.events hsame).trans hevents
  refine ⟨passed, _, hruns, congrArg Outcome.result hsame, ?_⟩
  rw [← hreported]
  rfl

end Namespace

/-- The events of an attachment are a faithful account of it.  The sites of a tree are the nodes
    that a visit shows.  Attaching the tree reports its kind, then the functions and the newly bound
    variables among its sites up to the first that cannot be attached, and at last its success.
    Attaching a namespace reports the number of its definitions and then does the same along its
    functions in the order of their slots. -/
theorem attachment_events_eq_account (root : Expr) (env : Env) (ns : Namespace) (b : Bindings) :
    root.sites.map Site.node = root.visited ∧
      (∃ passed result, Site.RunsTo env b root.sites passed result ∧
        (root.attachTree env b).result = result.mapError (.bind root.definitionName) ∧
        (root.attachTree env b).events =
          .attachingTree root.kind ::
            (Site.account env passed b ++ if result.isOk then [.treeAttached] else [])) ∧
      ∃ passed result,
        Site.RunsTo ns.env b
          ((ns.defs.filter fun d => d.node.kind = .lambda).flatMap fun d => d.node.sites) passed
          result ∧
        (ns.attachAll b).result.mapError ResolveError.cause? = result.mapError some ∧
        (ns.attachAll b).events = .attachingGlobals ns.size :: Site.account ns.env passed b :=
  ⟨root.map_node_sites.trans root.visited_eq_preorder.symm, root.exists_runsTo_attachTree env b,
    ns.exists_runsTo_attachAll b⟩

/-- A tree that fails at its last node has reported its function and the variables bound so far. -/
example :
    (sampleTree.attachTree (.ofList [("g", .global 3)]) .empty).events =
      [.attachingTree .lambda, .enteringLambda "f" 1, .variableBound "x" (.lexical 0 0),
        .variableBound "g" (.global 3)] := by
  rfl

end ExprGraph
