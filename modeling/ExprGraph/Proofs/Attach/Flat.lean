/-
  ExprGraph.Proofs.Attach.Flat

  Attaching a tree is one run along a list.

  The pass goes down the tree and opens a scope for every function.  The same happens, events
  included, in a run over the sites of the tree from left to right, each in the environment seen
  from it (`Expr.attach_eq_attachAll`).  What the run leaves in the variables needs no scopes at
  all: every occurrence asks for the path that its tree and its environment give its name, and
  `settle` goes through these requests from the left, fills empty cells, and stops at the first
  request that no path or another path stands against (`Expr.ending_attach`).
-/

import ExprGraph.Proofs.Attach.Settle
import ExprGraph.Proofs.Expr.Resolution

namespace ExprGraph

/-! ## A run over sites -/

namespace Site

/-- The environment as seen from inside functions, given from the innermost to the outermost. -/
def innerEnv (env : Env) (enclosing : List (List Variable)) : Env :=
  env.enterAll (enclosing.reverse.map fun params => params.map (·.name))

/-- What attaching does at one site: a function reports its scope, a variable is given its path. -/
def attach (env : Env) : Site → Bindings → Attachment
  | ⟨.var v, enclosing⟩, b => v.attach (innerEnv env enclosing) b
  | ⟨.lambda name _ _ params _, _⟩, b => .emit (.enteringLambda name params.length) b
  | _, b => .pure () b

/-- Attaches sites one after the other, up to the first error. -/
def attachAll (env : Env) : List Site → Bindings → Attachment
  | [], b => .pure () b
  | s :: ss, b => (s.attach env b).andThen fun _ b => attachAll env ss b

theorem innerEnv_append_singleton (env : Env) (enclosing : List (List Variable))
    (params : List Variable) :
    innerEnv env (enclosing ++ [params]) =
      innerEnv (env.enter (params.map (·.name))) enclosing := by
  simp [innerEnv]

theorem attach_within (env : Env) (params : List Variable) (s : Site) :
    (s.within params).attach env = s.attach (env.enter (params.map (·.name))) := by
  obtain ⟨node, enclosing⟩ := s
  cases node with
  | var v =>
    funext b
    simp only [within, attach, innerEnv_append_singleton]
  | const value => rfl
  | prim p => rfl
  | apply type fn args => rfl
  | lambda name type signature params' body => rfl

theorem attachAll_append (env : Env) (ss ts : List Site) (b : Bindings) :
    attachAll env (ss ++ ts) b = (attachAll env ss b).andThen fun _ b => attachAll env ts b := by
  induction ss generalizing b with
  | nil => simp [attachAll]
  | cons s ss ih =>
    simp only [List.cons_append, attachAll, ih]
    rw [Outcome.andThen_assoc]

theorem attachAll_map_within (env : Env) (params : List Variable) (ss : List Site) (b : Bindings) :
    attachAll env (ss.map (within params)) b =
      attachAll (env.enter (params.map (·.name))) ss b := by
  induction ss generalizing b with
  | nil => rfl
  | cons s ss ih => simp only [List.map_cons, attachAll, attach_within, ih]

theorem attachAll_params (env : Env) (params : List Variable) (b : Bindings) :
    attachAll env (params.map fun v => Site.mk (.var v) []) b = attachParams env params b := by
  induction params generalizing b with
  | nil => rfl
  | cons v params ih =>
    simp only [List.map_cons, attachAll, attachParams, ih]
    rfl

end Site

namespace Expr

theorem attachAll_eq_attachAll {env : Env} {es : List Expr}
    (h : ∀ e ∈ es, ∀ b, e.attach env b = Site.attachAll env e.sites b) (b : Bindings) :
    attachAll env es b = Site.attachAll env (sitesAll es) b := by
  induction es generalizing b with
  | nil => rfl
  | cons e es ih =>
    have hes := ih fun e' he' => h e' (List.mem_cons_of_mem _ he')
    rw [attachAll, sitesAll, Site.attachAll_append, h e (List.mem_cons_self ..)]
    simp only [hes]

theorem attach_eq_attachAll (env : Env) (e : Expr) (b : Bindings) :
    e.attach env b = Site.attachAll env e.sites b := by
  -- The environment is generalized because a function attaches its parts inside its own scope.
  induction e generalizing env b with
  | const value => simp [attach, sites, Site.attachAll, Site.attach]
  | prim p => simp [attach, sites, Site.attachAll, Site.attach]
  | var v =>
    simp only [attach, sites, Site.attachAll, Site.attach, Outcome.andThen_pure]
    rfl
  | apply type fn args ihFn ihArgs =>
    have hargs := fun b => attachAll_eq_attachAll (fun e he b => ihArgs e he env b) b
    simp only [attach, sites, Site.attachAll, Site.attach, Outcome.pure_andThen,
      Site.attachAll_append, ihFn, hargs]
  | lambda name type signature params body ih =>
    simp only [attach, sites, Site.attachAll, Site.attach, Site.attachAll_map_within,
      Site.attachAll_append, Site.attachAll_params, ih]

end Expr

/-! ## What a tree asks for -/

def Occurrence.request (env : Env) (o : Occurrence) : Request := ⟨o.var, o.path? env⟩

/-- What the occurrences of a tree ask for, in the order of a visit. -/
def Expr.requests (env : Env) (e : Expr) : List Request := e.occurrences.map (·.request env)

/-! ## The pass and the requests -/

/-- The result and the state of a step, without its events. -/
def Outcome.ending {σ ε α : Type} (o : Outcome σ ε α) : Except ε α × σ := (o.result, o.state)

theorem Outcome.ending_andThen {σ ε α β : Type} (o : Outcome σ ε α)
    (next : α → σ → Outcome σ ε β) :
    (o.andThen next).ending =
      match o.ending with
      | (.ok a, s) => (next a s).ending
      | (.error e, s) => (.error e, s) := by
  obtain ⟨result, state, events⟩ := o
  cases result <;> rfl

/-- The environment seen from an occurrence has the path of the occurrence. -/
theorem Occurrence.lookup?_innerEnv (env : Env) (o : Occurrence) :
    (Site.innerEnv env o.enclosing).lookup? o.var.name = o.path? env := by
  -- Scopes are entered from the outermost inward and searched from the innermost outward.
  rw [Site.innerEnv, Env.lookup?_enterAll, ← List.map_reverse, List.reverse_reverse]
  rfl

/-- Attaching one variable meets its request or reports why it cannot be met. -/
theorem Variable.ending_attach (env : Env) (v : Variable) (b : Bindings) :
    (v.attach env b).ending = settle [⟨v, env.lookup? v.name⟩] b := by
  unfold Variable.attach settle Request.fault? Request.fill
  cases env.lookup? v.name with
  | none => rfl
  | some path =>
    cases b.path? v with
    | none => rfl
    | some previous =>
      by_cases h : previous = path
      · simp [h, Outcome.ending]
      · simp [h, Outcome.ending, Outcome.fail]

theorem Site.ending_attach (env : Env) (s : Site) (b : Bindings) :
    (s.attach env b).ending = settle (s.occurrence?.toList.map (·.request env)) b := by
  obtain ⟨node, enclosing⟩ := s
  -- Only a variable asks for anything; the other nodes leave the bindings as they are.
  cases node with
  | var v =>
    have hpath := Occurrence.lookup?_innerEnv env ⟨v, enclosing⟩
    rw [attach, Variable.ending_attach, hpath]
    rfl
  | const value => rfl
  | prim p => rfl
  | apply type fn args => rfl
  | lambda name type signature params body => rfl

theorem Site.ending_attachAll (env : Env) (ss : List Site) (b : Bindings) :
    (attachAll env ss b).ending = settle ((ss.filterMap occurrence?).map (·.request env)) b := by
  induction ss generalizing b with
  | nil => rfl
  | cons s ss ih =>
    have hcons : (s :: ss).filterMap occurrence? =
        s.occurrence?.toList ++ ss.filterMap occurrence? := by
      cases h : s.occurrence? <;> simp [h]
    rw [attachAll, Outcome.ending_andThen, hcons, List.map_append, settle_append, ending_attach]
    simp only [ih]
    cases settle (s.occurrence?.toList.map (·.request env)) b with
    | mk result b' => cases result <;> rfl

/-- Attaching a tree is going through the requests of its occurrences. -/
theorem Expr.ending_attach (env : Env) (e : Expr) (b : Bindings) :
    (e.attach env b).ending = settle (e.requests env) b := by
  rw [attach_eq_attachAll, Site.ending_attachAll]
  rfl

/-- The requests of a tree are for the variables that a visit shows. -/
theorem Expr.map_var_requests (env : Env) (e : Expr) :
    (e.requests env).map Request.var =
      e.visited.filterMap fun node => node.asVariable.toOption := by
  rw [← map_var_occurrences, requests, List.map_map]
  rfl

/-- Attaching a tree has the result and leaves the bindings of the flat run, which takes the
    variables in the order of a visit.  It succeeds exactly if the run comes to no request at fault.
    While numbers stay words, each occurrence asks for the path that refers to its binding. -/
theorem Expr.attach_eq_flat_run (e : Expr) (env : Env) (b : Bindings) :
    (e.attach env b).result = (settle (e.requests env) b).1 ∧
      (e.attach env b).state = (settle (e.requests env) b).2 ∧
      (e.requests env).map Request.var =
        (e.visited.filterMap fun node => node.asVariable.toOption) ∧
      ((e.attach env b).result = .ok () ↔
        ∀ before r after, e.requests env = before ++ r :: after →
          r.fault? (settle before b).2 = none) ∧
      (e.WithinWords → e.LinksFit env → ∀ o ∈ e.occurrences, ∀ p,
        o.path? env = some p ↔ o.Refers env p) := by
  have hending := e.ending_attach env b
  have hresult : (e.attach env b).result = (settle (e.requests env) b).1 :=
    congrArg Prod.fst hending
  refine ⟨hresult, congrArg Prod.snd hending, e.map_var_requests env, ?_, ?_⟩
  · rw [hresult]
    exact settle_eq_ok_iff
  · intro hwords hlinks o ho p
    exact path?_eq_some_iff_refers hwords hlinks ho p

/-- A function with a parameter, which calls a free name on the parameter and on another free
    name. -/
def sampleTree : Expr :=
  let param : Variable := ⟨0, "x", .float, none⟩
  let callee : Variable := ⟨1, "g", .fn (some .float) [.float, .float], none⟩
  let free : Variable := ⟨2, "y", .float, none⟩
  .lambda "f" (.fn (some .float) [.float]) "float(float)" [param]
    (.apply .float (.var callee) [.var param, .var free])

/-- An environment with one global and one lexical name. -/
def sampleEnv : Env := .ofList [("g", .global 3), ("y", .lexical 1 0)]

theorem linksFit_sampleTree : sampleTree.LinksFit sampleEnv := by
  intro o ho _ link slot hl
  have hdepth : ∀ o ∈ sampleTree.occurrences, o.enclosing.length = 1 := by decide
  have hlink : link = 1 := by
    simp only [sampleEnv, Env.lookup?_ofList, List.lookup_cons, List.lookup_nil] at hl
    split at hl
    · cases hl
    split at hl
    · cases hl
      rfl
    · cases hl
  rw [hdepth o ho, hlink]
  decide

theorem attach_eq_flat_run_sampleTree :
    sampleTree.WithinWords ∧ sampleTree.LinksFit sampleEnv ∧
      (sampleTree.attach sampleEnv .empty).result = .ok () ∧
      ∀ o ∈ sampleTree.occurrences, ∀ p,
        o.path? sampleEnv = some p ↔ o.Refers sampleEnv p := by
  have hwords : sampleTree.WithinWords := by decide
  obtain ⟨hresult, -, -, -, hpaths⟩ := sampleTree.attach_eq_flat_run sampleEnv .empty
  exact ⟨hwords, linksFit_sampleTree, hresult.trans rfl, hpaths hwords linksFit_sampleTree⟩

end ExprGraph
