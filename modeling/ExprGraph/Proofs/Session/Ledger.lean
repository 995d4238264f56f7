/-
  ExprGraph.Proofs.Session.Ledger

  The account that the events of a session give of its bindings.

  A session builds nodes, defines them in namespaces and attaches trees, in any order and with any
  of its calls failing.  Each call writes just to empty cells of the trees that it attaches, and
  announces what it writes (`Session.writesOnly_step`); a run does so from its first call to its
  last (`Session.writes_run`).  A variable therefore keeps its first path for good, and in a session
  that began unbound the announcements are, up to their order, the names and paths of the variables
  bound (`Session.bound_once_and_announced`).
-/

import Mathlib.Data.Finset.Defs
import Mathlib.Data.Multiset.MapFold
import ExprGraph.Namespace.Builtins
import ExprGraph.Proofs.Attach.Writes
import ExprGraph.Proofs.Namespace.Definitions

namespace ExprGraph

/-! ## Definitions announce no paths -/

theorem Outcome.announcements_andThen {σ ε α β : Type} {o : Outcome σ ε α}
    {next : α → σ → Outcome σ ε β} (h : announcements o.events = [])
    (hnext : ∀ a s, announcements (next a s).events = []) :
    announcements (o.andThen next).events = [] := by
  cases hresult : o.result with
  | error e =>
    rw [andThen_of_error hresult]
    exact h
  | ok a =>
    rw [andThen_of_ok hresult, announcements_append, h, hnext, List.nil_append]

namespace Namespace

theorem announcements_define (ns : Namespace) (node : Expr) :
    announcements (ns.define node).events = [] := by
  obtain ⟨e, hfail⟩ | ⟨name, -, -, happend⟩ := ns.define_refused_or_appended node
  · rw [hfail]
    rfl
  · rw [happend]
    rfl

theorem announcements_definePrimitive (ns : Namespace) (built : Except ConstructError Primitive) :
    announcements (ns.definePrimitive built).events = [] := by
  cases built with
  | error cause => rfl
  | ok p => exact ns.announcements_define (.prim p)

theorem announcements_defineBuiltins (ns : Namespace) (ds : List Builtin) :
    announcements (ns.defineBuiltins ds).events = [] := by
  induction ds generalizing ns with
  | nil => rfl
  | cons d ds ih =>
    rw [defineBuiltins]
    exact Outcome.announcements_andThen (ns.announcements_definePrimitive d.build) fun _ ns => ih ns

theorem announcements_registerBuiltins (ns : Namespace) :
    announcements ns.registerBuiltins.events = [] := ns.announcements_defineBuiltins Builtin.all

end Namespace

/-! ## Sessions -/

/-- What a user of the library has at hand. -/
structure Session where
  /-- The nodes built so far, without those below them. -/
  nodes : List Expr
  namespaces : List Namespace
  bindings : Bindings
  events : List Event
  /-- The number of the variable node that is built next. -/
  fresh : Nat

namespace Session

/-- A call into the library.  Trees are given as they are, so they may be nodes built earlier, nodes
    below them or any others, and environments may be namespaces, scopes or any others. -/
inductive Call where
  | makeConstant (value : NativeValue)
  | makePrimitive (name : String) (function : NativeValue) (type : Ty) (explicitSymbol : Bool)
      (intrinsic : Intrinsic)
  | makeVariable (name : String) (type : Ty) (span : Option Span)
  | makeApply (fn : Expr) (args : List Expr)
  | makeLambda (name : String) (params : List Expr) (body : Expr)
  | makeNamespace
  /-- Defines a node in namespace `i`. -/
  | define (i : Nat) (node : Expr)
  | registerBuiltins (i : Nat)
  /-- Attaches a complete tree. -/
  | attachTree (root : Expr) (env : Env)
  /-- Attaches a tree that may be part of another. -/
  | attach (tree : Expr) (env : Env)
  | attachAll (i : Nat)

/-- Keeps a node, if it could be built. -/
def build (s : Session) (built : Except ConstructError Expr) : Session :=
  { s with nodes := s.nodes ++ built.toOption.toList }

/-- Changes namespace `i`, if there is one. -/
def update {α : Type} (s : Session) (i : Nat)
    (change : Namespace → Outcome Namespace ResolveError α) : Session :=
  match s.namespaces[i]? with
  | none => s
  | some ns =>
    { s with
      namespaces := s.namespaces.set i (change ns).state
      events := s.events ++ (change ns).events }

/-- Goes on after an attachment. -/
def bind {ε : Type} (s : Session) (attachment : Outcome Bindings ε Unit) : Session :=
  { s with bindings := attachment.state, events := s.events ++ attachment.events }

/-- One call, whether it succeeds or fails. -/
def step (s : Session) : Call → Session
  | .makeConstant value => s.build (.ok (.const value))
  | .makePrimitive name function type explicitSymbol intrinsic =>
    s.build ((Primitive.buildAs name function type).map fun p =>
      .prim { p with explicitSymbol, intrinsic })
  | .makeVariable name type span =>
    { s.build ((Variable.build s.fresh name type span).map .var) with fresh := s.fresh + 1 }
  | .makeApply fn args => s.build (Expr.mkApply fn args)
  | .makeLambda name params body => s.build (Expr.mkLambda name params body)
  | .makeNamespace => { s with namespaces := s.namespaces ++ [Namespace.empty] }
  | .define i node => s.update i fun ns => ns.define node
  | .registerBuiltins i => s.update i Namespace.registerBuiltins
  | .attachTree root env => s.bind (root.attachTree env s.bindings)
  | .attach tree env => s.bind (tree.attach env s.bindings)
  | .attachAll i =>
    match s.namespaces[i]? with
    | none => s
    | some ns => s.bind (ns.attachAll s.bindings)

/-- Calls, one after the other. -/
def run (s : Session) (calls : List Call) : Session := calls.foldl step s

/-- The trees that a call attaches. -/
def Call.trees (s : Session) : Call → List Expr
  | .attachTree root _ => [root]
  | .attach tree _ => [tree]
  | .attachAll i => (s.namespaces[i]?.map fun ns => ns.defs.map (·.node)).getD []
  | _ => []

/-! ## Steps and runs -/

/-- From one session to another, paths are written to variables of some trees, and just these are
    announced. -/
def WritesOnly (s t : Session) (trees : List Expr) : Prop :=
  ∃ reported written, t.events = s.events ++ reported ∧
    Writes s.bindings t.bindings reported written ∧
    ∀ w ∈ written, ∃ tree ∈ trees, w.1 ∈ tree.variables

theorem writesOnly_of_bindings_eq {s t : Session} (trees : List Expr) {reported : List Event}
    (hbindings : t.bindings = s.bindings) (hevents : t.events = s.events ++ reported)
    (h : announcements reported = []) : s.WritesOnly t trees := by
  refine ⟨reported, [], hevents, ?_, by simp⟩
  rw [hbindings]
  exact .nil s.bindings h

theorem writesOnly_of_unchanged {s t : Session} (trees : List Expr)
    (hbindings : t.bindings = s.bindings) (hevents : t.events = s.events) :
    s.WritesOnly t trees :=
  writesOnly_of_bindings_eq trees hbindings (hevents.trans (List.append_nil s.events).symm) rfl

theorem writesOnly_update {α : Type} (s : Session) (i : Nat)
    {change : Namespace → Outcome Namespace ResolveError α}
    (h : ∀ ns, announcements (change ns).events = []) (trees : List Expr) :
    s.WritesOnly (s.update i change) trees := by
  unfold update
  cases s.namespaces[i]? with
  | none => exact writesOnly_of_unchanged trees rfl rfl
  | some ns => exact writesOnly_of_bindings_eq trees rfl rfl (h ns)

theorem writesOnly_bind {ε : Type} (s : Session) {attachment : Outcome Bindings ε Unit}
    {vars : List Variable} (h : attachment.WritesOnly vars s.bindings) {trees : List Expr}
    (hvars : ∀ v ∈ vars, ∃ tree ∈ trees, v ∈ tree.variables) :
    s.WritesOnly (s.bind attachment) trees := by
  obtain ⟨written, hwrites, honly⟩ := h
  exact ⟨attachment.events, written, rfl, hwrites, fun w hw => hvars w.1 (honly w hw)⟩

/-- A call writes to the trees that it attaches. -/
theorem writesOnly_step (s : Session) (call : Call) :
    s.WritesOnly (s.step call) (call.trees s) := by
  cases call with
  | makeConstant value => exact writesOnly_of_unchanged _ rfl rfl
  | makePrimitive name function type explicitSymbol intrinsic =>
    exact writesOnly_of_unchanged _ rfl rfl
  | makeVariable name type span => exact writesOnly_of_unchanged _ rfl rfl
  | makeApply fn args => exact writesOnly_of_unchanged _ rfl rfl
  | makeLambda name params body => exact writesOnly_of_unchanged _ rfl rfl
  | makeNamespace => exact writesOnly_of_unchanged _ rfl rfl
  | define i node => exact s.writesOnly_update i (fun ns => ns.announcements_define node) _
  | registerBuiltins i => exact s.writesOnly_update i Namespace.announcements_registerBuiltins _
  | attachTree root env =>
    refine s.writesOnly_bind (root.writesOnly_attachTree env s.bindings) fun v hv => ?_
    exact ⟨root, List.mem_singleton_self root, hv⟩
  | attach tree env =>
    refine s.writesOnly_bind (tree.writesOnly_attach env s.bindings) fun v hv => ?_
    exact ⟨tree, List.mem_singleton_self tree, hv⟩
  | attachAll i =>
    simp only [step, Call.trees]
    cases s.namespaces[i]? with
    | none => exact writesOnly_of_unchanged _ rfl rfl
    | some ns =>
      refine s.writesOnly_bind (ns.writesOnly_attachAll s.bindings) fun v hv => ?_
      obtain ⟨d, hd, hv⟩ := List.mem_flatMap.mp hv
      exact ⟨d.node, List.mem_map_of_mem hd, hv⟩

/-- A run writes what its calls write, one after the other. -/
theorem writes_run (s : Session) (calls : List Call) :
    ∃ reported written, (s.run calls).events = s.events ++ reported ∧
      Writes s.bindings (s.run calls).bindings reported written := by
  induction calls generalizing s with
  | nil => exact ⟨[], [], (List.append_nil s.events).symm, .nil s.bindings rfl⟩
  | cons call calls ih =>
    obtain ⟨first, written, hfirst, hwrites, -⟩ := s.writesOnly_step call
    obtain ⟨rest, more, hrest, hwrites'⟩ := ih (s.step call)
    refine ⟨first ++ rest, written ++ more, ?_, hwrites.append hwrites'⟩
    calc (s.run (call :: calls)).events
        = (s.step call).events ++ rest := hrest
      _ = s.events ++ (first ++ rest) := by rw [hfirst, List.append_assoc]

/-- Whatever is called and whether it succeeds or not: a variable that has a path keeps it; only
    variables of the trees that a call attaches get a path from it; and if none had a path at the
    start, the announcements are, up to their order, the names and paths of the variables that have
    one. -/
theorem bound_once_and_announced (s : Session) (calls : List Call) :
    (∀ later v p, (s.run calls).bindings.path? v = some p →
      (s.run (calls ++ later)).bindings.path? v = some p) ∧
    (∀ (call : Call) v p, (s.run calls).bindings.path? v = none →
      (s.run (calls ++ [call])).bindings.path? v = some p →
        ∃ tree ∈ call.trees (s.run calls), v ∈ tree.variables) ∧
    ((∀ v, s.bindings.path? v = none) →
      ∃ (reported : List Event) (bound : Finset (Variable × BindingPath)),
        (s.run calls).events = s.events ++ reported ∧
        (∀ v p, (v, p) ∈ bound ↔ (s.run calls).bindings.path? v = some p) ∧
        (announcements reported : Multiset (String × BindingPath)) =
          bound.val.map fun w => (w.1.name, w.2)) := by
  have happend : ∀ later, s.run (calls ++ later) = (s.run calls).run later :=
    fun later => List.foldl_append
  refine ⟨?_, ?_, ?_⟩
  · intro later v p hp
    obtain ⟨_, _, -, hwrites⟩ := (s.run calls).writes_run later
    rw [happend]
    exact hwrites.path?_of_bound hp
  · intro call v p hnone hp
    obtain ⟨_, _, -, hwrites, htrees⟩ := (s.run calls).writesOnly_step call
    rw [happend] at hp
    exact htrees (v, p) (hwrites.mem_of_path? hnone hp)
  · intro hunbound
    obtain ⟨reported, written, hevents, hwrites⟩ := s.writes_run calls
    -- Each variable was written once, so what was written is a set.
    refine ⟨reported, ⟨written, Multiset.coe_nodup.mpr (List.Nodup.of_map _ hwrites.nodup)⟩,
      hevents, ?_, ?_⟩
    · intro v p
      have hiff := hwrites.path?_iff v p
      rw [hunbound v] at hiff
      simpa using hiff.symm
    · rw [hwrites.announced, Multiset.map_coe]

/-- A session before its first call. -/
def start : Session := ⟨[], [], .empty, [], 0⟩

/-- One tree attached three times: up to its first free name, to its end, and in vain. -/
def sampleCalls : List Call :=
  [.attach sampleTree .empty, .attachTree sampleTree sampleEnv, .attach sampleTree .empty]

theorem bound_once_and_announced_sampleCalls :
    ∃ bound : Finset (Variable × BindingPath),
      (∀ v p, (v, p) ∈ bound ↔ (start.run sampleCalls).bindings.path? v = some p) ∧
      ([("x", .lexical 0 0), ("g", .global 3), ("y", .lexical 2 0)] : List (String × BindingPath)) =
        bound.val.map fun w => (w.1.name, w.2) := by
  obtain ⟨-, -, hledger⟩ := bound_once_and_announced start sampleCalls
  obtain ⟨reported, bound, hevents, hbound, hannounced⟩ := hledger fun _ => rfl
  refine ⟨bound, hbound, ?_⟩
  have hrun : announcements (start.run sampleCalls).events =
      [("x", .lexical 0 0), ("g", .global 3), ("y", .lexical 2 0)] := by rfl
  have hreported : (start.run sampleCalls).events = reported := hevents
  rw [← hannounced, ← hreported, hrun]

end Session

end ExprGraph
