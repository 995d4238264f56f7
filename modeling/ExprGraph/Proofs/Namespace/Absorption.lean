/-
  ExprGraph.Proofs.Namespace.Absorption

  Attaching a namespace too early does no harm.

  An attachment of all definitions, also one that failed in the middle for a name that nothing
  defines yet, leaves only paths that a later one gives as well: definitions keep their slots, so
  the namespace at the later time has every path of the namespace at the earlier time
  (`Namespace.env_le_defineEach`).  Whatever was attached is found attached, and what failed is
  tried again under the same name.  Earlier attachments can therefore be dropped from every run of
  calls (`Namespace.attachAllAfter_eq_without_early`).
-/

import ExprGraph.Proofs.Attach.Resume
import ExprGraph.Proofs.Namespace.Addressing

namespace ExprGraph

theorem Outcome.ending_mapError {σ ε ε' α : Type} (f : ε → ε') (o : Outcome σ ε α) :
    (o.mapError f).ending = (o.ending.1.mapError f, o.ending.2) := rfl

namespace Namespace

/-- A namespace is below what definitions make of it. -/
theorem env_le_defineEach (ns : Namespace) (nodes : List Expr) :
    ns.env ≤ (ns.defineEach nodes).env :=
  fun _ _ h => path?_defineEach h nodes

/-! ## Attaching definitions again -/

/-- Attaching a function and then others, without the events. -/
theorem ending_attachDefs_cons {d : Definition} (h : d.node.kind = .lambda) (env : Env)
    (ds : List Definition) (b : Bindings) :
    (attachDefs env (d :: ds) b).ending =
      match (d.node.attach env b).ending with
      | (.ok (), c) => (attachDefs env ds c).ending
      | (.error cause, c) => (.error (.bind d.name cause), c) := by
  rw [attachDefs_cons_of_lambda h, Outcome.ending_andThen, Outcome.ending_mapError]
  cases (d.node.attach env b).ending with
  | mk result c => cases result <;> rfl

theorem le_state_attachDefs (env : Env) (ds : List Definition) (b : Bindings) :
    b ≤ (attachDefs env ds b).state := by
  obtain ⟨hstate, -⟩ := attachDefs_jobs env ds b
  rw [hstate, Job.state_attachEach]
  exact le_settle _ b

/-- Attaching definitions to a larger environment absorbs an earlier attachment of some of them,
    whatever its result was. -/
theorem ending_attachDefs_resume {env env' : Env} (henv : env ≤ env') (ds more : List Definition)
    (b : Bindings) :
    (attachDefs env' (ds ++ more) (attachDefs env ds b).state).ending =
      (attachDefs env' (ds ++ more) b).ending := by
  induction ds generalizing b with
  | nil => rfl
  | cons d ds ih =>
    rw [List.cons_append]
    by_cases hkind : d.node.kind = .lambda
    · have hearly := ending_attachDefs_cons hkind env ds b
      rw [ending_attachDefs_cons hkind, ending_attachDefs_cons hkind]
      cases hattach : (d.node.attach env b).ending with
      | mk result c =>
        have hc : (d.node.attach env b).state = c := congrArg Prod.snd hattach
        have hresult : (d.node.attach env b).result = result := congrArg Prod.fst hattach
        rw [hattach] at hearly
        cases result with
        | error cause =>
          -- The earlier attachment ended here, and this function is now tried once more.
          have hstate : (attachDefs env (d :: ds) b).state = c := congrArg Prod.snd hearly
          have hagain := d.node.ending_attach_resume henv b
          rw [hc] at hagain
          rw [hstate, hagain]
        | ok a =>
          -- This function is attached already, and the rest goes on from where it was left.
          have hstate : (attachDefs env (d :: ds) b).state = (attachDefs env ds c).state :=
            congrArg Prod.snd hearly
          have hlater : (d.node.attach env b).state ≤ (attachDefs env ds c).state := by
            rw [hc]
            exact le_state_attachDefs env ds c
          have hagain := Expr.ending_attach_of_attached henv hresult hlater
          have hfirst := Expr.ending_attach_of_le henv hresult
          rw [hattach] at hfirst
          rw [hstate, hagain, hfirst]
          exact ih c
    · rw [attachDefs_cons_of_ne hkind, attachDefs_cons_of_ne hkind, attachDefs_cons_of_ne hkind]
      exact ih b

theorem ending_attachAll (ns : Namespace) (b : Bindings) :
    (ns.attachAll b).ending = (attachDefs ns.env ns.defs b).ending := rfl

/-- Attaching a namespace absorbs an attachment made before the last definitions. -/
theorem ending_attachAll_resume (ns : Namespace) (nodes : List Expr) (b : Bindings) :
    ((ns.defineEach nodes).attachAll (ns.attachAll b).state).ending =
      ((ns.defineEach nodes).attachAll b).ending := by
  have hstate : (ns.attachAll b).state = (attachDefs ns.env ns.defs b).state :=
    congrArg Prod.snd (ns.ending_attachAll b)
  obtain ⟨more, hmore⟩ := ns.prefix_defineEach nodes
  rw [ending_attachAll, ending_attachAll, hstate, ← hmore]
  exact ending_attachDefs_resume (ns.env_le_defineEach nodes) ns.defs more b

/-! ## Runs of calls -/

/-- A call on a namespace: one definition, or the attachment of all. -/
inductive Call where
  | define (node : Expr)
  | attachAll

/-- The node that a call defines, if it is a definition. -/
def Call.node? : Call → Option Expr
  | .define node => some node
  | .attachAll => none

/-- What a call makes of a namespace and of the bindings, also if it fails. -/
def Call.apply : Call → Namespace × Bindings → Namespace × Bindings
  | .define node, (ns, b) => ((ns.define node).state, b)
  | .attachAll, (ns, b) => (ns, (ns.attachAll b).state)

/-- What calls, one after the other, make of a namespace and of the bindings. -/
def afterCalls : List Call → Namespace × Bindings → Namespace × Bindings
  | [], s => s
  | call :: calls, s => afterCalls calls (call.apply s)

/-- The outcome of an attachment of all definitions that comes after some calls on a new
    namespace. -/
def attachAllAfter (calls : List Call) (b : Bindings) : Outcome Bindings ResolveError Unit :=
  let (ns, b) := afterCalls calls (empty, b)
  ns.attachAll b

/-- The last attachment is the same from the bindings that the run began with. -/
theorem ending_attachAll_afterCalls (calls : List Call) (ns : Namespace) (b : Bindings) :
    ((afterCalls calls (ns, b)).1.attachAll (afterCalls calls (ns, b)).2).ending =
      ((ns.defineEach (calls.filterMap Call.node?)).attachAll b).ending := by
  induction calls generalizing ns b with
  | nil => rfl
  | cons call calls ih =>
    cases call with
    | define node => exact ih (ns.define node).state b
    | attachAll =>
      let nodes := calls.filterMap Call.node?
      calc ((afterCalls (.attachAll :: calls) (ns, b)).1.attachAll
              (afterCalls (.attachAll :: calls) (ns, b)).2).ending
          = ((ns.defineEach nodes).attachAll (ns.attachAll b).state).ending :=
            ih ns (ns.attachAll b).state
        _ = ((ns.defineEach nodes).attachAll b).ending := ns.ending_attachAll_resume nodes b

theorem ending_attachAllAfter (calls : List Call) (b : Bindings) :
    (attachAllAfter calls b).ending =
      ((empty.defineEach (calls.filterMap Call.node?)).attachAll b).ending :=
  ending_attachAll_afterCalls calls empty b

/-- An attachment of all definitions has the result and leaves the bindings that it would have
    without the attachments before it, whether they failed or not. -/
theorem attachAllAfter_eq_without_early (calls : List Call) (b : Bindings) :
    (attachAllAfter calls b).result =
        (attachAllAfter (calls.filter fun call => call.node?.isSome) b).result ∧
      (attachAllAfter calls b).state =
        (attachAllAfter (calls.filter fun call => call.node?.isSome) b).state := by
  have hnodes : (calls.filter fun call => call.node?.isSome).filterMap Call.node? =
      calls.filterMap Call.node? := by
    rw [List.filterMap_filter]
    refine List.filterMap_congr fun call _ => ?_
    cases call <;> rfl
  have hending : (attachAllAfter calls b).ending =
      (attachAllAfter (calls.filter fun call => call.node?.isSome) b).ending := by
    rw [ending_attachAllAfter, ending_attachAllAfter, hnodes]
  exact ⟨congrArg Prod.fst hending, congrArg Prod.snd hending⟩

/-- A function is attached in vain before the function that it calls is defined. -/
example :
    let type : Ty := .fn (some .int) []
    let f : Expr := .lambda "f" type "int()" [] (.apply .int (.var ⟨0, "g", type, none⟩) [])
    let g : Expr := .lambda "g" type "int()" [] (.const ⟨.int, (0 : Int64)⟩)
    (attachAllAfter [.define f] .empty).result = .error (.bind "f" (.unbound "g" none)) ∧
      (attachAllAfter [.define f, .attachAll, .define g] .empty).result = .ok () :=
  ⟨rfl, rfl⟩

end Namespace

end ExprGraph
