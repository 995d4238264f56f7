/-
  ExprGraph.Proofs.Attach.Writes

  What attaching writes, and what it announces.

  Bindings are only ever written where they were empty, each variable is written once, and for each
  there is one announcement with its name and its path, in the order of the writes (`Writes`).  This
  holds of a variable in each of the four ways in which giving it a path can end, and it carries
  over to two steps made one after the other.  So it holds of trees and of namespaces, whether they
  attach or fail in the middle (`Expr.writesOnly_attachTree`, `Namespace.writesOnly_attachAll`), and
  what is written belongs to the variables of the tree, or of the definitions.
-/

import Mathlib.Data.List.Nodup
import ExprGraph.Namespace.Attach
import ExprGraph.Proofs.Attach.Flat

namespace ExprGraph

/-- The name and the path that an event announces, if it announces that a variable was bound. -/
def Event.announcement? : Event → Option (String × BindingPath)
  | .variableBound name path => some (name, path)
  | _ => none

/-- The names and paths announced among events, in order. -/
def announcements (events : List Event) : List (String × BindingPath) :=
  events.filterMap Event.announcement?

theorem announcements_append (es fs : List Event) :
    announcements (es ++ fs) = announcements es ++ announcements fs := List.filterMap_append

/-- The variables used in a tree, once for each use. -/
def Expr.variables (e : Expr) : List Variable := e.occurrences.map Occurrence.var

/-- Between two states of the bindings, just these paths were written, each to an empty cell and
    each announced by one of the events. -/
structure Writes (b c : Bindings) (events : List Event) (written : List (Variable × BindingPath)) :
    Prop where
  nodup : (written.map Prod.fst).Nodup
  unbound : ∀ w ∈ written, b.path? w.1 = none
  path?_iff : ∀ v p, c.path? v = some p ↔ b.path? v = some p ∨ (v, p) ∈ written
  announced : announcements events = written.map fun w => (w.1.name, w.2)

namespace Writes

variable {b c d : Bindings} {es fs : List Event} {ws xs : List (Variable × BindingPath)}

theorem nil (b : Bindings) (h : announcements es = []) : Writes b b es [] where
  nodup := List.nodup_nil
  unbound := by simp
  path?_iff := by simp
  announced := h

theorem bind {v : Variable} (h : b.path? v = none) (p : BindingPath) :
    Writes b (b.bind v p) [.variableBound v.name p] [(v, p)] where
  nodup := List.nodup_singleton v
  unbound := by simpa using h
  path?_iff := by
    intro w q
    by_cases hw : w = v
    · subst hw
      simp [h, eq_comm]
    · simp [Bindings.path?_bind_of_ne b p hw, hw]
  announced := rfl

/-- What is written is bound afterwards. -/
theorem path?_of_mem (h : Writes b c es ws) {w : Variable × BindingPath} (hw : w ∈ ws) :
    c.path? w.1 = some w.2 := (h.path?_iff w.1 w.2).mpr (.inr hw)

/-- A variable that was bound keeps its path. -/
theorem path?_of_bound (h : Writes b c es ws) {v : Variable} {p : BindingPath}
    (hv : b.path? v = some p) : c.path? v = some p := (h.path?_iff v p).mpr (.inl hv)

/-- A variable that is bound afterwards and was not before has been written. -/
theorem mem_of_path? (h : Writes b c es ws) {v : Variable} {p : BindingPath}
    (hv : b.path? v = none) (hp : c.path? v = some p) : (v, p) ∈ ws := by
  rcases (h.path?_iff v p).mp hp with hbound | hmem
  · rw [hv] at hbound
    cases hbound
  · exact hmem

/-- Two steps, one after the other, write what both of them write. -/
theorem append (h : Writes b c es ws) (h' : Writes c d fs xs) :
    Writes b d (es ++ fs) (ws ++ xs) where
  nodup := by
    rw [List.map_append, List.nodup_append]
    refine ⟨h.nodup, h'.nodup, ?_⟩
    -- What the second step writes was empty after the first, which fills each cell that it writes.
    rintro _ hleft _ hright rfl
    obtain ⟨w, hw, rfl⟩ := List.mem_map.mp hleft
    obtain ⟨x, hx, hsame⟩ := List.mem_map.mp hright
    have hempty := h'.unbound x hx
    rw [hsame, h.path?_of_mem hw] at hempty
    cases hempty
  unbound := by
    intro w hw
    rcases List.mem_append.mp hw with hw | hw
    · exact h.unbound w hw
    · cases hb : b.path? w.1 with
      | none => rfl
      | some p =>
        have hkept := h.path?_of_bound hb
        rw [h'.unbound w hw] at hkept
        cases hkept
  path?_iff := by
    intro v p
    rw [h'.path?_iff, h.path?_iff, List.mem_append, or_assoc]
  announced := by
    rw [announcements_append, h.announced, h'.announced, List.map_append]

end Writes

/-! ## Steps that write -/

namespace Outcome

variable {ε ε' α β : Type} {vars vars' : List Variable} {b : Bindings}

/-- The step writes, whether it succeeds or fails, only to some of the variables, and announces what
    it writes. -/
def WritesOnly (vars : List Variable) (b : Bindings) (o : Outcome Bindings ε α) : Prop :=
  ∃ written, Writes b o.state o.events written ∧ ∀ w ∈ written, w.1 ∈ vars

theorem WritesOnly.mono {o : Outcome Bindings ε α} (h : o.WritesOnly vars b)
    (hsub : vars ⊆ vars') : o.WritesOnly vars' b := by
  obtain ⟨written, hwrites, hvars⟩ := h
  exact ⟨written, hwrites, fun w hw => hsub (hvars w hw)⟩

theorem WritesOnly.mapError {o : Outcome Bindings ε α} (h : o.WritesOnly vars b) (f : ε → ε') :
    (o.mapError f).WritesOnly vars b := h

theorem writesOnly_of_state_eq {o : Outcome Bindings ε α} (hstate : o.state = b)
    (hevents : announcements o.events = []) : o.WritesOnly vars b := by
  refine ⟨[], ?_, by simp⟩
  rw [hstate]
  exact .nil b hevents

theorem writesOnly_pure (a : α) : (pure a b : Outcome Bindings ε α).WritesOnly vars b :=
  writesOnly_of_state_eq rfl rfl

theorem writesOnly_fail (e : ε) : (fail e b : Outcome Bindings ε α).WritesOnly vars b :=
  writesOnly_of_state_eq rfl rfl

theorem writesOnly_emit {event : Event} (h : event.announcement? = none) :
    (emit event b : Outcome Bindings ε Unit).WritesOnly vars b := by
  refine writesOnly_of_state_eq rfl ?_
  show [event].filterMap Event.announcement? = []
  rw [List.filterMap_cons_none h, List.filterMap_nil]

/-- If the first step fails, the second is not made and nothing more is written. -/
theorem WritesOnly.andThen {o : Outcome Bindings ε α} {next : α → Bindings → Outcome Bindings ε β}
    (h : o.WritesOnly vars b) (hnext : ∀ a, (next a o.state).WritesOnly vars o.state) :
    (o.andThen next).WritesOnly vars b := by
  obtain ⟨written, hwrites, hvars⟩ := h
  cases hresult : o.result with
  | error e =>
    rw [andThen_of_error hresult]
    exact ⟨written, hwrites, hvars⟩
  | ok a =>
    obtain ⟨more, hwrites', hvars'⟩ := hnext a
    rw [andThen_of_ok hresult]
    refine ⟨written ++ more, hwrites.append hwrites', ?_⟩
    intro w hw
    rcases List.mem_append.mp hw with hw | hw
    · exact hvars w hw
    · exact hvars' w hw

end Outcome

/-- A variable is written if it has no path and its name has one; it is left alone if its name has
    no path, or if it has a path already, the same or another. -/
theorem Variable.writesOnly_attach (env : Env) (v : Variable) (b : Bindings) :
    (v.attach env b).WritesOnly [v] b := by
  unfold Variable.attach
  cases env.lookup? v.name with
  | none => exact Outcome.writesOnly_fail _
  | some path =>
    cases hv : b.path? v with
    | none => exact ⟨[(v, path)], .bind hv path, by simp⟩
    | some previous =>
      by_cases hsame : previous = path
      · simp only [hsame, if_true]
        exact Outcome.writesOnly_pure ()
      · simp only [hsame, if_false]
        exact Outcome.writesOnly_fail _

namespace Site

theorem writesOnly_attach (env : Env) (s : Site) (b : Bindings) :
    (s.attach env b).WritesOnly (s.occurrence?.toList.map Occurrence.var) b := by
  obtain ⟨node, enclosing⟩ := s
  cases node with
  | var v => exact v.writesOnly_attach (innerEnv env enclosing) b
  | lambda name type signature params body => exact Outcome.writesOnly_emit rfl
  | const value => exact Outcome.writesOnly_pure ()
  | prim p => exact Outcome.writesOnly_pure ()
  | apply type fn args => exact Outcome.writesOnly_pure ()

theorem writesOnly_attachAll (env : Env) (ss : List Site) (b : Bindings) :
    (attachAll env ss b).WritesOnly ((ss.filterMap occurrence?).map Occurrence.var) b := by
  induction ss generalizing b with
  | nil => exact Outcome.writesOnly_pure ()
  | cons s ss ih =>
    have hvars : ((s :: ss).filterMap occurrence?).map Occurrence.var =
        s.occurrence?.toList.map Occurrence.var ++
          (ss.filterMap occurrence?).map Occurrence.var := by
      cases h : s.occurrence? <;> simp [h]
    rw [attachAll, hvars]
    refine Outcome.WritesOnly.andThen ?_ fun _ => ?_
    · exact (s.writesOnly_attach env b).mono (List.subset_append_left _ _)
    · exact (ih (s.attach env b).state).mono (List.subset_append_right _ _)

end Site

namespace Expr

theorem writesOnly_attach (env : Env) (e : Expr) (b : Bindings) :
    (e.attach env b).WritesOnly e.variables b := by
  rw [attach_eq_attachAll]
  exact Site.writesOnly_attachAll env e.sites b

/-- Attaching a complete tree writes to variables of the tree. -/
theorem writesOnly_attachTree (env : Env) (root : Expr) (b : Bindings) :
    (root.attachTree env b).WritesOnly root.variables b := by
  refine Outcome.WritesOnly.andThen (Outcome.writesOnly_emit rfl) fun _ => ?_
  refine Outcome.WritesOnly.andThen ((root.writesOnly_attach env b).mapError _) fun _ => ?_
  exact Outcome.writesOnly_emit rfl

end Expr

namespace Namespace

theorem writesOnly_attachDefs (env : Env) (ds : List Definition) (b : Bindings) :
    (attachDefs env ds b).WritesOnly (ds.flatMap fun d => d.node.variables) b := by
  induction ds generalizing b with
  | nil => exact Outcome.writesOnly_pure ()
  | cons d ds ih =>
    rw [List.flatMap_cons]
    by_cases hkind : d.node.kind = .lambda
    · rw [attachDefs_cons_of_lambda hkind]
      refine Outcome.WritesOnly.andThen ?_ fun _ => ?_
      · exact ((d.node.writesOnly_attach env b).mapError _).mono (List.subset_append_left _ _)
      · exact (ih (d.node.attach env b).state).mono (List.subset_append_right _ _)
    · rw [attachDefs_cons_of_ne hkind]
      exact (ih b).mono (List.subset_append_right _ _)

/-- Attaching a namespace writes to variables of its definitions. -/
theorem writesOnly_attachAll (ns : Namespace) (b : Bindings) :
    (ns.attachAll b).WritesOnly (ns.defs.flatMap fun d => d.node.variables) b := by
  refine Outcome.WritesOnly.andThen (Outcome.writesOnly_emit rfl) fun _ => ?_
  exact writesOnly_attachDefs ns.env ns.defs b

end Namespace

end ExprGraph
