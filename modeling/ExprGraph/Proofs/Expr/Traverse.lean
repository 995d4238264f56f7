/-
  ExprGraph.Proofs.Expr.Traverse

  What a visitor is shown, and when a visit ends.

  The nodes of a tree are its root and then the nodes below each child, from left to right
  (`Expr.preorder_eq_children`), and every visit goes over that list; where in the tree a visit
  stops makes no difference (`Expr.visitFrom_eq`).  Over a list there are two cases.  Either the
  visitor lets all nodes pass, or there is a first one at which it asks to stop, and nothing after
  that node is shown (`Expr.passes_or_stops`).
-/

import ExprGraph.Proofs.Expr.Occurrence

namespace ExprGraph.Expr

/-! ## Children -/

theorem flatMap_preorder_params (params : List Variable) :
    (params.map var).flatMap preorder = params.map var := by
  rw [List.flatMap_map, List.map_eq_flatMap]
  rfl

/-- The nodes of a tree are its root and then the nodes below each child, from left to right. -/
theorem preorder_eq_children (e : Expr) : e.preorder = e :: e.children.flatMap preorder := by
  cases e with
  | const value => rfl
  | prim p => rfl
  | var v => rfl
  | apply type fn args => rw [preorder, preorderAll_eq_flatMap, children, List.flatMap_cons]
  | lambda name type signature params body =>
    rw [preorder, children, List.flatMap_append, flatMap_preorder_params, List.flatMap_singleton]

/-- Induction on trees, with one hypothesis for each child. -/
theorem childrenInduct {motive : Expr → Prop}
    (node : ∀ e, (∀ child ∈ e.children, motive child) → motive e) (e : Expr) : motive e := by
  have leaf : ∀ e : Expr, e.children = [] → motive e := by
    intro e he
    refine node e fun child hchild => ?_
    rw [he] at hchild
    exact absurd hchild List.not_mem_nil
  induction e with
  | const value => exact leaf _ rfl
  | prim p => exact leaf _ rfl
  | var v => exact leaf _ rfl
  | apply type fn args ihFn ihArgs =>
    exact node _ (List.forall_mem_cons.mpr ⟨ihFn, ihArgs⟩)
  | lambda name type signature params body ih =>
    refine node _ (List.forall_mem_append.mpr ⟨?_, ?_⟩)
    · exact List.forall_mem_map.mpr fun v _ => leaf (.var v) rfl
    · exact List.forall_mem_singleton.mpr ih

/-! ## Lists of nodes -/

variable {σ : Type} {f : Expr → σ → Bool × σ} {s : σ}

/-- The state of a visitor after it has been shown the nodes of a list. -/
def stateAfter (f : Expr → σ → Bool × σ) (s : σ) (nodes : List Expr) : σ :=
  nodes.foldl (fun s e => (f e s).2) s

/-- A visitor that is shown the nodes of a list asks to stop at none of them. -/
def Passes (f : Expr → σ → Bool × σ) : σ → List Expr → Prop
  | _, [] => True
  | s, e :: es => (f e s).1 = false ∧ Passes f (f e s).2 es

/-- Shows the nodes of a list until the visitor asks to stop. -/
def Visit.showAll (f : Expr → σ → Bool × σ) (nodes : List Expr) (v : Visit σ) : Visit σ :=
  nodes.foldl (fun v e => v.show f e) v

@[simp] theorem stateAfter_nil : stateAfter f s [] = s := rfl

@[simp] theorem stateAfter_cons (e : Expr) (es : List Expr) :
    stateAfter f s (e :: es) = stateAfter f (f e s).2 es := rfl

/-- Nothing more is shown after the visitor has asked to stop. -/
theorem Visit.show_of_stopped {v : Visit σ} (h : v.stopped = true) (e : Expr) : v.show f e = v :=
  if_pos h

/-- Until then, each node is counted and answered in the state at hand. -/
theorem Visit.show_of_going (count : Nat) (e : Expr) :
    Visit.show f e ⟨s, count, false⟩ = ⟨(f e s).2, count + 1, (f e s).1⟩ := rfl

theorem Visit.showAll_cons (e : Expr) (es : List Expr) (v : Visit σ) :
    v.showAll f (e :: es) = (v.show f e).showAll f es := rfl

theorem Visit.showAll_append (es es' : List Expr) (v : Visit σ) :
    v.showAll f (es ++ es') = (v.showAll f es).showAll f es' := List.foldl_append

theorem Visit.showAll_of_stopped {v : Visit σ} (h : v.stopped = true) (nodes : List Expr) :
    v.showAll f nodes = v := by
  induction nodes with
  | nil => rfl
  | cons e es ih => rw [showAll_cons, show_of_stopped h, ih]

/-- Looking whether the visitor has asked to stop saves work and changes nothing. -/
theorem Visit.ite_stopped_showAll (nodes : List Expr) (v : Visit σ) :
    (if v.stopped = true then v else v.showAll f nodes) = v.showAll f nodes := by
  split
  · rename_i hstopped
    rw [showAll_of_stopped hstopped]
  · rfl

/-- A visitor that lets all nodes pass is shown all of them. -/
theorem Visit.showAll_of_passes {nodes : List Expr} (h : Passes f s nodes) (count : Nat) :
    Visit.showAll f nodes ⟨s, count, false⟩ =
      ⟨stateAfter f s nodes, count + nodes.length, false⟩ := by
  induction nodes generalizing s count with
  | nil => rfl
  | cons e es ih =>
    obtain ⟨hgo, hrest⟩ := h
    have hlength : count + 1 + es.length = count + (e :: es).length := by
      rw [List.length_cons]
      omega
    rw [showAll_cons, show_of_going, hgo, ih hrest, hlength, stateAfter_cons]

/-- A visitor that asks to stop at a node is not shown what comes after it. -/
theorem Visit.showAll_of_stops {before : List Expr} {node : Expr} (h : Passes f s before)
    (hstop : (f node (stateAfter f s before)).1 = true) (after : List Expr) (count : Nat) :
    Visit.showAll f (before ++ node :: after) ⟨s, count, false⟩ =
      ⟨stateAfter f s (before ++ [node]), count + (before ++ [node]).length, true⟩ := by
  have hstate : stateAfter f s (before ++ [node]) = (f node (stateAfter f s before)).2 := by
    rw [stateAfter, List.foldl_append]
    rfl
  have hlength : count + before.length + 1 = count + (before ++ [node]).length := by
    rw [List.length_append, List.length_singleton]
    omega
  rw [showAll_append, showAll_of_passes h, showAll_cons, show_of_going, hstop, hstate, hlength]
  exact showAll_of_stopped rfl after

/-- Of any list, a visitor lets all nodes pass, or there is a first one at which it asks to stop. -/
theorem passes_or_stops (f : Expr → σ → Bool × σ) (s : σ) (nodes : List Expr) :
    Passes f s nodes ∨ ∃ before node after, nodes = before ++ node :: after ∧
      Passes f s before ∧ (f node (stateAfter f s before)).1 = true := by
  induction nodes generalizing s with
  | nil => exact .inl trivial
  | cons e es ih =>
    cases hanswer : (f e s).1 with
    | true => exact .inr ⟨[], e, es, rfl, trivial, hanswer⟩
    | false =>
      rcases ih (f e s).2 with hpasses | ⟨before, node, after, rfl, hpasses, hstop⟩
      · exact .inl ⟨hanswer, hpasses⟩
      · exact .inr ⟨e :: before, node, after, rfl, ⟨hanswer, hpasses⟩, hstop⟩

/-! ## Visits that may stop -/

theorem visitAllFrom_eq {es : List Expr}
    (h : ∀ e ∈ es, ∀ v : Visit σ, visitFrom f e v = v.showAll f e.preorder) (v : Visit σ) :
    visitAllFrom f es v = v.showAll f (preorderAll es) := by
  induction es generalizing v with
  | nil => rfl
  | cons e es ih =>
    rw [List.forall_mem_cons] at h
    rw [visitAllFrom, preorderAll, ih h.2, h.1, ← Visit.showAll_append, Visit.ite_stopped_showAll]

/-- A visit that may stop goes over the nodes in preorder, wherever in the tree it stops. -/
theorem visitFrom_eq (e : Expr) (v : Visit σ) : visitFrom f e v = v.showAll f e.preorder := by
  -- Induction on the tree; the visit that comes in may have stopped already.
  induction e generalizing v with
  | const value => rfl
  | prim p => rfl
  | var x => rfl
  | apply type fn args ihFn ihArgs =>
    simp only [visitFrom, preorder, Visit.showAll_cons, ihFn, visitAllFrom_eq ihArgs,
      ← Visit.showAll_append, Visit.ite_stopped_showAll]
  | lambda name type signature params body ih =>
    have hparams : ∀ v : Visit σ,
        params.foldl (fun v x => v.show f (.var x)) v = v.showAll f (params.map var) := by
      intro v
      rw [Visit.showAll, List.foldl_map]
    simp only [visitFrom, preorder, Visit.showAll_cons, ih, hparams, ← Visit.showAll_append,
      Visit.ite_stopped_showAll]

/-- A visitor that lets all nodes of a tree pass completes the visit. -/
theorem visitUntil_of_passes {e : Expr} (h : Passes f s e.preorder) :
    visitUntil f e s = (stateAfter f s e.preorder, .completed e.preorder.length) := by
  rw [visitUntil, visitFrom_eq, Visit.showAll_of_passes h]
  simp

/-- A visitor that asks to stop at a node ends the visit there. -/
theorem visitUntil_of_stops {e node : Expr} {before after : List Expr}
    (hnodes : e.preorder = before ++ node :: after) (h : Passes f s before)
    (hstop : (f node (stateAfter f s before)).1 = true) :
    visitUntil f e s =
      (stateAfter f s (before ++ [node]), .stopped (before ++ [node]).length) := by
  rw [visitUntil, visitFrom_eq, hnodes, Visit.showAll_of_stops h hstop]
  simp

/-! ## What is shown -/

/-- The visitor that answers as another one does and keeps a list of the nodes shown. -/
def recording (f : Expr → σ → Bool × σ) (e : Expr) (s : σ × List Expr) : Bool × (σ × List Expr) :=
  ((f e s.1).1, ((f e s.1).2, s.2 ++ [e]))

/-- The nodes shown by a visit that may stop, in order. -/
def visitedUntil (f : Expr → σ → Bool × σ) (e : Expr) (s : σ) : List Expr :=
  (e.visitUntil (recording f) (s, [])).1.2

theorem stateAfter_recording (s : σ) (seen nodes : List Expr) :
    stateAfter (recording f) (s, seen) nodes = (stateAfter f s nodes, seen ++ nodes) := by
  induction nodes generalizing s seen with
  | nil => simp
  | cons e es ih => simp [recording, ih]

theorem passes_recording_iff (s : σ) (seen nodes : List Expr) :
    Passes (recording f) (s, seen) nodes ↔ Passes f s nodes := by
  induction nodes generalizing s seen with
  | nil => rfl
  | cons e es ih => simp [Passes, recording, ih]

/-- A visit shows the root of a tree and then what it shows of each child, from left to right, a
    node as often as it is used, and counts what it shows.  A visit that may stop shows the same
    nodes up to the first at which the visitor asks to stop, with that one, and counts those; it
    leaves the visitor in the state that these nodes give it one after the other.  If the visitor
    never asks, all nodes are shown. -/
theorem visitUntil_shows_prefix (e : Expr) :
    e.preorder = e :: e.children.flatMap preorder ∧ e.visited = e.preorder ∧
    (∀ (σ : Type) (f : Expr → σ → σ) (s : σ),
      visit f e s = (e.preorder.foldl (fun s node => f node s) s, e.preorder.length)) ∧
    ∀ (σ : Type) (f : Expr → σ → Bool × σ) (s : σ), ∃ (shown : List Expr) (flow : Flow),
      visitedUntil f e s = shown ∧ visitUntil f e s = (stateAfter f s shown, flow) ∧
      (Passes f s e.preorder ∧ shown = e.preorder ∧ flow = .completed e.preorder.length ∨
        ∃ before node after, e.preorder = before ++ node :: after ∧ Passes f s before ∧
          (f node (stateAfter f s before)).1 = true ∧
          shown = before ++ [node] ∧ flow = .stopped shown.length) := by
  refine ⟨e.preorder_eq_children, e.visited_eq_preorder, fun σ f s => visit_eq f e s, ?_⟩
  intro σ f s
  rcases passes_or_stops f s e.preorder with hpasses | ⟨before, node, after, hnodes, hpasses, hstop⟩
  · refine ⟨_, _, ?_, visitUntil_of_passes hpasses, .inl ⟨hpasses, rfl, rfl⟩⟩
    rw [visitedUntil, visitUntil_of_passes ((passes_recording_iff s [] _).mpr hpasses),
      stateAfter_recording, List.nil_append]
  · refine ⟨_, _, ?_, visitUntil_of_stops hnodes hpasses hstop,
      .inr ⟨before, node, after, hnodes, hpasses, hstop, rfl, rfl⟩⟩
    -- The record does not change the answers, so the recorded visit stops at the same node.
    have hstop' : (recording f node (stateAfter (recording f) (s, []) before)).1 = true := by
      rw [stateAfter_recording]
      exact hstop
    rw [visitedUntil, visitUntil_of_stops hnodes ((passes_recording_iff s [] _).mpr hpasses) hstop',
      stateAfter_recording, List.nil_append]

/-- A visitor that stops at the third node of a tree with four. -/
example : (visitUntil (fun _ n => (n == 2, n + 1))
    (.apply .int (.var ⟨0, "f", .fn (some .int) [.int, .int], none⟩)
      [.var ⟨1, "x", .int, none⟩, .var ⟨1, "x", .int, none⟩]) 0) = (3, .stopped 3) := rfl

end ExprGraph.Expr
