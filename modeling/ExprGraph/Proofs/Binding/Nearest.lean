/-
  ExprGraph.Proofs.Binding.Nearest

  Looking a name up in nested scopes is a search from the inside outward.

  `nearest?` counts the scopes in front of the nearest one that has the name and gives the first
  position of the name there; `pathWithin?` is the path that follows from it, in which the base
  environment answers only for names that no scope has, its lexical paths moved outward by the
  number of scopes.  `Env.lookup?_enterAll` is the agreement of the chained look-up, which
  increments links on the way back, with that search.
-/

import ExprGraph.Binding.Env

namespace ExprGraph

/-! ## The nearest scope with a name -/

/-- Where a name is found among scopes given from the innermost to the outermost: the number of
    scopes crossed and the first position of the name in the scope reached. -/
def nearest? (name : String) : List (List String) → Option (Nat × Nat)
  | [] => none
  | names :: outer =>
    match names.idxOf? name with
    | some slot => some (0, slot)
    | none => (nearest? name outer).map fun (link, slot) => (link + 1, slot)

@[simp] theorem nearest?_nil (name : String) : nearest? name [] = none := rfl

theorem nearest?_cons (name : String) (names : List String) (outer : List (List String)) :
    nearest? name (names :: outer) =
      match names.idxOf? name with
      | some slot => some (0, slot)
      | none => (nearest? name outer).map fun (link, slot) => (link + 1, slot) := rfl

/-- A name is found exactly if some scope has it. -/
theorem nearest?_eq_none_iff {name : String} {scopes : List (List String)} :
    nearest? name scopes = none ↔ ∀ names ∈ scopes, name ∉ names := by
  induction scopes with
  | nil => simp
  | cons names outer ih =>
    rw [nearest?_cons]
    cases h : names.idxOf? name with
    | none =>
      have hnot : name ∉ names := List.idxOf?_eq_none_iff.mp h
      simp [ih, hnot]
    | some slot =>
      have hmem : name ∈ names := List.isSome_idxOf?.mp (by rw [h]; rfl)
      simp [hmem]

/-- The scope reached has the name first at the position given, and no scope crossed has it. -/
theorem nearest?_eq_some_iff {name : String} {scopes : List (List String)} {link slot : Nat} :
    nearest? name scopes = some (link, slot) ↔
      (∃ names, scopes[link]? = some names ∧ names.idxOf? name = some slot) ∧
        ∀ names ∈ scopes.take link, name ∉ names := by
  induction scopes generalizing link with
  | nil => simp
  | cons names outer ih =>
    rw [nearest?_cons]
    cases h : names.idxOf? name with
    | none =>
      -- The scope at the front is crossed: the rest is the same search with one link less.
      have hnot : name ∉ names := List.idxOf?_eq_none_iff.mp h
      cases link with
      | zero => simp [h]
      | succ link => simp [← ih, hnot]
    | some first =>
      -- The search ends at the front, so no link leads across it.
      have hmem : name ∈ names := List.isSome_idxOf?.mp (by rw [h]; rfl)
      cases link with
      | zero => simp [h]
      | succ link => simp [hmem]

/-- A further scope at the outer end counts only for names that the others lack. -/
theorem nearest?_append_singleton (name : String) (scopes : List (List String))
    (names : List String) :
    nearest? name (scopes ++ [names]) =
      match nearest? name scopes with
      | some found => some found
      | none => (names.idxOf? name).map fun slot => (scopes.length, slot) := by
  induction scopes with
  | nil =>
    rw [List.nil_append, nearest?_cons]
    cases names.idxOf? name <;> simp
  | cons inner scopes ih =>
    rw [List.cons_append, nearest?_cons, nearest?_cons, ih]
    cases inner.idxOf? name with
    | some slot => rfl
    | none =>
      cases nearest? name scopes with
      | some found => rfl
      | none => cases names.idxOf? name <;> simp

/-! ## The path that follows -/

/-- The path of a name as seen from inside scopes over a base environment, the scopes given from the
    innermost to the outermost. -/
def pathWithin? (base : Env) (scopes : List (List String)) (name : String) : Option BindingPath :=
  match nearest? name scopes with
  | some (link, slot) => some (.lexical (UInt32.ofNat link) (UInt32.ofNat slot))
  | none => (base.lookup? name).map (BindingPath.outwardBy scopes.length)

@[simp] theorem pathWithin?_nil (base : Env) (name : String) :
    pathWithin? base [] name = base.lookup? name := by
  have hid : (BindingPath.outwardBy 0) = id := funext BindingPath.outwardBy_zero
  simp [pathWithin?, hid]

/-- Entering a scope puts it at the outer end of the scopes entered after it. -/
theorem pathWithin?_enter (base : Env) (names : List String) (scopes : List (List String))
    (name : String) :
    pathWithin? (base.enter names) scopes name = pathWithin? base (scopes ++ [names]) name := by
  unfold pathWithin?
  rw [nearest?_append_singleton, Env.lookup?_enter]
  cases nearest? name scopes with
  | some found => rfl
  | none =>
    cases names.idxOf? name with
    | some slot => simp
    | none =>
      -- Only here does the base answer: one step outward before the others is one more of them.
      simp only [Option.map_map, Option.map_none, List.length_append, List.length_singleton]
      congr 1
      funext p
      exact BindingPath.outwardBy_outward scopes.length p

/-- The look-up through a chain of scopes is the search from the inside outward. -/
theorem Env.lookup?_enterAll (base : Env) (scopes : List (List String)) (name : String) :
    (base.enterAll scopes).lookup? name = pathWithin? base scopes.reverse name := by
  -- The chain is built from the outermost scope, so the base of the hypothesis has that scope.
  induction scopes generalizing base with
  | nil => simp
  | cons names scopes ih =>
    rw [Env.enterAll_cons, ih, List.reverse_cons, pathWithin?_enter]

/-- A name that all scopes lack is looked up outside, one scope further away for each of them. -/
theorem Env.lookup?_enterAll_of_not_mem (base : Env) {scopes : List (List String)} {name : String}
    (hscopes : ∀ names ∈ scopes, name ∉ names) :
    (base.enterAll scopes).lookup? name =
      (base.lookup? name).map (BindingPath.outwardBy scopes.length) := by
  have hnone : nearest? name scopes.reverse = none := by
    refine nearest?_eq_none_iff.mpr fun names hnames => ?_
    exact hscopes names (List.mem_reverse.mp hnames)
  rw [lookup?_enterAll, pathWithin?, hnone, List.length_reverse]

/-- Scopes that lack a name leave it where the base has it, unless it moves with the depth. -/
theorem Env.lookup?_enterAll_of_global (base : Env) {scopes : List (List String)} {name : String}
    (hglobal : base.lookup? name = none ∨ ∃ slot, base.lookup? name = some (.global slot))
    (hscopes : ∀ names ∈ scopes, name ∉ names) :
    (base.enterAll scopes).lookup? name = base.lookup? name := by
  rw [lookup?_enterAll_of_not_mem base hscopes]
  obtain hlacks | ⟨slot, hfound⟩ := hglobal
  · rw [hlacks]
    rfl
  · rw [hfound]
    rfl

/-- A name has a path exactly if some scope or the base has one for it. -/
theorem pathWithin?_isSome_iff {base : Env} {scopes : List (List String)} {name : String} :
    (pathWithin? base scopes name).isSome = true ↔
      (nearest? name scopes = none → (base.lookup? name).isSome = true) := by
  unfold pathWithin?
  cases nearest? name scopes with
  | some found => simp
  | none => simp

end ExprGraph
