/-
  ExprGraph.Proofs.Expr.Callable

  What can be called agrees with its type.

  A function answers from its parameters and its body what it is called with and what it gives, and
  a primitive keeps its result beside its type; the type of either was fixed when it was built.  The
  checks of the builders tie the two together, so a constructible node is called with the arguments
  of its type and gives the result of its type (`Constructible.type_of_asFunction`).
-/

import ExprGraph.Expr.Capability
import ExprGraph.Proofs.Expr.Typing

namespace ExprGraph

/-- Functions and primitives can be called, and no other nodes. -/
theorem Expr.exists_asFunction_iff (e : Expr) :
    (∃ view, e.asFunction = .ok view) ↔ e.kind = .lambda ∨ e.kind = .primitive := by
  cases e <;> simp [asFunction, kind]

/-- There is a type for each argument and for none beyond. -/
theorem FunctionView.arg?_eq_none_iff {view : FunctionView} {i : Nat} :
    view.arg? i = none ↔ view.arity ≤ i := List.getElem?_eq_none_iff

namespace Constructible

/-- What can be called is called with the arguments of its type, and gives the result of its type. -/
theorem type_of_asFunction {e : Expr} {view : FunctionView} (h : Constructible e)
    (hview : e.asFunction = .ok view) : e.type = .fn (some view.result) view.argTypes := by
  cases e with
  | const value => cases hview
  | apply type fn args => cases hview
  | var v => cases hview
  | prim p =>
    obtain ⟨-, -, htype⟩ := h.wellTyped
    cases hview
    exact htype
  | lambda name type signature params body =>
    obtain ⟨-, -, htype, -⟩ := h.wellTyped
    cases hview
    exact htype

/-- A constructible node can be called exactly if it is a function or a primitive.  Then its type is
    a function type of as many arguments, each argument is of the same type on both sides, beyond
    the last argument there is none on either, and the results are the same. -/
theorem asFunction_agrees_with_type {e : Expr} (h : Constructible e) :
    ((∃ view, e.asFunction = .ok view) ↔ e.kind = .lambda ∨ e.kind = .primitive) ∧
    ∀ view, e.asFunction = .ok view →
      e.type.isFunction = true ∧
      view.arity = e.type.args.length ∧
      (∀ i, view.arg? i = e.type.arg? i) ∧
      (∀ i, view.arity ≤ i ↔ view.arg? i = none) ∧
      e.type.result? = some view.result := by
  refine ⟨e.exists_asFunction_iff, fun view hview => ?_⟩
  have htype : e.type = .fn (some view.result) view.argTypes := h.type_of_asFunction hview
  rw [htype]
  exact ⟨rfl, rfl, fun _ => rfl, fun _ => FunctionView.arg?_eq_none_iff.symm, rfl⟩

/-- The function that doubles an integer and the addition in its body. -/
theorem asFunction_agrees_with_type_samples :
    (Constructible sampleLambda ∧
      sampleLambda.asFunction = .ok ⟨"double", [.int], .int⟩ ∧
      sampleLambda.type.args.length = 1 ∧ sampleLambda.type.arg? 1 = none ∧
      sampleLambda.type.result? = some .int) ∧
    Constructible (.prim samplePrimitive) ∧
      (Expr.prim samplePrimitive).asFunction = .ok ⟨"add", [.int, .int], .int⟩ ∧
      (Expr.prim samplePrimitive).type.arg? 1 = some .int := by
  have hview : sampleLambda.asFunction = .ok ⟨"double", [.int], .int⟩ := rfl
  obtain ⟨-, hagree⟩ := asFunction_agrees_with_type constructible_sampleLambda
  obtain ⟨-, harity, hargs, hbeyond, hresult⟩ := hagree _ hview
  obtain ⟨-, hagree⟩ := asFunction_agrees_with_type constructible_samplePrimitive
  obtain ⟨-, -, hprimArgs, -, -⟩ := hagree ⟨"add", [.int, .int], .int⟩ rfl
  have hnone : FunctionView.arg? ⟨"double", [.int], .int⟩ 1 = none := (hbeyond 1).mp (Nat.le_refl 1)
  refine ⟨⟨constructible_sampleLambda, hview, harity.symm, ?_, hresult⟩,
    constructible_samplePrimitive, rfl, ?_⟩
  · rw [← hargs, hnone]
  · rw [← hprimArgs]
    rfl

end Constructible

end ExprGraph
