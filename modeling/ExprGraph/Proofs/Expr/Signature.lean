/-
  ExprGraph.Proofs.Expr.Signature

  What signatures say about expressions.

  Among legible types a signature stands for one type.  So the signature that a function keeps gives
  its type back, and a message about two types that do not agree never shows the same text for both.
-/

import ExprGraph.Proofs.Expr.Fault
import ExprGraph.Proofs.Ty.Signature

namespace ExprGraph

open Ty

/-- The signature that a function keeps gives its type back. -/
theorem Constructible.type_eq_of_signature_eq {name name' : String} {type type' : Ty}
    {signature signature' : String} {params params' : List Variable} {body body' : Expr}
    (hf : Constructible (.lambda name type signature params body))
    (hg : Constructible (.lambda name' type' signature' params' body'))
    (htype : type.Legible signatureMarks) (htype' : type'.Legible signatureMarks)
    (h : signature = signature') : type = type' := by
  obtain ⟨-, -, -, hsignature⟩ := hf.wellTyped
  obtain ⟨-, -, -, hsignature'⟩ := hg.wellTyped
  refine htype.eq_of_shortName_eq htype' ?_
  rw [← hsignature, ← hsignature', h]

/-- Signatures are unambiguous: among types of scalars, functions and proper names, those with the
    same short name are the same.  So functions with the same signature have the same type, and the
    two types in a refusal of an argument or of a description are written differently. -/
theorem signature_unambiguous :
    (∀ t u : Ty, t.Legible signatureMarks → u.Legible signatureMarks →
      t.shortName = u.shortName → t = u) ∧
    (∀ name type signature params body name' type' signature' params' body',
      Constructible (.lambda name type signature params body) →
      Constructible (.lambda name' type' signature' params' body') →
      type.Legible signatureMarks → type'.Legible signatureMarks →
      signature = signature' → type = type') ∧
    (∀ fn args index expected found,
      Expr.mkApply fn args = .error (.argTypeMismatch index expected found) →
      expected.Legible signatureMarks → found.Legible signatureMarks →
      expected.shortName ≠ found.shortName) ∧
    ∀ name function type n expected found,
      Primitive.buildAs name function type = .error (.descriptorMismatch n expected found) →
      expected.Legible signatureMarks → found.Legible signatureMarks →
      expected.shortName ≠ found.shortName := by
  refine ⟨fun t u => Legible.eq_of_shortName_eq, ?_, ?_, ?_⟩
  · intro name type signature params body name' type' signature' params' body' hf hg htype htype' h
    exact hf.type_eq_of_signature_eq hg htype htype' h
  · intro fn args index expected found h hexpected hfound hsame
    exact Expr.ne_of_argTypeMismatch h (hexpected.eq_of_shortName_eq hfound hsame)
  · intro name function type n expected found h hexpected hfound hsame
    exact Primitive.ne_of_descriptorMismatch h (hexpected.eq_of_shortName_eq hfound hsame)

/-! ## An example -/

/-- `float(int)(handle)`, with the function on the left. -/
def sampleCurried : Ty := .fn (some (.fn (some .float) [.int])) [.named "handle"]

/-- `float(int(handle))`, with the function on the right. -/
def sampleHigherOrder : Ty := .fn (some .float) [.fn (some .int) [.named "handle"]]

/-- A function that returns its argument. -/
def sampleIdentity : Expr :=
  .lambda "same" (.fn (some .int) [.int]) "int(int)" [Constructible.sampleVariable]
    (.var Constructible.sampleVariable)

/-- An integer and a truth value. -/
def sampleArgs : List Expr := [.const ⟨.int, (1 : Int64)⟩, .const ⟨.bool, true⟩]

/-- A native function that returns an integer. -/
def sampleGetter : NativeValue := ⟨.fn .host .int [], ⟨"get", (1 : Int64)⟩⟩

theorem constructible_sampleIdentity : Constructible sampleIdentity := by
  have hvar : Constructible (.var Constructible.sampleVariable) :=
    Constructible.var_iff.mpr (by decide : Constructible.sampleVariable.name ≠ "")
  exact Constructible.lambda_iff.mpr ⟨by simpa using hvar, hvar, by decide, by decide, rfl, rfl⟩

theorem signature_unambiguous_samples :
    sampleCurried.shortName ≠ sampleHigherOrder.shortName ∧
    Constructible.sampleLambda.type = sampleIdentity.type ∧
    (Expr.mkApply (.prim Constructible.samplePrimitive) sampleArgs =
        .error (.argTypeMismatch 1 .int .bool) ∧
      shortName .int ≠ shortName .bool) ∧
    Primitive.buildAs "get" sampleGetter (.fn (some .bool) []) =
        .error (.descriptorMismatch "get" (.fn (some .int) []) (.fn (some .bool) [])) ∧
      shortName (.fn (some .int) []) ≠ shortName (.fn (some .bool) []) := by
  obtain ⟨htypes, hlambdas, hcalls, hprimitives⟩ := signature_unambiguous
  have hcurried : sampleCurried.Legible signatureMarks := by decide +kernel
  have hhigher : sampleHigherOrder.Legible signatureMarks := by decide +kernel
  have hsignature : (Ty.fn (some .int) [.int]).Legible signatureMarks := by decide
  refine ⟨?_, ?_, ⟨rfl, ?_⟩, rfl, ?_⟩
  · intro h
    exact absurd (htypes _ _ hcurried hhigher h) (by decide)
  · exact hlambdas _ _ _ _ _ _ _ _ _ _ Constructible.constructible_sampleLambda constructible_sampleIdentity
      hsignature hsignature rfl
  · exact hcalls (.prim Constructible.samplePrimitive) sampleArgs 1 _ _ rfl (by decide) (by decide)
  · exact hprimitives "get" sampleGetter (.fn (some .bool) []) "get" _ _ rfl (by decide) (by decide)

end ExprGraph
