/-
  ExprGraph.Proofs.Native.Recovery

  Native values come back exactly as they were stored.

  A description does not determine a native type, so comparing claims alone would let one native
  type pass for another, and comparing native types alone would let a wrong claim pass.  A tagged
  reference compares both (`TaggedRef.recover?_eq_some_iff`).  Constants claim what describes their
  value, and so do primitives, whose type was compared with that of their function when they were
  built (`Expr.Holds.asConstant`).  What a node refers to is therefore recovered as the native type
  that it was stored with, and as no other (`recovery_exact`).
-/

import ExprGraph.Expr.Capability
import ExprGraph.Proofs.Expr.Typing

namespace ExprGraph

/-! ## Values and references -/

/-- A value is given back as its own native type only. -/
theorem NativeValue.as?_eq_some_iff {v : NativeValue} {t : NativeTy} {w : t.Carrier} :
    v.as? t = some w ↔ v = ⟨t, w⟩ := by
  constructor
  · intro h
    by_cases htype : v.type = t
    · subst htype
      rw [as?_self, Option.some.injEq] at h
      rw [← h]
    · rw [as?_eq_none_iff.mpr htype] at h
      cases h
  · rintro rfl
    exact as?_self _

namespace TaggedRef

variable {r : TaggedRef} {t : NativeTy}

/-- A value is recovered as its own native type, under a claim that describes it. -/
theorem recover?_eq_some_iff {w : t.Carrier} :
    r.recover? t = some w ↔ r.claimed = t.descr ∧ r.target = ⟨t, w⟩ := by
  rw [recover?]
  by_cases hclaim : r.claimed = t.descr
  · simp [hclaim, NativeValue.as?_eq_some_iff]
  · simp [hclaim]

theorem isSome_recover?_iff :
    (r.recover? t).isSome = true ↔ t = r.target.type ∧ r.claimed = r.target.type.descr := by
  rw [Option.isSome_iff_exists]
  constructor
  · rintro ⟨w, hw⟩
    obtain ⟨hclaim, htarget⟩ := recover?_eq_some_iff.mp hw
    rw [htarget]
    exact ⟨rfl, hclaim⟩
  · rintro ⟨rfl, hclaim⟩
    exact ⟨r.target.value, recover?_eq_some_iff.mpr ⟨hclaim, rfl⟩⟩

end TaggedRef

/-! ## Nodes -/

namespace Expr

/-- A node that was built to hold a native value: a constant, or a primitive for a native function. -/
inductive Holds : Expr → NativeValue → Prop where
  | const (v : NativeValue) : Holds (.const v) v
  | prim {name : String} {function : NativeValue} {type : Ty} {p : Primitive}
      (h : Primitive.buildAs name function type = .ok p) (explicitSymbol : Bool)
      (intrinsic : Intrinsic) : Holds (.prim { p with explicitSymbol, intrinsic }) function

/-- Constants and primitives hold values, and no other nodes. -/
theorem exists_holds_iff {e : Expr} (h : Constructible e) :
    (∃ v, e.Holds v) ↔ e.kind = .constant ∨ e.kind = .primitive := by
  constructor
  · rintro ⟨v, hv⟩
    cases hv with
    | const v => exact .inl rfl
    | prim _ _ _ => exact .inr rfl
  · intro hkind
    cases h with
    | const value => exact ⟨value, .const value⟩
    | prim h explicitSymbol intrinsic => exact ⟨_, .prim h explicitSymbol intrinsic⟩
    | var h => simp at hkind
    | apply _ _ h =>
      obtain ⟨result, -, rfl⟩ := mkApply_eq_ok_iff.mp h
      simp at hkind
    | lambda _ _ h =>
      obtain ⟨-, vs, -, -, rfl⟩ := mkLambda_eq_ok_iff.mp h
      simp at hkind

/-- A node refers to what it holds under the type that describes it. -/
theorem Holds.asConstant {e : Expr} {v : NativeValue} (h : e.Holds v) :
    ∃ view, e.asConstant = .ok view ∧ view.value = ⟨v.type.descr, v⟩ := by
  cases h with
  | const v => exact ⟨_, rfl, rfl⟩
  | prim h explicitSymbol intrinsic =>
    obtain ⟨-, rfl, result, -, rfl⟩ := Primitive.buildAs_eq_ok_iff.mp h
    exact ⟨_, rfl, rfl⟩

end Expr

/-- Native values come back exactly as they were stored.  Constants and primitives hold a value, and
    what they refer to is recovered as the native type of that value, is that very value, and is not
    recovered as any other native type, not even as one that is described alike, such as the same
    function under the other calling convention.  A reference made by hand, whatever it claims,
    gives the value back only as its own native type and only if the claim describes that type, so a
    wrong claim never turns it into a value of another type. -/
theorem recovery_exact :
    (∀ e : Expr, Constructible e →
      ((∃ v, e.Holds v) ↔ e.kind = .constant ∨ e.kind = .primitive)) ∧
    (∀ (e : Expr) (v : NativeValue), e.Holds v → ∃ view, e.asConstant = .ok view ∧
      (∀ t, (view.value.recover? t).isSome = true ↔ t = v.type) ∧
      view.value.recover? v.type = some v.value ∧
      (∀ t, t ≠ v.type → t.descr = v.type.descr → view.value.recover? t = none) ∧
      ∀ c c' ret args, v.type = .fn c ret args → c' ≠ c →
        (NativeTy.fn c' ret args).descr = v.type.descr ∧
          view.value.recover? (.fn c' ret args) = none) ∧
    ∀ (v : NativeValue) (claimed : Ty) (t : NativeTy),
      (((TaggedRef.mk claimed v).recover? t).isSome = true ↔
        t = v.type ∧ claimed = v.type.descr) ∧
      ∀ w, (TaggedRef.mk claimed v).recover? t = some w → v = ⟨t, w⟩ := by
  refine ⟨fun e => Expr.exists_holds_iff, ?_, ?_⟩
  · intro e v hv
    obtain ⟨view, hview, hvalue⟩ := hv.asConstant
    have hsome : ∀ t, (view.value.recover? t).isSome = true ↔ t = v.type := by
      intro t
      rw [TaggedRef.isSome_recover?_iff, hvalue]
      simp only [and_true]
    have hnone : ∀ t, t ≠ v.type → view.value.recover? t = none := by
      intro t ht
      rw [← Option.not_isSome_iff_eq_none, hsome]
      exact ht
    have hself : view.value.recover? v.type = some v.value := by
      rw [hvalue]
      exact TaggedRef.recover?_eq_some_iff.mpr ⟨rfl, rfl⟩
    refine ⟨view, hview, hsome, hself, fun t ht _ => hnone t ht, ?_⟩
    intro c c' ret args htype hc
    refine ⟨by rw [htype, NativeTy.descr_fn, NativeTy.descr_fn], hnone _ ?_⟩
    rw [htype]
    intro hsame
    exact hc (NativeTy.fn.inj hsame).1
  · intro v claimed t
    exact ⟨TaggedRef.isSome_recover?_iff, fun w hw => (TaggedRef.recover?_eq_some_iff.mp hw).2⟩

/-- Handles around an integer. -/
def sampleHandle : NativeTy := .record "Handle" (.named "handle") [.int]

/-- Another type of records with the same description and the same fields. -/
def sampleTicket : NativeTy := .record "Ticket" (.named "handle") [.int]

/-- The handle around the number seven. -/
def sampleSeven : sampleHandle.Carrier := ((7 : Int64), ())

/-- The addition of integers, recovered under its own calling convention and not under the other;
    a handle, recovered with its number and not as a record of a type that is described alike; and a
    number that is claimed to be a handle. -/
theorem recovery_exact_samples :
    let add : Primitive := Constructible.samplePrimitive
    ((Expr.prim add).Holds add.function ∧ ∃ view, (Expr.prim add).asConstant = .ok view ∧
      view.value.recover? (.fn .host .int [.int, .int]) = some add.function.value ∧
      view.value.recover? (.fn .foreign .int [.int, .int]) = none) ∧
    (∃ view, (Expr.const ⟨sampleHandle, sampleSeven⟩).asConstant = .ok view ∧
      view.value.recover? sampleHandle = some sampleSeven ∧
      view.value.recover? sampleTicket = none) ∧
    let claimedHandle : TaggedRef := ⟨.named "handle", ⟨.int, (7 : Int64)⟩⟩
    (claimedHandle.recover? .int).isSome = false ∧
      (claimedHandle.recover? sampleHandle).isSome = false := by
  intro add
  obtain ⟨-, hnodes, htagged⟩ := recovery_exact
  have hadd : Primitive.buildAs "add" add.function add.function.type.descr = .ok add := rfl
  have hholds : (Expr.prim add).Holds add.function := .prim hadd false .none
  obtain ⟨view, hview, -, hself, -, hother⟩ := hnodes _ _ hholds
  have hforeign := (hother .host .foreign .int [.int, .int] rfl (by decide)).2
  obtain ⟨handle, hhandle, -, hseven, hticket, -⟩ := hnodes _ _ (.const ⟨sampleHandle, sampleSeven⟩)
  refine ⟨⟨hholds, view, hview, hself, hforeign⟩,
    ⟨handle, hhandle, hseven, hticket sampleTicket (by decide) rfl⟩, ?_⟩
  intro claimedHandle
  constructor
  · rw [Bool.eq_false_iff, ne_eq, (htagged _ _ _).1]
    decide
  · rw [Bool.eq_false_iff, ne_eq, (htagged _ _ _).1]
    decide

end ExprGraph
