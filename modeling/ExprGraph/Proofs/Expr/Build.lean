/-
  ExprGraph.Proofs.Expr.Build

  What a builder has checked when it returns a node.

  Each lemma reads the success of one builder as the conditions on its parts together with the node
  that it returns, so nothing after this module goes through the checks again.
-/

import ExprGraph.Expr.Build

namespace ExprGraph

/-! ## Leaves -/

theorem Variable.build_eq_ok_iff {id : Nat} {name : String} {type : Ty} {span : Option Span}
    {v : Variable} :
    Variable.build id name type span = .ok v ↔ name ≠ "" ∧ v = ⟨id, name, type, span⟩ := by
  rw [Variable.build]
  split
  · simp_all
  · simp_all [eq_comm]

/-- A primitive has a name, and its type is that of the native function and has a result. -/
theorem Primitive.buildAs_eq_ok_iff {name : String} {function : NativeValue} {type : Ty}
    {p : Primitive} :
    Primitive.buildAs name function type = .ok p ↔
      name ≠ "" ∧ type = function.type.descr ∧
        ∃ result, type.result? = some result ∧ p = { name, type, result, function } := by
  simp only [Primitive.buildAs]
  constructor
  · intro h
    -- Name, function type and arguments are checked before the result, the whole type after it.
    split at h
    · cases h
    split at h
    · cases h
    split at h
    · cases h
    rename_i hname _ _
    cases hresult : type.result? with
    | none =>
      rw [hresult] at h
      cases h
    | some result =>
      rw [hresult] at h
      by_cases htype : type = function.type.descr
      · refine ⟨hname, htype, result, rfl, ?_⟩
        simpa [htype, eq_comm] using h
      · simp [htype] at h
  · rintro ⟨hname, rfl, result, hresult, rfl⟩
    -- A type with a result is a function type, so the earlier checks pass as well.
    have hfn : function.type.descr.isFunction = true := by
      rw [Ty.eq_fn_of_result? hresult, Ty.isFunction_fn]
    simp [hname, hfn, hresult]

namespace Expr

/-! ## Functions -/

theorem parameters_var_eq_ok_iff {lambda : String} {seen : List String} {index : Nat} {v : Variable}
    {es : List Expr} {vs : List Variable} :
    parameters lambda seen index (.var v :: es) = .ok vs ↔
      v.name ∉ seen ∧
        ∃ ws, parameters lambda (v.name :: seen) (index + 1) es = .ok ws ∧ vs = v :: ws := by
  rw [parameters]
  by_cases hseen : v.name ∈ seen
  · simp [hseen]
  · rw [if_neg hseen]
    cases parameters lambda (v.name :: seen) (index + 1) es with
    | error fault => simp
    | ok ws => simp [hseen, eq_comm]

/-- The first parameter node is a variable. -/
theorem eq_var_of_parameters_eq_ok {lambda : String} {seen : List String} {index : Nat} {e : Expr}
    {es : List Expr} {vs : List Variable} (h : parameters lambda seen index (e :: es) = .ok vs) :
    ∃ v, e = .var v := by
  cases e with
  | var v => exact ⟨v, rfl⟩
  | _ => simp [parameters] at h

/-- Parameter nodes are variables with names that differ from each other and from those seen. -/
theorem parameters_eq_ok_iff {lambda : String} {seen : List String} {index : Nat} {es : List Expr}
    {vs : List Variable} :
    parameters lambda seen index es = .ok vs ↔
      es = vs.map .var ∧ (vs.map (·.name)).Nodup ∧ ∀ v ∈ vs, v.name ∉ seen := by
  induction es generalizing seen index vs with
  | nil => cases vs <;> simp [parameters]
  | cons e es ih =>
    constructor
    · intro h
      obtain ⟨v, rfl⟩ := eq_var_of_parameters_eq_ok h
      obtain ⟨hfresh, ws, hws, rfl⟩ := parameters_var_eq_ok_iff.mp h
      obtain ⟨rfl, hnodup, hunseen⟩ := ih.mp hws
      -- What the later parameters must avoid is the first name together with the names seen.
      simp only [List.mem_cons, not_or] at hunseen
      refine ⟨rfl, ?_, ?_⟩
      · rw [List.map_cons, List.nodup_cons]
        refine ⟨?_, hnodup⟩
        intro hmem
        obtain ⟨w, hw, hsame⟩ := List.mem_map.mp hmem
        exact (hunseen w hw).1 hsame
      · rw [List.forall_mem_cons]
        exact ⟨hfresh, fun w hw => (hunseen w hw).2⟩
    · rintro ⟨hes, hnodup, hunseen⟩
      cases vs with
      | nil => cases hes
      | cons v vs =>
        obtain ⟨rfl, rfl⟩ := List.cons.inj hes
        rw [List.map_cons, List.nodup_cons] at hnodup
        obtain ⟨hfresh, hunseen⟩ := List.forall_mem_cons.mp hunseen
        refine parameters_var_eq_ok_iff.mpr ⟨hfresh, vs, ih.mpr ⟨rfl, hnodup.2, ?_⟩, rfl⟩
        intro w hw hmem
        rcases List.mem_cons.mp hmem with hsame | hseen
        · exact hnodup.1 (hsame ▸ List.mem_map_of_mem hw)
        · exact hunseen w hw hseen

theorem mkLambda_eq_ok_iff {name : String} {params : List Expr} {body e : Expr} :
    mkLambda name params body = .ok e ↔
      name ≠ "" ∧ ∃ vs : List Variable, params = vs.map .var ∧ (vs.map (·.name)).Nodup ∧
        e = .lambda name (lambdaType vs body) (lambdaType vs body).shortName vs body := by
  -- No names have been seen before the first parameter.
  have hparams : ∀ vs, parameters name [] 0 params = .ok vs ↔
      params = vs.map .var ∧ (vs.map (·.name)).Nodup := by
    intro vs
    simp [parameters_eq_ok_iff]
  rw [mkLambda]
  by_cases hname : name = ""
  · simp [hname]
  · rw [if_neg hname]
    constructor
    · intro h
      cases hvs : parameters name [] 0 params with
      | error fault =>
        rw [hvs] at h
        cases h
      | ok vs =>
        rw [hvs] at h
        obtain ⟨hvars, hnodup⟩ := (hparams vs).mp hvs
        exact ⟨hname, vs, hvars, hnodup, (Except.ok.inj h).symm⟩
    · rintro ⟨-, vs, hvars, hnodup, rfl⟩
      rw [(hparams vs).mpr ⟨hvars, hnodup⟩]

/-! ## Calls -/

theorem firstMismatch?_eq_none_iff {index : Nat} {ts us : List Ty} (h : ts.length = us.length) :
    firstMismatch? index ts us = none ↔ ts = us := by
  induction ts generalizing index us with
  | nil =>
    obtain rfl := List.length_eq_zero_iff.mp h.symm
    simp [firstMismatch?]
  | cons t ts ih =>
    cases us with
    | nil => cases h
    | cons u us =>
      rw [firstMismatch?]
      by_cases hsame : t = u
      · rw [if_pos hsame, ih (Nat.succ.inj h), hsame]
        simp
      · simp [hsame]

/-- A call has an operator from the types of its arguments to its own type. -/
theorem mkApply_eq_ok_iff {fn : Expr} {args : List Expr} {e : Expr} :
    mkApply fn args = .ok e ↔
      ∃ result, fn.type = .fn (some result) (args.map type) ∧ e = .apply result fn args := by
  rw [mkApply]
  constructor
  · intro h
    split at h
    · cases h
    cases hresult : fn.type.result? with
    | none =>
      rw [hresult] at h
      cases h
    | some result =>
      rw [hresult] at h
      simp only at h
      split at h
      · cases h
      rename_i hlength
      rw [ne_eq, Decidable.not_not] at hlength
      cases hmismatch : firstMismatch? 0 fn.type.args (args.map type) with
      | some found =>
        rw [hmismatch] at h
        cases h
      | none =>
        rw [hmismatch] at h
        -- Equally many types and no mismatch among them: the lists are equal.
        have hargs := (firstMismatch?_eq_none_iff (by simpa using hlength)).mp hmismatch
        refine ⟨result, ?_, (Except.ok.inj h).symm⟩
        rw [← hargs]
        exact Ty.eq_fn_of_result? hresult
  · rintro ⟨result, htype, rfl⟩
    have hmismatch : firstMismatch? 0 (args.map type) (args.map type) = none :=
      (firstMismatch?_eq_none_iff rfl).mpr rfl
    simp [htype, hmismatch]

end Expr

end ExprGraph
