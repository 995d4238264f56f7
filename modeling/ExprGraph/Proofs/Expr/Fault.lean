/-
  ExprGraph.Proofs.Expr.Fault

  Which fault a builder reports.

  A relation beside each builder says what is wrong with its parts, without going through the checks:
  `Primitive.Fault` for primitives, `Expr.CallFault` for calls and `Expr.ParameterFault` for the
  parameters of functions.  Where several things are wrong, the builder reports the first in the
  order of the checks, and within a list the one at the least index (`Primitive.buildAs_eq_error_iff`,
  `Expr.mkApply_eq_error_iff`, `Expr.parameters_eq_error_iff`).  Together with what it accepts this
  says what a builder does on all parts.
-/

import ExprGraph.Proofs.Expr.Callable

namespace ExprGraph

/-! ## Primitives -/

namespace Primitive

variable {name : String} {function : NativeValue} {native type : Ty} {fault : ConstructError}

/-- Why the primitive `name` of a native function that `native` describes cannot be given a type.  A
    fault supposes that what is looked at before it is in order: there is a name, the type is a
    function type, its arguments are those of the native type, and it has a result.  A native type
    that is no function type has no arguments. -/
inductive Fault (name : String) (native type : Ty) : ConstructError → Prop where
  | noName (h : name = "") : Fault name native type (.emptyName .primitive)
  | notFunction (hname : name ≠ "") (h : type.isFunction = false) :
      Fault name native type (.notAFunction name type)
  | arguments {ret : Option Ty} {params : List Ty} (hname : name ≠ "") (h : type = .fn ret params)
      (hparams : params ≠ native.args) : Fault name native type (.descriptorMismatch name native type)
  | noResult {params : List Ty} (hname : name ≠ "") (h : type = .fn none params)
      (hparams : params = native.args) : Fault name native type (.missingReturnType name type)
  | result {ret : Ty} {params : List Ty} (hname : name ≠ "") (h : type = .fn (some ret) params)
      (hparams : params = native.args) (hnative : type ≠ native) :
      Fault name native type (.descriptorMismatch name native type)

theorem fault_of_buildAs (h : buildAs name function type = .error fault) :
    Fault name function.type.descr type fault := by
  simp only [buildAs] at h
  -- The checks in their order; what passes one of them is supposed by the faults after it.
  split at h
  · rename_i hname
    cases h
    exact .noName hname
  rename_i hname
  split at h
  · rename_i hfn
    cases h
    exact .notFunction hname hfn
  rename_i hfn
  have htype : type = .fn type.result? type.args :=
    Ty.isFunction_iff.mp ((Bool.not_eq_false _).mp hfn)
  split at h
  · rename_i hparams
    cases h
    exact .arguments hname htype hparams
  rename_i hparams
  rw [ne_eq, Decidable.not_not] at hparams
  cases hresult : type.result? with
  | none =>
    rw [hresult] at h htype
    cases h
    exact .noResult hname htype hparams
  | some result =>
    rw [hresult] at h htype
    simp only at h
    split at h
    · rename_i hnative
      cases h
      exact .result hname htype hparams hnative
    · cases h

/-- A primitive that cannot be built is refused for the first fault. -/
theorem buildAs_eq_error_iff :
    buildAs name function type = .error fault ↔ Fault name function.type.descr type fault := by
  refine ⟨fault_of_buildAs, ?_⟩
  intro h
  cases h with
  | noName h => rw [buildAs, if_pos h]
  | notFunction hname h => simp [buildAs, hname, h]
  | arguments hname h hparams => simp [buildAs, hname, h, hparams]
  | noResult hname h hparams => simp [buildAs, hname, h, hparams]
  | result hname h hparams hnative =>
    rw [h, hparams] at hnative
    simp [buildAs, hname, h, hparams, hnative]

/-- A description that is refused differs from that of the native type. -/
theorem ne_of_descriptorMismatch {n : String} {expected found : Ty}
    (h : buildAs name function type = .error (.descriptorMismatch n expected found)) :
    expected ≠ found := by
  cases buildAs_eq_error_iff.mp h with
  | arguments _ htype hparams =>
    intro hsame
    rw [hsame, htype] at hparams
    exact hparams rfl
  | result _ _ _ hnative => exact hnative.symm

/-- The type of a primitive is the description of its native type, from the arguments to a result. -/
theorem buildAs_eq_ok_iff_exists_fn {p : Primitive} :
    buildAs name function type = .ok p ↔
      name ≠ "" ∧ type = function.type.descr ∧
        ∃ ret params, function.type.descr = .fn (some ret) params ∧
          p = { name, type, result := ret, function } := by
  rw [buildAs_eq_ok_iff]
  constructor
  · rintro ⟨hname, rfl, ret, hret, rfl⟩
    exact ⟨hname, rfl, ret, _, Ty.eq_fn_of_result? hret, rfl⟩
  · rintro ⟨hname, rfl, ret, params, hnative, rfl⟩
    exact ⟨hname, rfl, ret, by rw [hnative, Ty.result?_fn], rfl⟩

/-- A primitive is never mislabelled.  Whatever describes its native type, a type is accepted for it
    exactly if there is a name, the type is that description, and the description is a function type
    with a result, which the primitive keeps; every other type is refused for its first fault.  A
    primitive that is described as its native type is needs a name and a function type with a result,
    and its description is never refused for not describing the native type. -/
theorem buildAs_never_mislabels (name : String) (function : NativeValue) :
    (∀ type p, buildAs name function type = .ok p ↔
      name ≠ "" ∧ type = function.type.descr ∧
        ∃ ret params, function.type.descr = .fn (some ret) params ∧
          p = { name, type, result := ret, function }) ∧
    (∀ type fault, buildAs name function type = .error fault ↔
      Fault name function.type.descr type fault) ∧
    ((∃ p, build name function = .ok p) ↔
      name ≠ "" ∧ ∃ ret params, function.type.descr = .fn (some ret) params) ∧
    ∀ n expected found, build name function ≠ .error (.descriptorMismatch n expected found) := by
  refine ⟨fun type p => buildAs_eq_ok_iff_exists_fn, fun type fault => buildAs_eq_error_iff, ?_, ?_⟩
  · constructor
    · rintro ⟨p, hp⟩
      obtain ⟨hname, -, ret, params, hnative, -⟩ := buildAs_eq_ok_iff_exists_fn.mp hp
      exact ⟨hname, ret, params, hnative⟩
    · rintro ⟨hname, ret, params, hnative⟩
      exact ⟨_, buildAs_eq_ok_iff_exists_fn.mpr ⟨hname, rfl, ret, params, hnative, rfl⟩⟩
  · intro n expected found h
    -- The type to be compared with the description is the description itself.
    cases buildAs_eq_error_iff.mp h with
    | arguments _ htype hparams =>
      rw [htype] at hparams
      exact hparams rfl
    | result _ _ _ hnative => exact hnative rfl

/-- An absent result is reported before other differences, and so it is where the native type itself
    is described without one. -/
example :
    buildAs "half" ⟨.fn .host .float [.float], ⟨"half", fun (x : Float) => x / 2⟩⟩
          (.fn none [.float]) =
        .error (.missingReturnType "half" (.fn none [.float])) ∧
      build "odd" ⟨.record "Odd" (.fn none [.float]) [], ()⟩ =
        .error (.missingReturnType "odd" (.fn none [.float])) := ⟨rfl, rfl⟩

end Primitive

namespace Expr

variable {fn : Expr} {args : List Expr} {fault : ConstructError}

/-! ## Calls -/

/-- Why a call cannot be built.  A fault supposes that what is looked at before it is in order: the
    operator is callable, it has a result, and it takes as many arguments as there are; of the
    arguments it is the first whose type differs. -/
inductive CallFault (fn : Expr) (args : List Expr) : ConstructError → Prop where
  | notCallable (h : fn.type.isFunction = false) :
      CallFault fn args (.operatorNotCallable fn.type)
  | noResult {params : List Ty} (h : fn.type = .fn none params) :
      CallFault fn args (.missingReturnType fn.operatorName fn.type)
  | arity {result : Ty} {params : List Ty} (h : fn.type = .fn (some result) params)
      (hlength : params.length ≠ args.length) :
      CallFault fn args (.arityMismatch params.length args.length)
  | argument {result : Ty} {params : List Ty} {index : Nat} {expected found : Ty}
      (h : fn.type = .fn (some result) params) (hlength : params.length = args.length)
      (hbefore : ∀ i < index, params[i]? = (args.map type)[i]?)
      (hexpected : params[index]? = some expected) (hfound : (args.map type)[index]? = some found)
      (hne : expected ≠ found) : CallFault fn args (.argTypeMismatch index expected found)

/-- The first mismatch of two lists is at the least index at which they differ. -/
theorem firstMismatch?_eq_some_iff {start index : Nat} {ts us : List Ty} {t u : Ty} :
    firstMismatch? start ts us = some (index, t, u) ↔
      ∃ i, index = start + i ∧ (∀ j < i, ts[j]? = us[j]?) ∧ ts[i]? = some t ∧ us[i]? = some u ∧
        t ≠ u := by
  induction ts generalizing start us with
  | nil => simp [firstMismatch?]
  | cons t' ts ih =>
    cases us with
    | nil => simp [firstMismatch?]
    | cons u' us =>
      rw [firstMismatch?]
      by_cases hsame : t' = u'
      · -- The heads agree, so what is found in the tails is found one place further on.
        subst hsame
        rw [if_pos rfl, ih]
        constructor
        · rintro ⟨i, rfl, hbefore, ht, hu, hne⟩
          refine ⟨i + 1, by omega, ?_, ht, hu, hne⟩
          intro j hj
          cases j with
          | zero => rfl
          | succ j => exact hbefore j (by omega)
        · rintro ⟨i, rfl, hbefore, ht, hu, hne⟩
          cases i with
          | zero => exact absurd (Option.some.inj (ht.symm.trans hu)) hne
          | succ i => exact ⟨i, by omega, fun j hj => hbefore (j + 1) (by omega), ht, hu, hne⟩
      · rw [if_neg hsame]
        constructor
        · intro h
          cases h
          exact ⟨0, rfl, by simp, rfl, rfl, hsame⟩
        · rintro ⟨i, rfl, hbefore, ht, hu, hne⟩
          cases i with
          | zero =>
            cases ht
            cases hu
            rfl
          | succ i => exact absurd (Option.some.inj (hbefore 0 (by omega))) hsame

theorem callFault_of_mkApply (h : mkApply fn args = .error fault) : CallFault fn args fault := by
  rw [mkApply] at h
  -- The checks in their order; what passes one of them is supposed by the faults after it.
  split at h
  · rename_i hfn
    cases h
    exact .notCallable hfn
  rename_i hfn
  have htype : fn.type = .fn fn.type.result? fn.type.args :=
    Ty.isFunction_iff.mp ((Bool.not_eq_false _).mp hfn)
  cases hresult : fn.type.result? with
  | none =>
    rw [hresult] at h htype
    cases h
    exact .noResult htype
  | some result =>
    rw [hresult] at h htype
    simp only at h
    split at h
    · rename_i hlength
      cases h
      exact .arity htype hlength
    rename_i hlength
    rw [ne_eq, Decidable.not_not] at hlength
    cases hmismatch : firstMismatch? 0 fn.type.args (args.map type) with
    | none =>
      rw [hmismatch] at h
      cases h
    | some mismatch =>
      obtain ⟨index, expected, found⟩ := mismatch
      rw [hmismatch] at h
      cases h
      obtain ⟨i, hindex, hbefore, hexpected, hfound, hne⟩ :=
        firstMismatch?_eq_some_iff.mp hmismatch
      rw [Nat.zero_add] at hindex
      subst hindex
      exact .argument htype hlength hbefore hexpected hfound hne

/-- A call that cannot be built is refused for the first fault. -/
theorem mkApply_eq_error_iff : mkApply fn args = .error fault ↔ CallFault fn args fault := by
  refine ⟨callFault_of_mkApply, ?_⟩
  intro h
  cases h with
  | notCallable h => rw [mkApply, if_pos h]
  | noResult h => simp [mkApply, h]
  | arity h hlength => simp [mkApply, h, hlength]
  | @argument result params index expected found h hlength hbefore hexpected hfound hne =>
    have hmismatch : firstMismatch? 0 params (args.map type) = some (index, expected, found) :=
      firstMismatch?_eq_some_iff.mpr ⟨index, by omega, hbefore, hexpected, hfound, hne⟩
    simp [mkApply, h, hlength, hmismatch]

/-- An argument that is refused has another type than the operator takes. -/
theorem ne_of_argTypeMismatch {index : Nat} {expected found : Ty}
    (h : mkApply fn args = .error (.argTypeMismatch index expected found)) : expected ≠ found := by
  cases mkApply_eq_error_iff.mp h with
  | argument _ _ _ _ _ hne => exact hne

/-! ## Operators that can be called -/

/-- In messages, what can be called goes by its name and everything else by its kind. -/
theorem operatorName_eq (e : Expr) :
    e.operatorName = match e.asFunction with
      | .ok view => view.name
      | .error _ => e.kind.name := by
  cases e <;> rfl

/-- Types are those that a function takes if there are as many and each is in its place. -/
theorem argTypes_eq_iff (view : FunctionView) (ts : List Ty) :
    view.argTypes = ts ↔ ts.length = view.arity ∧ ∀ i < view.arity, ts[i]? = view.arg? i := by
  constructor
  · rintro rfl
    exact ⟨rfl, fun i _ => rfl⟩
  · rintro ⟨hlength, hsame⟩
    refine List.ext_getElem? fun i => ?_
    rcases Nat.lt_or_ge i view.arity with hlt | hge
    · exact (hsame i hlt).symm
    · rw [List.getElem?_eq_none hge, List.getElem?_eq_none (hlength.symm ▸ hge)]

/-- A call is built exactly from an operator with a result and arguments of the types that it takes,
    in number and one by one, and has the type of the result.  Any other call is refused for its
    first fault: an operator that is not callable, an absent result, which is reported under the name
    of the operator or, if it has none, under its kind, another number of arguments, or else the
    first argument of another type.  What a function or primitive accepts is what it says it is
    called with. -/
theorem mkApply_accepts_or_refuses {fn : Expr} (hfn : Constructible fn) (args : List Expr) :
    (∀ e, mkApply fn args = .ok e ↔
      ∃ result, fn.type = .fn (some result) (args.map type) ∧ e = .apply result fn args) ∧
    (∀ fault, mkApply fn args = .error fault ↔ CallFault fn args fault) ∧
    (fn.operatorName = match fn.asFunction with
      | .ok view => view.name
      | .error _ => fn.kind.name) ∧
    ((∃ view, fn.asFunction = .ok view) ↔ fn.kind = .lambda ∨ fn.kind = .primitive) ∧
    ∀ view, fn.asFunction = .ok view → ∀ e, mkApply fn args = .ok e ↔
      args.length = view.arity ∧ (∀ i < view.arity, (args.map type)[i]? = view.arg? i) ∧
        e = .apply view.result fn args := by
  refine ⟨fun e => mkApply_eq_ok_iff, fun fault => mkApply_eq_error_iff, fn.operatorName_eq,
    fn.exists_asFunction_iff, ?_⟩
  intro view hview e
  have htypes := argTypes_eq_iff view (args.map type)
  rw [List.length_map] at htypes
  rw [mkApply_eq_ok_iff, hfn.type_of_asFunction hview, ← and_assoc, ← htypes]
  constructor
  · rintro ⟨result, hcall, rfl⟩
    rw [Ty.fn.injEq, Option.some.injEq] at hcall
    obtain ⟨rfl, hargs⟩ := hcall
    exact ⟨hargs, rfl⟩
  · rintro ⟨hargs, rfl⟩
    exact ⟨view.result, by rw [hargs], rfl⟩

/-- The function that doubles an integer, called on an integer, on none, and on a truth value. -/
theorem mkApply_accepts_or_refuses_sampleLambda :
    Constructible Constructible.sampleLambda ∧
    mkApply Constructible.sampleLambda [.const ⟨.int, (21 : Int64)⟩] =
      .ok Constructible.sampleCall ∧
    mkApply Constructible.sampleLambda [] = .error (.arityMismatch 1 0) ∧
    mkApply Constructible.sampleLambda [.const ⟨.bool, true⟩] =
      .error (.argTypeMismatch 0 .int .bool) := by
  have hfn := Constructible.constructible_sampleLambda
  have htype : Constructible.sampleLambda.type = .fn (some .int) [.int] := rfl
  have hview : Constructible.sampleLambda.asFunction = .ok ⟨"double", [.int], .int⟩ := rfl
  obtain ⟨-, -, -, -, hcall⟩ := mkApply_accepts_or_refuses hfn [.const ⟨.int, (21 : Int64)⟩]
  obtain ⟨-, hnone, -⟩ := mkApply_accepts_or_refuses hfn []
  obtain ⟨-, hbool, -⟩ := mkApply_accepts_or_refuses hfn [.const ⟨.bool, true⟩]
  refine ⟨hfn, (hcall _ hview _).mpr ⟨rfl, ?_, rfl⟩, (hnone _).mpr ?_, (hbool _).mpr ?_⟩
  · decide
  · exact .arity htype (by decide)
  · exact .argument htype rfl (by simp) rfl rfl (by decide)

/-! ## Functions -/

/-- The names of the variables among nodes. -/
def variableNames (es : List Expr) : List String :=
  es.filterMap fun e => e.asVariable.toOption.map (·.name)

/-- What is wrong with a node as the parameter number `index` of a function, after parameters with
    the names `taken`. -/
inductive ParameterFault (lambda : String) (taken : List String) (index : Nat) :
    Expr → ConstructError → Prop where
  | notVariable {e : Expr} (h : e.kind ≠ .variable) :
      ParameterFault lambda taken index e (.parameterNotVariable lambda index e.kind)
  | duplicate {v : Variable} (h : v.name ∈ taken) :
      ParameterFault lambda taken index (.var v) (.duplicateParameter lambda v.name)

/-- What is wrong with node number `i` of a list, of which the first is parameter number `start`,
    after the nodes before it and parameters with the names `seen`. -/
def FaultAt (lambda : String) (seen : List String) (start : Nat) (es : List Expr) (i : Nat)
    (fault : ConstructError) : Prop :=
  ∃ e, es[i]? = some e ∧
    ParameterFault lambda (seen ++ variableNames (es.take i)) (start + i) e fault

variable {lambda name : String} {seen taken : List String} {start index : Nat} {e body : Expr}
  {es params : List Expr} {v : Variable} {fault' : ConstructError}

theorem variableNames_cons_var (v : Variable) (es : List Expr) :
    variableNames (.var v :: es) = v.name :: variableNames es := rfl

@[simp] theorem variableNames_map_var (vs : List Variable) :
    variableNames (vs.map var) = vs.map (·.name) := by
  induction vs with
  | nil => rfl
  | cons v vs ih => rw [List.map_cons, variableNames_cons_var, ih, List.map_cons]

/-- Nodes that are all variables. -/
theorem forall_kind_eq_variable_iff :
    (∀ e ∈ es, e.kind = .variable) ↔ ∃ vs : List Variable, es = vs.map var := by
  constructor
  · intro h
    induction es with
    | nil => exact ⟨[], rfl⟩
    | cons e es ih =>
      rw [List.forall_mem_cons] at h
      obtain ⟨vs, rfl⟩ := ih h.2
      cases e with
      | var v => exact ⟨v :: vs, rfl⟩
      | const value => cases h.1
      | prim p => cases h.1
      | apply type fn args => cases h.1
      | lambda name type signature params body => cases h.1
  · rintro ⟨vs, rfl⟩
    exact List.forall_mem_map.mpr fun v _ => rfl

/-- A node has one fault at most. -/
theorem ParameterFault.unique (h : ParameterFault lambda taken index e fault)
    (h' : ParameterFault lambda taken index e fault') : fault = fault' := by
  cases h with
  | notVariable h =>
    cases h' with
    | notVariable _ => rfl
    | duplicate _ => exact absurd rfl h
  | duplicate h =>
    cases h' with
    | notVariable h' => exact absurd rfl h'
    | duplicate _ => rfl

/-- It only matters which names are taken, and not in which order. -/
theorem ParameterFault.congr {taken' : List String} (htaken : taken ⊆ taken')
    (h : ParameterFault lambda taken index e fault) :
    ParameterFault lambda taken' index e fault := by
  cases h with
  | notVariable h => exact .notVariable h
  | duplicate h => exact .duplicate (htaken h)

/-- Without a fault a node is a variable with a new name. -/
theorem exists_var_of_no_fault (h : ∀ fault, ¬ ParameterFault lambda taken index e fault) :
    ∃ v, e = .var v ∧ v.name ∉ taken := by
  cases e with
  | var v => exact ⟨v, rfl, fun htaken => h _ (.duplicate htaken)⟩
  | const value => exact absurd (.notVariable (by simp)) (h _)
  | prim p => exact absurd (.notVariable (by simp)) (h _)
  | apply type fn args => exact absurd (.notVariable (by simp)) (h _)
  | lambda name type signature params body => exact absurd (.notVariable (by simp)) (h _)

/-- A fault of the first node ends the checks. -/
theorem parameters_cons_of_fault (h : ParameterFault lambda seen start e fault) (es : List Expr) :
    parameters lambda seen start (e :: es) = .error fault := by
  cases h with
  | duplicate h => rw [parameters, if_pos h]
  | notVariable h =>
    cases e with
    | var v => exact absurd rfl h
    | const value => rfl
    | prim p => rfl
    | apply type fn args => rfl
    | lambda name type signature params body => rfl

/-- After a new variable the checks go on with one more name seen. -/
theorem parameters_var_eq_error_iff (h : v.name ∉ seen) :
    parameters lambda seen start (.var v :: es) = .error fault ↔
      parameters lambda (v.name :: seen) (start + 1) es = .error fault := by
  rw [parameters, if_neg h]
  cases parameters lambda (v.name :: seen) (start + 1) es <;> simp

theorem faultAt_zero_iff :
    FaultAt lambda seen start (e :: es) 0 fault ↔ ParameterFault lambda seen start e fault := by
  simp [FaultAt, variableNames]

theorem faultAt_succ_iff {i : Nat} : FaultAt lambda seen start (.var v :: es) (i + 1) fault ↔
    FaultAt lambda (v.name :: seen) (start + 1) es i fault := by
  -- The name of the first variable moves from the nodes before to the names seen.
  have hindex : start + (i + 1) = start + 1 + i := by omega
  have hleft : seen ++ v.name :: variableNames (es.take i) ⊆
      v.name :: seen ++ variableNames (es.take i) := List.perm_middle.subset
  have hright : v.name :: seen ++ variableNames (es.take i) ⊆
      seen ++ v.name :: variableNames (es.take i) := List.perm_middle.symm.subset
  rw [FaultAt, FaultAt, List.getElem?_cons_succ, List.take_succ_cons, variableNames_cons_var, hindex]
  constructor
  · rintro ⟨e, he, hfault⟩
    exact ⟨e, he, hfault.congr hleft⟩
  · rintro ⟨e, he, hfault⟩
    exact ⟨e, he, hfault.congr hright⟩

/-- The fault reported is that of the first parameter that has one. -/
theorem parameters_eq_error_iff : parameters lambda seen start es = .error fault ↔
    ∃ i, FaultAt lambda seen start es i fault ∧
      ∀ j < i, ∀ fault', ¬ FaultAt lambda seen start es j fault' := by
  induction es generalizing seen start with
  | nil => simp [parameters, FaultAt]
  | cons e es ih =>
    by_cases hfirst : ∃ fault', ParameterFault lambda seen start e fault'
    · -- The first node has a fault, so the later ones do not count.
      obtain ⟨fault', hfault⟩ := hfirst
      rw [parameters_cons_of_fault hfault, Except.error.injEq]
      constructor
      · rintro rfl
        exact ⟨0, faultAt_zero_iff.mpr hfault, fun j hj => absurd hj (Nat.not_lt_zero j)⟩
      · rintro ⟨i, hi, hleast⟩
        cases i with
        | zero => exact hfault.unique (faultAt_zero_iff.mp hi)
        | succ i => exact absurd (faultAt_zero_iff.mpr hfault) (hleast 0 (Nat.succ_pos i) fault')
    · rw [not_exists] at hfirst
      obtain ⟨v, rfl, hfresh⟩ := exists_var_of_no_fault hfirst
      rw [parameters_var_eq_error_iff hfresh, ih]
      constructor
      · rintro ⟨i, hi, hleast⟩
        refine ⟨i + 1, faultAt_succ_iff.mpr hi, ?_⟩
        intro j hj fault' hfault
        cases j with
        | zero => exact hfirst fault' (faultAt_zero_iff.mp hfault)
        | succ j => exact hleast j (by omega) fault' (faultAt_succ_iff.mp hfault)
      · rintro ⟨i, hi, hleast⟩
        cases i with
        | zero => exact absurd (faultAt_zero_iff.mp hi) (hfirst fault)
        | succ i =>
          refine ⟨i, faultAt_succ_iff.mp hi, ?_⟩
          intro j hj fault' hfault
          exact hleast (j + 1) (by omega) fault' (faultAt_succ_iff.mpr hfault)

/-- A function that cannot be built lacks a name or is refused for the first parameter that has a
    fault. -/
theorem mkLambda_eq_error_iff : mkLambda name params body = .error fault ↔
    name = "" ∧ fault = .emptyName .lambda ∨
    name ≠ "" ∧ parameters name [] 0 params = .error fault := by
  rw [mkLambda]
  by_cases hname : name = ""
  · simp [hname, eq_comm]
  · rw [if_neg hname]
    cases parameters name [] 0 params <;> simp [hname]

/-- A function is built exactly from a name that is not empty and variables with distinct names.
    Without a name nothing else is looked at.  Otherwise the fault reported is that of the parameter
    at the least index that is no variable or has the name of one before it, whatever comes after. -/
theorem mkLambda_accepts_or_refuses (name : String) (params : List Expr) (body : Expr) :
    ((∃ e, mkLambda name params body = .ok e) ↔
      name ≠ "" ∧ (∀ p ∈ params, p.kind = .variable) ∧ (variableNames params).Nodup) ∧
    ∀ fault, mkLambda name params body = .error fault ↔
      name = "" ∧ fault = .emptyName .lambda ∨
      name ≠ "" ∧ ∃ i, (∃ p, params[i]? = some p ∧
          ParameterFault name (variableNames (params.take i)) i p fault) ∧
        ∀ j < i, ∀ fault', ¬ ∃ q, params[j]? = some q ∧
          ParameterFault name (variableNames (params.take j)) j q fault' := by
  constructor
  · rw [forall_kind_eq_variable_iff]
    constructor
    · rintro ⟨e, he⟩
      obtain ⟨hname, vs, rfl, hnodup, -⟩ := mkLambda_eq_ok_iff.mp he
      exact ⟨hname, ⟨vs, rfl⟩, by rwa [variableNames_map_var]⟩
    · rintro ⟨hname, ⟨vs, rfl⟩, hnodup⟩
      rw [variableNames_map_var] at hnodup
      exact ⟨_, mkLambda_eq_ok_iff.mpr ⟨hname, vs, rfl, hnodup, rfl⟩⟩
  · intro fault
    have hfault : ∀ i fault, FaultAt name [] 0 params i fault ↔ ∃ p, params[i]? = some p ∧
        ParameterFault name (variableNames (params.take i)) i p fault := by
      intro i fault
      rw [FaultAt, List.nil_append, Nat.zero_add]
    rw [mkLambda_eq_error_iff, parameters_eq_error_iff]
    simp only [hfault]

/-- Two faults at once, of which the left one is reported: the second parameter has the name of the
    first, and the third is no variable. -/
example : mkLambda "f"
    [.var ⟨0, "x", .int, none⟩, .var ⟨1, "x", .bool, none⟩, .const ⟨.bool, true⟩]
    (.const ⟨.bool, true⟩) = .error (.duplicateParameter "f" "x") := rfl

end Expr

end ExprGraph
