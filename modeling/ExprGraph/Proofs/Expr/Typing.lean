/-
  ExprGraph.Proofs.Expr.Typing

  Expressions that the builders return are well typed, node by node.

  `Constructible` is the closure of the builders: whatever calls went before, and however often a
  node was used, an expression at hand comes from a builder and from parts that are at hand too.
  The nodes below a constructible expression are therefore constructible themselves, and each one
  carries what its own builder has checked (`Expr.WellTyped`).
-/

import ExprGraph.Proofs.Expr.Build
import ExprGraph.Proofs.Expr.Occurrence

namespace ExprGraph

/-- The expressions that the builders return from parts that they have returned.  A native function
    may be given a type; without one, it has the type that describes it (`Primitive.build`). -/
inductive Constructible : Expr → Prop where
  | const (value : NativeValue) : Constructible (.const value)
  | prim {name : String} {function : NativeValue} {type : Ty} {p : Primitive}
      (h : Primitive.buildAs name function type = .ok p) (explicitSymbol : Bool)
      (intrinsic : Intrinsic) : Constructible (.prim { p with explicitSymbol, intrinsic })
  | var {id : Nat} {name : String} {type : Ty} {span : Option Span} {v : Variable}
      (h : Variable.build id name type span = .ok v) : Constructible (.var v)
  | apply {fn : Expr} {args : List Expr} {e : Expr} (hfn : Constructible fn)
      (hargs : ∀ arg ∈ args, Constructible arg) (h : Expr.mkApply fn args = .ok e) :
      Constructible e
  | lambda {name : String} {params : List Expr} {body e : Expr}
      (hparams : ∀ p ∈ params, Constructible p) (hbody : Constructible body)
      (h : Expr.mkLambda name params body = .ok e) : Constructible e

namespace Expr

/-- What holds at a node that a builder has returned: names are not empty, the parameters of a
    function are variables with distinct names, and types and signatures are those that the parts of
    the node say. -/
def WellTyped : Expr → Prop
  | .const _ => True
  | .prim p =>
    p.name ≠ "" ∧ p.type = p.function.type.descr ∧ p.type = .fn (some p.result) p.type.args
  | .var v => v.name ≠ ""
  | .apply type fn args => fn.type = .fn (some type) (args.map Expr.type)
  | .lambda name type signature params body =>
    name ≠ "" ∧ (params.map (·.name)).Nodup ∧
      type = .fn (some body.type) (params.map (·.type)) ∧ signature = type.shortName

theorem mem_preorder_self (e : Expr) : e ∈ e.preorder := by
  cases e <;> simp [preorder]

theorem mem_preorder_apply {n : Expr} {type : Ty} {fn : Expr} {args : List Expr} :
    n ∈ (apply type fn args).preorder ↔
      n = .apply type fn args ∨ n ∈ fn.preorder ∨ ∃ arg ∈ args, n ∈ arg.preorder := by
  rw [preorder, preorderAll_eq_flatMap, List.mem_cons, List.mem_append, List.mem_flatMap]

theorem mem_preorder_lambda {n : Expr} {name : String} {type : Ty} {signature : String}
    {params : List Variable} {body : Expr} :
    n ∈ (lambda name type signature params body).preorder ↔
      n = .lambda name type signature params body ∨ n ∈ params.map .var ∨ n ∈ body.preorder := by
  rw [preorder, List.mem_cons, List.mem_append]

/-- A call of a function takes the types of its parameters and has the type of its body. -/
theorem WellTyped.apply_lambda {type : Ty} {name : String} {ftype : Ty} {signature : String}
    {params : List Variable} {body : Expr} {args : List Expr}
    (happly : (apply type (.lambda name ftype signature params body) args).WellTyped)
    (hfn : (lambda name ftype signature params body).WellTyped) :
    args.map Expr.type = params.map (·.type) ∧ type = body.type := by
  obtain ⟨-, -, hftype, -⟩ := hfn
  have hcall : ftype = .fn (some type) (args.map Expr.type) := happly
  rw [hftype, Ty.fn.injEq, Option.some.injEq] at hcall
  exact ⟨hcall.2.symm, hcall.1.symm⟩

/-- A call of a primitive takes the arguments of its native function and has the type of its
    result. -/
theorem WellTyped.apply_prim {type : Ty} {p : Primitive} {args : List Expr}
    (happly : (apply type (.prim p) args).WellTyped) (hfn : (prim p).WellTyped) :
    p.function.type.descr = .fn (some type) (args.map Expr.type) := by
  obtain ⟨-, hnative, -⟩ := hfn
  rw [← hnative]
  exact happly

end Expr

namespace Constructible

theorem of_build {name : String} {function : NativeValue} {p : Primitive}
    (h : Primitive.build name function = .ok p) : Constructible (.prim p) :=
  prim h p.explicitSymbol p.intrinsic

/-- What is below a constructible expression is constructible. -/
theorem of_mem_preorder {e : Expr} (h : Constructible e) :
    ∀ n ∈ e.preorder, Constructible n := by
  -- Induction on the calls that were made; leaves have no nodes below them.
  induction h with
  | const value =>
    intro n hn
    rw [List.mem_singleton.mp hn]
    exact const value
  | prim h explicitSymbol intrinsic =>
    intro n hn
    rw [List.mem_singleton.mp hn]
    exact prim h explicitSymbol intrinsic
  | var h =>
    intro n hn
    rw [List.mem_singleton.mp hn]
    exact var h
  | apply hfn hargs h ihFn ihArgs =>
    obtain ⟨result, -, rfl⟩ := Expr.mkApply_eq_ok_iff.mp h
    intro n hn
    rcases Expr.mem_preorder_apply.mp hn with rfl | hn | ⟨arg, harg, hn⟩
    · exact apply hfn hargs h
    · exact ihFn n hn
    · exact ihArgs arg harg n hn
  | lambda hparams hbody h _ ihBody =>
    -- The nodes given as parameters are the variables that the function keeps.
    obtain ⟨-, vs, rfl, -, rfl⟩ := Expr.mkLambda_eq_ok_iff.mp h
    intro n hn
    rcases Expr.mem_preorder_lambda.mp hn with rfl | hn | hn
    · exact lambda hparams hbody h
    · exact hparams n hn
    · exact ihBody n hn

/-- A builder returns well-typed nodes only. -/
theorem wellTyped {e : Expr} (h : Constructible e) : e.WellTyped := by
  cases h with
  | const value => trivial
  | prim h explicitSymbol intrinsic =>
    obtain ⟨hname, htype, result, hresult, rfl⟩ := Primitive.buildAs_eq_ok_iff.mp h
    exact ⟨hname, htype, Ty.eq_fn_of_result? hresult⟩
  | var h =>
    obtain ⟨hname, rfl⟩ := Variable.build_eq_ok_iff.mp h
    exact hname
  | apply _ _ h =>
    obtain ⟨result, htype, rfl⟩ := Expr.mkApply_eq_ok_iff.mp h
    exact htype
  | lambda _ _ h =>
    obtain ⟨hname, vs, -, hnodup, rfl⟩ := Expr.mkLambda_eq_ok_iff.mp h
    exact ⟨hname, hnodup, rfl, rfl⟩

/-! ## Constructible expressions by their form -/

theorem var_iff {v : Variable} : Constructible (.var v) ↔ (Expr.var v).WellTyped :=
  ⟨wellTyped, fun hname => .var (Variable.build_eq_ok_iff.mpr ⟨hname, rfl⟩)⟩

theorem apply_iff {type : Ty} {fn : Expr} {args : List Expr} :
    Constructible (.apply type fn args) ↔
      Constructible fn ∧ (∀ arg ∈ args, Constructible arg) ∧
        (Expr.apply type fn args).WellTyped := by
  constructor
  · intro h
    refine ⟨h.of_mem_preorder fn ?_, fun arg harg => h.of_mem_preorder arg ?_, h.wellTyped⟩
    · exact Expr.mem_preorder_apply.mpr (.inr (.inl fn.mem_preorder_self))
    · exact Expr.mem_preorder_apply.mpr (.inr (.inr ⟨arg, harg, arg.mem_preorder_self⟩))
  · rintro ⟨hfn, hargs, htype⟩
    exact .apply hfn hargs (Expr.mkApply_eq_ok_iff.mpr ⟨type, htype, rfl⟩)

theorem lambda_iff {name : String} {type : Ty} {signature : String} {params : List Variable}
    {body : Expr} :
    Constructible (.lambda name type signature params body) ↔
      (∀ p ∈ params, Constructible (.var p)) ∧ Constructible body ∧
        (Expr.lambda name type signature params body).WellTyped := by
  constructor
  · intro h
    refine ⟨fun p hp => h.of_mem_preorder _ ?_, h.of_mem_preorder body ?_, h.wellTyped⟩
    · exact Expr.mem_preorder_lambda.mpr (.inr (.inl (List.mem_map_of_mem hp)))
    · exact Expr.mem_preorder_lambda.mpr (.inr (.inr body.mem_preorder_self))
  · rintro ⟨hparams, hbody, hname, hnodup, rfl, rfl⟩
    exact .lambda (List.forall_mem_map.mpr hparams) hbody
      (Expr.mkLambda_eq_ok_iff.mpr ⟨hname, params, rfl, hnodup, rfl⟩)

/-- Every node of a constructible expression is well typed; so a call of a function takes the types
    of its parameters and has the type of its body, and a call of a primitive takes and gives what
    its native function does. -/
theorem wellTyped_throughout {e : Expr} (h : Constructible e) :
    (∀ n ∈ e.preorder, n.WellTyped) ∧
    (∀ type name ftype signature params body args,
      Expr.apply type (.lambda name ftype signature params body) args ∈ e.preorder →
        args.map Expr.type = params.map (·.type) ∧ type = body.type) ∧
    ∀ type p args, Expr.apply type (.prim p) args ∈ e.preorder →
      p.function.type.descr = .fn (some type) (args.map Expr.type) := by
  have hnode : ∀ n ∈ e.preorder, n.WellTyped := fun n hn => (h.of_mem_preorder n hn).wellTyped
  -- The operator is a node of the call, which is a node of the expression.
  have hoperator : ∀ {type fn args}, Expr.apply type fn args ∈ e.preorder → fn.WellTyped := by
    intro type fn args hcall
    have hfn : fn ∈ (Expr.apply type fn args).preorder :=
      Expr.mem_preorder_apply.mpr (.inr (.inl fn.mem_preorder_self))
    exact ((h.of_mem_preorder _ hcall).of_mem_preorder fn hfn).wellTyped
  refine ⟨hnode, ?_, ?_⟩
  · intro type name ftype signature params body args hcall
    exact (hnode _ hcall).apply_lambda (hoperator hcall)
  · intro type p args hcall
    exact (hnode _ hcall).apply_prim (hoperator hcall)

/-! ## An example -/

/-- A variable for an integer. -/
def sampleVariable : Variable := ⟨0, "x", .int, none⟩

/-- The addition of two integers. -/
def samplePrimitive : Primitive :=
  { name := "add", type := .fn (some .int) [.int, .int], result := .int,
    function := ⟨.fn .host .int [.int, .int], ⟨"add", fun (x y : Int64) => x + y⟩⟩ }

/-- The sum of a variable with itself, with one node used twice. -/
def sampleBody : Expr :=
  .apply .int (.prim samplePrimitive) [.var sampleVariable, .var sampleVariable]

/-- The function that doubles an integer. -/
def sampleLambda : Expr :=
  .lambda "double" (.fn (some .int) [.int]) "int(int)" [sampleVariable] sampleBody

/-- The function that doubles an integer, called on a constant. -/
def sampleCall : Expr := .apply .int sampleLambda [.const ⟨.int, (21 : Int64)⟩]

theorem constructible_samplePrimitive : Constructible (.prim samplePrimitive) := by
  have hadd : Primitive.build "add" samplePrimitive.function = .ok samplePrimitive := rfl
  exact of_build hadd

theorem constructible_sampleCall : Constructible sampleCall := by
  have hvar : Constructible (.var sampleVariable) :=
    .var (Variable.build_eq_ok_iff.mpr ⟨by decide, rfl⟩)
  have hbody : Constructible sampleBody := by
    refine .apply constructible_samplePrimitive ?_ (Expr.mkApply_eq_ok_iff.mpr ⟨.int, rfl, rfl⟩)
    simp [hvar]
  have hdouble : Expr.mkLambda "double" [.var sampleVariable] sampleBody = .ok sampleLambda := rfl
  have hlambda : Constructible sampleLambda := by
    refine .lambda ?_ hbody hdouble
    simpa using hvar
  refine .apply hlambda ?_ (Expr.mkApply_eq_ok_iff.mpr ⟨.int, rfl, rfl⟩)
  simpa using const _

theorem constructible_sampleLambda : Constructible sampleLambda :=
  (apply_iff.mp constructible_sampleCall).1

theorem wellTyped_throughout_sampleCall :
    Constructible sampleCall ∧ ∀ n ∈ sampleCall.preorder, n.WellTyped :=
  ⟨constructible_sampleCall, (wellTyped_throughout constructible_sampleCall).1⟩

end Constructible

end ExprGraph
