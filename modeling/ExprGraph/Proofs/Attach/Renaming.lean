/-
  ExprGraph.Proofs.Attach.Renaming

  Binding paths do not depend on the names of parameters.

  Requests for the same paths, each for a variable of its own that is not bound yet, are met alike,
  up to the first one without a path (`settle_of_alike`).  A parameter can therefore be renamed,
  together with what it binds, and the tree attaches as before, in every environment: with the same
  result, and with the same path for each occurrence (`Parameter.attach_renamed`).
-/

import ExprGraph.Proofs.Attach.Resume
import ExprGraph.Proofs.Attach.Writes
import ExprGraph.Proofs.Expr.Renaming

namespace ExprGraph

/-! ## Requests for the same paths -/

/-- Two requests are for the same path; or both are for none, and are reported alike. -/
def Request.Alike (r s : Request) : Prop :=
  s.path? = r.path? ∧ (r.path? = none → s.var.name = r.var.name ∧ s.var.span = r.var.span)

namespace Request

variable {r s : Request} {b : Bindings}

theorem fault?_of_path?_eq_none (h : r.path? = none) :
    r.fault? b = some (.unbound r.var.name r.var.span) := by
  rw [fault?, h]

/-- A variable that is not bound takes every path. -/
theorem met_of_unbound {path : BindingPath} (h : r.path? = some path)
    (hunbound : b.path? r.var = none) : r.fault? b = none ∧ r.fill b = b.bind r.var path := by
  rw [fault?, fill, h, hunbound]
  exact ⟨rfl, rfl⟩

end Request

/-- Binding one variable leaves the others unbound. -/
theorem Bindings.unbound_after_bind {b : Bindings} {v : Variable} {vs : List Variable}
    (hnew : v ∉ vs) (h : ∀ w ∈ vs, b.path? w = none) (path : BindingPath) :
    ∀ w ∈ vs, (b.bind v path).path? w = none := by
  intro w hw
  have hne : w ≠ v := by
    rintro rfl
    exact hnew hw
  rw [path?_bind_of_ne b path hne]
  exact h w hw

/-- Requests for the same paths, for variables that are all different and not bound yet, come to the
    same result and leave each variable the same path. -/
theorem settle_of_alike {rs ss : List Request} (h : List.Forall₂ Request.Alike rs ss)
    (honce : (rs.map Request.var).Nodup) (honce' : (ss.map Request.var).Nodup) {b c : Bindings}
    (hb : ∀ v ∈ rs.map Request.var, b.path? v = none)
    (hc : ∀ w ∈ ss.map Request.var, c.path? w = none) :
    (settle ss c).1 = (settle rs b).1 ∧
      List.Forall₂ (fun v w => (settle ss c).2.path? w = (settle rs b).2.path? v)
        (rs.map Request.var) (ss.map Request.var) := by
  induction h generalizing b c with
  | nil => exact ⟨rfl, .nil⟩
  | @cons r s rs ss hr hrest ih =>
    cases hpath : r.path? with
    | none =>
      -- Both runs end here, and the bindings are as they were.
      obtain ⟨hname, hspan⟩ := hr.2 hpath
      have hfault := Request.fault?_of_path?_eq_none (b := b) hpath
      have hfault' := Request.fault?_of_path?_eq_none (b := c) (hr.1.trans hpath)
      rw [settle_cons_of_fault hfault, settle_cons_of_fault hfault', hname, hspan]
      refine ⟨rfl, List.forall₂_iff_zip.mpr ⟨by simp [hrest.length_eq], ?_⟩⟩
      intro v w hmem
      obtain ⟨hv, hw⟩ := List.of_mem_zip hmem
      exact (hc w hw).trans (hb v hv).symm
    | some path =>
      rw [List.map_cons, List.nodup_cons] at honce honce'
      rw [List.map_cons, List.forall_mem_cons] at hb hc
      obtain ⟨hmet, hfill⟩ := Request.met_of_unbound hpath hb.1
      obtain ⟨hmet', hfill'⟩ := Request.met_of_unbound (hr.1.trans hpath) hc.1
      rw [settle_cons_of_met hmet, settle_cons_of_met hmet', hfill, hfill']
      obtain ⟨hresult, hpaths⟩ := ih honce.2 honce'.2
        (Bindings.unbound_after_bind honce.1 hb.2 path)
        (Bindings.unbound_after_bind honce'.1 hc.2 path)
      -- What was just bound stays bound to the end of the run.
      have hkept := le_settle rs (b.bind r.var path) r.var path (b.path?_bind_self r.var path)
      have hkept' := le_settle ss (c.bind s.var path) s.var path (c.path?_bind_self s.var path)
      exact ⟨hresult, .cons (hkept'.trans hkept.symm) hpaths⟩

/-! ## Trees that bind alike -/

namespace SameBinding

/-- Occurrences that are bound alike ask for the same path, or are reported under the same name. -/
theorem alike_request {o o' : Occurrence} (h : SameBinding o o') (env : Env) :
    (o.request env).Alike (o'.request env) := by
  refine ⟨h.path? env, fun hnone => ⟨?_, h.span⟩⟩
  cases hb : o.binder? with
  | none => exact h.name hb
  | some found =>
    have hsome := Occurrence.path?_of_binder? hb env
    rw [show o.path? env = none from hnone] at hsome
    cases hsome

theorem alike_requests {e e' : Expr}
    (h : List.Forall₂ SameBinding e.occurrences e'.occurrences) (env : Env) :
    List.Forall₂ Request.Alike (e.requests env) (e'.requests env) := by
  rw [Expr.requests, Expr.requests, List.forall₂_map_left_iff, List.forall₂_map_right_iff]
  exact h.imp fun o o' ho => ho.alike_request env

end SameBinding

theorem Expr.map_var_requests_eq_variables (env : Env) (e : Expr) :
    (e.requests env).map Request.var = e.variables :=
  (e.map_var_requests env).trans e.map_var_occurrences.symm

/-- Trees whose occurrences are bound alike, with one use of each variable, attach alike while their
    variables are unbound. -/
theorem SameBinding.attach {e e' : Expr}
    (h : List.Forall₂ SameBinding e.occurrences e'.occurrences) (honce : e.variables.Nodup)
    (honce' : e'.variables.Nodup) (env : Env) {b b' : Bindings}
    (hb : ∀ v ∈ e.variables, b.path? v = none) (hb' : ∀ v ∈ e'.variables, b'.path? v = none) :
    (e'.attach env b').result = (e.attach env b).result ∧
      List.Forall₂
        (fun v v' => (e'.attach env b').state.path? v' = (e.attach env b).state.path? v)
        e.variables e'.variables := by
  have hvars := e.map_var_requests_eq_variables env
  have hvars' := e'.map_var_requests_eq_variables env
  rw [← hvars] at honce hb
  rw [← hvars'] at honce' hb'
  rw [← hvars, ← hvars', Expr.result_attach, Expr.result_attach, Expr.state_attach,
    Expr.state_attach]
  exact settle_of_alike (alike_requests h env) honce honce' hb hb'

/-! ## Renaming a parameter -/

/-- In a constructible tree that uses each variable once, every parameter of every function can be
    renamed, together with what it binds, to each name that it can have.  With new variables in the
    place of these the tree is constructible as well, with the same types throughout and the same
    free names, and it attaches in every environment with the same result and with the same path for
    corresponding variables. -/
theorem Parameter.attach_renamed (tree : Expr) (hbuilt : Constructible tree)
    (honce : tree.variables.Nodup) :
    (∀ name type signature params body,
      Expr.lambda name type signature params body ∈ tree.preorder → ∀ v ∈ params,
        ∃ p : Parameter, p.tree = tree ∧ p.var = v ∧
          p.function = .lambda name type signature params body) ∧
      ∀ (p : Parameter) (number : Nat → Nat) (name : String), p.tree = tree → p.CanBe name →
        let tree' := (p.renamed number name).tree
        tree'.variables.Nodup →
          Constructible tree' ∧
          tree'.preorder.map Expr.type = tree.preorder.map Expr.type ∧
          tree'.freeVariables.toList = tree.freeVariables.toList ∧
          ∀ (env : Env) (b b' : Bindings), (∀ v ∈ tree.variables, b.path? v = none) →
            (∀ v ∈ tree'.variables, b'.path? v = none) →
              (tree'.attach env b').result = (tree.attach env b).result ∧
                List.Forall₂
                  (fun v v' =>
                    (tree'.attach env b').state.path? v' = (tree.attach env b).state.path? v)
                  tree.variables tree'.variables := by
  refine ⟨fun _ _ _ _ _ hfunction _ hv => exists_of_mem hfunction hv, ?_⟩
  rintro p number name rfl hname tree' honce'
  have hsame : List.Forall₂ SameBinding p.tree.occurrences tree'.occurrences :=
    sameBinding_tree hbuilt hname
  refine ⟨constructible_tree_renamed hbuilt hname, map_type_preorder_tree number name p,
    SameBinding.toList_freeVariables hsame, ?_⟩
  intro env b b' hb hb'
  exact SameBinding.attach hsame honce honce' env hb hb'

/-- The parameter `x` of a function inside another one, whose parameter is `k`.  The function calls
    a free name on `x` and on a call of a third function, which has parameters `x` and `k`. -/
def sampleParameter : Parameter :=
  let binary : Ty := .fn (some .int) [.int, .int]
  let inner : Expr :=
    .lambda "g" binary "int(int,int)" [⟨6, "x", .int, none⟩, ⟨7, "k", .int, none⟩]
      (.var ⟨8, "x", .int, none⟩)
  { context := .body "outer" (.fn (some .int) [.int]) "int(int)" [⟨0, "k", .int, none⟩]
      (.operator .int .hole [.var ⟨1, "k", .int, none⟩, .const ⟨.int, (2 : Int64)⟩])
    functionName := "f"
    type := binary
    signature := "int(int,int)"
    before := []
    var := ⟨2, "x", .int, none⟩
    after := [⟨3, "z", .int, none⟩]
    body := .apply .int (.var ⟨4, "plus", binary, none⟩)
      [.var ⟨5, "x", .int, none⟩,
        .apply .int inner [.var ⟨9, "z", .int, none⟩, .var ⟨10, "x", .int, none⟩]] }

theorem Parameter.constructible_sampleParameter : Constructible sampleParameter.tree := by
  have hunary : (Ty.fn (some .int) [.int]).shortName = "int(int)" := rfl
  have hbinary : (Ty.fn (some .int) [.int, .int]).shortName = "int(int,int)" := rfl
  have hint : NativeTy.int.descr = .int := rfl
  simp [sampleParameter, tree, function, params, Context.fill, Constructible.lambda_iff,
    Constructible.apply_iff, Constructible.var_iff, Constructible.const, Expr.WellTyped, hunary,
    hbinary, hint]

/-- The outer function has a parameter `k` too, which the body of the function does not use, and
    the third function has one where `x` is another parameter. -/
theorem Parameter.sampleParameter_canBe_k : sampleParameter.CanBe "k" where
  nonempty := by decide
  unshared := by decide
  unused := by
    rw [Expr.mem_freeVariables_iff]
    decide
  uncaptured := by decide

theorem Parameter.attach_renamed_sampleParameter :
    let tree := sampleParameter.tree
    let tree' := (sampleParameter.renamed (· + 20) "k").tree
    let env : Env := .ofList [("plus", .global 3)]
    Constructible tree ∧ tree.variables.Nodup ∧ sampleParameter.CanBe "k" ∧ tree'.variables.Nodup ∧
      tree' ≠ tree ∧
      (tree'.attach env .empty).result = .ok () ∧
      (tree'.attach .empty .empty).result = .error (.unbound "plus" none) ∧
      List.Forall₂
        (fun v v' =>
          (tree'.attach env .empty).state.path? v' = (tree.attach env .empty).state.path? v)
        tree.variables tree'.variables := by
  have hok : (sampleParameter.tree.attach (.ofList [("plus", .global 3)]) .empty).result =
      .ok () := by rfl
  have hunknown : (sampleParameter.tree.attach .empty .empty).result =
      .error (.unbound "plus" none) := by rfl
  intro tree tree' env
  have honce : tree.variables.Nodup := by decide
  have honce' : tree'.variables.Nodup := by decide
  have hother : tree' ≠ tree := by
    intro hsame
    have hvars : tree'.variables = tree.variables := congrArg Expr.variables hsame
    revert hvars
    decide
  obtain ⟨-, hrenamed⟩ := attach_renamed tree constructible_sampleParameter honce
  obtain ⟨-, -, -, hattach⟩ :=
    hrenamed sampleParameter (· + 20) "k" rfl sampleParameter_canBe_k honce'
  obtain ⟨hresult, hpaths⟩ := hattach env .empty .empty (fun _ _ => rfl) fun _ _ => rfl
  obtain ⟨hresult', -⟩ := hattach .empty .empty .empty (fun _ _ => rfl) fun _ _ => rfl
  exact ⟨constructible_sampleParameter, honce, sampleParameter_canBe_k, honce', hother,
    hresult.trans hok, hresult'.trans hunknown, hpaths⟩

end ExprGraph
