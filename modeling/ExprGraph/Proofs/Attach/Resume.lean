/-
  ExprGraph.Proofs.Attach.Resume

  Attaching again what was attached before, wholly or in part.

  A pass only adds paths (`le_settle`), so a pass that succeeded finds all its requests met in any
  later bindings (`settle_of_settled`).  A pass that failed is absorbed as well: going through the
  requests once more, now with paths for names that had none, comes to the same as doing so in the
  first place (`settle_resume`).  For trees this means that a tree can be attached to an environment
  although it was attached before, with whatever result, to a smaller one
  (`Expr.ending_attach_resume`), and that to attach it again changes nothing
  (`Expr.attach_absorbs_earlier`).
-/

import Mathlib.Data.List.Forall2
import Mathlib.Order.Defs.PartialOrder
import ExprGraph.Proofs.Attach.Flat

namespace ExprGraph

/-! ## Environments and bindings that grow -/

/-- An environment is below another one that has all its names, with the same paths. -/
instance : Preorder Env where
  le env env' := ∀ name p, env.lookup? name = some p → env'.lookup? name = some p
  le_refl _ _ _ h := h
  le_trans _ _ _ h h' name p hp := h' name p (h name p hp)

/-- Bindings are below others in which no variable has lost its path or has another one. -/
instance : Preorder Bindings where
  le b c := ∀ v p, b.path? v = some p → c.path? v = some p
  le_refl _ _ _ h := h
  le_trans _ _ _ h h' v p hp := h' v p (h v p hp)

/-! ## Requests -/

namespace Request

/-- The second request is for the same variable, and for the same path unless the first is for
    none. -/
def Grows (r s : Request) : Prop := r.var = s.var ∧ ∀ p, r.path? = some p → s.path? = some p

theorem Grows.eq_of_isSome {r s : Request} (h : r.Grows s) (hpath : r.path?.isSome = true) :
    s = r := by
  obtain ⟨v, path?⟩ := r
  obtain ⟨w, path?'⟩ := s
  obtain ⟨path, rfl⟩ := Option.isSome_iff_exists.mp hpath
  obtain ⟨rfl, hgrows⟩ := h
  have hsame : path?' = some path := hgrows path rfl
  rw [hsame]

theorem isSome_of_fault?_eq_none {r : Request} {b : Bindings} (h : r.fault? b = none) :
    r.path?.isSome = true := by
  obtain ⟨path, hpath, -⟩ := fault?_eq_none_iff.mp h
  rw [hpath]
  rfl

theorem le_fill (r : Request) (b : Bindings) : b ≤ r.fill b := by
  intro v p hv
  unfold fill
  cases hb : b.path? r.var with
  | some previous => exact hv
  | none =>
    cases r.path? with
    | none => exact hv
    | some path =>
      -- The cell that is filled was empty, so it is not the one of `v`.
      have hne : v ≠ r.var := by
        rintro rfl
        rw [hb] at hv
        cases hv
      have hkept : (b.bind r.var path).path? v = b.path? v := Bindings.path?_bind_of_ne b path hne
      exact hkept.trans hv

/-- A request that was met is met once more in later bindings, and there is nothing to fill. -/
theorem met_of_fill_le {r : Request} {b c : Bindings} (h : r.fault? b = none)
    (hle : r.fill b ≤ c) : r.fault? c = none ∧ r.fill c = c := by
  obtain ⟨path, hpath, hprevious⟩ := fault?_eq_none_iff.mp h
  have hfilled : (r.fill b).path? r.var = some path := by
    unfold fill
    cases hb : b.path? r.var with
    | none =>
      rw [hpath]
      exact Bindings.path?_bind_self b r.var path
    | some previous =>
      rw [← hprevious previous hb]
      exact hb
  have hc : c.path? r.var = some path := hle r.var path hfilled
  constructor
  · refine fault?_eq_none_iff.mpr ⟨path, hpath, ?_⟩
    intro previous hcell
    exact Option.some.inj (hcell.symm.trans hc)
  · unfold fill
    rw [hc]

end Request

/-! ## Runs along requests -/

theorem le_settle (rs : List Request) (b : Bindings) : b ≤ (settle rs b).2 := by
  induction rs generalizing b with
  | nil => exact le_refl b
  | cons r rs ih =>
    cases h : r.fault? b with
    | some e =>
      rw [settle_cons_of_fault h]
    | none =>
      rw [settle_cons_of_met h]
      exact le_trans (r.le_fill b) (ih (r.fill b))

/-- Requests that were all met are met in all later bindings, which then stay as they are. -/
theorem settle_of_settled {rs : List Request} {b c : Bindings} (hok : (settle rs b).1 = .ok ())
    (hle : (settle rs b).2 ≤ c) : settle rs c = (.ok (), c) := by
  induction rs generalizing b with
  | nil => rfl
  | cons r rs ih =>
    cases h : r.fault? b with
    | some e =>
      rw [settle_cons_of_fault h] at hok
      cases hok
    | none =>
      rw [settle_cons_of_met h] at hok hle
      have hfill : r.fill b ≤ c := le_trans (le_settle rs (r.fill b)) hle
      obtain ⟨hmet, hsame⟩ := Request.met_of_fill_le h hfill
      rw [settle_cons_of_met hmet, hsame]
      exact ih hok hle

/-- Requests that were all met have paths, which leaves nothing to grow. -/
theorem eq_of_grows_of_settled {rs ss : List Request} (h : List.Forall₂ Request.Grows rs ss)
    {b : Bindings} (hok : (settle rs b).1 = .ok ()) : ss = rs := by
  induction h generalizing b with
  | nil => rfl
  | @cons r s rs ss hr _ ih =>
    cases hfault : r.fault? b with
    | some e =>
      rw [settle_cons_of_fault hfault] at hok
      cases hok
    | none =>
      rw [settle_cons_of_met hfault] at hok
      rw [hr.eq_of_isSome (Request.isSome_of_fault?_eq_none hfault), ih hok]

/-- A run absorbs an earlier one along requests that had less paths, whatever its result was. -/
theorem settle_resume {rs ss : List Request} (h : List.Forall₂ Request.Grows rs ss)
    (b : Bindings) : settle ss (settle rs b).2 = settle ss b := by
  induction h generalizing b with
  | nil => rfl
  | @cons r s rs ss hr _ ih =>
    cases hfault : r.fault? b with
    | some e =>
      -- The earlier run stopped at once and left the bindings alone.
      rw [settle_cons_of_fault hfault]
    | none =>
      -- The first request was met, and it is met again in what the earlier run left.
      have hsame : s = r := hr.eq_of_isSome (Request.isSome_of_fault?_eq_none hfault)
      subst hsame
      rw [settle_cons_of_met hfault, settle_cons_of_met hfault]
      obtain ⟨hmet, hstays⟩ := Request.met_of_fill_le hfault (le_settle rs (s.fill b))
      rw [settle_cons_of_met hmet, hstays]
      exact ih (s.fill b)

/-! ## Trees -/

/-- A larger environment gives an occurrence the path that it had. -/
theorem Occurrence.path?_mono {env env' : Env} (h : env ≤ env') {o : Occurrence} {p : BindingPath}
    (hp : o.path? env = some p) : o.path? env' = some p := by
  cases hb : o.binder? with
  | some found =>
    rw [path?_of_binder? hb] at hp ⊢
    exact hp
  | none =>
    rw [path?_of_binder?_eq_none hb, Option.map_eq_some_iff] at hp ⊢
    obtain ⟨base, hbase, rfl⟩ := hp
    exact ⟨base, h o.var.name base hbase, rfl⟩

namespace Expr

variable {env env' : Env} {e : Expr} {b c : Bindings}

theorem requests_grow (h : env ≤ env') (e : Expr) :
    List.Forall₂ Request.Grows (e.requests env) (e.requests env') := by
  rw [requests, requests, List.forall₂_map_left_iff, List.forall₂_map_right_iff]
  refine List.forall₂_same.mpr fun o _ => ⟨rfl, ?_⟩
  intro p hp
  exact o.path?_mono h hp

theorem result_attach (env : Env) (e : Expr) (b : Bindings) :
    (e.attach env b).result = (settle (e.requests env) b).1 :=
  congrArg Prod.fst (e.ending_attach env b)

theorem state_attach (env : Env) (e : Expr) (b : Bindings) :
    (e.attach env b).state = (settle (e.requests env) b).2 :=
  congrArg Prod.snd (e.ending_attach env b)

/-- A tree that was attached attaches in the same way to a larger environment. -/
theorem ending_attach_of_le (henv : env ≤ env') (hok : (e.attach env b).result = .ok ()) :
    (e.attach env' b).ending = (e.attach env b).ending := by
  rw [result_attach] at hok
  have hsame : e.requests env' = e.requests env :=
    eq_of_grows_of_settled (requests_grow henv e) hok
  rw [ending_attach, ending_attach, hsame]

/-- A tree that was attached is still attached in later bindings and larger environments. -/
theorem ending_attach_of_attached (henv : env ≤ env') (hok : (e.attach env b).result = .ok ())
    (hle : (e.attach env b).state ≤ c) : (e.attach env' c).ending = (.ok (), c) := by
  rw [result_attach] at hok
  rw [state_attach] at hle
  have hsame : e.requests env' = e.requests env :=
    eq_of_grows_of_settled (requests_grow henv e) hok
  rw [ending_attach, hsame]
  exact settle_of_settled hok hle

/-- Attaching to a larger environment absorbs an earlier attachment, whatever its result was. -/
theorem ending_attach_resume (henv : env ≤ env') (e : Expr) (b : Bindings) :
    (e.attach env' (e.attach env b).state).ending = (e.attach env' b).ending := by
  rw [ending_attach, ending_attach, state_attach]
  exact settle_resume (requests_grow henv e) b

/-- An attachment has the result and leaves the bindings that it would have without an earlier one
    to an environment whose paths are all there still, whatever the earlier one came to.  Made again
    in the same environment it has the same result and changes nothing. -/
theorem attach_absorbs_earlier (e : Expr) (b : Bindings) (env env' : Env)
    (h : ∀ name p, env.lookup? name = some p → env'.lookup? name = some p) :
    let earlier := (e.attach env b).state
    (e.attach env' earlier).result = (e.attach env' b).result ∧
      (e.attach env' earlier).state = (e.attach env' b).state ∧
      (e.attach env earlier).result = (e.attach env b).result ∧
      (e.attach env earlier).state = earlier := by
  intro earlier
  have hresume : (e.attach env' earlier).ending = (e.attach env' b).ending :=
    ending_attach_resume h e b
  have hrepeat : (e.attach env earlier).ending = (e.attach env b).ending :=
    ending_attach_resume (le_refl env) e b
  exact ⟨congrArg Prod.fst hresume, congrArg Prod.snd hresume, congrArg Prod.fst hrepeat,
    congrArg Prod.snd hrepeat⟩

/-- A tree is bound in part before the name `y` is known, and in full after. -/
theorem attach_absorbs_earlier_sampleTree :
    let env : Env := .ofList [("g", .global 3)]
    let earlier := (sampleTree.attach env .empty).state
    (sampleTree.attach env .empty).result = .error (.unbound "y" none) ∧
      earlier.path? ⟨0, "x", .float, none⟩ = some (.lexical 0 0) ∧
      (sampleTree.attach sampleEnv earlier).result = (sampleTree.attach sampleEnv .empty).result ∧
      (sampleTree.attach sampleEnv earlier).state = (sampleTree.attach sampleEnv .empty).state ∧
      (sampleTree.attach env earlier).result = .error (.unbound "y" none) := by
  intro env earlier
  have hgrows : ∀ name p, env.lookup? name = some p → sampleEnv.lookup? name = some p := by
    intro name p hp
    have hfirst : [("g", BindingPath.global 3)].lookup name = some p := hp
    rw [List.lookup_cons, List.lookup_nil] at hfirst
    split at hfirst
    case h_1 hg => simpa [sampleEnv, List.lookup_cons, hg] using hfirst
    case h_2 => cases hfirst
  obtain ⟨hresult, hstate, hrepeat, -⟩ :=
    sampleTree.attach_absorbs_earlier .empty env sampleEnv hgrows
  exact ⟨rfl, rfl, hresult, hstate, hrepeat.trans rfl⟩

end Expr

end ExprGraph
