/-
  ExprGraph.Proofs.Attach.Settle

  Filling write-once cells along a list of requests.

  A request is a variable with the path that its name stands for where it is used.  `settle` goes
  through requests from the left, fills empty cells and stops at the first request that cannot be
  met.  The run depends on the order of the requests only as long as it fails: it succeeds exactly
  if every request has a path and no variable is offered two (`settle_ok_iff_offered`), and it then
  leaves exactly the paths that were offered (`path?_settle_iff`).
-/

import ExprGraph.Attach.Pass

namespace ExprGraph

/-! ## Requests -/

/-- A variable with the path that its name stands for where it is used, if it stands for any. -/
structure Request where
  var : Variable
  path? : Option BindingPath

namespace Request

/-- Why a request cannot be met: its name has no path, or its variable has another one. -/
def fault? (r : Request) (b : Bindings) : Option BindError :=
  match r.path? with
  | none => some (.unbound r.var.name r.var.span)
  | some path =>
    match b.path? r.var with
    | none => none
    | some previous =>
      if previous = path then none else some (.rebound r.var.name previous path r.var.span)

/-- Gives the variable its path if it has none. -/
def fill (r : Request) (b : Bindings) : Bindings :=
  match b.path? r.var, r.path? with
  | none, some path => b.bind r.var path
  | _, _ => b

end Request

/-- Goes through requests from the left and fills empty cells, up to the first request that cannot
    be met. -/
def settle : List Request → Bindings → Except BindError Unit × Bindings
  | [], b => (.ok (), b)
  | r :: rs, b =>
    match r.fault? b with
    | some e => (.error e, b)
    | none => settle rs (r.fill b)

@[simp] theorem settle_nil (b : Bindings) : settle [] b = (.ok (), b) := rfl

theorem settle_cons_of_fault {r : Request} {b : Bindings} {e : BindError}
    (h : r.fault? b = some e) (rs : List Request) : settle (r :: rs) b = (.error e, b) := by
  rw [settle, h]

theorem settle_cons_of_met {r : Request} {b : Bindings} (h : r.fault? b = none)
    (rs : List Request) : settle (r :: rs) b = settle rs (r.fill b) := by
  rw [settle, h]

/-- After an error the later requests are not looked at. -/
theorem settle_append (rs ss : List Request) (b : Bindings) :
    settle (rs ++ ss) b =
      match settle rs b with
      | (.ok (), b') => settle ss b'
      | (.error e, b') => (.error e, b') := by
  -- The bindings differ from one request to the next, hence `generalizing b` here and below.
  induction rs generalizing b with
  | nil => rfl
  | cons r rs ih =>
    rw [List.cons_append]
    cases h : r.fault? b with
    | some e => rw [settle_cons_of_fault h, settle_cons_of_fault h]
    | none => rw [settle_cons_of_met h, settle_cons_of_met h, ih]

/-- A run ends with an error exactly if it meets all requests before some request and then finds
    that one at fault. -/
theorem settle_eq_error_iff {rs : List Request} {b b' : Bindings} {e : BindError} :
    settle rs b = (.error e, b') ↔
      ∃ before r after, rs = before ++ r :: after ∧ settle before b = (.ok (), b') ∧
        r.fault? b' = some e := by
  constructor
  · intro h
    induction rs generalizing b with
    | nil => simp at h
    | cons r rs ih =>
      cases hr : r.fault? b with
      | some e' =>
        -- The first request is the one at fault, and nothing was met before it.
        rw [settle_cons_of_fault hr] at h
        obtain ⟨rfl, rfl⟩ : e' = e ∧ b = b' := by simpa using h
        exact ⟨[], r, rs, rfl, rfl, hr⟩
      | none =>
        rw [settle_cons_of_met hr] at h
        obtain ⟨before, r', after, rfl, hbefore, hfault⟩ := ih h
        refine ⟨r :: before, r', after, rfl, ?_, hfault⟩
        rw [settle_cons_of_met hr, hbefore]
  · rintro ⟨before, r, after, rfl, hbefore, hfault⟩
    rw [settle_append, hbefore]
    exact settle_cons_of_fault hfault after

/-- A run succeeds exactly if it finds no request at fault when it comes to it. -/
theorem settle_eq_ok_iff {rs : List Request} {b : Bindings} :
    (settle rs b).1 = .ok () ↔
      ∀ before r after, rs = before ++ r :: after → r.fault? (settle before b).2 = none := by
  constructor
  · rintro hok before r after rfl
    cases hbefore : settle before b with
    | mk result b' =>
      cases result with
      | error e =>
        -- An error before `r` would have ended the whole run.
        rw [settle_append, hbefore] at hok
        cases hok
      | ok _ =>
        cases hfault : r.fault? b' with
        | none => rfl
        | some e =>
          rw [settle_append, hbefore] at hok
          simp [settle_cons_of_fault hfault] at hok
  · intro h
    cases hrun : settle rs b with
    | mk result b' =>
      cases result with
      | ok _ => rfl
      | error e =>
        obtain ⟨before, r, after, hsplit, hbefore, hfault⟩ := settle_eq_error_iff.mp hrun
        have hmet := h before r after hsplit
        rw [hbefore, hfault] at hmet
        cases hmet

/-! ## Requests that agree -/

/-- The variable has the path already, or a request is for it. -/
def Offered (rs : List Request) (b : Bindings) (v : Variable) (p : BindingPath) : Prop :=
  b.path? v = some p ∨ ⟨v, some p⟩ ∈ rs

theorem Request.fault?_eq_none_iff {r : Request} {b : Bindings} :
    r.fault? b = none ↔
      ∃ path, r.path? = some path ∧
        ∀ previous, b.path? r.var = some previous → previous = path := by
  unfold fault?
  cases r.path? with
  | none => simp
  | some path => cases b.path? r.var <;> simp

/-- Only a request without a path is reported as unbound. -/
theorem Request.path?_of_fault?_unbound {r : Request} {b : Bindings} {name : String}
    {span : Option Span} (h : r.fault? b = some (.unbound name span)) :
    r.path? = none ∧ r.var.name = name := by
  unfold fault? at h
  cases hpath : r.path? with
  | none =>
    rw [hpath] at h
    cases h
    exact ⟨rfl, rfl⟩
  | some path =>
    rw [hpath] at h
    simp only at h
    split at h
    · cases h
    · split at h <;> cases h

/-- Filling a cell as requested takes the request over into the bindings. -/
theorem offered_cons_iff {r : Request} {b : Bindings} (h : r.fault? b = none)
    (rs : List Request) (v : Variable) (p : BindingPath) :
    Offered (r :: rs) b v p ↔ Offered rs (r.fill b) v p := by
  obtain ⟨w, path?⟩ := r
  obtain ⟨path, rfl, hprevious⟩ := Request.fault?_eq_none_iff.mp h
  have hfill : (Request.fill ⟨w, some path⟩ b).path? v = some p ↔
      b.path? v = some p ∨ v = w ∧ p = path := by
    unfold Request.fill
    cases hw : b.path? w with
    | none =>
      by_cases hv : v = w
      · subst hv
        simp [hw, eq_comm]
      · simp [Bindings.path?_bind_of_ne b path hv, hv]
    | some previous =>
      -- A cell that is filled already holds the path asked for.
      obtain rfl := hprevious previous hw
      constructor
      · exact Or.inl
      · rintro (hv | ⟨rfl, rfl⟩)
        · exact hv
        · exact hw
  simp [Offered, hfill, or_assoc]

/-- A run that succeeds leaves exactly the paths that were offered. -/
theorem path?_settle_iff {rs : List Request} {b : Bindings} (hok : (settle rs b).1 = .ok ())
    (v : Variable) (p : BindingPath) :
    (settle rs b).2.path? v = some p ↔ Offered rs b v p := by
  induction rs generalizing b with
  | nil => simp [Offered]
  | cons r rs ih =>
    cases hr : r.fault? b with
    | some e =>
      rw [settle_cons_of_fault hr] at hok
      cases hok
    | none =>
      rw [settle_cons_of_met hr] at hok ⊢
      rw [ih hok, offered_cons_iff hr]

/-- A run succeeds exactly if every request has a path and no variable is offered two. -/
theorem settle_ok_iff_offered {rs : List Request} {b : Bindings} :
    (settle rs b).1 = .ok () ↔
      (∀ r ∈ rs, r.path?.isSome = true) ∧
        ∀ v p q, Offered rs b v p → Offered rs b v q → p = q := by
  induction rs generalizing b with
  | nil =>
    have hagree : ∀ v p q, Offered [] b v p → Offered [] b v q → p = q := by
      intro v p q hp hq
      simp only [Offered, List.not_mem_nil, or_false] at hp hq
      exact Option.some.inj (hp.symm.trans hq)
    exact ⟨fun _ => ⟨by simp, hagree⟩, fun _ => rfl⟩
  | cons r rs ih =>
    cases hr : r.fault? b with
    | some e =>
      -- An error here means that the request has no path or disagrees with the cell.
      rw [settle_cons_of_fault hr]
      constructor
      · intro h
        cases h
      · rintro ⟨hpaths, hagree⟩
        obtain ⟨path, hpath⟩ := Option.isSome_iff_exists.mp (hpaths r (List.mem_cons_self ..))
        have hmem : (⟨r.var, some path⟩ : Request) ∈ r :: rs := by
          rw [← hpath]
          exact List.mem_cons_self ..
        have hmet : r.fault? b = none :=
          Request.fault?_eq_none_iff.mpr ⟨path, hpath, fun previous hprevious =>
            hagree r.var previous path (.inl hprevious) (.inr hmem)⟩
        rw [hr] at hmet
        cases hmet
    | none =>
      -- The request is met, and what it offers is among the bindings from here on.
      have hpath : r.path?.isSome = true := by
        obtain ⟨path, hpath, -⟩ := Request.fault?_eq_none_iff.mp hr
        rw [hpath]
        rfl
      rw [settle_cons_of_met hr, ih, List.forall_mem_cons]
      simp only [offered_cons_iff hr, hpath, true_and]

/-- Success carries over to requests for other paths, as long as equal paths stay equal and the
    variables are free to take them. -/
theorem settle_ok_of_related {related : BindingPath → BindingPath → Prop}
    (hunique : ∀ p q q', related p q → related p q' → q = q') {rs ss : List Request}
    (hrelated : ∀ s ∈ ss, ∃ r ∈ rs, r.var = s.var ∧
      ∀ p, r.path? = some p → ∃ q, s.path? = some q ∧ related p q)
    {b c : Bindings} (hfree : ∀ s ∈ ss, c.path? s.var = none) (hok : (settle rs b).1 = .ok ()) :
    (settle ss c).1 = .ok () := by
  obtain ⟨hpaths, hagree⟩ := settle_ok_iff_offered.mp hok
  -- Behind every request of the second list stands one of the first for a related path.
  have hbehind : ∀ v q, (⟨v, some q⟩ : Request) ∈ ss → ∃ p, Offered rs b v p ∧ related p q := by
    intro v q hs
    obtain ⟨⟨w, path?⟩, hr, hvar, hpath⟩ := hrelated _ hs
    obtain rfl : w = v := hvar
    obtain ⟨p, rfl⟩ := Option.isSome_iff_exists.mp (hpaths _ hr)
    obtain ⟨_, ⟨rfl⟩, hpq⟩ := hpath p rfl
    exact ⟨p, .inr hr, hpq⟩
  refine settle_ok_iff_offered.mpr ⟨?_, ?_⟩
  · intro s hs
    obtain ⟨r, hr, -, hpath⟩ := hrelated s hs
    obtain ⟨p, hp⟩ := Option.isSome_iff_exists.mp (hpaths r hr)
    obtain ⟨q, hq, -⟩ := hpath p hp
    rw [hq]
    rfl
  · rintro v q q' (hcell | hq) (hcell' | hq')
    · exact Option.some.inj (hcell.symm.trans hcell')
    · rw [hfree _ hq'] at hcell
      cases hcell
    · rw [hfree _ hq] at hcell'
      cases hcell'
    · obtain ⟨p, hp, hpq⟩ := hbehind v q hq
      obtain ⟨p', hp', hpq'⟩ := hbehind v q' hq'
      obtain rfl : p = p' := hagree v p p' hp hp'
      exact hunique p q q' hpq hpq'

/-- Two lists with the same requests succeed alike and leave the same bindings. -/
theorem settle_eq_of_same_requests {rs ss : List Request} (h : ∀ r, r ∈ rs ↔ r ∈ ss)
    {b : Bindings} (hok : (settle rs b).1 = .ok ()) : settle ss b = settle rs b := by
  -- Success and the final bindings depend on what is offered, which no order changes.
  have hoffered : ∀ v p, Offered rs b v p ↔ Offered ss b v p := by
    intro v p
    rw [Offered, Offered, h]
  have hok' : (settle ss b).1 = .ok () := by
    obtain ⟨hpaths, hagree⟩ := settle_ok_iff_offered.mp hok
    refine settle_ok_iff_offered.mpr ⟨fun r hr => hpaths r ((h r).mpr hr), ?_⟩
    intro v p q hp hq
    exact hagree v p q ((hoffered v p).mpr hp) ((hoffered v q).mpr hq)
  refine Prod.ext (hok'.trans hok.symm) (Bindings.ext fun v => Option.ext fun p => ?_)
  rw [path?_settle_iff hok', path?_settle_iff hok, hoffered]

end ExprGraph
