/-
  ExprGraph.Proofs.Attach.Jobs

  Attaching several trees, each to an environment of its own, one after the other.

  The trees may share variables, and what one job fills the next one finds.  Still the order does
  not matter: all jobs succeed exactly if every environment has the free variables of its tree and
  no variable resolves to two paths anywhere, and the bindings they leave are then the same in every
  order (`Job.attachEach_ok_iff_agree`).
-/

import ExprGraph.Proofs.Attach.Flat

namespace ExprGraph

/-- A tree to be attached to an environment. -/
structure Job where
  tree : Expr
  env : Env

namespace Job

/-- Attaches the trees of jobs one after the other, up to the first error. -/
def attachEach : List Job → Bindings → Attachment
  | [], b => .pure () b
  | j :: js, b => (j.tree.attach j.env b).andThen fun _ b => attachEach js b

/-- What the trees of jobs ask for, one tree after the other. -/
def requests (jobs : List Job) : List Request := jobs.flatMap fun j => j.tree.requests j.env

/-- A variable holds a path already, or some occurrence of it in some job resolves to the path. -/
def Resolves (jobs : List Job) (b : Bindings) (v : Variable) (p : BindingPath) : Prop :=
  b.path? v = some p ∨
    ∃ j ∈ jobs, ∃ o ∈ j.tree.occurrences, o.var = v ∧ o.path? j.env = some p

theorem ending_attachEach (jobs : List Job) (b : Bindings) :
    (attachEach jobs b).ending = settle (requests jobs) b := by
  induction jobs generalizing b with
  | nil => rfl
  | cons j jobs ih =>
    have hcons : requests (j :: jobs) = j.tree.requests j.env ++ requests jobs := rfl
    rw [attachEach, Outcome.ending_andThen, hcons, settle_append, Expr.ending_attach]
    simp only [ih]
    cases settle (j.tree.requests j.env) b with
    | mk result b' => cases result <;> rfl

theorem mem_requests_iff {jobs : List Job} {r : Request} :
    r ∈ requests jobs ↔ ∃ j ∈ jobs, ∃ o ∈ j.tree.occurrences, o.request j.env = r := by
  simp only [requests, Expr.requests, List.mem_flatMap, List.mem_map]

theorem offered_requests_iff {jobs : List Job} {b : Bindings} {v : Variable} {p : BindingPath} :
    Offered (requests jobs) b v p ↔ Resolves jobs b v p := by
  simp only [Offered, Resolves, mem_requests_iff, Occurrence.request, Request.mk.injEq]

/-- All requests have a path exactly if every environment has the free variables of its tree. -/
theorem forall_requests_isSome_iff {jobs : List Job} :
    (∀ r ∈ requests jobs, r.path?.isSome = true) ↔
      ∀ j ∈ jobs, ∀ name ∈ j.tree.freeVariables, (j.env.lookup? name).isSome = true := by
  constructor
  · intro h j hj
    refine Expr.forall_isSome_path?_iff.mp fun o ho => ?_
    exact h (o.request j.env) (mem_requests_iff.mpr ⟨j, hj, o, ho, rfl⟩)
  · rintro h r hr
    obtain ⟨j, hj, o, ho, rfl⟩ := mem_requests_iff.mp hr
    exact Expr.forall_isSome_path?_iff.mpr (h j hj) o ho

theorem result_attachEach (jobs : List Job) (b : Bindings) :
    (attachEach jobs b).result = (settle (requests jobs) b).1 :=
  congrArg Prod.fst (ending_attachEach jobs b)

theorem state_attachEach (jobs : List Job) (b : Bindings) :
    (attachEach jobs b).state = (settle (requests jobs) b).2 :=
  congrArg Prod.snd (ending_attachEach jobs b)

/-- Jobs that succeed leave exactly the paths that the variables resolve to. -/
theorem path?_attachEach_iff {jobs : List Job} {b : Bindings}
    (hok : (attachEach jobs b).result = .ok ()) (v : Variable) (p : BindingPath) :
    (attachEach jobs b).state.path? v = some p ↔ Resolves jobs b v p := by
  rw [result_attachEach] at hok
  rw [state_attachEach, path?_settle_iff hok, offered_requests_iff]

/-- Jobs that succeed leave every variable with the path of each of its occurrences. -/
theorem path?_of_attachEach_ok {jobs : List Job} {b : Bindings}
    (hok : (attachEach jobs b).result = .ok ()) {j : Job} (hj : j ∈ jobs) {o : Occurrence}
    (ho : o ∈ j.tree.occurrences) :
    ∃ path, o.path? j.env = some path ∧ (attachEach jobs b).state.path? o.var = some path := by
  have hsettled := hok
  rw [result_attachEach, settle_ok_iff_offered] at hsettled
  have hmem : o.request j.env ∈ requests jobs := mem_requests_iff.mpr ⟨j, hj, o, ho, rfl⟩
  obtain ⟨path, hpath⟩ := Option.isSome_iff_exists.mp (hsettled.1 _ hmem)
  refine ⟨path, hpath, (path?_attachEach_iff hok o.var path).mpr ?_⟩
  exact .inr ⟨j, hj, o, ho, rfl, hpath⟩

/-- Jobs succeed exactly if all free variables are found and no variable resolves to two paths;
    then they add just these paths to the bindings, and they do the same in every other order. -/
theorem attachEach_ok_iff_agree (jobs : List Job) (b : Bindings) :
    ((attachEach jobs b).result = .ok () ↔
        (∀ j ∈ jobs, ∀ name ∈ j.tree.freeVariables, (j.env.lookup? name).isSome = true) ∧
          ∀ v p q, Resolves jobs b v p → Resolves jobs b v q → p = q) ∧
      ((attachEach jobs b).result = .ok () →
        (∀ v p, (attachEach jobs b).state.path? v = some p ↔ Resolves jobs b v p) ∧
          ∀ jobs', jobs.Perm jobs' →
            (attachEach jobs' b).result = .ok () ∧
              (attachEach jobs' b).state = (attachEach jobs b).state) := by
  refine ⟨?_, fun hok => ⟨path?_attachEach_iff hok, fun jobs' hperm => ?_⟩⟩
  · rw [result_attachEach, settle_ok_iff_offered, forall_requests_isSome_iff]
    simp only [offered_requests_iff]
  · rw [result_attachEach] at hok
    -- In another order the jobs ask for the same, if not one after the other.
    have hsame : ∀ r, r ∈ requests jobs ↔ r ∈ requests jobs' := by
      intro r
      simp only [mem_requests_iff, hperm.mem_iff]
    have hrun := settle_eq_of_same_requests hsame hok
    rw [result_attachEach, state_attachEach, state_attachEach, hrun]
    exact ⟨hok, rfl⟩

/-- Two jobs with a variable in common, which is bound at different depths. -/
def sampleJobs : List Job :=
  let callee : Expr := .var ⟨1, "g", .fn (some .float) [.float, .float], none⟩
  [⟨sampleTree, sampleEnv⟩, ⟨callee, sampleEnv⟩]

theorem attachEach_ok_iff_agree_sampleJobs :
    (attachEach sampleJobs .empty).result = .ok () ∧
      (attachEach sampleJobs.reverse .empty).result = .ok () ∧
      (attachEach sampleJobs.reverse .empty).state = (attachEach sampleJobs .empty).state := by
  obtain ⟨-, hany⟩ := attachEach_ok_iff_agree sampleJobs .empty
  have hok : (attachEach sampleJobs .empty).result = .ok () := by rfl
  exact ⟨hok, (hany hok).2 sampleJobs.reverse (List.reverse_perm sampleJobs).symm⟩

end Job

end ExprGraph
