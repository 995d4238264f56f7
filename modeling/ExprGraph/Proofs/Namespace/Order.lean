/-
  ExprGraph.Proofs.Namespace.Order

  The order of definitions decides slots and nothing else.

  Two namespaces with the same definitions give an occurrence paths that lead to the same place
  (`Namespace.SamePlace`): the same path where a parameter binds it, and else slots that hold the
  same definition.  Such paths differ from one namespace to the other but agree with each other in
  one exactly if they do in the other, so nodes attach in both orders of their definition or in none
  (`Namespace.attachAll_of_perm`).
-/

import ExprGraph.Proofs.Namespace.Addressing
import ExprGraph.Proofs.Namespace.Slots

namespace ExprGraph.Namespace

variable {ns ns' : Namespace}

/-! ## Paths that lead to the same place -/

/-- Two paths, each from its own namespace, lead to the same parameter or to slots that hold the
    same definition. -/
def SamePlace (ns ns' : Namespace) : BindingPath → BindingPath → Prop
  | .lexical link slot, .lexical link' slot' => link = link' ∧ slot = slot'
  | .global slot, .global slot' => ∃ d, ns.get? slot = some d ∧ ns'.get? slot' = some d
  | _, _ => False

/-- In a namespace, one path at most leads to a place. -/
theorem SamePlace.unique (h' : ns'.Indexed) {p q q' : BindingPath} (hq : SamePlace ns ns' p q)
    (hq' : SamePlace ns ns' p q') : q = q' := by
  cases p with
  | lexical link slot =>
    cases q with
    | global _ => exact False.elim hq
    | lexical _ _ =>
      cases q' with
      | global _ => exact False.elim hq'
      | lexical _ _ =>
        obtain ⟨rfl, rfl⟩ := hq
        obtain ⟨rfl, rfl⟩ := hq'
        rfl
  | global slot =>
    cases q with
    | lexical _ _ => exact False.elim hq
    | global slot₁ =>
      cases q' with
      | lexical _ _ => exact False.elim hq'
      | global slot₂ =>
        obtain ⟨d, hd, hd₁⟩ := hq
        obtain ⟨d', hd', hd₂⟩ := hq'
        obtain rfl : d = d' := Option.some.inj (hd.symm.trans hd')
        rw [h'.slot_unique hd₁ hd₂]

/-- An occurrence with a path in one namespace has one in every namespace with the same definitions,
    and it leads to the same place. -/
theorem exists_samePlace_of_path? (h' : ns'.Indexed) (hsize : ns.size < UInt32.size)
    (hsize' : ns'.size < UInt32.size) (hdefs : ∀ d ∈ ns.defs, d ∈ ns'.defs) {o : Occurrence}
    {p : BindingPath} (hp : o.path? ns.env = some p) :
    ∃ q, o.path? ns'.env = some q ∧ SamePlace ns ns' p q := by
  cases hb : o.binder? with
  | some found =>
    rw [Occurrence.path?_of_binder? hb] at hp ⊢
    obtain rfl := Option.some.inj hp
    exact ⟨_, rfl, rfl, rfl⟩
  | none =>
    -- The name is left to the namespaces, and scopes do not change a global path.
    rw [Occurrence.path?_of_binder?_eq_none hb, Option.map_eq_some_iff] at hp
    obtain ⟨base, hbase, rfl⟩ := hp
    obtain ⟨slot, d, rfl, hget, hname⟩ := path?_eq_some (Nat.le_of_lt hsize) hbase
    have hd : d ∈ ns'.defs := hdefs d (List.mem_of_getElem? hget)
    obtain ⟨slot', hget'⟩ := Indexed.exists_slot hsize' hd
    have hbase' : ns'.path? o.var.name = some (.global slot') := by
      rw [← hname]
      exact (h'.path?_eq_some_iff hsize').mpr ⟨d.node, hget'⟩
    refine ⟨.global slot', ?_, d, hget, hget'⟩
    rw [Occurrence.path?_of_binder?_eq_none hb, Option.map_eq_some_iff]
    exact ⟨.global slot', hbase', rfl⟩

/-! ## Attaching the same definitions -/

theorem result_attachAll_eq_ok_iff (ns : Namespace) (b : Bindings) :
    (ns.attachAll b).result = .ok () ↔
      (settle (Job.requests (jobs ns.env ns.defs)) b).1 = .ok () := by
  rw [← Job.result_attachEach]
  exact (ns.attachAll_jobs b).2

theorem mem_requests_jobs_iff {env : Env} {ds : List Definition} {r : Request} :
    r ∈ Job.requests (jobs env ds) ↔
      ∃ d ∈ ds, d.node.kind = .lambda ∧ ∃ o ∈ d.node.occurrences, o.request env = r := by
  rw [Job.mem_requests_iff]
  constructor
  · rintro ⟨j, hj, o, ho, rfl⟩
    obtain ⟨d, hd, hkind, rfl⟩ := mem_jobs_iff.mp hj
    exact ⟨d, hd, hkind, o, ho, rfl⟩
  · rintro ⟨d, hd, hkind, o, ho, rfl⟩
    exact ⟨⟨d.node, env⟩, mem_jobs_iff.mpr ⟨d, hd, hkind, rfl⟩, o, ho, rfl⟩

/-- Definitions that were attached attach in every other namespace that has just these, from
    bindings in which their variables are unbound. -/
theorem result_attachAll_of_same_defs (h' : ns'.Indexed) (hsize : ns.size < UInt32.size)
    (hsize' : ns'.size < UInt32.size) (hdefs : ∀ d, d ∈ ns.defs ↔ d ∈ ns'.defs) {b b' : Bindings}
    (hunbound : ∀ d ∈ ns'.defs, ∀ o ∈ d.node.occurrences, b'.path? o.var = none)
    (hok : (ns.attachAll b).result = .ok ()) : (ns'.attachAll b').result = .ok () := by
  rw [result_attachAll_eq_ok_iff] at hok ⊢
  have hunique : ∀ p q q', SamePlace ns ns' p q → SamePlace ns ns' p q' → q = q' :=
    fun _ _ _ => SamePlace.unique h'
  refine settle_ok_of_related hunique ?_ ?_ hok
  · intro s hs
    obtain ⟨d, hd, hkind, o, ho, rfl⟩ := mem_requests_jobs_iff.mp hs
    refine ⟨o.request ns.env, ?_, rfl, fun p hp => ?_⟩
    · exact mem_requests_jobs_iff.mpr ⟨d, (hdefs d).mpr hd, hkind, o, ho, rfl⟩
    · exact exists_samePlace_of_path? h' hsize hsize' (fun d => (hdefs d).mp) hp
  · intro s hs
    obtain ⟨d, hd, -, o, ho, rfl⟩ := mem_requests_jobs_iff.mp hs
    exact hunbound d hd o ho

/-- An attachment of all definitions leaves every occurrence its path. -/
theorem path?_of_attachAll_ok {b : Bindings} (hok : (ns.attachAll b).result = .ok ())
    {d : Definition} (hd : d ∈ ns.defs) (hkind : d.node.kind = .lambda) {o : Occurrence}
    (ho : o ∈ d.node.occurrences) :
    ∃ path, o.path? ns.env = some path ∧ (ns.attachAll b).state.path? o.var = some path :=
  path?_of_attachDefs_ok hok hd hkind ho

/-- Nodes that are defined in two orders and then attached, with their variables unbound, attach in
    both orders or in none; and if they do, every variable has paths that lead to the same place. -/
theorem attachAll_of_perm (nodes nodes' : List Expr) (b b' : Bindings) (hperm : nodes.Perm nodes')
    (hdefined : ∀ result ∈ empty.defineResults nodes, result.isOk = true)
    (hdefined' : ∀ result ∈ empty.defineResults nodes', result.isOk = true)
    (hsize : nodes.length < UInt32.size)
    (hunbound : ∀ node ∈ nodes, ∀ o ∈ node.occurrences, b.path? o.var = none)
    (hunbound' : ∀ node ∈ nodes, ∀ o ∈ node.occurrences, b'.path? o.var = none) :
    let ns := empty.defineEach nodes
    let ns' := empty.defineEach nodes'
    ((ns.attachAll b).result = .ok () ↔ (ns'.attachAll b').result = .ok ()) ∧
      ((ns.attachAll b).result = .ok () → ∀ node ∈ nodes, ∀ o ∈ node.occurrences,
        ∃ p p', (ns.attachAll b).state.path? o.var = some p ∧
          (ns'.attachAll b').state.path? o.var = some p' ∧ SamePlace ns ns' p p') := by
  intro ns ns'
  have hindexed : ns.Indexed := indexed_empty.defineEach nodes
  have hindexed' : ns'.Indexed := indexed_empty.defineEach nodes'
  have hdefs : ∀ d, d ∈ ns.defs ↔ d ∈ ns'.defs := by
    intro d
    rw [mem_defs_iff hdefined, mem_defs_iff hdefined', hperm.mem_iff]
  have hwords : ns.size < UInt32.size := by
    rw [size_of_accepted hdefined]
    exact hsize
  have hwords' : ns'.size < UInt32.size := by
    rw [size_of_accepted hdefined', ← hperm.length_eq]
    exact hsize
  have hfree : ∀ d ∈ ns.defs, ∀ o ∈ d.node.occurrences, b.path? o.var = none :=
    fun d hd => hunbound d.node ((mem_defs_iff hdefined).mp hd).1
  have hfree' : ∀ d ∈ ns'.defs, ∀ o ∈ d.node.occurrences, b'.path? o.var = none :=
    fun d hd => hunbound' d.node (hperm.mem_iff.mpr ((mem_defs_iff hdefined').mp hd).1)
  have hagree : (ns.attachAll b).result = .ok () ↔ (ns'.attachAll b').result = .ok () :=
    ⟨result_attachAll_of_same_defs hindexed' hwords hwords' hdefs hfree',
      result_attachAll_of_same_defs hindexed hwords' hwords (fun d => (hdefs d).symm) hfree⟩
  refine ⟨hagree, ?_⟩
  intro hok node hnode o ho
  -- Only functions have occurrences, and a function among the nodes is a definition in both.
  obtain ⟨d, hd, rfl⟩ : ∃ d ∈ ns.defs, d.node = node := by
    rw [← map_node_of_accepted hdefined] at hnode
    exact List.mem_map.mp hnode
  have hkind : d.node.kind = .lambda := by
    rcases Expr.isSome_functionName?_iff.mp (by rw [hindexed.named d hd]; rfl) with hkind | hkind
    · exact hkind
    · rw [Expr.occurrences_of_primitive hkind] at ho
      cases ho
  obtain ⟨p, hp, hfinal⟩ := path?_of_attachAll_ok hok hd hkind ho
  obtain ⟨p', hp', hfinal'⟩ :=
    path?_of_attachAll_ok (hagree.mp hok) ((hdefs d).mp hd) hkind ho
  obtain ⟨q, hq, hplace⟩ :=
    exists_samePlace_of_path? hindexed' hwords hwords' (fun d => (hdefs d).mp) hp
  obtain rfl : p' = q := Option.some.inj (hp'.symm.trans hq)
  exact ⟨p, p', hfinal, hfinal', hplace⟩

theorem attachAll_of_perm_sampleNodes :
    ((empty.defineEach (sampleNodes.take 2).reverse).attachAll .empty).result = .ok () ∧
      ∀ node ∈ sampleNodes.take 2, ∀ o ∈ node.occurrences, ∃ p p',
        ((empty.defineEach (sampleNodes.take 2)).attachAll .empty).state.path? o.var = some p ∧
          ((empty.defineEach (sampleNodes.take 2).reverse).attachAll .empty).state.path? o.var =
            some p' ∧
          SamePlace (empty.defineEach (sampleNodes.take 2))
            (empty.defineEach (sampleNodes.take 2).reverse) p p' := by
  have hok : ((empty.defineEach (sampleNodes.take 2)).attachAll .empty).result = .ok () := by rfl
  obtain ⟨hagree, hplaces⟩ :=
    attachAll_of_perm (sampleNodes.take 2) (sampleNodes.take 2).reverse .empty .empty
      (List.reverse_perm _).symm (by decide) (by decide) (by decide) (fun _ _ _ _ => rfl)
      (fun _ _ _ _ => rfl)
  exact ⟨hagree.mp hok, hplaces hok⟩

end ExprGraph.Namespace
