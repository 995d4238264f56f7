/-
  ExprGraph.Proofs.Namespace.Slots

  Names and slots of a namespace determine each other.

  In every namespace that definitions lead to, each definition stands under the name of its node and
  no name stands twice (`Namespace.Indexed`).  The ways to read a namespace, by name, by slot, as an
  environment or as a list, then agree, and a definition is refused exactly for its kind or for a
  name that is taken.  The definitions are the nodes accepted so far, in the order of the calls, and
  each has the slot that its call answered (`Namespace.defineEach_bijection`).
-/

import Mathlib.Data.List.Nodup
import ExprGraph.Proofs.Namespace.Definitions

namespace ExprGraph

/-- Functions and primitives have names, and nothing else has. -/
theorem Expr.isSome_functionName?_iff {e : Expr} :
    e.functionName?.isSome = true ↔ e.kind = .lambda ∨ e.kind = .primitive := by
  cases e <;> simp [functionName?]

theorem Expr.functionName?_eq_none_iff {e : Expr} :
    e.functionName? = none ↔ e.kind ≠ .lambda ∧ e.kind ≠ .primitive := by
  cases e <;> simp [functionName?]

namespace Namespace

/-- Every definition stands under the name of its node, and no name stands twice. -/
structure Indexed (ns : Namespace) : Prop where
  named : ∀ d ∈ ns.defs, d.node.functionName? = some d.name
  distinct : (ns.defs.map (·.name)).Nodup

/-! ## Definitions keep names apart -/

theorem slotOf?_eq_none_iff {ns : Namespace} {name : String} :
    ns.slotOf? name = none ↔ ∀ d ∈ ns.defs, d.name ≠ name := by
  simp [slotOf?]

/-- A definition is found under its name. -/
theorem exists_path? {ns : Namespace} {d : Definition} (hd : d ∈ ns.defs) :
    ∃ slot, ns.path? d.name = some (.global slot) := by
  cases hslot : ns.slotOf? d.name with
  | none => exact absurd rfl (slotOf?_eq_none_iff.mp hslot d hd)
  | some i => exact ⟨UInt32.ofNat i, by rw [path?, hslot]; rfl⟩

/-- What has no position has no node either. -/
theorem lookup?_eq_none_iff {ns : Namespace} {name : String} :
    ns.lookup? name = none ↔ ns.slotOf? name = none := by
  simp [lookup?, slotOf?]

theorem indexed_empty : empty.Indexed := ⟨by simp [empty], by simp [empty]⟩

namespace Indexed

variable {ns : Namespace}

/-- A definition that is refused changes nothing, and one that is accepted has a new name. -/
theorem define (h : ns.Indexed) (node : Expr) : (ns.define node).state.Indexed := by
  obtain ⟨e, hfail⟩ | ⟨name, hname, hslot, happend⟩ := ns.define_refused_or_appended node
  · rw [hfail]
    exact h
  · rw [happend]
    have hnew : ∀ d ∈ ns.defs, d.name ≠ name := slotOf?_eq_none_iff.mp hslot
    constructor
    · intro d hd
      rcases List.mem_append.mp hd with hd | hd
      · exact h.named d hd
      · rw [List.mem_singleton.mp hd]
        exact hname
    · show ((ns.defs ++ [Definition.mk name node]).map (·.name)).Nodup
      rw [List.map_append, List.nodup_append]
      refine ⟨h.distinct, List.nodup_singleton name, ?_⟩
      intro earlier hearlier later hlater
      obtain ⟨d, hd, rfl⟩ := List.mem_map.mp hearlier
      rw [List.mem_singleton.mp hlater]
      exact hnew d hd

theorem defineEach (h : ns.Indexed) (nodes : List Expr) : (ns.defineEach nodes).Indexed := by
  induction nodes generalizing ns with
  | nil => exact h
  | cons node nodes ih => exact ih (h.define node)

/-! ## Reading by name and by slot -/

theorem nodup (h : ns.Indexed) : ns.defs.Nodup := List.Nodup.of_map _ h.distinct

theorem eq_of_name_eq (h : ns.Indexed) {d d' : Definition} (hd : d ∈ ns.defs) (hd' : d' ∈ ns.defs)
    (hname : d.name = d'.name) : d = d' :=
  List.inj_on_of_nodup_map h.distinct hd hd' hname

/-- The position of a name is the only one at which the name stands. -/
theorem slotOf?_eq_some_iff (h : ns.Indexed) {name : String} {i : Nat} :
    ns.slotOf? name = some i ↔ ∃ node, ns.defs[i]? = some ⟨name, node⟩ := by
  rw [slotOf?, List.findIdx?_eq_some_iff_getElem]
  constructor
  · rintro ⟨hlt, hname, -⟩
    refine ⟨ns.defs[i].node, ?_⟩
    rw [List.getElem?_eq_getElem hlt, ← beq_iff_eq.mp hname]
  · rintro ⟨node, hnode⟩
    obtain ⟨hlt, hget⟩ := List.getElem?_eq_some_iff.mp hnode
    refine ⟨hlt, by simp [hget], ?_⟩
    intro j hj hsame
    -- An earlier definition of the same name would be the one at `i`, and names do not repeat.
    have hjlt : j < ns.defs.length := Nat.lt_trans hj hlt
    have hrepeated : ns.defs[j] = ns.defs[i] := by
      apply h.eq_of_name_eq (List.getElem_mem hjlt) (List.getElem_mem hlt)
      rw [hget]
      exact beq_iff_eq.mp hsame
    have hij : j = i := h.nodup.getElem_inj_iff.mp hrepeated
    omega

theorem lookup?_eq_some_iff (h : ns.Indexed) {name : String} {node : Expr} :
    ns.lookup? name = some node ↔ ⟨name, node⟩ ∈ ns.defs := by
  have hfound : ∀ d, ns.defs.find? (fun d => d.name == name) = some d → d.name = name := by
    intro d hfind
    have hsatisfied := List.find?_some hfind
    exact beq_iff_eq.mp hsatisfied
  rw [lookup?, Option.map_eq_some_iff]
  constructor
  · rintro ⟨d, hfind, rfl⟩
    obtain rfl := hfound d hfind
    exact List.mem_of_find?_eq_some hfind
  · intro hmem
    obtain ⟨d, hfind⟩ : ∃ d, ns.defs.find? (fun d => d.name == name) = some d := by
      refine Option.isSome_iff_exists.mp (List.find?_isSome.mpr ⟨_, hmem, ?_⟩)
      exact beq_self_eq_true name
    have hsame : d = ⟨name, node⟩ :=
      h.eq_of_name_eq (List.mem_of_find?_eq_some hfind) hmem (hfound d hfind)
    exact ⟨d, hfind, by rw [hsame]⟩

/-- The path of a name leads to the slot in which the name stands, and no other path does. -/
theorem path?_eq_some_iff (h : ns.Indexed) (hsize : ns.size < UInt32.size) {name : String}
    {slot : UInt32} :
    ns.path? name = some (.global slot) ↔ ∃ node, ns.get? slot = some ⟨name, node⟩ := by
  have hword : ∀ i node, ns.defs[i]? = some (Definition.mk name node) →
      (UInt32.ofNat i).toNat = i := by
    intro i node hi
    have hlt : i < ns.defs.length := (List.getElem?_eq_some_iff.mp hi).1
    exact UInt32.toNat_ofNat_of_lt' (Nat.lt_trans hlt hsize)
  rw [path?, Option.map_eq_some_iff]
  constructor
  · rintro ⟨i, hi, hslot⟩
    obtain ⟨node, hnode⟩ := h.slotOf?_eq_some_iff.mp hi
    refine ⟨node, ?_⟩
    rw [← BindingPath.global.inj hslot, get?, hword i node hnode]
    exact hnode
  · rintro ⟨node, hnode⟩
    refine ⟨slot.toNat, h.slotOf?_eq_some_iff.mpr ⟨node, hnode⟩, ?_⟩
    rw [UInt32.ofNat_toNat]

/-- A definition stands in one slot. -/
theorem exists_slot (hsize : ns.size < UInt32.size) {d : Definition} (hd : d ∈ ns.defs) :
    ∃ slot, ns.get? slot = some d := by
  obtain ⟨i, hlt, hget⟩ := List.mem_iff_getElem.mp hd
  refine ⟨UInt32.ofNat i, ?_⟩
  rw [get?, UInt32.toNat_ofNat_of_lt' (Nat.lt_trans hlt hsize), List.getElem?_eq_getElem hlt, hget]

/-- A definition stands in no other slot. -/
theorem slot_unique (h : ns.Indexed) {slot slot' : UInt32} {d : Definition}
    (hd : ns.get? slot = some d) (hd' : ns.get? slot' = some d) : slot = slot' := by
  obtain ⟨hlt, hget⟩ := List.getElem?_eq_some_iff.mp hd
  obtain ⟨hlt', hget'⟩ := List.getElem?_eq_some_iff.mp hd'
  have hsame : slot.toNat = slot'.toNat := h.nodup.getElem_inj_iff.mp (hget.trans hget'.symm)
  exact UInt32.toNat_inj.mp hsame

/-! ## Refusals -/

/-- The slot reported for a name is the one in which the name stands. -/
theorem exists_slotOf?_iff (h : ns.Indexed) (hsize : ns.size < UInt32.size) {name : String}
    {slot : UInt32} :
    (∃ i, ns.slotOf? name = some i ∧ UInt32.ofNat i = slot) ↔
      ∃ earlier, ns.get? slot = some ⟨name, earlier⟩ := by
  rw [← h.path?_eq_some_iff hsize, path?, Option.map_eq_some_iff]
  simp only [BindingPath.global.injEq]

/-- A definition is refused for its kind, or for a name that another definition has, which is
    reported with its slot. -/
theorem define_eq_error_iff (h : ns.Indexed) (hsize : ns.size < UInt32.size) {node : Expr}
    {e : ResolveError} :
    (ns.define node).result = .error e ↔
      (node.kind ≠ .lambda ∧ node.kind ≠ .primitive ∧ e = .notCallable node.kind) ∨
        ∃ name slot earlier, node.functionName? = some name ∧
          ns.get? slot = some ⟨name, earlier⟩ ∧ e = .duplicateDefinition name slot := by
  obtain ⟨hname, hfail⟩ | ⟨name, i, hname, hi, hfail⟩ | ⟨name, hname, hnone, happend⟩ :=
    ns.define_cases node
  · obtain ⟨hlambda, hprim⟩ := Expr.functionName?_eq_none_iff.mp hname
    rw [hfail]
    constructor
    · rintro ⟨rfl⟩
      exact .inl ⟨hlambda, hprim, rfl⟩
    · rintro (⟨-, -, rfl⟩ | ⟨name, slot, earlier, hsome, -⟩)
      · rfl
      · rw [hname] at hsome
        cases hsome
  · rw [hfail]
    constructor
    · rintro ⟨rfl⟩
      obtain ⟨earlier, hget⟩ := (h.exists_slotOf?_iff hsize).mp ⟨i, hi, rfl⟩
      exact .inr ⟨name, UInt32.ofNat i, earlier, hname, hget, rfl⟩
    · rintro (⟨hlambda, hprim, -⟩ | ⟨name', slot, earlier, hname', hget, rfl⟩)
      · rw [Expr.functionName?_eq_none_iff.mpr ⟨hlambda, hprim⟩] at hname
        cases hname
      · obtain rfl : name' = name := Option.some.inj (hname'.symm.trans hname)
        obtain ⟨j, hj, rfl⟩ := (h.exists_slotOf?_iff hsize).mpr ⟨earlier, hget⟩
        obtain rfl : j = i := Option.some.inj (hj.symm.trans hi)
        rfl
  · rw [happend]
    constructor
    · intro hok
      cases hok
    · rintro (⟨hlambda, hprim, -⟩ | ⟨name', slot, earlier, hname', hget, -⟩)
      · rw [Expr.functionName?_eq_none_iff.mpr ⟨hlambda, hprim⟩] at hname
        cases hname
      · obtain rfl : name' = name := Option.some.inj (hname'.symm.trans hname)
        obtain ⟨j, hj, -⟩ := (h.exists_slotOf?_iff hsize).mpr ⟨earlier, hget⟩
        rw [hnone] at hj
        cases hj

end Indexed

/-! ## The history of a namespace -/

/-- What the definitions of nodes, one after the other, answer. -/
def defineResults (ns : Namespace) : List Expr → List (Except ResolveError UInt32)
  | [] => []
  | node :: nodes => (ns.define node).result :: (ns.define node).state.defineResults nodes

/-- The nodes that are not refused, in the order of the calls, with the slots answered. -/
def accepted (ns : Namespace) (nodes : List Expr) : List (Expr × UInt32) :=
  (nodes.zip (ns.defineResults nodes)).filterMap fun (node, result) =>
    result.toOption.map fun slot => (node, slot)

theorem accepted_cons_of_refused {ns : Namespace} {node : Expr} {e : ResolveError}
    (h : ns.define node = .fail e ns) (nodes : List Expr) :
    ns.accepted (node :: nodes) = ns.accepted nodes := by
  rw [accepted, defineResults, List.zip_cons_cons, h]
  rfl

theorem accepted_cons_of_ok {ns : Namespace} {node : Expr} {slot : UInt32}
    (h : (ns.define node).result = .ok slot) (nodes : List Expr) :
    ns.accepted (node :: nodes) = (node, slot) :: (ns.define node).state.accepted nodes := by
  rw [accepted, defineResults, List.zip_cons_cons, h]
  rfl

/-- The nodes accepted are added behind those that were there. -/
theorem map_node_defineEach (ns : Namespace) (nodes : List Expr) :
    (ns.defineEach nodes).defs.map (·.node) =
      ns.defs.map (·.node) ++ (ns.accepted nodes).map (·.1) := by
  induction nodes generalizing ns with
  | nil => simp [accepted, defineResults]
  | cons node nodes ih =>
    rw [defineEach_cons, ih]
    obtain ⟨e, hfail⟩ | ⟨name, -, -, happend⟩ := ns.define_refused_or_appended node
    · rw [accepted_cons_of_refused hfail, hfail]
      rfl
    · have hok : (ns.define node).result = .ok (UInt32.ofNat ns.size) := by rw [happend]
      rw [accepted_cons_of_ok hok, happend]
      simp

/-- The nodes accepted get the slots that follow, one after the other. -/
theorem slot_of_accepted {ns : Namespace} {nodes : List Expr} {k : Nat} {node : Expr}
    {slot : UInt32} (h : (ns.accepted nodes)[k]? = some (node, slot)) :
    slot = UInt32.ofNat (ns.size + k) := by
  induction nodes generalizing ns k with
  | nil => simp [accepted] at h
  | cons first nodes ih =>
    obtain ⟨e, hfail⟩ | ⟨name, -, -, happend⟩ := ns.define_refused_or_appended first
    · rw [accepted_cons_of_refused hfail] at h
      exact ih h
    · have hok : (ns.define first).result = .ok (UInt32.ofNat ns.size) := by rw [happend]
      have hgrown : (ns.define first).state.size = ns.size + 1 := by
        rw [happend]
        simp [size]
      rw [accepted_cons_of_ok hok] at h
      cases k with
      | zero =>
        rw [List.getElem?_cons_zero, Option.some.injEq, Prod.mk.injEq] at h
        exact h.2.symm
      | succ k =>
        have hslot := ih h
        rw [hgrown] at hslot
        rw [hslot]
        congr 1
        omega

/-- If no node is refused, all of them are accepted, in their order. -/
theorem map_fst_accepted {ns : Namespace} {nodes : List Expr}
    (h : ∀ result ∈ ns.defineResults nodes, result.isOk = true) :
    (ns.accepted nodes).map (·.1) = nodes := by
  induction nodes generalizing ns with
  | nil => rfl
  | cons node nodes ih =>
    rw [defineResults, List.forall_mem_cons] at h
    obtain ⟨hfirst, hrest⟩ := h
    cases hresult : (ns.define node).result with
    | error e =>
      rw [hresult] at hfirst
      cases hfirst
    | ok slot => rw [accepted_cons_of_ok hresult, List.map_cons, ih hrest]

/-- If no node is refused, the definitions are of the nodes, in their order. -/
theorem map_node_of_accepted {nodes : List Expr}
    (h : ∀ result ∈ empty.defineResults nodes, result.isOk = true) :
    (empty.defineEach nodes).defs.map (·.node) = nodes :=
  (empty.map_node_defineEach nodes).trans (map_fst_accepted h)

theorem size_of_accepted {nodes : List Expr}
    (h : ∀ result ∈ empty.defineResults nodes, result.isOk = true) :
    (empty.defineEach nodes).size = nodes.length := by
  have hlengths := congrArg List.length (map_node_of_accepted h)
  rw [List.length_map] at hlengths
  exact hlengths

/-- If no node is refused, the definitions are the nodes under their names. -/
theorem mem_defs_iff {nodes : List Expr}
    (h : ∀ result ∈ empty.defineResults nodes, result.isOk = true) {d : Definition} :
    d ∈ (empty.defineEach nodes).defs ↔ d.node ∈ nodes ∧ d.node.functionName? = some d.name := by
  have hindexed : (empty.defineEach nodes).Indexed := indexed_empty.defineEach nodes
  have hnodes := map_node_of_accepted h
  constructor
  · intro hd
    refine ⟨?_, hindexed.named d hd⟩
    rw [← hnodes]
    exact List.mem_map_of_mem hd
  · rintro ⟨hnode, hname⟩
    rw [← hnodes] at hnode
    obtain ⟨d', hd', hsame⟩ := List.mem_map.mp hnode
    have hname' := hindexed.named d' hd'
    rw [hsame, hname] at hname'
    -- The definition of the node has the name of the node, so it is the one asked for.
    obtain rfl : d = d' := by
      obtain ⟨name, node⟩ := d
      obtain ⟨name', node'⟩ := d'
      obtain rfl : node' = node := hsame
      obtain rfl : name = name' := Option.some.inj hname'
      rfl
    exact hd'

/-- In every namespace that definitions lead to, the definitions are the nodes accepted, in order
    and in the slots answered; names and slots determine each other in every way of reading them; a
    definition fails exactly for its kind or for its name, and then changes nothing; and none
    changes an earlier one. -/
theorem defineEach_bijection (nodes : List Expr)
    (hsize : (empty.defineEach nodes).size < UInt32.size) :
    let ns := empty.defineEach nodes
    (ns.defs.map (·.node) = (empty.accepted nodes).map (·.1) ∧
      ∀ (k : Nat) (node : Expr) (slot : UInt32),
        (empty.accepted nodes)[k]? = some (node, slot) → slot.toNat = k) ∧
    ((ns.defs.map (·.name)).Nodup ∧
      ∀ d ∈ ns.defs, (d.node.kind = .lambda ∨ d.node.kind = .primitive) ∧
        d.node.functionName? = some d.name) ∧
    (∀ (name : String) (slot : UInt32),
      (ns.env.lookup? name = some (.global slot) ↔ ∃ node, ns.get? slot = some ⟨name, node⟩) ∧
        ∀ node, ns.get? slot = some ⟨name, node⟩ → ns.lookup? name = some node) ∧
    (∀ (node : Expr) (e : ResolveError),
      ((ns.define node).result = .error e ↔
        (node.kind ≠ .lambda ∧ node.kind ≠ .primitive ∧ e = .notCallable node.kind) ∨
          ∃ name slot earlier, node.functionName? = some name ∧
            ns.get? slot = some ⟨name, earlier⟩ ∧ e = .duplicateDefinition name slot) ∧
        ((ns.define node).result = .error e → ns.define node = .fail e ns)) ∧
    ∀ (later : List Expr) (slot : UInt32) (d : Definition), ns.get? slot = some d →
      (ns.defineEach later).get? slot = some d ∧
        (ns.defineEach later).env.lookup? d.name = some (.global slot) := by
  intro ns
  have hindexed : ns.Indexed := indexed_empty.defineEach nodes
  have hnodes : ns.defs.map (·.node) = (empty.accepted nodes).map (·.1) :=
    empty.map_node_defineEach nodes
  refine ⟨⟨hnodes, ?_⟩, ⟨hindexed.distinct, ?_⟩, ?_, ?_, ?_⟩
  · intro k node slot hk
    -- As many nodes are accepted as there are definitions, so their slots are words.
    have hcount : (empty.accepted nodes).length = ns.size := by
      have hlengths := congrArg List.length hnodes
      rw [List.length_map, List.length_map] at hlengths
      exact hlengths.symm
    have hlt : k < ns.size := by
      rw [← hcount]
      exact (List.getElem?_eq_some_iff.mp hk).1
    rw [slot_of_accepted hk, show empty.size + k = k from Nat.zero_add k]
    exact UInt32.toNat_ofNat_of_lt' (Nat.lt_trans hlt hsize)
  · intro d hd
    have hnamed := hindexed.named d hd
    refine ⟨Expr.isSome_functionName?_iff.mp ?_, hnamed⟩
    rw [hnamed]
    rfl
  · intro name slot
    refine ⟨hindexed.path?_eq_some_iff hsize, fun node hnode => ?_⟩
    exact hindexed.lookup?_eq_some_iff.mpr (List.mem_of_getElem? hnode)
  · intro node e
    refine ⟨hindexed.define_eq_error_iff hsize, fun herror => ?_⟩
    obtain ⟨e', hfail⟩ | ⟨name, -, -, happend⟩ := ns.define_refused_or_appended node
    · rw [hfail] at herror ⊢
      rw [Except.error.inj herror]
    · rw [happend] at herror
      cases herror
  · intro later slot d hd
    have hpath : ns.path? d.name = some (.global slot) :=
      (hindexed.path?_eq_some_iff hsize).mpr ⟨d.node, hd⟩
    exact ⟨get?_defineEach hd later, path?_defineEach hpath later⟩

/-- Two functions, with a variable and a repetition between them. -/
def sampleDefinitions : List Expr :=
  let x : Variable := ⟨0, "x", .int, none⟩
  let identity : Expr := .lambda "id" (.fn (some .int) [.int]) "int(int)" [x] (.var x)
  let zero : Expr := .lambda "zero" (.fn (some .int) []) "int()" [] (.const ⟨.int, (0 : Int64)⟩)
  [identity, .var x, identity, zero]

theorem defineEach_bijection_sampleDefinitions :
    (empty.defineEach sampleDefinitions).size < UInt32.size ∧
      ((empty.defineEach sampleDefinitions).defs.map (·.name)).Nodup ∧
      ((empty.defineEach sampleDefinitions).env.lookup? "zero" = some (.global 1) ↔
        ∃ node, (empty.defineEach sampleDefinitions).get? 1 = some ⟨"zero", node⟩) := by
  have hsize : (empty.defineEach sampleDefinitions).size < UInt32.size := by decide
  obtain ⟨-, ⟨hnames, -⟩, hslots, -⟩ := defineEach_bijection sampleDefinitions hsize
  exact ⟨hsize, hnames, (hslots "zero" 1).1⟩

end Namespace

end ExprGraph
