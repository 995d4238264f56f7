/-
  ExprGraph.Proofs.Namespace.Registration

  The standard primitives in a namespace that has definitions of its own.

  Every entry of the table can be built, so it only matters which names are taken.  Entries with new
  names are appended one after the other (`Namespace.defineBuiltins_append_of_new`), and the first
  entry whose name is taken ends the registration, which keeps what it has appended
  (`Namespace.defineBuiltins_cons_of_taken`).  Either way the first name of the table is taken
  afterwards and keeps its slot, so that every later registration ends at once and changes nothing
  (`Namespace.registerBuiltins_up_to_clash`).
-/

import Mathlib.Data.List.Forall2
import ExprGraph.Namespace.Builtins
import ExprGraph.Proofs.Attach.Flat
import ExprGraph.Proofs.Expr.Build
import ExprGraph.Proofs.Namespace.Slots

namespace ExprGraph

/-! ## The table -/

namespace Builtin

variable {d : Builtin} {p : Primitive}

/-- The names that are taken up are those of the table. -/
theorem names_eq_map : names = all.map (·.name) := rfl

theorem nodup_names : names.Nodup := by decide

/-- What is built from an entry has the name of the entry. -/
theorem name_of_build (h : d.build = .ok p) : p.name = d.name := by
  rw [build] at h
  cases hbuilt : Primitive.build d.name d.function with
  | error fault =>
    rw [hbuilt] at h
    cases h
  | ok plain =>
    obtain ⟨-, -, result, -, rfl⟩ := Primitive.buildAs_eq_ok_iff.mp hbuilt
    rw [hbuilt] at h
    cases h
    rfl

theorem functionName?_of_build (h : d.build = .ok p) :
    (Expr.prim p).functionName? = some d.name :=
  congrArg some (name_of_build h)

/-- Every entry of the table can be built. -/
theorem exists_build (h : d ∈ all) : ∃ p, d.build = .ok p := by
  have hall : ∀ d ∈ all, d.name ≠ "" ∧ d.function.type.descr.result?.isSome = true := by decide
  obtain ⟨hname, hresult⟩ := hall d h
  obtain ⟨result, hresult⟩ := Option.isSome_iff_exists.mp hresult
  have hbuilt : Primitive.build d.name d.function =
      .ok { name := d.name, type := d.function.type.descr, result, function := d.function } :=
    Primitive.buildAs_eq_ok_iff.mpr ⟨hname, rfl, result, hresult, rfl⟩
  exact ⟨_, by rw [build, hbuilt]; rfl⟩

/-- Entries and the primitives built from them. -/
def Built (ds : List Builtin) (ps : List Primitive) : Prop :=
  List.Forall₂ (fun d p => d.build = .ok p) ds ps

theorem exists_built {ds : List Builtin} (h : ds ⊆ all) : ∃ ps, Built ds ps := by
  induction ds with
  | nil => exact ⟨[], .nil⟩
  | cons d ds ih =>
    obtain ⟨hd, hds⟩ := List.cons_subset.mp h
    obtain ⟨p, hp⟩ := exists_build hd
    obtain ⟨ps, hps⟩ := ih hds
    exact ⟨p :: ps, .cons hp hps⟩

end Builtin

namespace Namespace

open Builtin (Built)

variable {ns : Namespace} {d : Builtin} {ds rest : List Builtin} {p : Primitive}
  {ps : List Primitive} {name : String} {slot : UInt32}

/-! ## One entry after the other -/

/-- A namespace with primitives behind its definitions. -/
def appendPrimitives (ns : Namespace) (ps : List Primitive) : Namespace :=
  ⟨ns.defs ++ ps.map fun p => ⟨p.name, .prim p⟩⟩

@[simp] theorem appendPrimitives_nil (ns : Namespace) : ns.appendPrimitives [] = ns := by
  simp [appendPrimitives]

theorem appendPrimitives_cons (ns : Namespace) (p : Primitive) (ps : List Primitive) :
    ns.appendPrimitives (p :: ps) = (ns.appendPrimitives [p]).appendPrimitives ps := by
  simp [appendPrimitives]

@[simp] theorem size_appendPrimitives (ns : Namespace) (ps : List Primitive) :
    (ns.appendPrimitives ps).size = ns.size + ps.length := by
  simp [appendPrimitives, size]

theorem prefix_appendPrimitives (ns : Namespace) (ps : List Primitive) :
    ns.defs <+: (ns.appendPrimitives ps).defs := List.prefix_append ns.defs _

/-- One more primitive takes up one more name. -/
theorem slotOf?_appendPrimitives_singleton (hnew : ns.slotOf? name = none) (hne : p.name ≠ name) :
    (ns.appendPrimitives [p]).slotOf? name = none := by
  rw [slotOf?_eq_none_iff] at hnew ⊢
  intro e he
  rcases List.mem_append.mp he with he | he
  · exact hnew e he
  · rw [List.mem_singleton.mp he]
    exact hne

/-- An entry whose name is taken ends the registration, and nothing changes. -/
theorem defineBuiltins_cons_of_taken {previous : Nat} (hp : d.build = .ok p)
    (htaken : ns.slotOf? d.name = some previous) (ds : List Builtin) :
    ns.defineBuiltins (d :: ds) =
      .fail (.duplicateDefinition d.name (UInt32.ofNat previous)) ns := by
  rw [defineBuiltins, hp, definePrimitive,
    define_of_taken (Builtin.functionName?_of_build hp) htaken]
  rfl

/-- An entry with a new name is appended, and the registration goes on. -/
theorem ending_defineBuiltins_cons_of_new (hp : d.build = .ok p) (hnew : ns.slotOf? d.name = none)
    (ds : List Builtin) :
    (ns.defineBuiltins (d :: ds)).ending = ((ns.appendPrimitives [p]).defineBuiltins ds).ending := by
  have happended : ns.appendPrimitives [p] = ⟨ns.defs ++ [⟨d.name, .prim p⟩]⟩ := by
    rw [appendPrimitives, List.map_singleton, Builtin.name_of_build hp]
  rw [defineBuiltins, hp, definePrimitive,
    define_of_new (Builtin.functionName?_of_build hp) hnew, Outcome.ending_andThen, happended]
  rfl

/-- Entries with new and distinct names are appended in their order, and the registration goes on
    with the entries after them. -/
theorem defineBuiltins_append_of_new (hbuilt : Built ds ps) (hdistinct : (ds.map (·.name)).Nodup)
    (hnew : ∀ d ∈ ds, ns.slotOf? d.name = none) (rest : List Builtin) :
    (ns.defineBuiltins (ds ++ rest)).ending =
      ((ns.appendPrimitives ps).defineBuiltins rest).ending := by
  induction hbuilt generalizing ns with
  | nil => simp
  | @cons d p ds ps hp hps ih =>
    obtain ⟨hd, hds⟩ := List.forall_mem_cons.mp hnew
    rw [List.map_cons, List.nodup_cons] at hdistinct
    obtain ⟨hfresh, hdistinct⟩ := hdistinct
    -- The names still to come differ from the one just taken.
    have hlater : ∀ e ∈ ds, (ns.appendPrimitives [p]).slotOf? e.name = none := by
      intro e he
      refine slotOf?_appendPrimitives_singleton (hds e he) ?_
      rw [Builtin.name_of_build hp]
      intro hsame
      exact hfresh (hsame ▸ List.mem_map_of_mem he)
    rw [List.cons_append, ending_defineBuiltins_cons_of_new hp hd, ih hdistinct hlater,
      ← appendPrimitives_cons]

/-- As long as the names of the table are new, its entries are appended. -/
theorem ending_registerBuiltins_of_new (hall : Builtin.all = ds ++ rest)
    (hnew : ∀ d ∈ ds, ns.slotOf? d.name = none) :
    ∃ ps, Built ds ps ∧
      ns.registerBuiltins.ending = ((ns.appendPrimitives ps).defineBuiltins rest).ending := by
  have hdistinct : (ds.map (·.name)).Nodup := by
    have hnames := Builtin.nodup_names
    rw [Builtin.names_eq_map, hall, List.map_append] at hnames
    exact hnames.of_append_left
  obtain ⟨ps, hps⟩ : ∃ ps, Built ds ps := by
    refine Builtin.exists_built ?_
    rw [hall]
    exact List.subset_append_left ds rest
  refine ⟨ps, hps, ?_⟩
  rw [registerBuiltins, hall]
  exact defineBuiltins_append_of_new hps hdistinct hnew rest

/-- From one namespace to another, the first `k` standard primitives are appended in their order,
    under the names of the table and in the slots that follow, and nothing else changes. -/
structure AppendsBuiltins (ns later : Namespace) (k : Nat) : Prop where
  size : later.size = ns.size + k
  kept : ∀ slot d, ns.get? slot = some d → later.get? slot = some d
  appended : ∀ i < k, ∃ (d : Builtin) (p : Primitive) (slot : UInt32),
    Builtin.all[i]? = some d ∧ d.build = .ok p ∧ Builtin.names[i]? = some p.name ∧
      slot.toNat = ns.size + i ∧ later.get? slot = some ⟨p.name, .prim p⟩

theorem appendsBuiltins_appendPrimitives (hall : Builtin.all = ds ++ rest) (hbuilt : Built ds ps)
    (hroom : ns.size + ds.length ≤ UInt32.size) :
    ns.AppendsBuiltins (ns.appendPrimitives ps) ds.length := by
  obtain ⟨hlength, hbuilds⟩ := List.forall₂_iff_get.mp hbuilt
  refine ⟨by rw [size_appendPrimitives, hlength], ?_, ?_⟩
  · exact fun slot d => get?_of_prefix (ns.prefix_appendPrimitives ps)
  · intro i hi
    have hip : i < ps.length := hlength ▸ hi
    have hentry : Builtin.all[i]? = some ds[i] := by
      rw [hall, List.getElem?_append_left hi, List.getElem?_eq_getElem hi]
    have hbuild : ds[i].build = .ok ps[i] := hbuilds i hi hip
    have hslot : (UInt32.ofNat (ns.size + i)).toNat = ns.size + i := by
      apply UInt32.toNat_ofNat_of_lt'
      omega
    refine ⟨ds[i], ps[i], UInt32.ofNat (ns.size + i), hentry, hbuild, ?_, hslot, ?_⟩
    · rw [Builtin.names_eq_map, List.getElem?_map, hentry, Builtin.name_of_build hbuild]
      rfl
    · have hbehind : ns.defs.length ≤ ns.size + i := Nat.le_add_right _ _
      have hindex : ns.size + i - ns.defs.length = i := Nat.add_sub_cancel_left _ _
      rw [get?, hslot, appendPrimitives, List.getElem?_append_right hbehind, hindex,
        List.getElem?_map, List.getElem?_eq_getElem hip]
      rfl

/-- A registration that ends with primitives appended has appended the entries that they are built
    from. -/
theorem appendsBuiltins_of_ending {answer : Except ResolveError Unit}
    (hall : Builtin.all = ds ++ rest) (hbuilt : Built ds ps)
    (hroom : ns.size + ds.length ≤ UInt32.size)
    (hending : ns.registerBuiltins.ending = (answer, ns.appendPrimitives ps)) :
    ns.registerBuiltins.result = answer ∧
      ns.AppendsBuiltins ns.registerBuiltins.state ds.length := by
  have hstate : ns.registerBuiltins.state = ns.appendPrimitives ps := congrArg Prod.snd hending
  refine ⟨congrArg Prod.fst hending, ?_⟩
  rw [hstate]
  exact appendsBuiltins_appendPrimitives hall hbuilt hroom

/-! ## Registering again -/

/-- A change of a namespace: one definition, or the registration of the standard primitives. -/
inductive Change where
  | define (node : Expr)
  | registerBuiltins

/-- What a change makes of a namespace, also if it fails. -/
def change (ns : Namespace) : Change → Namespace
  | .define node => (ns.define node).state
  | .registerBuiltins => ns.registerBuiltins.state

/-- What changes, one after the other, make of a namespace. -/
def changeEach (ns : Namespace) (changes : List Change) : Namespace := changes.foldl change ns

/-- Registering is defining some nodes. -/
theorem exists_defineEach_defineBuiltins (ns : Namespace) (ds : List Builtin) :
    ∃ nodes, (ns.defineBuiltins ds).state = ns.defineEach nodes := by
  induction ds generalizing ns with
  | nil => exact ⟨[], rfl⟩
  | cons d ds ih =>
    obtain ⟨first, hfirst⟩ : ∃ nodes, (ns.definePrimitive d.build).state = ns.defineEach nodes := by
      cases d.build with
      | error fault => exact ⟨[], rfl⟩
      | ok p => exact ⟨[.prim p], rfl⟩
    rw [defineBuiltins]
    cases hresult : (ns.definePrimitive d.build).result with
    | error e =>
      rw [Outcome.andThen_of_error hresult]
      exact ⟨first, hfirst⟩
    | ok slot =>
      obtain ⟨more, hmore⟩ := ih (ns.definePrimitive d.build).state
      rw [Outcome.andThen_of_ok hresult]
      exact ⟨first ++ more, by rw [defineEach_append, ← hfirst, hmore]⟩

theorem exists_defineEach_changeEach (ns : Namespace) (changes : List Change) :
    ∃ nodes, ns.changeEach changes = ns.defineEach nodes := by
  induction changes generalizing ns with
  | nil => exact ⟨[], rfl⟩
  | cons c changes ih =>
    obtain ⟨first, hfirst⟩ : ∃ nodes, ns.change c = ns.defineEach nodes := by
      cases c with
      | define node => exact ⟨[node], rfl⟩
      | registerBuiltins => exact ns.exists_defineEach_defineBuiltins Builtin.all
    obtain ⟨more, hmore⟩ := ih (ns.change c)
    refine ⟨first ++ more, ?_⟩
    rw [defineEach_append, ← hfirst, ← hmore]
    rfl

/-- After a registration the name of its first entry is taken. -/
theorem exists_path?_defineBuiltins_cons (hp : d.build = .ok p) (ds : List Builtin) :
    ∃ slot, (ns.defineBuiltins (d :: ds)).state.path? d.name = some (.global slot) := by
  cases hslot : ns.slotOf? d.name with
  | some previous =>
    -- The name was taken before, and nothing has changed.
    rw [defineBuiltins_cons_of_taken hp hslot]
    exact ⟨UInt32.ofNat previous, by simp [Outcome.fail, path?, hslot]⟩
  | none =>
    have hstate : (ns.defineBuiltins (d :: ds)).state =
        ((ns.appendPrimitives [p]).defineBuiltins ds).state :=
      congrArg Prod.snd (ending_defineBuiltins_cons_of_new hp hslot ds)
    have hmem : (⟨d.name, .prim p⟩ : Definition) ∈ (ns.appendPrimitives [p]).defs := by
      simp [appendPrimitives, Builtin.name_of_build hp]
    obtain ⟨slot, hpath⟩ := exists_path? hmem
    obtain ⟨nodes, hnodes⟩ := (ns.appendPrimitives [p]).exists_defineEach_defineBuiltins ds
    exact ⟨slot, by rw [hstate, hnodes]; exact path?_defineEach hpath nodes⟩

/-- While the name of its first entry is taken, a registration fails and changes nothing. -/
theorem defineBuiltins_cons_of_path? (hp : d.build = .ok p)
    (hpath : ns.path? d.name = some (.global slot)) (ds : List Builtin) :
    ns.defineBuiltins (d :: ds) = .fail (.duplicateDefinition d.name slot) ns := by
  obtain ⟨previous, hprevious, hslot⟩ := Option.map_eq_some_iff.mp hpath
  rw [defineBuiltins_cons_of_taken hp hprevious, BindingPath.global.inj hslot]

/-! ## The registration of all standard primitives -/

/-- The names of the table are all new, or a first one is taken. -/
theorem new_or_clash (ns : Namespace) :
    (∀ name ∈ Builtin.names, ns.slotOf? name = none) ∨
      ∃ (k : Nat) (name : String) (slot : UInt32), Builtin.names[k]? = some name ∧
        ns.path? name = some (.global slot) ∧
        ∀ other ∈ Builtin.names.take k, ns.slotOf? other = none := by
  cases hfirst : Builtin.names.find? fun name => (ns.slotOf? name).isSome with
  | none => exact .inl (by simpa using hfirst)
  | some name =>
    obtain ⟨htaken, before, rest, hsplit, hbefore⟩ := List.find?_eq_some_iff_append.mp hfirst
    obtain ⟨previous, hprevious⟩ := Option.isSome_iff_exists.mp htaken
    refine .inr ⟨before.length, name, UInt32.ofNat previous, ?_, ?_, ?_⟩
    · rw [hsplit, List.getElem?_append_right (Nat.le_refl _), Nat.sub_self]
      rfl
    · rw [path?, hprevious]
      rfl
    · rw [hsplit, List.take_left]
      exact fun other hother => by simpa using hbefore other hother

/-- If all names of the table are new, a registration succeeds and appends all its primitives. -/
theorem registerBuiltins_of_new (hroom : ns.size + Builtin.names.length ≤ UInt32.size)
    (hnew : ∀ name ∈ Builtin.names, ns.slotOf? name = none) :
    ns.registerBuiltins.result = .ok () ∧
      ns.AppendsBuiltins ns.registerBuiltins.state Builtin.names.length := by
  have hall : Builtin.all = Builtin.all ++ [] := (List.append_nil _).symm
  obtain ⟨ps, hps, hending⟩ := ending_registerBuiltins_of_new hall fun d hd =>
    hnew d.name (List.mem_map_of_mem hd)
  exact appendsBuiltins_of_ending hall hps hroom hending

/-- A registration ends at the first name of the table that is taken, reports it with the slot in
    which it stands, and has appended the primitives before it. -/
theorem registerBuiltins_of_clash (hroom : ns.size + Builtin.names.length ≤ UInt32.size) {k : Nat}
    (hname : Builtin.names[k]? = some name) (hpath : ns.path? name = some (.global slot))
    (hnew : ∀ other ∈ Builtin.names.take k, ns.slotOf? other = none) :
    ns.registerBuiltins.result = .error (.duplicateDefinition name slot) ∧
      ns.AppendsBuiltins ns.registerBuiltins.state k := by
  rw [Builtin.names_eq_map, List.getElem?_map, Option.map_eq_some_iff] at hname
  obtain ⟨d, hd, rfl⟩ := hname
  obtain ⟨hk, hget⟩ := List.getElem?_eq_some_iff.mp hd
  have hall : Builtin.all = Builtin.all.take k ++ d :: Builtin.all.drop (k + 1) := by
    rw [← hget, ← List.drop_eq_getElem_cons hk, List.take_append_drop]
  have htake : Builtin.names.take k = (Builtin.all.take k).map (·.name) := by
    rw [Builtin.names_eq_map, List.map_take]
  obtain ⟨ps, hps, hending⟩ := ending_registerBuiltins_of_new hall fun d hd =>
    hnew d.name (htake ▸ List.mem_map_of_mem hd)
  -- The entry that comes next finds its name where it was before the registration.
  obtain ⟨p, hp⟩ := Builtin.exists_build (List.mem_of_getElem? hd)
  have hstill : (ns.appendPrimitives ps).path? d.name = some (.global slot) :=
    path?_of_prefix (ns.prefix_appendPrimitives ps) hpath
  rw [defineBuiltins_cons_of_path? hp hstill] at hending
  have hlength : (Builtin.all.take k).length = k := by
    rw [List.length_take, Nat.min_eq_left (Nat.le_of_lt hk)]
  have hfits : ns.size + (Builtin.all.take k).length ≤ UInt32.size := by
    have hcount : Builtin.names.length = Builtin.all.length := rfl
    omega
  have happends := appendsBuiltins_of_ending hall hps hfits hending
  rw [hlength] at happends
  exact happends

/-- A registration succeeds exactly if all names of the table are new. -/
theorem result_registerBuiltins_eq_ok_iff
    (hroom : ns.size + Builtin.names.length ≤ UInt32.size) :
    ns.registerBuiltins.result = .ok () ↔ ∀ name ∈ Builtin.names, ns.slotOf? name = none := by
  refine ⟨fun hok => ?_, fun hnew => (registerBuiltins_of_new hroom hnew).1⟩
  obtain hnew | ⟨k, name, slot, hname, hpath, hnew⟩ := ns.new_or_clash
  · exact hnew
  · rw [(registerBuiltins_of_clash hroom hname hpath hnew).1] at hok
    cases hok

/-- Whatever a registration comes to, it appends the first primitives of the table. -/
theorem exists_appendsBuiltins (hroom : ns.size + Builtin.names.length ≤ UInt32.size) :
    ∃ k ≤ Builtin.names.length, ns.AppendsBuiltins ns.registerBuiltins.state k := by
  obtain hnew | ⟨k, name, slot, hname, hpath, hnew⟩ := ns.new_or_clash
  · exact ⟨_, Nat.le_refl _, (registerBuiltins_of_new hroom hnew).2⟩
  · have hlt : k < Builtin.names.length := (List.getElem?_eq_some_iff.mp hname).1
    exact ⟨k, Nat.le_of_lt hlt, (registerBuiltins_of_clash hroom hname hpath hnew).2⟩

/-- After a registration, whether it succeeded or not, the first name of the table is taken, and
    whatever changes follow, a registration fails for that name and changes nothing. -/
theorem registerBuiltins_again (hroom : ns.size + Builtin.names.length ≤ UInt32.size) :
    ∃ first slot node, Builtin.names.head? = some first ∧
      ns.registerBuiltins.state.get? slot = some ⟨first, node⟩ ∧
      ∀ changes, (ns.registerBuiltins.state.changeEach changes).registerBuiltins =
        .fail (.duplicateDefinition first slot) (ns.registerBuiltins.state.changeEach changes) := by
  obtain ⟨d, ds, hall⟩ : ∃ d ds, Builtin.all = d :: ds := ⟨_, _, rfl⟩
  obtain ⟨p, hp⟩ := Builtin.exists_build (hall ▸ List.mem_cons_self : d ∈ Builtin.all)
  obtain ⟨slot, hpath⟩ := ns.exists_path?_defineBuiltins_cons hp ds
  rw [← hall] at hpath
  obtain ⟨k, hk, happends⟩ := exists_appendsBuiltins hroom
  have hsize : ns.registerBuiltins.state.size ≤ UInt32.size := by
    rw [happends.size]
    omega
  obtain ⟨slot', ⟨first, node⟩, hslot, hget, hfirst⟩ := path?_eq_some hsize hpath
  obtain rfl : slot' = slot := (BindingPath.global.inj hslot).symm
  obtain rfl : first = d.name := hfirst
  refine ⟨d.name, slot', node, ?_, hget, ?_⟩
  · rw [Builtin.names_eq_map, hall]
    rfl
  · intro changes
    obtain ⟨nodes, hnodes⟩ := ns.registerBuiltins.state.exists_defineEach_changeEach changes
    have hlater : (ns.registerBuiltins.state.changeEach changes).path? d.name =
        some (.global slot') := by
      rw [hnodes]
      exact path?_defineEach hpath nodes
    rw [registerBuiltins, hall]
    exact defineBuiltins_cons_of_path? hp hlater ds

/-- Standard primitives are registered up to the first name that is taken, and only there does a
    registration stop.  It succeeds exactly if no name of the table is defined, and then all its
    primitives are appended, in order and in the slots from the old size on.  Otherwise the first
    name that is defined is reported with its slot, and the primitives before it are appended; earlier
    definitions keep their slots, names and nodes.  Afterwards the first name of the table is defined,
    and whatever definitions and registrations follow, a registration fails for that name and
    changes nothing. -/
theorem registerBuiltins_up_to_clash (nodes : List Expr)
    (hroom : (empty.defineEach nodes).size + Builtin.names.length ≤ UInt32.size) :
    let ns := empty.defineEach nodes
    let after := ns.registerBuiltins.state
    (ns.registerBuiltins.result = .ok () ↔ ∀ name ∈ Builtin.names, ns.lookup? name = none) ∧
    (ns.registerBuiltins.result = .ok () → ns.AppendsBuiltins after Builtin.names.length) ∧
    (∀ (k : Nat) (name : String) (slot : UInt32) (node : Expr),
      Builtin.names[k]? = some name → ns.get? slot = some ⟨name, node⟩ →
      (∀ other ∈ Builtin.names.take k, ns.lookup? other = none) →
        ns.registerBuiltins.result = .error (.duplicateDefinition name slot) ∧
          ns.AppendsBuiltins after k) ∧
    ∃ first slot node, Builtin.names.head? = some first ∧ after.get? slot = some ⟨first, node⟩ ∧
      ∀ changes, (after.changeEach changes).registerBuiltins =
        .fail (.duplicateDefinition first slot) (after.changeEach changes) := by
  intro ns after
  have hindexed : ns.Indexed := indexed_empty.defineEach nodes
  have hsize : ns.size < UInt32.size := by
    have hcount : Builtin.names.length = 12 := rfl
    have hns : ns.size + Builtin.names.length ≤ UInt32.size := hroom
    omega
  have hsuccess := result_registerBuiltins_eq_ok_iff hroom
  refine ⟨?_, ?_, ?_, registerBuiltins_again hroom⟩
  · simp only [lookup?_eq_none_iff]
    exact hsuccess
  · exact fun hok => (registerBuiltins_of_new hroom (hsuccess.mp hok)).2
  · intro k name slot node hname hget hnew
    simp only [lookup?_eq_none_iff] at hnew
    have hpath : ns.path? name = some (.global slot) :=
      (hindexed.path?_eq_some_iff hsize).mpr ⟨node, hget⟩
    exact registerBuiltins_of_clash hroom hname hpath hnew

/-- Two functions, of which the second has the name of the third standard primitive. -/
def sampleClash : List Expr :=
  let zero : Expr := .lambda "zero" (.fn (some .int) []) "int()" [] (.const ⟨.int, (0 : Int64)⟩)
  let mul : Expr := .lambda "mul2_f64" (.fn (some .int) []) "int()" [] (.const ⟨.int, (1 : Int64)⟩)
  [zero, mul]

theorem registerBuiltins_up_to_clash_sampleClash :
    let ns := empty.defineEach sampleClash
    let after := ns.registerBuiltins.state
    ns.size + Builtin.names.length ≤ UInt32.size ∧
      (∃ node, ns.get? 1 = some ⟨"mul2_f64", node⟩) ∧
      ns.registerBuiltins.result = .error (.duplicateDefinition "mul2_f64" 1) ∧
      ns.AppendsBuiltins after 2 ∧
      ∃ slot, after.registerBuiltins = .fail (.duplicateDefinition "add2_f64" slot) after := by
  intro ns after
  have hroom : ns.size + Builtin.names.length ≤ UInt32.size := by decide
  have hnew : ∀ other ∈ Builtin.names.take 2, ns.lookup? other = none := by decide
  obtain ⟨-, -, hclash, first, slot, node, hfirst, hget, hagain⟩ :=
    registerBuiltins_up_to_clash sampleClash hroom
  obtain ⟨hresult, happends⟩ := hclash 2 "mul2_f64" 1 _ rfl rfl hnew
  obtain rfl : "add2_f64" = first := Option.some.inj hfirst
  exact ⟨hroom, ⟨_, rfl⟩, hresult, happends, slot, hagain []⟩

end Namespace

end ExprGraph
