/-
  ExprGraph.Proofs.Namespace.Definitions

  How a namespace grows.

  A definition is appended under the name of its node or refused, and a refusal leaves the namespace
  as it is (`Namespace.define_cases`).  Definitions are therefore a prefix of all later ones
  (`Namespace.prefix_defineEach`), so what a slot holds never changes, and a name found in a
  namespace leads to a slot that holds a definition of that name.
-/

import Mathlib.Data.List.Infix
import ExprGraph.Namespace.Basic

namespace ExprGraph.Namespace

/-- Defines nodes one after the other; a node that is refused changes nothing. -/
def defineEach (ns : Namespace) (nodes : List Expr) : Namespace :=
  nodes.foldl (fun ns node => (ns.define node).state) ns

@[simp] theorem defineEach_nil (ns : Namespace) : ns.defineEach [] = ns := rfl

@[simp] theorem defineEach_cons (ns : Namespace) (node : Expr) (nodes : List Expr) :
    ns.defineEach (node :: nodes) = (ns.define node).state.defineEach nodes := rfl

theorem defineEach_append (ns : Namespace) (nodes more : List Expr) :
    ns.defineEach (nodes ++ more) = (ns.defineEach nodes).defineEach more := List.foldl_append

/-- A node whose name is taken is refused. -/
theorem define_of_taken {ns : Namespace} {node : Expr} {name : String} {previous : Nat}
    (hname : node.functionName? = some name) (htaken : ns.slotOf? name = some previous) :
    ns.define node = .fail (.duplicateDefinition name (UInt32.ofNat previous)) ns := by
  simp only [define, hname, htaken]

/-- A node with a new name is appended under its name. -/
theorem define_of_new {ns : Namespace} {node : Expr} {name : String}
    (hname : node.functionName? = some name) (hnew : ns.slotOf? name = none) :
    ns.define node =
      ⟨.ok (UInt32.ofNat ns.size), ⟨ns.defs ++ [⟨name, node⟩]⟩,
        [.globalDefined node.kind name (UInt32.ofNat ns.size)]⟩ := by
  simp only [define, hname, hnew]

/-- A node is refused for its kind or for its name, or appended under its name. -/
theorem define_cases (ns : Namespace) (node : Expr) :
    (node.functionName? = none ∧ ns.define node = .fail (.notCallable node.kind) ns) ∨
      (∃ name previous, node.functionName? = some name ∧ ns.slotOf? name = some previous ∧
        ns.define node = .fail (.duplicateDefinition name (UInt32.ofNat previous)) ns) ∨
      ∃ name, node.functionName? = some name ∧ ns.slotOf? name = none ∧
        ns.define node =
          ⟨.ok (UInt32.ofNat ns.size), ⟨ns.defs ++ [⟨name, node⟩]⟩,
            [.globalDefined node.kind name (UInt32.ofNat ns.size)]⟩ := by
  cases hname : node.functionName? with
  | none => exact .inl ⟨rfl, by simp only [define, hname]⟩
  | some name =>
    cases hslot : ns.slotOf? name with
    | some previous => exact .inr (.inl ⟨name, previous, rfl, hslot, define_of_taken hname hslot⟩)
    | none => exact .inr (.inr ⟨name, rfl, hslot, define_of_new hname hslot⟩)

/-- A definition that is refused changes nothing and reports nothing. -/
theorem define_refused_or_appended (ns : Namespace) (node : Expr) :
    (∃ e, ns.define node = .fail e ns) ∨
      ∃ name, node.functionName? = some name ∧ ns.slotOf? name = none ∧
        ns.define node =
          ⟨.ok (UInt32.ofNat ns.size), ⟨ns.defs ++ [⟨name, node⟩]⟩,
            [.globalDefined node.kind name (UInt32.ofNat ns.size)]⟩ := by
  obtain ⟨-, h⟩ | ⟨name, previous, -, -, h⟩ | h := ns.define_cases node
  · exact .inl ⟨_, h⟩
  · exact .inl ⟨_, h⟩
  · exact .inr h

theorem prefix_define (ns : Namespace) (node : Expr) : ns.defs <+: (ns.define node).state.defs := by
  obtain ⟨e, h⟩ | ⟨name, -, -, h⟩ := ns.define_refused_or_appended node
  · rw [h]
    exact List.prefix_rfl
  · rw [h]
    exact List.prefix_append ns.defs _

theorem prefix_defineEach (ns : Namespace) (nodes : List Expr) :
    ns.defs <+: (ns.defineEach nodes).defs := by
  induction nodes generalizing ns with
  | nil => exact List.prefix_rfl
  | cons node nodes ih => exact (ns.prefix_define node).trans (ih (ns.define node).state)

/-- A slot keeps its definition when definitions are added. -/
theorem get?_of_prefix {ns later : Namespace} (hbefore : ns.defs <+: later.defs) {slot : UInt32}
    {d : Definition} (h : ns.get? slot = some d) : later.get? slot = some d := by
  obtain ⟨more, hmore⟩ := hbefore
  have hlt : slot.toNat < ns.defs.length := (List.getElem?_eq_some_iff.mp h).1
  rw [get?, ← hmore, List.getElem?_append_left hlt]
  exact h

theorem get?_defineEach {ns : Namespace} {slot : UInt32} {d : Definition}
    (h : ns.get? slot = some d) (nodes : List Expr) : (ns.defineEach nodes).get? slot = some d :=
  get?_of_prefix (ns.prefix_defineEach nodes) h

/-- Names keep their paths when definitions are added. -/
theorem path?_of_prefix {ns later : Namespace} (hbefore : ns.defs <+: later.defs) {name : String}
    {path : BindingPath} (h : ns.path? name = some path) : later.path? name = some path := by
  obtain ⟨slot, hslot, rfl⟩ := Option.map_eq_some_iff.mp h
  obtain ⟨more, hmore⟩ := hbefore
  -- The search from the front comes to the definition that it found before.
  have hkept : later.slotOf? name = some slot := by
    rw [slotOf?] at hslot ⊢
    rw [← hmore, List.findIdx?_append, hslot, Option.some_or]
  exact Option.map_eq_some_iff.mpr ⟨slot, hkept, rfl⟩

theorem path?_defineEach {ns : Namespace} {name : String} {path : BindingPath}
    (h : ns.path? name = some path) (nodes : List Expr) :
    (ns.defineEach nodes).path? name = some path := path?_of_prefix (ns.prefix_defineEach nodes) h

/-- The path of a name leads to a definition of that name. -/
theorem path?_eq_some {ns : Namespace} (hsize : ns.size ≤ UInt32.size) {name : String}
    {path : BindingPath} (h : ns.path? name = some path) :
    ∃ slot d, path = .global slot ∧ ns.get? slot = some d ∧ d.name = name := by
  obtain ⟨slot, hslot, rfl⟩ := Option.map_eq_some_iff.mp h
  obtain ⟨hlt, hname, -⟩ := List.findIdx?_eq_some_iff_getElem.mp hslot
  have hword : (UInt32.ofNat slot).toNat = slot := by
    apply UInt32.toNat_ofNat_of_lt'
    exact Nat.lt_of_lt_of_le hlt hsize
  refine ⟨UInt32.ofNat slot, ns.defs[slot], rfl, ?_, beq_iff_eq.mp hname⟩
  rw [get?, hword]
  exact List.getElem?_eq_getElem hlt

end ExprGraph.Namespace
