/-
  ExprGraph.Proofs.Binding.Links

  The links of a look-up count scopes, in words of 32 bits.

  A look-up that leaves a scope moves the path found outside one scope outward, and each of these
  steps adds one to the link.  `Env.moved` lists the paths so moved, and `Env.LookupFits` says that
  none of them has the greatest word for its link.  Scopes that lack a name are crossed one by one,
  so all steps fit exactly if the link that they end with is a word (`Env.lookupFits_append_iff`).
  What a look-up through a chain of scopes finds, with the numbers it is told in, is
  `Env.lookup?_nearest_first`.
-/

import ExprGraph.Proofs.Binding.Nearest

namespace ExprGraph

/-! ## Moving paths outward -/

namespace BindingPath

/-- The link of a path, if it has one, is still a word when it is raised by `n`. -/
def CanMoveBy (n : Nat) : BindingPath → Prop
  | .lexical link _ => link.toNat + n < UInt32.size
  | .global _ => True

@[simp] theorem canMoveBy_lexical {n : Nat} {link slot : UInt32} :
    (lexical link slot).CanMoveBy n ↔ link.toNat + n < UInt32.size := Iff.rfl

@[simp] theorem canMoveBy_global {n : Nat} {slot : UInt32} : (global slot).CanMoveBy n := trivial

theorem canMoveBy_zero (p : BindingPath) : p.CanMoveBy 0 := by
  cases p with
  | lexical link slot => exact link.toNat_lt
  | global slot => trivial

/-- A path moves by one more if after the others it still moves by one. -/
theorem canMoveBy_succ_iff (n : Nat) (p : BindingPath) :
    p.CanMoveBy (n + 1) ↔ p.CanMoveBy n ∧ (p.outwardBy n).CanMoveBy 1 := by
  cases p with
  | global slot => simp
  | lexical link slot =>
    simp only [outwardBy_lexical, canMoveBy_lexical]
    constructor
    · intro hfits
      have hn : link.toNat + n < UInt32.size := by omega
      rw [toNat_add_ofNat hn]
      exact ⟨hn, by omega⟩
    · rintro ⟨hn, hfits⟩
      rw [toNat_add_ofNat hn] at hfits
      omega

end BindingPath

/-! ## The steps of a look-up -/

namespace Env

/-- The paths that a look-up moves one scope outward, through scopes given from the innermost to the
    outermost: what each scope that lacks the name gets from around it, as far as the look-up
    goes. -/
def moved (base : Env) (name : String) : List (List String) → List BindingPath
  | [] => []
  | names :: outer =>
    if name ∈ names then []
    else ((base.enterAll outer.reverse).lookup? name).toList ++ base.moved name outer

/-- No step of a look-up takes a link past the greatest word. -/
def LookupFits (base : Env) (name : String) (scopes : List (List String)) : Prop :=
  ∀ p ∈ base.moved name scopes, p.CanMoveBy 1

variable {base : Env} {name : String} {names : List String} {inner outer : List (List String)}

/-- A look-up goes no further than a scope that has the name. -/
theorem lookupFits_cons_of_mem (h : name ∈ names) : base.LookupFits name (names :: outer) := by
  simp [LookupFits, moved, h]

/-- A scope that lacks the name adds one step to the look-up around it. -/
theorem lookupFits_cons_of_not_mem (h : name ∉ names) :
    base.LookupFits name (names :: outer) ↔
      (∀ p, (base.enterAll outer.reverse).lookup? name = some p → p.CanMoveBy 1) ∧
        base.LookupFits name outer := by
  simp only [LookupFits, moved, h, if_false, List.mem_append, Option.mem_toList, or_imp, forall_and]

/-- A name that no scope has is looked up outside, as many scopes further away as there are. -/
theorem lookup?_enterAll_reverse (hinner : ∀ names ∈ inner, name ∉ names) :
    (base.enterAll inner.reverse).lookup? name =
      (base.lookup? name).map (BindingPath.outwardBy inner.length) := by
  rw [lookup?_enterAll_of_not_mem, List.length_reverse]
  exact fun names hnames => hinner names (List.mem_reverse.mp hnames)

/-- Scopes that lack the name are crossed to the environment around them. -/
theorem lookup?_enterAll_append (hinner : ∀ names ∈ inner, name ∉ names) :
    (base.enterAll (inner ++ outer).reverse).lookup? name =
      ((base.enterAll outer.reverse).lookup? name).map (BindingPath.outwardBy inner.length) := by
  rw [List.reverse_append, enterAll_append, lookup?_enterAll_reverse hinner]

/-- Scopes that lack the name are crossed without overflow exactly if the path found outside can be
    moved by their number. -/
theorem lookupFits_append_iff (hinner : ∀ names ∈ inner, name ∉ names) :
    base.LookupFits name (inner ++ outer) ↔
      (∀ p, (base.enterAll outer.reverse).lookup? name = some p → p.CanMoveBy inner.length) ∧
        base.LookupFits name outer := by
  induction inner with
  | nil => simp [BindingPath.canMoveBy_zero]
  | cons names inner ih =>
    -- The last step moves what was found outside, already moved by all scopes but the innermost.
    obtain ⟨hnames, hrest⟩ := List.forall_mem_cons.mp hinner
    rw [List.cons_append, lookupFits_cons_of_not_mem hnames, ih hrest,
      lookup?_enterAll_append hrest]
    cases (base.enterAll outer.reverse).lookup? name with
    | none => simp
    | some p =>
      simp only [Option.map_some, Option.some.injEq, forall_eq', List.length_cons]
      rw [BindingPath.canMoveBy_succ_iff inner.length p, and_left_comm, and_assoc]

/-- When no scope has the name, what counts is the base's path and the number of all scopes. -/
theorem lookupFits_of_not_mem {scopes : List (List String)} (h : ∀ names ∈ scopes, name ∉ names) :
    base.LookupFits name scopes ↔
      ∀ p, base.lookup? name = some p → p.CanMoveBy scopes.length := by
  have hnil : base.LookupFits name [] := by simp [LookupFits, moved]
  have happend : base.LookupFits name (scopes ++ []) ↔ _ := lookupFits_append_iff h
  simpa [hnil] using happend

/-- A scope that has the name answers with its first position, without looking further. -/
theorem exists_lookup?_cons_of_mem (base : Env) (outer : List (List String))
    (hname : name ∈ names) :
    ∃ first, names.idxOf? name = some first ∧
      (base.enterAll (names :: outer).reverse).lookup? name =
        some (.lexical 0 (UInt32.ofNat first)) := by
  obtain ⟨first, hfirst⟩ := Option.isSome_iff_exists.mp (List.isSome_idxOf?.mpr hname)
  refine ⟨first, hfirst, ?_⟩
  rw [List.reverse_cons, enterAll_append, enterAll_cons, enterAll_nil, lookup?_enter, hfirst]

/-- When some scope has the name, what counts is the number of scopes inside the first that has. -/
theorem lookupFits_of_innermost_iff (hname : name ∈ names)
    (hinner : ∀ crossed ∈ inner, name ∉ crossed) :
    base.LookupFits name (inner ++ names :: outer) ↔ inner.length < UInt32.size := by
  obtain ⟨first, -, hhere⟩ := exists_lookup?_cons_of_mem base outer hname
  rw [lookupFits_append_iff hinner, hhere]
  simp [lookupFits_cons_of_mem hname]

/-! ## What a look-up finds -/

/-- Of the scopes that have a name, one is the innermost. -/
theorem exists_innermost {scopes : List (List String)} (h : ∃ names ∈ scopes, name ∈ names) :
    ∃ inner names outer, scopes = inner ++ names :: outer ∧ name ∈ names ∧
      ∀ crossed ∈ inner, name ∉ crossed := by
  obtain ⟨names, hnames, hname⟩ := h
  have hsome : (scopes.find? fun names => name ∈ names).isSome = true :=
    List.find?_isSome.mpr ⟨names, hnames, by simpa using hname⟩
  obtain ⟨first, hfirst⟩ := Option.isSome_iff_exists.mp hsome
  obtain ⟨hmem, inner, outer, hsplit, hinner⟩ := List.find?_eq_some_iff_append.mp hfirst
  refine ⟨inner, first, outer, hsplit, by simpa using hmem, fun crossed hcrossed => ?_⟩
  simpa using hinner crossed hcrossed

/-- A name is found at its first position in the innermost scope that has it, across the scopes
    inside that one. -/
theorem lookup?_of_innermost (hname : name ∈ names) (hsize : names.length ≤ UInt32.size)
    (hinner : ∀ crossed ∈ inner, name ∉ crossed) :
    ∃ slot, names.idxOf? name = some slot.toNat ∧
      (base.enterAll (inner ++ names :: outer).reverse).lookup? name =
        some (.lexical (UInt32.ofNat inner.length) slot) := by
  obtain ⟨first, hfirst, hhere⟩ := exists_lookup?_cons_of_mem base outer hname
  -- A position in the scope is below its length, so it is a word.
  obtain ⟨hbound, -⟩ := List.idxOf?_eq_some_iff.mp hfirst
  have hslot : (UInt32.ofNat first).toNat = first := UInt32.toNat_ofNat_of_lt' (by omega)
  refine ⟨UInt32.ofNat first, by rw [hslot, hfirst], ?_⟩
  rw [lookup?_enterAll_append hinner, hhere]
  simp

/-- While the links of the base stay words when raised by the number of scopes, a look-up fits. -/
theorem lookupFits_of_links_le {scopes : List (List String)} {bound : Nat}
    (hbase : ∀ n link slot, base.lookup? n = some (.lexical link slot) → link.toNat ≤ bound)
    (hbound : bound + scopes.length < UInt32.size) : base.LookupFits name scopes := by
  by_cases hfound : ∃ names ∈ scopes, name ∈ names
  · obtain ⟨inner, names, outer, rfl, hname, hinner⟩ := exists_innermost hfound
    rw [List.length_append] at hbound
    exact (lookupFits_of_innermost_iff hname hinner).mpr (by omega)
  · have hlacks : ∀ names ∈ scopes, name ∉ names := by simpa using hfound
    refine (lookupFits_of_not_mem hlacks).mpr fun p hp => ?_
    cases p with
    | global slot => trivial
    | lexical link slot =>
      have hlink : link.toNat ≤ bound := hbase name link slot hp
      rw [BindingPath.canMoveBy_lexical]
      omega

/-- The look-up through a chain of scopes, given from the innermost to the outermost, is the search
    for the nearest one.  If some scope has the name, the path tells how many scopes are inside the
    innermost of them and where the name is first in it.  If none has, the base answers: no path and
    a global one are left as they are, and a lexical one is raised by the number of scopes.  The
    numbers are exact unless a step overflows, which happens only if they are not words themselves,
    and never if the links of the base leave room for all scopes. -/
theorem lookup?_nearest_first (base : Env) (scopes : List (List String)) (name : String)
    (hsizes : ∀ names ∈ scopes, names.length ≤ UInt32.size) :
    ((∃ names ∈ scopes, name ∈ names) →
      ∃ inner names outer, scopes = inner ++ names :: outer ∧ name ∈ names ∧
        (∀ crossed ∈ inner, name ∉ crossed) ∧
        (base.LookupFits name scopes ↔ inner.length < UInt32.size) ∧
        ∃ link slot, (base.enterAll scopes.reverse).lookup? name = some (.lexical link slot) ∧
          (base.LookupFits name scopes → link.toNat = inner.length) ∧
          names.idxOf? name = some slot.toNat) ∧
    ((∀ names ∈ scopes, name ∉ names) →
      (base.lookup? name = none → (base.enterAll scopes.reverse).lookup? name = none) ∧
      (∀ slot, base.lookup? name = some (.global slot) →
        (base.enterAll scopes.reverse).lookup? name = some (.global slot)) ∧
      ∀ link slot, base.lookup? name = some (.lexical link slot) →
        (base.LookupFits name scopes ↔ link.toNat + scopes.length < UInt32.size) ∧
        ∃ raised, (base.enterAll scopes.reverse).lookup? name = some (.lexical raised slot) ∧
          (base.LookupFits name scopes → raised.toNat = link.toNat + scopes.length)) ∧
    ∀ bound, (∀ n link slot, base.lookup? n = some (.lexical link slot) → link.toNat ≤ bound) →
      bound + scopes.length < UInt32.size → base.LookupFits name scopes := by
  refine ⟨?found, ?notFound, fun bound => lookupFits_of_links_le⟩
  case found =>
    intro h
    obtain ⟨inner, names, outer, rfl, hname, hinner⟩ := exists_innermost h
    have hsize : names.length ≤ UInt32.size := hsizes names (by simp)
    obtain ⟨slot, hslot, hlookup⟩ := lookup?_of_innermost hname hsize hinner
    have hfits : base.LookupFits name (inner ++ names :: outer) ↔ inner.length < UInt32.size :=
      lookupFits_of_innermost_iff hname hinner
    refine ⟨inner, names, outer, rfl, hname, hinner, hfits, _, slot, hlookup, fun h => ?_, hslot⟩
    exact UInt32.toNat_ofNat_of_lt' (hfits.mp h)
  case notFound =>
    intro hlacks
    rw [lookup?_enterAll_reverse hlacks, lookupFits_of_not_mem hlacks]
    refine ⟨fun h => by simp [h], fun slot h => by simp [h], fun link slot h => ?_⟩
    have hfits : (∀ p, base.lookup? name = some p → p.CanMoveBy scopes.length) ↔
        link.toNat + scopes.length < UInt32.size := by simp [h]
    rw [hfits, h]
    exact ⟨Iff.rfl, _, rfl, BindingPath.toNat_add_ofNat⟩

/-- The base of the samples: a lexical path three scopes away, and a global one. -/
def sampleBase : Env := ofList [("y", .lexical 3 1), ("pi", .global 2)]

/-- Three scopes, of which two have the same name and one has it twice. -/
def sampleScopes : List (List String) := [["a"], ["b", "x", "x"], ["x"]]

/-- A lexical path of the base leaves room for the three scopes. -/
theorem toNat_le_of_sampleBase (n : String) (link slot : UInt32)
    (h : sampleBase.lookup? n = some (.lexical link slot)) : link.toNat ≤ 3 := by
  obtain ⟨before, rest, htable, -⟩ := List.lookup_eq_some_iff.mp h
  have hmem : (n, BindingPath.lexical link slot) ∈
      [("y", BindingPath.lexical 3 1), ("pi", .global 2)] := by
    rw [htable]
    simp
  obtain ⟨-, rfl, -⟩ : n = "y" ∧ link = 3 ∧ slot = 1 := by simpa using hmem
  decide

/-- A name that two scopes have, a name whose path moves, and a name whose path stays. -/
theorem lookup?_nearest_first_samples :
    (∀ names ∈ sampleScopes, names.length ≤ UInt32.size) ∧
    sampleBase.LookupFits "x" sampleScopes ∧ sampleBase.LookupFits "y" sampleScopes ∧
    (∃ link slot, (sampleBase.enterAll sampleScopes.reverse).lookup? "x" =
      some (.lexical link slot) ∧ link.toNat = 1 ∧ slot.toNat = 1) ∧
    (∃ raised, (sampleBase.enterAll sampleScopes.reverse).lookup? "y" =
      some (.lexical raised 1) ∧ raised.toNat = 6) ∧
    (sampleBase.enterAll sampleScopes.reverse).lookup? "pi" = some (.global 2) := by
  have hsizes : ∀ names ∈ sampleScopes, names.length ≤ UInt32.size := by decide
  obtain ⟨hx, -, hxFits⟩ := lookup?_nearest_first sampleBase sampleScopes "x" hsizes
  obtain ⟨-, hy, hyFits⟩ := lookup?_nearest_first sampleBase sampleScopes "y" hsizes
  obtain ⟨-, hpi, -⟩ := lookup?_nearest_first sampleBase sampleScopes "pi" hsizes
  have hx' := hxFits 3 toNat_le_of_sampleBase (by decide)
  have hy' := hyFits 3 toNat_le_of_sampleBase (by decide)
  refine ⟨hsizes, hx', hy', ?_, ?_, (hpi (by decide)).2.1 2 rfl⟩
  · obtain ⟨inner, names, outer, hsplit, hname, hinner, -, link, slot, hlookup, hlink, hslot⟩ :=
      hx ⟨["x"], by decide⟩
    obtain ⟨rfl, rfl⟩ : inner = [["a"]] ∧ names = ["b", "x", "x"] := by
      obtain _ | ⟨first, _ | ⟨second, rest⟩⟩ := inner
      · obtain ⟨rfl, -⟩ := List.cons.inj hsplit
        exact absurd hname (by decide)
      · obtain ⟨rfl, hrest⟩ := List.cons.inj hsplit
        exact ⟨rfl, (List.cons.inj hrest).1.symm⟩
      · obtain ⟨-, hrest⟩ := List.cons.inj hsplit
        obtain ⟨rfl, -⟩ := List.cons.inj hrest
        exact absurd (by decide) (hinner ["b", "x", "x"] (by simp))
    exact ⟨link, slot, hlookup, hlink hx', (Option.some.inj hslot).symm⟩
  · obtain ⟨-, raised, hlookup, hraised⟩ := (hy (by decide)).2.2 3 1 rfl
    exact ⟨raised, hlookup, hraised hy'⟩

end Env

end ExprGraph
