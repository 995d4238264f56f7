/-
  ExprGraph.Proofs.Expr.Outline

  Reading the outline of a tree.

  Each node has a line of its own, in the order of a visit, and its indentation tells its depth
  (`Expr.splitOn_outline`).  The first character after the blanks is that of the kind of the node,
  so a line gives both the depth and the kind back (`Expr.eq_of_lineText_eq`).  Depths in preorder
  say where each child ends, namely before the next node that is no deeper, and so the lines
  together give the shape of the tree back (`Expr.read_ranks`).
-/

import ExprGraph.Expr.Outline
import ExprGraph.Proofs.Expr.Traverse
import ExprGraph.Proofs.Text.Quoted
import ExprGraph.Proofs.Ty.Signature

namespace ExprGraph

open Text

/-! ## Lines -/

/-- Paths are written on one line. -/
theorem BindingPath.not_mem_text (p : BindingPath) : '\n' ∉ p.text.toList := by
  have hnumber : ∀ n : Nat, '\n' ∉ (toString n).toList := by
    intro n hn
    have htext : toString n = n.repr := rfl
    rw [htext, Nat.toList_repr] at hn
    exact forall_mem_toDigits (p := (· ≠ '\n')) (by decide) (by decide) n _ hn rfl
  cases p with
  | lexical link slot =>
    show '\n' ∉ ("local(link=" ++ toString link.toNat ++ ", slot=" ++ toString slot.toNat ++
      ")").toList
    simp only [String.toList_append, List.mem_append, not_or]
    exact ⟨⟨⟨⟨by decide, hnumber _⟩, by decide⟩, hnumber _⟩, by decide⟩
  | global slot =>
    show '\n' ∉ ("global(slot=" ++ toString slot.toNat ++ ")").toList
    simp only [String.toList_append, List.mem_append, not_or]
    exact ⟨⟨by decide, hnumber _⟩, by decide⟩

namespace Expr

/-- The texts that a node shows as they are: its name or the text of its value, and the names of the
    named types in its type. -/
def rawTexts (address : NativeValue → String) (e : Expr) : List String :=
  let own := match e with
    | .const value => [value.text address]
    | .prim p => [p.name]
    | .apply _ _ _ => []
    | .var v => [v.name]
    | .lambda name _ _ _ _ => [name]
  own ++ e.type.names

/-- A tree in which no name, no named type and no value is written with a line break. -/
def Unbroken (address : NativeValue → String) (e : Expr) : Prop :=
  ∀ n ∈ e.preorder, ∀ text ∈ n.rawTexts address, '\n' ∉ text.toList

variable {address : NativeValue → String} {style : OutlineStyle} {b b' : Bindings} {e e' : Expr}

theorem not_mem_headline (h : ∀ text ∈ e.rawTexts address, '\n' ∉ text.toList) :
    '\n' ∉ (e.headline address b).toList := by
  -- Most headlines are a fixed word and a text of the node.
  have hown : ∀ {text : String}, text ∈ e.rawTexts address →
      ∀ word : String, '\n' ∉ word.toList → '\n' ∉ (word ++ text).toList := by
    intro text htext word hword
    simp [hword, h text htext]
  cases e with
  | const value => exact hown (by simp [rawTexts]) "const " (by decide)
  | prim p => exact hown (by simp [rawTexts]) "primitive " (by decide)
  | apply type fn args => simp [headline]
  | lambda name type signature params body => exact hown (by simp [rawTexts]) "lambda " (by decide)
  | var v =>
    have hname : '\n' ∉ ("var " ++ v.name).toList := hown (by simp [rawTexts]) "var " (by decide)
    rw [headline]
    split
    · rename_i path _
      simp only [String.toList_append, List.mem_append, not_or] at hname ⊢
      exact ⟨⟨hname, by decide⟩, path.not_mem_text⟩
    · exact hname

theorem not_mem_label (h : ∀ text ∈ e.rawTexts address, '\n' ∉ text.toList) :
    '\n' ∉ (e.label address style b).toList := by
  have htype : '\n' ∉ e.type.shortName.toList := by
    intro hmem
    rcases Ty.spelled_of_mem_shortName e.type hmem with halnum | hmark | ⟨name, hname, hbreak⟩
    · exact absurd halnum (by decide)
    · exact absurd hmark (by decide)
    · exact h name (List.mem_append_right _ hname) hbreak
  rw [label, String.toList_append, List.mem_append, not_or]
  refine ⟨not_mem_headline h, ?_⟩
  split
  · rw [String.toList_append, List.mem_append, not_or]
    exact ⟨by decide, htype⟩
  · decide

/-! ## Depths -/

mutual
/-- The nodes of a tree whose root is at the given depth, each before its children, with their
    depths. -/
def nodesAt : Nat → Expr → List (Nat × Expr)
  | depth, .const value => [(depth, .const value)]
  | depth, .prim p => [(depth, .prim p)]
  | depth, .var v => [(depth, .var v)]
  | depth, .apply type fn args =>
    (depth, .apply type fn args) :: (nodesAt (depth + 1) fn ++ nodesAllAt (depth + 1) args)
  | depth, .lambda name type signature params body =>
    (depth, .lambda name type signature params body) ::
      ((params.map fun v => (depth + 1, .var v)) ++ nodesAt (depth + 1) body)

def nodesAllAt : Nat → List Expr → List (Nat × Expr)
  | _, [] => []
  | depth, e :: es => nodesAt depth e ++ nodesAllAt depth es
end

theorem nodesAllAt_eq_flatMap (depth : Nat) (es : List Expr) :
    nodesAllAt depth es = es.flatMap (nodesAt depth) := by
  induction es with
  | nil => rfl
  | cons e es ih => rw [nodesAllAt, ih, List.flatMap_cons]

/-- The children of a node are one level deeper than the node. -/
theorem nodesAt_eq_children (depth : Nat) (e : Expr) :
    e.nodesAt depth = (depth, e) :: e.children.flatMap (nodesAt (depth + 1)) := by
  cases e with
  | const value => rfl
  | prim p => rfl
  | var v => rfl
  | apply type fn args => rw [nodesAt, nodesAllAt_eq_flatMap, children, List.flatMap_cons]
  | lambda name type signature params body =>
    have hparams : (params.map var).flatMap (nodesAt (depth + 1)) =
        params.map fun v => (depth + 1, var v) := by
      rw [List.flatMap_map, List.map_eq_flatMap]
      rfl
    rw [nodesAt, children, List.flatMap_append, hparams, List.flatMap_singleton]

/-- With their depths left out, these are the nodes of a visit. -/
theorem map_snd_nodesAt (depth : Nat) (e : Expr) : (e.nodesAt depth).map Prod.snd = e.preorder := by
  induction e using childrenInduct generalizing depth with
  | node e ih =>
    rw [nodesAt_eq_children, preorder_eq_children, List.map_cons, List.map_flatMap]
    exact congrArg (e :: ·) (List.flatMap_congr fun child hchild => ih child hchild (depth + 1))

/-! ## The lines of an outline -/

/-- The line of a node without its end. -/
def lineText (address : NativeValue → String) (style : OutlineStyle) (b : Bindings)
    (node : Nat × Expr) : List Char :=
  List.replicate (node.1 * style.indentWidth) ' ' ++ (node.2.label address style b).toList

theorem toList_line (style : OutlineStyle) (b : Bindings) (depth : Nat) (e : Expr) :
    (e.line address style b depth).toList = lineText address style b (depth, e) ++ ['\n'] := by
  have hend : "\n".toList = ['\n'] := by decide
  rw [line, String.toList_append, String.toList_append, String.toList_ofList, hend]
  rfl

theorem outlineAllAt_eq_join (depth : Nat) (es : List Expr) :
    (outlineAllAt address style b depth es).toList =
      es.flatMap fun e => (outlineAt address style b depth e).toList := by
  induction es with
  | nil => rfl
  | cons e es ih => rw [outlineAllAt, String.toList_append, ih, List.flatMap_cons]

theorem toList_paramLines (depth : Nat) (params : List Variable) :
    (paramLines address style b depth params).toList =
      (params.map var).flatMap fun e => (outlineAt address style b depth e).toList := by
  rw [paramLines, String.toList_join, List.flatMap_map, List.flatMap_map]
  rfl

/-- An outline is the line of the root followed by the outlines of the children. -/
theorem outlineAt_eq_children (depth : Nat) (e : Expr) :
    (outlineAt address style b depth e).toList =
      lineText address style b (depth, e) ++ '\n' ::
        e.children.flatMap fun child => (outlineAt address style b (depth + 1) child).toList := by
  cases e with
  | const value => simp [outlineAt, children, toList_line]
  | prim p => simp [outlineAt, children, toList_line]
  | var v => simp [outlineAt, children, toList_line]
  | apply type fn args =>
    simp [outlineAt, children, toList_line, outlineAllAt_eq_join]
  | lambda name type signature params body =>
    simp only [outlineAt, children, toList_line, String.toList_append, toList_paramLines]
    simp

theorem toList_outlineAt (depth : Nat) (e : Expr) :
    (outlineAt address style b depth e).toList =
      ((e.nodesAt depth).map (lineText address style b)).flatMap fun line => line ++ ['\n'] := by
  induction e using childrenInduct generalizing depth with
  | node e ih =>
    have hchildren := List.flatMap_congr fun child hchild => ih child hchild (depth + 1)
    rw [outlineAt_eq_children, nodesAt_eq_children, hchildren, List.map_cons, List.flatMap_cons,
      List.map_flatMap, List.flatMap_assoc, List.append_assoc, List.singleton_append]

/-- Split at its line breaks, an outline has a line for each node, in the order of a visit, and
    nothing after the last. -/
theorem splitOn_outline (h : e.Unbroken address) :
    (e.outline address style b).toList.splitOn '\n' =
      (e.nodesAt 0).map (lineText address style b) ++ [[]] := by
  rw [outline, toList_outlineAt]
  refine splitOn_flatMap_append (List.forall_mem_map.mpr ?_)
  intro node hnode
  have hvisited : node.2 ∈ e.preorder := map_snd_nodesAt 0 e ▸ List.mem_map_of_mem hnode
  rw [lineText, List.mem_append, not_or]
  refine ⟨?_, not_mem_label (h node.2 hvisited)⟩
  intro hblank
  exact absurd (List.eq_of_mem_replicate hblank) (by decide)

/-! ## Reading a line -/

theorem head?_headline (b : Bindings) (e : Expr) :
    (e.headline address b).toList.head? = e.kind.name.toList.head? := by
  cases e with
  | const value => simp [headline, Kind.name]
  | prim p => simp [headline, Kind.name]
  | apply type fn args => simp [headline, Kind.name]
  | lambda name type signature params body => simp [headline, Kind.name]
  | var v =>
    rw [headline]
    split <;> simp [Kind.name]

/-- A label begins with the first letter of the kind of its node. -/
theorem head?_label (style : OutlineStyle) (b : Bindings) (e : Expr) :
    (e.label address style b).toList.head? = e.kind.name.toList.head? := by
  have hsome : ∀ k ∈ Kind.all, k.name.toList.head?.isSome = true := by decide
  rw [label, String.toList_append, List.head?_append, head?_headline,
    Option.or_of_isSome (hsome _ e.kind.mem_all)]

/-- The first letters of the kinds. -/
def initials : List Char := Kind.all.filterMap fun k => k.name.toList.head?

theorem kind_eq_of_head?_name : ∀ {k l : Kind},
    k.name.toList.head? = l.name.toList.head? → k = l := by
  have hdistinct : ∀ k ∈ Kind.all, ∀ l ∈ Kind.all,
      k.name.toList.head? = l.name.toList.head? → k = l := by decide
  intro k l
  exact hdistinct k k.mem_all l l.mem_all

theorem head?_label_mem_initials : ∀ c ∈ (e.label address style b).toList.head?, c ∈ initials := by
  intro c hc
  rw [head?_label] at hc
  exact List.mem_filterMap.mpr ⟨e.kind, e.kind.mem_all, hc⟩

/-- A line gives back the depth and the kind of its node, if there are blanks for each level. -/
theorem eq_of_lineText_eq {node node' : Nat × Expr} (hwidth : 0 < style.indentWidth)
    (h : lineText address style b node = lineText address style b' node') :
    node.1 = node'.1 ∧ node.2.kind = node'.2.kind := by
  have hblanks : ∀ depth : Nat, ∀ c ∈ List.replicate (depth * style.indentWidth) ' ',
      c ∉ initials := by
    intro depth c hc
    rw [List.eq_of_mem_replicate hc]
    decide
  obtain ⟨hindent, hlabel⟩ := eq_of_append_eq (hblanks node.1) (hblanks node'.1)
    head?_label_mem_initials head?_label_mem_initials h
  constructor
  · have hlength := congrArg List.length hindent
    rw [List.length_replicate, List.length_replicate] at hlength
    exact Nat.eq_of_mul_eq_mul_right hwidth hlength
  · have hhead := congrArg List.head? hlabel
    rw [head?_label, head?_label] at hhead
    exact kind_eq_of_head?_name hhead

/-! ## The shape of a tree -/

/-- Trees of the same form with nodes of the same kinds at the same places. -/
inductive SameShape : Expr → Expr → Prop where
  | node {e e' : Expr} (hkind : e.kind = e'.kind)
      (hchildren : List.Forall₂ SameShape e.children e'.children) : SameShape e e'

/-- The depths and kinds of the nodes of a tree in preorder. -/
def ranks (depth : Nat) (e : Expr) : List (Nat × Kind) :=
  (e.nodesAt depth).map fun node => (node.1, node.2.kind)

theorem ranks_eq_children (depth : Nat) (e : Expr) :
    e.ranks depth = (depth, e.kind) :: e.children.flatMap (ranks (depth + 1)) := by
  rw [ranks, nodesAt_eq_children, List.map_cons, List.map_flatMap]
  rfl

/-- Trees are read from their depths and kinds up to the next node that is not below them. -/
theorem read_ranks {depth : Nat} {r s : List (Nat × Kind)} (hr : ∀ node ∈ r.head?, node.1 ≤ depth)
    (hs : ∀ node ∈ s.head?, node.1 ≤ depth) (h : e.ranks depth ++ r = e'.ranks depth ++ s) :
    e.SameShape e' ∧ r = s := by
  induction e using childrenInduct generalizing e' depth r s with
  | node e ih =>
    rw [ranks_eq_children, ranks_eq_children, List.cons_append, List.cons_append, List.cons.injEq,
      Prod.mk.injEq] at h
    obtain ⟨⟨-, hkind⟩, hbelow⟩ := h
    -- What follows a child is the next child, at the same depth, or not below the node at all, and
    -- no child begins like the latter.
    have hfollow : ∀ {t : List (Nat × Kind)}, (∀ node ∈ t.head?, node.1 ≤ depth) →
        ∀ es : List Expr, ∀ node ∈ (es.flatMap (ranks (depth + 1)) ++ t).head?,
          node.1 ≤ depth + 1 := by
      intro t ht es node hnode
      cases es with
      | nil => exact Nat.le_succ_of_le (ht node hnode)
      | cons c cs =>
        rw [List.flatMap_cons, ranks_eq_children] at hnode
        cases hnode
        exact Nat.le_refl _
    have hopen : ∀ {t : List (Nat × Kind)}, (∀ node ∈ t.head?, node.1 ≤ depth) →
        ∀ (c : Expr) (t' : List (Nat × Kind)), c.ranks (depth + 1) ++ t' ≠ t := by
      intro t ht c t' hsame
      rw [ranks_eq_children, List.cons_append] at hsame
      have hdepth : depth + 1 ≤ depth := ht (depth + 1, c.kind) (by rw [← hsame]; rfl)
      omega
    obtain ⟨hchildren, hrest⟩ := forall₂_of_flatMap_append_eq (R := SameShape) (hfollow hr)
      (hfollow hs) (fun c _ => hopen hs c) (fun c _ => hopen hr c)
      (fun c hc c' _ r s hr hs => ih c hc hr hs) hbelow
    exact ⟨.node hkind hchildren, hrest⟩

/-- Trees with the same outline, laid out with blanks for each level, have the same shape. -/
theorem sameShape_of_outline_eq (hwidth : 0 < style.indentWidth) (he : e.Unbroken address)
    (he' : e'.Unbroken address)
    (h : e.outline address style b = e'.outline address style b') : e.SameShape e' := by
  have hsplit : (e.nodesAt 0).map (lineText address style b) =
      (e'.nodesAt 0).map (lineText address style b') := by
    have hlines : (e.nodesAt 0).map (lineText address style b) ++ [[]] =
        (e'.nodesAt 0).map (lineText address style b') ++ [[]] := by
      rw [← splitOn_outline he, ← splitOn_outline he', h]
    exact List.append_cancel_right hlines
  have hranks : e.ranks 0 = e'.ranks 0 := by
    rw [← List.forall₂_eq_eq_eq, List.forall₂_map_left_iff, List.forall₂_map_right_iff] at hsplit
    rw [ranks, ranks, ← List.forall₂_eq_eq_eq, List.forall₂_map_left_iff,
      List.forall₂_map_right_iff]
    exact hsplit.imp fun node node' hline => Prod.ext_iff.mpr (eq_of_lineText_eq hwidth hline)
  exact (read_ranks (r := []) (s := []) (by simp) (by simp) (by rw [hranks])).1

/-- An outline pictures a visit: split at its line breaks it has one line for each node that a visit
    shows, in that order, and nothing after the last.  A line is made of blanks for each level of
    the depth of its node and of the label of the node, which does not begin with a blank.  So, if
    there are blanks for each level, trees with the same outline have the same shape, with nodes of
    the same kinds, whatever the bindings were in each case. -/
theorem outline_pictures_visit {e : Expr} (address : NativeValue → String) (style : OutlineStyle)
    (b : Bindings) (h : e.Unbroken address) :
    (e.nodesAt 0).map Prod.snd = e.visited ∧
    (∀ (σ : Type) (f : Expr → σ → σ) (s : σ), (visit f e s).2 = (e.nodesAt 0).length) ∧
    (e.outline address style b).toList.splitOn '\n' =
      (e.nodesAt 0).map (fun node => List.replicate (node.1 * style.indentWidth) ' ' ++
        (node.2.label address style b).toList) ++ [[]] ∧
    (∀ node ∈ e.preorder, (node.label address style b).toList.head? ≠ some ' ') ∧
    ∀ (e' : Expr) (b' : Bindings), e'.Unbroken address → 0 < style.indentWidth →
      e.outline address style b = e'.outline address style b' → e.SameShape e' := by
  have hnodes : (e.nodesAt 0).map Prod.snd = e.preorder := map_snd_nodesAt 0 e
  refine ⟨hnodes.trans e.visited_eq_preorder.symm, ?_, splitOn_outline h, ?_,
    fun e' b' h' hwidth => sameShape_of_outline_eq hwidth h h'⟩
  · intro σ f s
    rw [visit_eq, ← hnodes, List.length_map]
  · intro node _ hblank
    exact absurd (head?_label_mem_initials _ hblank) (by decide)

/-! ## An example -/

instance (e : Expr) : Decidable (e.Unbroken address) :=
  inferInstanceAs (Decidable (∀ n ∈ e.preorder, ∀ text ∈ n.rawTexts address, '\n' ∉ text.toList))

/-- A call on an integer and a variable. -/
def sampleOutlined : Expr :=
  .apply .int (.var ⟨0, "f", .fn (some .int) [.int, .bool], none⟩)
    [.const ⟨.int, (7 : Int64)⟩, .var ⟨1, "x", .bool, none⟩]

/-- A call of another type, on a shorter integer. -/
def sampleOutlined' : Expr :=
  .apply .float (.var ⟨2, "f", .fn (some .float) [.int32, .string], none⟩)
    [.const ⟨.int32, (7 : Int32)⟩, .var ⟨3, "x", .string, some ⟨1, 2⟩⟩]

theorem outline_pictures_visit_samples :
    let address : NativeValue → String := fun _ => "0x401000"
    sampleOutlined.Unbroken address ∧ sampleOutlined'.Unbroken address ∧
      sampleOutlined.outline address ⟨2, false⟩ .empty =
        sampleOutlined'.outline address ⟨2, false⟩ .empty ∧
      sampleOutlined.SameShape sampleOutlined' := by
  intro address
  have hunbroken : sampleOutlined.Unbroken address := by decide +kernel
  have hunbroken' : sampleOutlined'.Unbroken address := by decide +kernel
  have houtline : sampleOutlined.outline address ⟨2, false⟩ .empty =
      sampleOutlined'.outline address ⟨2, false⟩ .empty := by decide +kernel
  obtain ⟨-, -, -, -, hshape⟩ := outline_pictures_visit address ⟨2, false⟩ .empty hunbroken
  exact ⟨hunbroken, hunbroken', houtline,
    hshape sampleOutlined' .empty hunbroken' (by decide) houtline⟩

end Expr

end ExprGraph
