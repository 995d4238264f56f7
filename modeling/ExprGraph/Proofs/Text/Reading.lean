/-
  ExprGraph.Proofs.Text.Reading

  Texts that can be told apart from what follows them.

  A field ends before the first character that it cannot hold (`eq_of_append_eq`).  Items between
  separators are read one after the other up to a closing character, if each of them can be read
  before a separator and before the closing character, and none begins as if the list were closed
  (`forall₂_of_intercalate_eq`).  Lines are read up to the marks that end them
  (`splitOn_flatMap_append`).
-/

import Mathlib.Data.List.Forall2

namespace ExprGraph.Text

/-! ## Fields -/

/-- Two fields without marks that are each followed by a mark, or by nothing, are the same, and so
    is what follows them, if the texts are the same. -/
theorem eq_of_append_eq {marks l m r s : List Char} (hl : ∀ c ∈ l, c ∉ marks)
    (hm : ∀ c ∈ m, c ∉ marks) (hr : ∀ c ∈ r.head?, c ∈ marks) (hs : ∀ c ∈ s.head?, c ∈ marks)
    (h : l ++ r = m ++ s) : l = m ∧ r = s := by
  induction l generalizing m with
  | nil =>
    cases m with
    | nil => exact ⟨rfl, h⟩
    | cons c m =>
      rw [List.nil_append, List.cons_append] at h
      exact absurd (hr c (by rw [h]; rfl)) (hm c (List.mem_cons_self ..))
  | cons c l ih =>
    cases m with
    | nil =>
      rw [List.nil_append, List.cons_append] at h
      exact absurd (hs c (by rw [← h]; rfl)) (hl c (List.mem_cons_self ..))
    | cons d m =>
      rw [List.forall_mem_cons] at hl hm
      rw [List.cons_append, List.cons_append, List.cons.injEq] at h
      obtain ⟨rfl, hrest⟩ := h
      obtain ⟨rfl, hfollow⟩ := ih hl.2 hm.2 hrest
      exact ⟨rfl, hfollow⟩

/-- A field ends before the first character of a kind that it does not hold. -/
theorem eq_of_append_cons_eq {stop : Char} {l m r s : List Char} (hl : stop ∉ l) (hm : stop ∉ m)
    (h : l ++ stop :: r = m ++ stop :: s) : l = m ∧ r = s := by
  have havoids : ∀ {k : List Char}, stop ∉ k → ∀ c ∈ k, c ∉ [stop] := by
    intro k hk c hc hstop
    exact hk (List.mem_singleton.mp hstop ▸ hc)
  obtain ⟨rfl, hrest⟩ := eq_of_append_eq (havoids hl) (havoids hm) (by simp) (by simp) h
  exact ⟨rfl, (List.cons.inj hrest).2⟩

/-- A field ends before a label that begins with a character that it does not hold. -/
theorem eq_of_append_label_eq {label : String} {stop : Char} {l m r s : List Char}
    (hlabel : label.toList.head? = some stop) (hl : stop ∉ l) (hm : stop ∉ m)
    (h : l ++ (label.toList ++ r) = m ++ (label.toList ++ s)) : l = m ∧ r = s := by
  obtain ⟨cs, hcs⟩ : ∃ cs, label.toList = stop :: cs := List.head?_eq_some_iff.mp hlabel
  rw [hcs, List.cons_append, List.cons_append] at h
  obtain ⟨rfl, hrest⟩ := eq_of_append_cons_eq hl hm h
  exact ⟨rfl, List.append_cancel_left hrest⟩

/-! ## Items between separators -/

theorem intercalate_map_cons {α : Type} (f : α → List Char) (sep : Char) (x : α) (xs : List α) :
    [sep].intercalate ((x :: xs).map f) = f x ++ xs.flatMap fun x => sep :: f x := by
  induction xs generalizing x with
  | nil => simp
  | cons y ys ih =>
    have hys := ih y
    rw [List.map_cons] at hys
    rw [List.map_cons, List.map_cons, List.intercalate_cons_cons, hys]
    simp

theorem intercalate_append_singleton {α : Type} (sep : List α) {ls : List (List α)} (h : ls ≠ [])
    (l : List α) : sep.intercalate (ls ++ [l]) = sep.intercalate ls ++ sep ++ l := by
  induction ls with
  | nil => exact absurd rfl h
  | cons k ls ih =>
    cases ls with
    | nil => simp
    | cons k' ls =>
      have hrest := ih (List.cons_ne_nil k' ls)
      rw [List.cons_append] at hrest ⊢
      rw [List.cons_append, List.intercalate_cons_cons, hrest, List.intercalate_cons_cons]
      simp

theorem mem_intercalate {α : Type} {a : α} {sep : List α} {ls : List (List α)}
    (h : a ∈ sep.intercalate ls) : a ∈ sep ∨ ∃ l ∈ ls, a ∈ l := by
  induction ls with
  | nil => simp at h
  | cons l ls ih =>
    by_cases hls : ls = []
    · rw [hls, List.intercalate_singleton] at h
      exact .inr ⟨l, List.mem_cons_self .., h⟩
    · rw [List.intercalate_cons_of_ne_nil hls, List.mem_append, List.mem_append] at h
      obtain (hl | hsep) | hrest := h
      · exact .inr ⟨l, List.mem_cons_self .., hl⟩
      · exact .inl hsep
      · rcases ih hrest with hsep | ⟨k, hk, hmem⟩
        · exact .inl hsep
        · exact .inr ⟨k, List.mem_cons_of_mem _ hk, hmem⟩

/-- Read from its end, a list holds its items in the opposite order. -/
theorem reverse_intercalate {α : Type} (sep : List α) (ls : List (List α)) :
    (sep.intercalate ls).reverse = sep.reverse.intercalate (ls.reverse.map List.reverse) := by
  induction ls with
  | nil => rfl
  | cons l ls ih =>
    by_cases hls : ls = []
    · simp [hls]
    · have hne : ls.reverse.map List.reverse ≠ [] := by simpa using hls
      rw [List.intercalate_cons_of_ne_nil hls, List.reverse_append, List.reverse_append, ih,
        List.reverse_cons, List.map_append, List.map_singleton,
        intercalate_append_singleton sep.reverse hne]
      simp

variable {α : Type} {R : α → α → Prop} {f : α → List Char} {sep close : Char} {xs ys : List α}
  {r s : List Char}

/-- Items in a row, over any alphabet, are read up to what follows them, if no item begins as that
    does; `p` is what can be said of the text after an item. -/
theorem forall₂_of_flatMap_append_eq {β : Type} {g : α → List β} {k l : List β}
    {p : List β → Prop} (hk : ∀ zs : List α, p (zs.flatMap g ++ k))
    (hl : ∀ zs : List α, p (zs.flatMap g ++ l)) (hopen : ∀ x ∈ xs, ∀ t, g x ++ t ≠ l)
    (hopen' : ∀ y ∈ ys, ∀ t, g y ++ t ≠ k)
    (hread : ∀ x ∈ xs, ∀ y ∈ ys, ∀ r s, p r → p s → g x ++ r = g y ++ s → R x y ∧ r = s)
    (h : xs.flatMap g ++ k = ys.flatMap g ++ l) : List.Forall₂ R xs ys ∧ k = l := by
  induction xs generalizing ys with
  | nil =>
    cases ys with
    | nil => exact ⟨.nil, h⟩
    | cons y ys =>
      rw [List.flatMap_cons, List.append_assoc] at h
      exact absurd h.symm (hopen' y (List.mem_cons_self ..) _)
  | cons x xs ih =>
    cases ys with
    | nil =>
      rw [List.flatMap_cons, List.append_assoc] at h
      exact absurd h (hopen x (List.mem_cons_self ..) _)
    | cons y ys =>
      rw [List.flatMap_cons, List.flatMap_cons, List.append_assoc, List.append_assoc] at h
      obtain ⟨hitem, hrest⟩ := hread x (List.mem_cons_self ..) y (List.mem_cons_self ..) _ _
        (hk xs) (hl ys) h
      rw [List.forall_mem_cons] at hopen hopen'
      obtain ⟨hitems, hend⟩ := ih hopen.2 hopen'.2 (fun x' hx' y' hy' =>
        hread x' (List.mem_cons_of_mem _ hx') y' (List.mem_cons_of_mem _ hy')) hrest
      exact ⟨.cons hitem hitems, hend⟩

/-- Items in a row are read up to a closing character with which none of them begins. -/
theorem forall₂_of_flatMap_eq {p : List Char → Prop}
    (hfollow : ∀ (zs : List α) (t : List Char), p (zs.flatMap f ++ close :: t))
    (hopen : ∀ x ∈ xs, ∀ t, (f x ++ t).head? ≠ some close)
    (hopen' : ∀ y ∈ ys, ∀ t, (f y ++ t).head? ≠ some close)
    (hread : ∀ x ∈ xs, ∀ y ∈ ys, ∀ r s, p r → p s → f x ++ r = f y ++ s →
      R x y ∧ r = s)
    (h : xs.flatMap f ++ close :: r = ys.flatMap f ++ close :: s) :
    List.Forall₂ R xs ys ∧ r = s := by
  obtain ⟨hitems, hend⟩ := forall₂_of_flatMap_append_eq (fun zs => hfollow zs r)
    (fun zs => hfollow zs s) (fun x hx t heq => hopen x hx t (congrArg List.head? heq))
    (fun y hy t heq => hopen' y hy t (congrArg List.head? heq)) hread h
  exact ⟨hitems, (List.cons.inj hend).2⟩

/-- Items between separators are read up to the closing character, if each of them is read up to a
    mark; both are marks. -/
theorem forall₂_of_intercalate_eq {marks : List Char} (hsep : sep ≠ close) (hsepMark : sep ∈ marks)
    (hcloseMark : close ∈ marks) (hopen : ∀ x ∈ xs, ∀ t, (f x ++ t).head? ≠ some close)
    (hopen' : ∀ y ∈ ys, ∀ t, (f y ++ t).head? ≠ some close)
    (hread : ∀ x ∈ xs, ∀ y ∈ ys, ∀ r s, (∀ c ∈ r.head?, c ∈ marks) →
      (∀ c ∈ s.head?, c ∈ marks) → f x ++ r = f y ++ s → R x y ∧ r = s)
    (h : [sep].intercalate (xs.map f) ++ close :: r = [sep].intercalate (ys.map f) ++ close :: s) :
    List.Forall₂ R xs ys ∧ r = s := by
  -- What follows an item begins with the next separator or with the closing character.
  have hfollow : ∀ (zs : List α) (t : List Char),
      ∀ c ∈ ((zs.flatMap fun z => sep :: f z) ++ close :: t).head?, c ∈ marks := by
    intro zs t
    cases zs <;> simpa
  cases xs with
  | nil =>
    cases ys with
    | nil => exact ⟨.nil, (List.cons.inj h).2⟩
    | cons y ys =>
      rw [intercalate_map_cons, List.append_assoc] at h
      exact absurd (congrArg List.head? h.symm) (hopen' y (List.mem_cons_self ..) _)
  | cons x xs =>
    cases ys with
    | nil =>
      rw [intercalate_map_cons, List.append_assoc] at h
      exact absurd (congrArg List.head? h) (hopen x (List.mem_cons_self ..) _)
    | cons y ys =>
      rw [intercalate_map_cons, intercalate_map_cons, List.append_assoc, List.append_assoc] at h
      obtain ⟨hitem, hrest⟩ := hread x (List.mem_cons_self ..) y (List.mem_cons_self ..) _ _
        (hfollow xs r) (hfollow ys s) h
      -- Each of the other items begins with its separator.
      have hseparated : ∀ (z : α) (t : List Char), (sep :: f z ++ t).head? ≠ some close := by
        intro z t
        simpa using hsep
      obtain ⟨hitems, hend⟩ := forall₂_of_flatMap_eq (R := R) hfollow (fun z _ => hseparated z)
        (fun z _ => hseparated z) (fun x' hx' y' hy' r s hr hs heq =>
          hread x' (List.mem_cons_of_mem _ hx') y' (List.mem_cons_of_mem _ hy') r s hr hs
            (List.cons.inj heq).2) hrest
      exact ⟨.cons hitem hitems, hend⟩

/-! ## Lines -/

/-- Lines that are each ended by a mark are found again by splitting at the marks, and nothing is
    left after the last. -/
theorem splitOn_flatMap_append {mark : Char} {lines : List (List Char)}
    (h : ∀ line ∈ lines, mark ∉ line) :
    (lines.flatMap fun line => line ++ [mark]).splitOn mark = lines ++ [[]] := by
  induction lines with
  | nil => rfl
  | cons line lines ih =>
    rw [List.forall_mem_cons] at h
    rw [List.flatMap_cons, List.append_assoc, List.singleton_append,
      List.splitOn_append_cons_self_of_not_mem h.1, ih h.2, List.cons_append]

end ExprGraph.Text
