/-
  ExprGraph.Proofs.Ty.Signature

  Reading a type back from its signature.

  A function type is written result first, so from the left nothing tells how many argument lists
  are still to come: `a(b)(c)` begins like `a(b)`, and both like `a`.  From the right the first
  character decides.  A closing parenthesis ends a function type, whose arguments follow in the
  opposite order up to an opening one, and the result after that; anything else ends a name
  (`Legible.read_backward`).  This needs names that are not taken for a part of a signature, which
  is what `Legible` asks of them.
-/

import ExprGraph.Proofs.Text.Reading
import ExprGraph.Ty.Text

namespace ExprGraph.Ty

open Text

/-! ## Legible types -/

/-- The types whose short names are words of the language. -/
def scalars : List Ty := [.unit, .bool, .int32, .int, .float32, .float, .string]

/-- The characters by which a signature shows how a type is built. -/
def signatureMarks : List Char := ['(', ')', ',', '?']

/-- A name that stands for itself among the given marks: it is not empty, holds no mark, and is not
    the name of a scalar. -/
structure ProperName (marks : List Char) (name : String) : Prop where
  ne_empty : name ≠ ""
  avoids : ∀ c ∈ name.toList, c ∉ marks
  ne_scalar : ∀ t ∈ scalars, name ≠ t.shortName

/-- The types, of any depth, of scalars, functions with or without a result, and proper names. -/
inductive Legible (marks : List Char) : Ty → Prop where
  | scalar {t : Ty} (h : t ∈ scalars) : Legible marks t
  | fn {ret : Option Ty} {args : List Ty} (hret : ∀ t ∈ ret, Legible marks t)
      (hargs : ∀ t ∈ args, Legible marks t) : Legible marks (.fn ret args)
  | named {name : String} (h : ProperName marks name) : Legible marks (.named name)

variable {marks : List Char} {t u : Ty} {r s : List Char}

/-- A type that is legible among many marks is legible among some of them. -/
theorem Legible.mono {few : List Char} (hfew : few ⊆ marks) (h : Legible marks t) :
    Legible few t := by
  induction h with
  | scalar h => exact .scalar h
  | fn _ _ ihRet ihArgs => exact .fn ihRet ihArgs
  | named h => exact .named ⟨h.ne_empty, fun c hc hmark => h.avoids c hc (hfew hmark), h.ne_scalar⟩

theorem legible_fn_iff {ret : Option Ty} {args : List Ty} :
    Legible marks (.fn ret args) ↔ (∀ t ∈ ret, Legible marks t) ∧ ∀ t ∈ args, Legible marks t := by
  constructor
  · intro h
    cases h with
    | scalar h => simp [scalars] at h
    | fn hret hargs => exact ⟨hret, hargs⟩
  · rintro ⟨hret, hargs⟩
    exact .fn hret hargs

theorem legible_named_iff {name : String} :
    Legible marks (.named name) ↔ ProperName marks name := by
  constructor
  · intro h
    cases h with
    | scalar h => simp [scalars] at h
    | named h => exact h
  · exact .named

instance (marks : List Char) (name : String) : Decidable (ProperName marks name) :=
  -- The characters are checked one by one, not by going through all characters there are.
  decidable_of_iff
    (name ≠ "" ∧ name.toList.all (· ∉ marks) = true ∧ ∀ t ∈ scalars, name ≠ t.shortName)
    ⟨fun ⟨hne, havoids, hscalar⟩ => ⟨hne, by simpa using havoids, hscalar⟩,
      fun h => ⟨h.ne_empty, by simpa using h.avoids, h.ne_scalar⟩⟩

mutual
/-- Whether a type is legible, by recursion on the type. -/
def decideLegible (marks : List Char) : (t : Ty) → Decidable (Legible marks t)
  | .fn ret args =>
    have := decideResult marks ret
    have := decideAll marks args
    decidable_of_iff _ legible_fn_iff.symm
  | .named _ => decidable_of_iff _ legible_named_iff.symm
  | .unit | .bool | .int32 | .int | .float32 | .float | .string => isTrue (.scalar (by decide))

def decideResult (marks : List Char) :
    (ret : Option Ty) → Decidable (∀ t ∈ ret, Legible marks t)
  | none => isTrue (by simp)
  | some t =>
    have := decideLegible marks t
    decidable_of_iff (Legible marks t) (by simp)

def decideAll (marks : List Char) : (ts : List Ty) → Decidable (∀ t ∈ ts, Legible marks t)
  | [] => isTrue (by simp)
  | t :: ts =>
    have := decideLegible marks t
    have := decideAll marks ts
    decidable_of_iff (Legible marks t ∧ ∀ u ∈ ts, Legible marks u) (by simp)
end

instance (marks : List Char) (t : Ty) : Decidable (Legible marks t) := decideLegible marks t

/-! ## Words -/

theorem isFunction_of_mem_scalars : ∀ t ∈ scalars, t.isFunction = false := by
  decide

theorem shortName_of_mem_scalars :
    ∀ t ∈ scalars, t.shortName ≠ "" ∧ t.shortName.toList.all Char.isAlphanum = true := by
  decide +kernel

theorem shortName_scalar_injective :
    ∀ t ∈ scalars, ∀ u ∈ scalars, t.shortName = u.shortName → t = u := by
  decide

/-- The short name of a type that is no function type is a word. -/
theorem Legible.word (h : Legible signatureMarks t) (hword : t.isFunction = false) :
    t.shortName ≠ "" ∧ ∀ c ∈ t.shortName.toList, c ∉ signatureMarks := by
  cases h with
  | scalar h =>
    obtain ⟨hne, halnum⟩ := shortName_of_mem_scalars t h
    have hmarks : signatureMarks.all (fun c => !c.isAlphanum) = true := by decide
    rw [List.all_eq_true] at halnum hmarks
    refine ⟨hne, fun c hc hmark => ?_⟩
    have hnot := hmarks c hmark
    rw [halnum c hc] at hnot
    cases hnot
  | fn hret hargs => cases hword
  | named h => exact ⟨h.ne_empty, h.avoids⟩

/-- A word stands for one type. -/
theorem Legible.eq_of_word (ht : Legible signatureMarks t) (hu : Legible signatureMarks u)
    (htword : t.isFunction = false) (huword : u.isFunction = false)
    (h : t.shortName = u.shortName) : t = u := by
  cases ht with
  | fn => cases htword
  | scalar htscalar =>
    cases hu with
    | fn => cases huword
    | scalar huscalar => exact shortName_scalar_injective t htscalar u huscalar h
    | named hname => exact absurd h.symm (hname.ne_scalar t htscalar)
  | named hname =>
    cases hu with
    | fn => cases huword
    | scalar huscalar => exact absurd h (hname.ne_scalar u huscalar)
    | named hname' => exact congrArg Ty.named (by simpa only [shortName] using h)

/-! ## Names within a type -/

mutual
/-- The names of the named types in a type, from left to right. -/
def names : Ty → List String
  | .fn ret args => resultNames ret ++ namesAll args
  | .named name => [name]
  | .unit | .bool | .int32 | .int | .float32 | .float | .string => []

def resultNames : Option Ty → List String
  | none => []
  | some t => t.names

def namesAll : List Ty → List String
  | [] => []
  | t :: ts => t.names ++ namesAll ts
end

theorem namesAll_eq_flatMap (ts : List Ty) : namesAll ts = ts.flatMap names := by
  induction ts with
  | nil => rfl
  | cons t ts ih => rw [namesAll, ih, List.flatMap_cons]

/-- The names in a legible type are proper. -/
theorem Legible.properName {name : String} (h : Legible marks t) (hname : name ∈ t.names) :
    ProperName marks name := by
  induction h with
  | scalar h =>
    have hnone : ∀ t ∈ scalars, t.names = [] := by decide
    rw [hnone _ h] at hname
    exact absurd hname List.not_mem_nil
  | named h =>
    rw [names, List.mem_singleton] at hname
    exact hname ▸ h
  | @fn ret args _ _ ihRet ihArgs =>
    rw [names, namesAll_eq_flatMap, List.mem_append, List.mem_flatMap] at hname
    rcases hname with hname | ⟨t, ht, hname⟩
    · cases ret with
      | none => exact absurd hname List.not_mem_nil
      | some t => exact ihRet t rfl hname
    · exact ihArgs t ht hname

/-- A character of a signature belongs to the word of a scalar, is a mark, or belongs to a name. -/
def Spelled (names : List String) (c : Char) : Prop :=
  c.isAlphanum = true ∨ c ∈ signatureMarks ∨ ∃ name ∈ names, c ∈ name.toList

theorem Spelled.mono {few many : List String} (h : few ⊆ many) {c : Char} (hc : Spelled few c) :
    Spelled many c := by
  rcases hc with halnum | hmark | ⟨name, hname, hmem⟩
  · exact .inl halnum
  · exact .inr (.inl hmark)
  · exact .inr (.inr ⟨name, h hname, hmem⟩)

mutual
theorem spelled_of_mem_shortName :
    ∀ (t : Ty) {c : Char}, c ∈ t.shortName.toList → Spelled t.names c
  | .fn ret args, c, hc => by
    have hmark : ∀ {d : Char}, d ∈ signatureMarks → c = d → Spelled (fn ret args).names c := by
      rintro d hd rfl
      exact .inr (.inl hd)
    simp only [shortName, shortNames_eq_map, String.toList_append, String.toList_intercalate,
      List.mem_append] at hc
    obtain ((hc | hc) | hc) | hc := hc
    · exact (spelled_of_mem_resultName ret hc).mono (List.subset_append_left ..)
    · exact hmark (d := '(') (by decide) (by simpa using hc)
    · rcases mem_intercalate hc with hc | ⟨l, hl, hc⟩
      · exact hmark (d := ',') (by decide) (by simpa using hc)
      · obtain ⟨u, hu, rfl⟩ : ∃ u ∈ args, u.shortName.toList = l := by simpa using hl
        exact (spelled_of_mem_shortNames args hu hc).mono (List.subset_append_right ..)
    · exact hmark (d := ')') (by decide) (by simpa using hc)
  | .named name, c, hc => .inr (.inr ⟨name, List.mem_singleton_self name, hc⟩)
  | .unit, c, hc | .bool, c, hc | .int32, c, hc | .int, c, hc | .float32, c, hc
  | .float, c, hc | .string, c, hc =>
    .inl (List.all_eq_true.mp (shortName_of_mem_scalars _ (by decide)).2 c hc)

theorem spelled_of_mem_resultName :
    ∀ (ret : Option Ty) {c : Char}, c ∈ (resultName ret).toList → Spelled (resultNames ret) c
  | none, c, hc => by
    have hquestion : c = '?' := by simpa [resultName] using hc
    exact .inr (.inl (hquestion ▸ by decide))
  | some t, c, hc => spelled_of_mem_shortName t hc

theorem spelled_of_mem_shortNames :
    ∀ (ts : List Ty) {t : Ty} {c : Char}, t ∈ ts → c ∈ t.shortName.toList →
      Spelled (namesAll ts) c
  | [], t, c, ht, _ => absurd ht List.not_mem_nil
  | u :: us, t, c, ht, hc => by
    rcases List.mem_cons.mp ht with hsame | ht
    · exact (spelled_of_mem_shortName u (hsame ▸ hc)).mono (List.subset_append_left ..)
    · exact (spelled_of_mem_shortNames us ht hc).mono (List.subset_append_right ..)
end

/-- A signature holds no marks but its own and those that names may hold. -/
theorem Legible.mem_shortName (h : Legible marks t) {c : Char} (hc : c ∈ t.shortName.toList) :
    c.isAlphanum = true ∨ c ∈ signatureMarks ∨ c ∉ marks := by
  rcases spelled_of_mem_shortName t hc with halnum | hmark | ⟨name, hname, hmem⟩
  · exact .inl halnum
  · exact .inr (.inl hmark)
  · exact .inr (.inr ((h.properName hname).avoids c hmem))

/-! ## Signatures from the right -/

/-- The characters of a signature from the last to the first. -/
def backward (t : Ty) : List Char := t.shortName.toList.reverse

theorem backward_fn (ret : Option Ty) (args : List Ty) :
    (fn ret args).backward =
      ')' :: ([','].intercalate (args.reverse.map backward) ++
        '(' :: (resultName ret).toList.reverse) := by
  have hargs : (args.map fun t => t.shortName.toList.reverse) = args.map backward := rfl
  rw [backward, shortName]
  simp [String.toList_intercalate, reverse_intercalate, Function.comp_def, hargs]

/-- The last character of a signature closes a function type or belongs to a word. -/
theorem Legible.head?_backward_append (h : Legible signatureMarks t) (r : List Char) :
    ∃ c, (t.backward ++ r).head? = some c ∧
      (t.isFunction = true ∧ c = ')' ∨ t.isFunction = false ∧ c ∉ signatureMarks) := by
  cases hfn : t.isFunction with
  | true =>
    rw [isFunction_iff.mp hfn, backward_fn]
    exact ⟨')', rfl, .inl ⟨rfl, rfl⟩⟩
  | false =>
    obtain ⟨hne, havoids⟩ := h.word hfn
    have hback : t.backward ≠ [] := by simpa [backward] using hne
    obtain ⟨c, cs, hcs⟩ := List.exists_cons_of_ne_nil hback
    have hc : c ∈ t.backward := by rw [hcs]; exact List.mem_cons_self ..
    exact ⟨c, by rw [hcs]; rfl, .inr ⟨rfl, havoids c (List.mem_reverse.mp hc)⟩⟩

theorem Legible.head?_backward_append_ne (h : Legible signatureMarks t) (r : List Char) {c : Char}
    (hc : c ∈ signatureMarks) (hclose : c ≠ ')') : (t.backward ++ r).head? ≠ some c := by
  obtain ⟨d, hd, ⟨-, rfl⟩ | ⟨-, hd'⟩⟩ := h.head?_backward_append r
  · simpa [hd] using hclose.symm
  · rw [hd]
    intro hsame
    exact hd' (Option.some.inj hsame ▸ hc)

/-- Whether a signature is that of a function type shows at its end. -/
theorem Legible.isFunction_eq (ht : Legible signatureMarks t) (hu : Legible signatureMarks u)
    (h : t.backward ++ r = u.backward ++ s) : t.isFunction = u.isFunction := by
  obtain ⟨c, hc, htc⟩ := ht.head?_backward_append r
  obtain ⟨d, hd, hud⟩ := hu.head?_backward_append s
  obtain rfl : c = d := by
    rw [← Option.some.injEq, ← hc, ← hd, h]
  have hclose : ')' ∈ signatureMarks := by decide
  rcases htc with ⟨htfn, rfl⟩ | ⟨htfn, hc'⟩ <;> rcases hud with ⟨hufn, hclosed⟩ | ⟨hufn, hd'⟩
  · rw [htfn, hufn]
  · exact absurd hclose hd'
  · exact absurd (hclosed ▸ hclose) hc'
  · rw [htfn, hufn]

/-- Two words that end at the same place are the same. -/
theorem Legible.read_word (ht : Legible signatureMarks t) (hu : Legible signatureMarks u)
    (hword : t.isFunction = false) (hr : ∀ c ∈ r.head?, c ∈ signatureMarks)
    (hs : ∀ c ∈ s.head?, c ∈ signatureMarks) (h : t.backward ++ r = u.backward ++ s) :
    t = u ∧ r = s := by
  have huword : u.isFunction = false := ht.isFunction_eq hu h ▸ hword
  have havoids : ∀ {t : Ty}, Legible signatureMarks t → t.isFunction = false →
      ∀ c ∈ t.backward, c ∉ signatureMarks := by
    intro t ht hword c hc
    exact (ht.word hword).2 c (List.mem_reverse.mp hc)
  obtain ⟨hname, hrest⟩ := eq_of_append_eq (havoids ht hword) (havoids hu huword) hr hs h
  exact ⟨ht.eq_of_word hu hword huword (String.toList_inj.mp (List.reverse_injective hname)), hrest⟩

/-- The result of a function type is read like a type; it is absent behind a question mark. -/
theorem read_resultName {ret ret' : Option Ty} (hret' : ∀ t ∈ ret', Legible signatureMarks t)
    (hret : ∀ t ∈ ret, Legible signatureMarks t)
    (hread : ∀ t ∈ ret, ∀ u ∈ ret', t.backward ++ r = u.backward ++ s → t = u ∧ r = s)
    (h : (resultName ret).toList.reverse ++ r = (resultName ret').toList.reverse ++ s) :
    ret = ret' ∧ r = s := by
  have habsent : ∀ {t : Ty} {r s : List Char}, Legible signatureMarks t →
      t.backward ++ r ≠ '?' :: s := by
    intro t r s ht hsame
    refine ht.head?_backward_append_ne r (c := '?') (by decide) (by decide) ?_
    rw [hsame]
    rfl
  cases ret with
  | none =>
    cases ret' with
    | none => exact ⟨rfl, (List.cons.inj h).2⟩
    | some u => exact absurd h.symm (habsent (hret' u rfl))
  | some t =>
    cases ret' with
    | none => exact absurd h (habsent (hret t rfl))
    | some u =>
      obtain ⟨rfl, hrest⟩ := hread t rfl u rfl h
      exact ⟨rfl, hrest⟩

/-- A type is read from the end of its signature, up to a mark that is not part of it. -/
theorem Legible.read_backward (ht : Legible signatureMarks t) (hu : Legible signatureMarks u)
    (hr : ∀ c ∈ r.head?, c ∈ signatureMarks) (hs : ∀ c ∈ s.head?, c ∈ signatureMarks)
    (h : t.backward ++ r = u.backward ++ s) : t = u ∧ r = s := by
  induction ht generalizing u r s with
  | scalar hscalar =>
    exact read_word (.scalar hscalar) hu (isFunction_of_mem_scalars _ hscalar) hr hs h
  | named hname => exact read_word (.named hname) hu rfl hr hs h
  | @fn ret args hret hargs ihRet ihArgs =>
    have hfn : u.isFunction = true := ((Legible.fn hret hargs).isFunction_eq hu h).symm
    obtain ⟨ret', args', rfl⟩ : ∃ ret' args', u = .fn ret' args' := ⟨_, _, isFunction_iff.mp hfn⟩
    obtain ⟨hret', hargs'⟩ := legible_fn_iff.mp hu
    rw [backward_fn, backward_fn] at h
    simp only [List.cons_append, List.append_assoc, List.cons.injEq, true_and] at h
    -- A comma goes on with the arguments, an opening parenthesis with the result.
    obtain ⟨hsame, hrest⟩ := forall₂_of_intercalate_eq (R := Eq) (by decide) (by decide) (by decide)
      (fun t ht r => (hargs t (List.mem_reverse.mp ht)).head?_backward_append_ne r (by decide)
        (by decide))
      (fun u hu r => (hargs' u (List.mem_reverse.mp hu)).head?_backward_append_ne r (by decide)
        (by decide))
      (fun t ht u hu r s => ihArgs t (List.mem_reverse.mp ht)
        (hargs' u (List.mem_reverse.mp hu))) h
    obtain rfl : args = args' := by simpa using hsame
    obtain ⟨rfl, hend⟩ := read_resultName hret' hret
      (fun t ht u hu => ihRet t ht (hret' u hu) hr hs) hrest
    exact ⟨rfl, hend⟩

/-- Types with the same signature are the same. -/
theorem Legible.eq_of_shortName_eq (ht : Legible signatureMarks t) (hu : Legible signatureMarks u)
    (h : t.shortName = u.shortName) : t = u := by
  have hback : t.backward ++ [] = u.backward ++ [] := by rw [backward, backward, h]
  exact (ht.read_backward hu (by simp) (by simp) hback).1

end ExprGraph.Ty
