/-
  ExprGraph.Proofs.Native.Literal

  The texts of values of the scalar types.

  Numbers are written with letters, digits, points and signs, whichever of their notations applies,
  and the other texts are words, `()` or quoted; so a text shows where it ends (`read_text`).
  Within one type it also gives its value back (`eq_of_text_eq`), except for floating-point numbers:
  all bits that denote no number share one text.
-/

import Mathlib
import ExprGraph.Native.Text
import ExprGraph.Proofs.Text.Quoted

namespace ExprGraph

open Text

/-! ## Numbers -/

namespace Decimal

/-- The characters of numbers in any notation. -/
def isNumeral (c : Char) : Bool := c.isAlphanum || c == '.' || c == '-'

theorem isNumeral_toDigits (n : Nat) : ∀ c ∈ Nat.toDigits 10 n, isNumeral c = true :=
  forall_mem_toDigits (by decide) (by decide) n

theorem isNumeral_toString (n : Int) : ∀ c ∈ (toString n).toList, isNumeral c = true := by
  have hrepr : toString n = n.repr := rfl
  rw [hrepr, Int.repr_eq_if]
  split
  · rw [Nat.toList_repr]
    exact isNumeral_toDigits _
  · rw [String.toList_append, Nat.toList_repr, List.forall_mem_append]
    exact ⟨List.all_eq_true.mp (by decide), isNumeral_toDigits _⟩

theorem isNumeral_zeros (n : Nat) : ∀ c ∈ zeros n, isNumeral c = true := by
  intro c hc
  rw [List.eq_of_mem_replicate hc]
  decide

variable {ds : List Char}

theorem isNumeral_positional (hds : ∀ c ∈ ds, isNumeral c = true) (e : Int) :
    ∀ c ∈ positional ds e, isNumeral c = true := by
  rw [positional]
  split
  · rw [List.forall_mem_append, List.forall_mem_append]
    exact ⟨⟨List.all_eq_true.mp (by decide), isNumeral_zeros _⟩, hds⟩
  · simp only
    split
    · rw [List.forall_mem_append, List.forall_mem_append]
      exact ⟨⟨hds, isNumeral_zeros _⟩, List.all_eq_true.mp (by decide)⟩
    · rw [List.forall_mem_append, List.forall_mem_cons]
      exact ⟨fun c hc => hds c (List.mem_of_mem_take hc), by decide,
        fun c hc => hds c (List.mem_of_mem_drop hc)⟩

theorem isNumeral_scientific (hds : ∀ c ∈ ds, isNumeral c = true) (e : Int) :
    ∀ c ∈ scientific ds e, isNumeral c = true := by
  rw [scientific, List.forall_mem_append, List.forall_mem_append, List.forall_mem_cons]
  refine ⟨⟨fun c hc => hds c (List.mem_of_mem_take hc), ?_⟩, by decide, isNumeral_toString e⟩
  split
  · simp
  · rw [List.forall_mem_cons]
    exact ⟨by decide, fun c hc => hds c (List.mem_of_mem_drop hc)⟩

theorem isNumeral_render (d : Decimal) : ∀ c ∈ d.render, isNumeral c = true := by
  rw [render]
  split
  · exact isNumeral_positional (isNumeral_toDigits _) _
  · exact isNumeral_scientific (isNumeral_toDigits _) _

theorem isNumeral_datumText (d : Datum) : ∀ c ∈ d.text.toList, isNumeral c = true := by
  cases d with
  | nan => exact List.all_eq_true.mp (by decide)
  | infinity negative => cases negative <;> exact List.all_eq_true.mp (by decide)
  | finite negative x =>
    have hmagnitude : ∀ c ∈ if x.m = 0 then ['0', '.', '0'] else x.shortest.render,
        isNumeral c = true := by
      split
      · exact List.all_eq_true.mp (by decide)
      · exact isNumeral_render _
    rw [Datum.text, String.toList_ofList]
    split
    · rw [List.forall_mem_cons]
      exact ⟨by decide, hmagnitude⟩
    · exact hmagnitude

end Decimal

/-! ## Values of scalar types -/

/-- The native types of the scalars. -/
def NativeTy.literals : List NativeTy := [.unit, .bool, .int32, .int, .float32, .float, .string]

theorem NativeTy.descr_literal_injective :
    ∀ t ∈ literals, ∀ u ∈ literals, t.descr = u.descr → t = u := by
  decide

namespace NativeValue

open NativeTy

variable {address : NativeValue → String} {v w : NativeValue} {r s : List Char}

/-- Outside quotes, the text of a value does not hold a closing bracket. -/
theorem not_mem_text (h : v.type ∈ literals) (hquoted : v.type ≠ .string) :
    '>' ∉ (v.text address).toList := by
  have hnumeral : ∀ {l : List Char}, (∀ c ∈ l, Decimal.isNumeral c = true) → '>' ∉ l := by
    intro l hl hc
    cases hl _ hc
  obtain ⟨type, x⟩ := v
  cases type with
  | unit => simp [text, textOf]
  | bool =>
    have hword : ∀ b : Bool, ∀ c ∈ (cond b "true" "false").toList, Decimal.isNumeral c = true := by
      rintro (_ | _) <;> exact List.all_eq_true.mp (by decide)
    exact hnumeral (hword x)
  | int32 => exact hnumeral (Decimal.isNumeral_toString _)
  | int => exact hnumeral (Decimal.isNumeral_toString _)
  | float32 => exact hnumeral (Decimal.isNumeral_datumText _)
  | float => exact hnumeral (Decimal.isNumeral_datumText _)
  | string => exact absurd rfl hquoted
  | fn => simp [literals] at h
  | record => simp [literals] at h

/-- A text is read up to a closing bracket. -/
theorem read_text (h : v.type ∈ literals) (htype : v.type = w.type)
    (htext : (v.text address).toList ++ '>' :: r = (w.text address).toList ++ '>' :: s) :
    v.text address = w.text address ∧ r = s := by
  by_cases hquoted : v.type = .string
  · obtain ⟨type, a⟩ := v
    obtain ⟨type', b⟩ := w
    obtain rfl : type = .string := hquoted
    obtain rfl : NativeTy.string = type' := htype
    have hquote : (quote a).toList ++ '>' :: r = (quote b).toList ++ '>' :: s := htext
    obtain ⟨hsame, hrest⟩ := read_quote hquote
    exact ⟨congrArg quote hsame, (List.cons.inj hrest).2⟩
  · have hw : '>' ∉ (w.text address).toList := not_mem_text (htype ▸ h) (htype ▸ hquoted)
    obtain ⟨hsame, hrest⟩ := eq_of_append_cons_eq (not_mem_text h hquoted) hw htext
    exact ⟨String.toList_inj.mp hsame, hrest⟩

/-- A value that is not a floating-point number is given by its type and its text. -/
theorem eq_of_text_eq (h : v.type ∈ literals) (htype : v.type = w.type)
    (hsingle : v.type ≠ .float32) (hdouble : v.type ≠ .float)
    (htext : v.text address = w.text address) : v = w := by
  obtain ⟨type, x⟩ := v
  obtain ⟨type', y⟩ := w
  obtain rfl : type = type' := htype
  cases type with
  | unit => rfl
  | bool =>
    have hword : ∀ a b : Bool, cond a "true" "false" = cond b "true" "false" → a = b := by decide
    rw [hword x y htext]
  | int32 => exact congrArg _ (Int32.toInt_inj.mp (Int.repr_inj.mp htext))
  | int => exact congrArg _ (Int64.toInt_inj.mp (Int.repr_inj.mp htext))
  | float32 => exact absurd rfl hsingle
  | float => exact absurd rfl hdouble
  | string =>
    have hquote : quote x = quote y := htext
    rw [quote_injective hquote]
  | fn => simp [literals] at h
  | record => simp [literals] at h

end NativeValue

end ExprGraph
