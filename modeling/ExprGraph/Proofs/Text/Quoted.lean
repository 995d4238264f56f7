/-
  ExprGraph.Proofs.Text.Quoted

  Reading a text back from its quoted form.

  The first character says whether a backslash form follows, and the second which one: one of six
  letters, or `u` with a code point between braces.  Since no form begins with a quote, the first
  quote between forms is the closing one, whatever comes after it (`read_quote`).
-/

import ExprGraph.Proofs.Text.Reading
import ExprGraph.Text.Quoted

namespace ExprGraph.Text

/-! ## Digits -/

theorem digitChar_injective_below {m n : Nat} (hm : m < 16) (hn : n < 16)
    (h : Nat.digitChar m = Nat.digitChar n) : m = n := by
  have hdistinct : ∀ m < 16, ∀ n < 16, Nat.digitChar m = Nat.digitChar n → m = n := by decide
  exact hdistinct m hm n hn h

theorem toDigits_ne_of_lt_of_le {b m n : Nat} (hb : 1 < b) (hm : m < b) (hn : b ≤ n) :
    Nat.toDigits b m ≠ Nat.toDigits b n := by
  rw [Nat.toDigits_of_lt_base hm, Nat.toDigits_of_base_le hb hn]
  intro h
  have hlength := congrArg List.length h
  rw [List.length_append, List.length_singleton, List.length_singleton] at hlength
  exact Nat.toDigits_ne_nil (List.length_eq_zero_iff.mp (Nat.succ.inj hlength).symm)

/-- A number is given by its digits. -/
theorem toDigits_injective {b m n : Nat} (hb : 1 < b) (hb' : b ≤ 16)
    (h : Nat.toDigits b m = Nat.toDigits b n) : m = n := by
  induction m using Nat.strongRecOn generalizing n with
  | ind m ih =>
    rcases Nat.lt_or_ge m b with hm | hm <;> rcases Nat.lt_or_ge n b with hn | hn
    · rw [Nat.toDigits_of_lt_base hm, Nat.toDigits_of_lt_base hn] at h
      exact digitChar_injective_below (by omega) (by omega) (List.cons.inj h).1
    · exact absurd h (toDigits_ne_of_lt_of_le hb hm hn)
    · exact absurd h.symm (toDigits_ne_of_lt_of_le hb hn hm)
    · rw [Nat.toDigits_of_base_le hb hm, Nat.toDigits_of_base_le hb hn] at h
      obtain ⟨hquotient, hlast⟩ := List.append_inj' h rfl
      have hmod : m % b = n % b := by
        have hmb := Nat.mod_lt m (y := b) (by omega)
        have hnb := Nat.mod_lt n (y := b) (by omega)
        exact digitChar_injective_below (by omega) (by omega) (List.cons.inj hlast).1
      have hdiv : m / b = n / b := ih (m / b) (Nat.div_lt_self (by omega) hb) hquotient
      rw [← Nat.div_add_mod m b, ← Nat.div_add_mod n b, hdiv, hmod]

theorem forall_mem_toDigits {p : Char → Prop} {b : Nat} (hb : 1 < b)
    (hp : ∀ d < b, p (Nat.digitChar d)) (n : Nat) : ∀ c ∈ Nat.toDigits b n, p c := by
  induction n using Nat.strongRecOn with
  | ind n ih =>
    rcases Nat.lt_or_ge n b with hlt | hge
    · rw [Nat.toDigits_of_lt_base hlt]
      simpa using hp n hlt
    · rw [Nat.toDigits_of_base_le hb hge, List.forall_mem_append]
      refine ⟨ih (n / b) (Nat.div_lt_self (by omega) hb), ?_⟩
      simpa using hp (n % b) (Nat.mod_lt n (by omega))

/-! ## Characters -/

/-- The characters that are written as a backslash and a letter, with their letters. -/
def escapes : List (Char × Char) :=
  [('\x00', '0'), ('\t', 't'), ('\n', 'n'), ('\r', 'r'), ('"', '"'), ('\\', '\\')]

theorem mem_escapes {c letter : Char} (h : escapeLetter? c = some letter) :
    (c, letter) ∈ escapes := by
  unfold escapeLetter? at h
  split_ifs at h <;> cases h <;> simp [escapes, *]

/-- A letter stands for one character, and `u` for none. -/
theorem escapes_distinct :
    (∀ p ∈ escapes, ∀ q ∈ escapes, p.2 = q.2 → p = q) ∧ ∀ p ∈ escapes, p.2 ≠ 'u' := by
  decide

/-- The written form of a code point. -/
def codePoint (c : Char) : List Char :=
  '\\' :: 'u' :: '\x7b' :: (Nat.toDigits 16 c.toNat ++ ['\x7d'])

theorem quoteChar_cases (c : Char) :
    (∃ letter, (c, letter) ∈ escapes ∧ quoteChar c = ['\\', letter]) ∨
      quoteChar c = codePoint c ∨ quoteChar c = [c] ∧ c ≠ '"' ∧ c ≠ '\\' := by
  unfold quoteChar
  cases hletter : escapeLetter? c with
  | some letter => exact .inl ⟨letter, mem_escapes hletter, rfl⟩
  | none =>
    refine .inr ?_
    by_cases hprinting : isNonprinting c = true
    · exact .inl (by simp [hprinting, codePoint])
    · refine .inr ⟨by simp [hprinting], ?_, ?_⟩
      · rintro rfl
        cases hletter
      · rintro rfl
        cases hletter

theorem head?_quoteChar_append (c : Char) (r : List Char) :
    (quoteChar c ++ r).head? ≠ some '"' := by
  rcases quoteChar_cases c with ⟨letter, -, hc⟩ | hc | ⟨hc, hquote, -⟩
  · simp [hc]
  · simp [hc, codePoint]
  · simpa [hc] using hquote

theorem read_codePoint {c d : Char} {r s : List Char}
    (h : codePoint c ++ r = codePoint d ++ s) : c = d ∧ r = s := by
  have hbrace : ∀ n, '\x7d' ∉ Nat.toDigits 16 n := by
    intro n hn
    exact forall_mem_toDigits (p := (· ≠ '\x7d')) (by decide) (by decide) n _ hn rfl
  simp only [codePoint, List.cons_append, List.append_assoc, List.cons.injEq, true_and] at h
  obtain ⟨hdigits, hrest⟩ := eq_of_append_cons_eq (hbrace _) (hbrace _) h
  exact ⟨Char.toNat_inj.mp (toDigits_injective (by decide) (by decide) hdigits), hrest⟩

/-- A character is read from its written form. -/
theorem read_quoteChar {c d : Char} {r s : List Char} (h : quoteChar c ++ r = quoteChar d ++ s) :
    c = d ∧ r = s := by
  obtain ⟨hdistinct, hcode⟩ := escapes_distinct
  -- Letters, code points and plain characters against each other: two forms of different kinds
  -- differ in their first or second character.
  rcases quoteChar_cases c with ⟨letter, hletter, hc⟩ | hc | ⟨hc, -, hplain⟩ <;>
    rcases quoteChar_cases d with ⟨letter', hletter', hd⟩ | hd | ⟨hd, -, hplain'⟩ <;>
    rw [hc, hd] at h
  · obtain ⟨rfl, hrest⟩ := List.cons.inj (List.cons.inj h).2
    exact ⟨(Prod.mk.inj (hdistinct _ hletter _ hletter' rfl)).1, hrest⟩
  · exact absurd (List.cons.inj (List.cons.inj h).2).1 (hcode _ hletter)
  · exact absurd (List.cons.inj h).1.symm hplain'
  · exact absurd (List.cons.inj (List.cons.inj h).2).1.symm (hcode _ hletter')
  · exact read_codePoint h
  · exact absurd (List.cons.inj h).1.symm hplain'
  · exact absurd (List.cons.inj h).1 hplain
  · exact absurd (List.cons.inj h).1 hplain
  · exact List.cons.inj h

/-! ## Texts -/

/-- A text is read from its quoted form, whatever it contains and whatever follows. -/
theorem read_quote {a b : String} {r s : List Char}
    (h : (quote a).toList ++ r = (quote b).toList ++ s) : a = b ∧ r = s := by
  rw [toList_quote, toList_quote] at h
  simp only [List.cons_append, List.append_assoc, List.nil_append, List.cons.injEq, true_and] at h
  obtain ⟨hsame, hrest⟩ := forall₂_of_flatMap_eq (R := Eq) (p := fun _ => True)
    (fun _ _ => trivial) (fun c _ => head?_quoteChar_append c) (fun c _ => head?_quoteChar_append c)
    (fun c _ d _ r s _ _ => read_quoteChar) h
  exact ⟨String.toList_inj.mp (List.forall₂_eq_eq_eq ▸ hsame), hrest⟩

theorem quote_injective {a b : String} (h : quote a = quote b) : a = b := by
  have htext : (quote a).toList ++ [] = (quote b).toList ++ [] := by rw [h]
  exact (read_quote htext).1

end ExprGraph.Text
