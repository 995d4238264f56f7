/-
  ExprGraph.Proofs.Expr.Display

  Reading a tree back from its text on one line.

  The kind after the opening bracket says which fields follow, and each field ends where the label
  of the next one begins: names and signatures hold no blank and no bracket, a number holds no
  closing one, a quoted text ends with its quote, and a tree below ends with its own bracket.  So a
  tree is read as a whole, whatever comes after it (`Expr.read_display`).  A function shows only the
  names of its parameters; their types come back from its signature.

  How addresses are written is up to the run of the program, so it is a parameter, of which only one
  thing is assumed: an address is a word (`WrittenAsWords`), whose end is the blank before a machine
  operation or the bracket that closes the node.

  The relation `Expr.Alike` lists what the text does not tell: where nodes were read, which of them
  are shared, the flags of primitives, the native functions behind the same address, and the bits of
  floating-point numbers behind the same decimal.
-/

import ExprGraph.Expr.Display
import ExprGraph.Proofs.Expr.Signature
import ExprGraph.Proofs.Native.Literal

namespace ExprGraph

open Text Ty

/-! ## Trees that look alike -/

/-- Trees of the same form that agree at every node in kind, name and type, in the names and types
    of parameters, in the text of constants, and in the address and the machine operation of
    primitives.  Constants that are no floating-point numbers agree in their values too. -/
inductive Expr.Alike (address : NativeValue → String) : Expr → Expr → Prop where
  | const {v w : NativeValue} (htype : v.type = w.type) (htext : v.text address = w.text address)
      (hvalue : v.type ≠ .float32 → v.type ≠ .float → v = w) : Alike address (.const v) (.const w)
  | prim {p q : Primitive} (hname : p.name = q.name) (htype : p.type = q.type)
      (hresult : p.result = q.result) (haddress : address p.function = address q.function)
      (hintrinsic : p.intrinsic = q.intrinsic) : Alike address (.prim p) (.prim q)
  | apply {type : Ty} {fn fn' : Expr} {args args' : List Expr} (hfn : Alike address fn fn')
      (hargs : List.Forall₂ (Alike address) args args') :
      Alike address (.apply type fn args) (.apply type fn' args')
  | var {v w : Variable} (hname : v.name = w.name) (htype : v.type = w.type) :
      Alike address (.var v) (.var w)
  | lambda {name : String} {type : Ty} {signature : String} {params params' : List Variable}
      {body body' : Expr}
      (hparams : List.Forall₂ (fun v w => v.name = w.name ∧ v.type = w.type) params params')
      (hbody : Alike address body body') :
      Alike address (.lambda name type signature params body)
        (.lambda name type signature params' body')

/-! ## Plain names -/

/-- The characters by which a display shows where a field or a node ends. -/
def displayMarks : List Char := [' ', '<', '>', '[', ']']

/-- The types whose named types have plain names. -/
def Ty.Plain (t : Ty) : Prop := t.Legible (signatureMarks ++ displayMarks)

/-- The characters by which a primitive shows where the address of its function ends. -/
def addressMarks : List Char := [' ', '>']

/-- Every address is written as one word. -/
def WrittenAsWords (address : NativeValue → String) : Prop :=
  ∀ v, ∀ c ∈ (address v).toList, c ∉ addressMarks

/-- A name that is one word in a display. -/
def PlainName (name : String) : Prop := ∀ c ∈ name.toList, c ∉ displayMarks

/-- A node that shows nothing but plain names, plain types and the values of scalars. -/
def Expr.Plain : Expr → Prop
  | .const value => value.type ∈ NativeTy.literals
  | .prim p => PlainName p.name ∧ p.type.Plain
  | .apply type _ _ => type.Plain
  | .var v => PlainName v.name ∧ v.type.Plain
  | .lambda name type _ _ _ => PlainName name ∧ type.Plain

/-- A tree from the builders in which every node is plain. -/
structure Expr.Readable (e : Expr) : Prop where
  constructible : Constructible e
  plain : ∀ n ∈ e.preorder, n.Plain

namespace Expr.Readable

variable {e fn body arg : Expr} {args : List Expr} {name signature : String} {type : Ty}
  {params : List Variable} {v : Variable}

theorem plain_self (h : e.Readable) : e.Plain := h.plain e e.mem_preorder_self

theorem fn_of_apply (h : (apply type fn args).Readable) : fn.Readable where
  constructible := (Constructible.apply_iff.mp h.constructible).1
  plain n hn := h.plain n (mem_preorder_apply.mpr (.inr (.inl hn)))

theorem arg_of_apply (h : (apply type fn args).Readable) (harg : arg ∈ args) : arg.Readable where
  constructible := (Constructible.apply_iff.mp h.constructible).2.1 arg harg
  plain n hn := h.plain n (mem_preorder_apply.mpr (.inr (.inr ⟨arg, harg, hn⟩)))

theorem body_of_lambda (h : (lambda name type signature params body).Readable) : body.Readable where
  constructible := (Constructible.lambda_iff.mp h.constructible).2.1
  plain n hn := h.plain n (mem_preorder_lambda.mpr (.inr (.inr hn)))

theorem param_of_lambda (h : (lambda name type signature params body).Readable)
    (hv : v ∈ params) : v.name ≠ "" ∧ PlainName v.name := by
  have hnode : var v ∈ (lambda name type signature params body).preorder :=
    mem_preorder_lambda.mpr (.inr (.inl (List.mem_map_of_mem hv)))
  exact ⟨(h.constructible.of_mem_preorder _ hnode).wellTyped, (h.plain _ hnode).1⟩

end Expr.Readable

variable {address : NativeValue → String} {r s : List Char}

/-! ## Fields -/

theorem PlainName.not_mem {name : String} (h : PlainName name) {c : Char} (hc : c ∈ displayMarks) :
    c ∉ name.toList := fun hmem => h c hmem hc

theorem Ty.Plain.not_mem {t : Ty} (h : t.Plain) {c : Char} (hc : c ∈ displayMarks) :
    c ∉ t.shortName.toList := by
  have hmarks : displayMarks.all (fun c => !c.isAlphanum && c ∉ signatureMarks) = true := by decide
  have hc' := List.all_eq_true.mp hmarks c hc
  simp only [Bool.and_eq_true, Bool.not_eq_true', decide_eq_true_eq] at hc'
  intro hmem
  rcases Legible.mem_shortName h hmem with halnum | hmark | hname
  · exact Bool.false_ne_true (hc'.1.symm.trans halnum)
  · exact hc'.2 hmark
  · exact hname (List.mem_append_right _ hc)

/-- A name is read up to the label after it. -/
theorem PlainName.read {label m n : String} (stop : Char) (hm : PlainName m) (hn : PlainName n)
    (hlabel : label.toList.head? = some stop) (hstop : stop ∈ displayMarks)
    (h : m.toList ++ (label.toList ++ r) = n.toList ++ (label.toList ++ s)) :
    m = n ∧ r = s := by
  obtain ⟨hsame, hrest⟩ := eq_of_append_label_eq hlabel (hm.not_mem hstop) (hn.not_mem hstop) h
  exact ⟨String.toList_inj.mp hsame, hrest⟩

/-- A type is read up to the label after it. -/
theorem Ty.Plain.read {label : String} {t u : Ty} (stop : Char) (ht : t.Plain) (hu : u.Plain)
    (hlabel : label.toList.head? = some stop) (hstop : stop ∈ displayMarks)
    (h : t.shortName.toList ++ (label.toList ++ r) = u.shortName.toList ++ (label.toList ++ s)) :
    t = u ∧ r = s := by
  obtain ⟨hsame, hrest⟩ := eq_of_append_label_eq hlabel (ht.not_mem hstop) (hu.not_mem hstop) h
  have hmarks : signatureMarks ⊆ signatureMarks ++ displayMarks := List.subset_append_left ..
  have hshort : t.shortName = u.shortName := String.toList_inj.mp hsame
  exact ⟨(Legible.mono hmarks ht).eq_of_shortName_eq (Legible.mono hmarks hu) hshort, hrest⟩

/-- Items with blanks between them are read up to the closing bracket. -/
theorem read_items {α : Type} {R : α → α → Prop} {f : α → String} {xs ys : List α}
    (hopen : ∀ x ∈ xs, ∀ t, ((f x).toList ++ t).head? ≠ some ']')
    (hopen' : ∀ y ∈ ys, ∀ t, ((f y).toList ++ t).head? ≠ some ']')
    (hread : ∀ x ∈ xs, ∀ y ∈ ys, ∀ r s, (∀ c ∈ r.head?, c ∈ displayMarks) →
      (∀ c ∈ s.head?, c ∈ displayMarks) → (f x).toList ++ r = (f y).toList ++ s → R x y ∧ r = s)
    (h : (" ".intercalate (xs.map f)).toList ++ ']' :: r =
      (" ".intercalate (ys.map f)).toList ++ ']' :: s) : List.Forall₂ R xs ys ∧ r = s := by
  rw [String.toList_intercalate, String.toList_intercalate, List.map_map, List.map_map] at h
  exact forall₂_of_intercalate_eq (by decide) (by decide) (by decide) hopen hopen' hread h

/-- The names of parameters are read up to the closing bracket. -/
theorem read_params {params params' : List Variable}
    (h : ∀ v ∈ params, v.name ≠ "" ∧ PlainName v.name)
    (h' : ∀ v ∈ params', v.name ≠ "" ∧ PlainName v.name)
    (htext : (" ".intercalate (params.map (·.name))).toList ++ ']' :: r =
      (" ".intercalate (params'.map (·.name))).toList ++ ']' :: s) :
    List.Forall₂ (fun v w => v.name = w.name) params params' ∧ r = s := by
  have hopen : ∀ {v : Variable}, v.name ≠ "" ∧ PlainName v.name →
      ∀ t, (v.name.toList ++ t).head? ≠ some ']' := by
    rintro v ⟨hne, hplain⟩ t
    obtain ⟨c, cs, hcs⟩ := List.exists_cons_of_ne_nil (l := v.name.toList) (by simpa using hne)
    rw [hcs]
    rintro ⟨⟩
    exact hplain ']' (by rw [hcs]; exact List.mem_cons_self ..) (by decide)
  refine read_items (fun v hv => hopen (h v hv)) (fun v hv => hopen (h' v hv)) ?_ htext
  intro v hv w hw r s hr hs heq
  obtain ⟨hsame, hrest⟩ := eq_of_append_eq (h v hv).2 (h' w hw).2 hr hs heq
  exact ⟨String.toList_inj.mp hsame, hrest⟩

/-- After an address comes the blank before a machine operation, or the closing bracket. -/
theorem head?_intrinsic (i : Intrinsic) (r : List Char) :
    ∀ c ∈ ((if i.isBuiltin then " :intrinsic " ++ i.name else "").toList ++ '>' :: r).head?,
      c ∈ addressMarks := by
  split <;> simp [addressMarks]

/-- The address of a native function is read up to the next mark. -/
theorem WrittenAsWords.read {v w : NativeValue} (h : WrittenAsWords address)
    (hr : ∀ c ∈ r.head?, c ∈ addressMarks) (hs : ∀ c ∈ s.head?, c ∈ addressMarks)
    (htext : (address v).toList ++ r = (address w).toList ++ s) :
    address v = address w ∧ r = s := by
  obtain ⟨hsame, hrest⟩ := eq_of_append_eq (h v) (h w) hr hs htext
  exact ⟨String.toList_inj.mp hsame, hrest⟩

/-- A machine operation is shown if there is one. -/
theorem read_intrinsic {i j : Intrinsic}
    (h : (if i.isBuiltin then " :intrinsic " ++ i.name else "").toList ++ '>' :: r =
      (if j.isBuiltin then " :intrinsic " ++ j.name else "").toList ++ '>' :: s) :
    i = j ∧ r = s := by
  have hname : ∀ k : Intrinsic, '>' ∉ k.name.toList := by
    intro k
    cases k <;> decide
  have hnone : ∀ k : Intrinsic, ¬ k.isBuiltin = true → k = .none := by
    intro k hk
    simpa [Intrinsic.isBuiltin] using hk
  by_cases hi : i.isBuiltin = true <;> by_cases hj : j.isBuiltin = true
  · rw [if_pos hi, if_pos hj] at h
    simp only [String.toList_append, List.append_assoc] at h
    obtain ⟨hsame, hrest⟩ := eq_of_append_cons_eq (hname i) (hname j) (List.append_cancel_left h)
    exact ⟨Intrinsic.name_injective (String.toList_inj.mp hsame), hrest⟩
  · simp [hi, hj] at h
  · simp [hi, hj] at h
  · rw [if_neg hi, if_neg hj] at h
    exact ⟨(hnone i hi).trans (hnone j hj).symm, (List.cons.inj h).2⟩

/-! ## Nodes -/

namespace Expr

/-- A text begins with the kind of the node. -/
theorem exists_toList_display (address : NativeValue → String) (e : Expr) :
    ∃ fields, (e.display address).toList = '<' :: (e.kind.tag.toList ++ ' ' :: fields) := by
  cases e <;>
    simp [display_const, display_prim, display_var, display_lambda, display_apply, Kind.tag]

theorem kind_eq_of_display {e e' : Expr}
    (h : (e.display address).toList ++ r = (e'.display address).toList ++ s) :
    e.kind = e'.kind := by
  have hblank : ∀ k : Kind, ' ' ∉ k.tag.toList := by
    intro k
    cases k <;> decide
  obtain ⟨fields, he⟩ := e.exists_toList_display address
  obtain ⟨fields', he'⟩ := e'.exists_toList_display address
  rw [he, he'] at h
  simp only [List.cons_append, List.append_assoc, List.cons.injEq, true_and] at h
  obtain ⟨htag, -⟩ := eq_of_append_cons_eq (hblank _) (hblank _) h
  exact Kind.tag_injective (String.toList_inj.mp htag)

theorem read_const {v w : NativeValue} (hv : (const v).Readable) (hw : (const w).Readable)
    (h : ((const v).display address).toList ++ r = ((const w).display address).toList ++ s) :
    Alike address (.const v) (.const w) ∧ r = s := by
  have hplain : ∀ t ∈ NativeTy.literals, t.descr.Plain := by
    have hscalar : ∀ t ∈ NativeTy.literals, t.descr ∈ scalars := by decide
    exact fun t ht => .scalar (hscalar t ht)
  have hvtype : v.type ∈ NativeTy.literals := hv.plain_self
  have hwtype : w.type ∈ NativeTy.literals := hw.plain_self
  rw [display_const, display_const] at h
  simp only [String.toList_append, List.append_assoc] at h
  obtain ⟨hdescr, h⟩ := (hplain _ hvtype).read ' ' (hplain _ hwtype) rfl (by decide)
    (List.append_cancel_left h)
  have htype : v.type = w.type := NativeTy.descr_literal_injective _ hvtype _ hwtype hdescr
  obtain ⟨htext, h⟩ := NativeValue.read_text hvtype htype h
  exact ⟨.const htype htext (NativeValue.eq_of_text_eq hvtype htype · · htext), h⟩

theorem read_prim {p q : Primitive} (hwords : WrittenAsWords address) (hp : (prim p).Readable)
    (hq : (prim q).Readable)
    (h : ((prim p).display address).toList ++ r = ((prim q).display address).toList ++ s) :
    Alike address (.prim p) (.prim q) ∧ r = s := by
  obtain ⟨hpname, hptype⟩ := hp.plain_self
  obtain ⟨hqname, hqtype⟩ := hq.plain_self
  rw [display_prim, display_prim] at h
  simp only [String.toList_append, List.append_assoc] at h
  obtain ⟨hname, h⟩ := hpname.read ' ' hqname rfl (by decide) (List.append_cancel_left h)
  obtain ⟨htype, h⟩ := hptype.read ' ' hqtype rfl (by decide) h
  obtain ⟨haddress, h⟩ := hwords.read (head?_intrinsic _ r) (head?_intrinsic _ s) h
  obtain ⟨hintrinsic, h⟩ := read_intrinsic h
  have hresult : p.result = q.result := by
    obtain ⟨-, -, hpfn⟩ := hp.constructible.wellTyped
    obtain ⟨-, -, hqfn⟩ := hq.constructible.wellTyped
    rw [hpfn, hqfn, Ty.fn.injEq, Option.some.injEq] at htype
    exact htype.1
  exact ⟨.prim hname htype hresult haddress hintrinsic, h⟩

theorem read_var {v w : Variable} (hv : (var v).Readable) (hw : (var w).Readable)
    (h : ((var v).display address).toList ++ r = ((var w).display address).toList ++ s) :
    Alike address (.var v) (.var w) ∧ r = s := by
  obtain ⟨hvname, hvtype⟩ := hv.plain_self
  obtain ⟨hwname, hwtype⟩ := hw.plain_self
  rw [display_var, display_var] at h
  simp only [String.toList_append, List.append_assoc] at h
  obtain ⟨hname, h⟩ := hvname.read ' ' hwname rfl (by decide) (List.append_cancel_left h)
  obtain ⟨htype, h⟩ := hvtype.read '>' hwtype rfl (by decide) h
  exact ⟨.var hname htype, h⟩

section

variable {name name' signature signature' : String} {type type' : Ty}
  {params params' : List Variable} {body body' fn fn' : Expr} {args args' : List Expr}

/-- A function is read with its body.  The types of the parameters are those in its signature. -/
theorem read_lambda (hf : (lambda name type signature params body).Readable)
    (hg : (lambda name' type' signature' params' body').Readable)
    (hread : ∀ {r s}, (body.display address).toList ++ r = (body'.display address).toList ++ s →
      body.Alike address body' ∧ r = s)
    (h : ((lambda name type signature params body).display address).toList ++ r =
      ((lambda name' type' signature' params' body').display address).toList ++ s) :
    Alike address (.lambda name type signature params body)
      (.lambda name' type' signature' params' body') ∧ r = s := by
  obtain ⟨-, -, hfn, rfl⟩ := hf.constructible.wellTyped
  obtain ⟨-, -, hfn', rfl⟩ := hg.constructible.wellTyped
  obtain ⟨hfname, hftype⟩ := hf.plain_self
  obtain ⟨hgname, hgtype⟩ := hg.plain_self
  have hlabel : "] :body ".toList = ']' :: " :body ".toList := rfl
  rw [display_lambda, display_lambda] at h
  simp only [String.toList_append, List.append_assoc, hlabel, List.cons_append] at h
  obtain ⟨hname, h⟩ := hfname.read ' ' hgname rfl (by decide) (List.append_cancel_left h)
  obtain ⟨htype, h⟩ := hftype.read ' ' hgtype rfl (by decide) h
  obtain ⟨hnames, h⟩ := read_params (fun v => hf.param_of_lambda) (fun v => hg.param_of_lambda) h
  obtain ⟨hbody, h⟩ := hread (List.append_cancel_left h)
  have htypes : List.Forall₂ (fun v w => v.type = w.type) params params' := by
    rw [hfn, hfn', Ty.fn.injEq, ← List.forall₂_eq_eq_eq, List.forall₂_map_left_iff,
      List.forall₂_map_right_iff] at htype
    exact htype.2
  have hrest : r = s := (List.cons.inj h).2
  subst hname htype
  exact ⟨.lambda (.mp (fun _ _ => And.intro) hnames htypes) hbody, hrest⟩

theorem read_apply (hf : (apply type fn args).Readable) (hg : (apply type' fn' args').Readable)
    (hreadFn : ∀ {r s}, (fn.display address).toList ++ r = (fn'.display address).toList ++ s →
      fn.Alike address fn' ∧ r = s)
    (hreadArgs : ∀ arg ∈ args, ∀ arg' ∈ args', ∀ {r s},
      (arg.display address).toList ++ r = (arg'.display address).toList ++ s →
        arg.Alike address arg' ∧ r = s)
    (h : ((apply type fn args).display address).toList ++ r =
      ((apply type' fn' args').display address).toList ++ s) :
    Alike address (.apply type fn args) (.apply type' fn' args') ∧ r = s := by
  have hopen : ∀ (e : Expr) (t : List Char),
      ((e.display address).toList ++ t).head? ≠ some ']' := by
    intro e t
    obtain ⟨fields, he⟩ := e.exists_toList_display address
    simp [he]
  have hlabel : "]>".toList = ']' :: ">".toList := rfl
  rw [display_apply, display_apply] at h
  simp only [String.toList_append, List.append_assoc, hlabel, List.cons_append] at h
  obtain ⟨htype, h⟩ := hf.plain_self.read ' ' hg.plain_self rfl (by decide)
    (List.append_cancel_left h)
  obtain ⟨hfn, h⟩ := hreadFn h
  obtain ⟨hargs, h⟩ := read_items (R := Alike address) (fun e _ => hopen e) (fun e _ => hopen e)
    (fun arg harg arg' harg' r s _ _ => hreadArgs arg harg arg' harg') (List.append_cancel_left h)
  have hrest : r = s := (List.cons.inj h).2
  subst htype
  exact ⟨.apply hfn hargs, hrest⟩

end

/-- A tree is read from its text, whatever comes after it. -/
theorem read_display {e e' : Expr} (hwords : WrittenAsWords address) (he : e.Readable)
    (he' : e'.Readable) (h : (e.display address).toList ++ r = (e'.display address).toList ++ s) :
    e.Alike address e' ∧ r = s := by
  -- Induction on the first tree; the second has the same kind.
  induction e generalizing e' r s with
  | const v =>
    cases e' with
    | const w => exact read_const he he' h
    | _ => cases kind_eq_of_display h
  | prim p =>
    cases e' with
    | prim q => exact read_prim hwords he he' h
    | _ => cases kind_eq_of_display h
  | var v =>
    cases e' with
    | var w => exact read_var he he' h
    | _ => cases kind_eq_of_display h
  | lambda name type signature params body ih =>
    cases e' with
    | lambda name' type' signature' params' body' =>
      exact read_lambda he he' (ih he.body_of_lambda he'.body_of_lambda) h
    | _ => cases kind_eq_of_display h
  | apply type fn args ihFn ihArgs =>
    cases e' with
    | apply type' fn' args' =>
      exact read_apply he he' (ihFn he.fn_of_apply he'.fn_of_apply)
        (fun arg harg arg' harg' =>
          ihArgs arg harg (he.arg_of_apply harg) (he'.arg_of_apply harg')) h
    | _ => cases kind_eq_of_display h

/-- Trees that look alike have the same text. -/
theorem Alike.display_eq {e e' : Expr} (h : e.Alike address e') :
    e.display address = e'.display address := by
  induction e generalizing e' with
  | const v =>
    cases h with
    | const htype htext _ => rw [display_const, display_const, htype, htext]
  | prim p =>
    cases h with
    | prim hname htype _ haddress hintrinsic =>
      rw [display_prim, display_prim, hname, htype, haddress, hintrinsic]
  | var v =>
    cases h with
    | var hname htype => rw [display_var, display_var, hname, htype]
  | lambda name type signature params body ih =>
    cases h with
    | @lambda _ _ _ _ params' _ _ hparams hbody =>
      have hnames : params.map (·.name) = params'.map (·.name) := by
        rw [← List.forall₂_eq_eq_eq, List.forall₂_map_left_iff, List.forall₂_map_right_iff]
        exact hparams.imp fun _ _ => And.left
      rw [display_lambda, display_lambda, hnames, ih hbody]
  | apply type fn args ihFn ihArgs =>
    cases h with
    | @apply _ _ _ _ args' hfn hargs =>
      have hdisplays : args.map (display address) = args'.map (display address) := by
        rw [← List.forall₂_eq_eq_eq, List.forall₂_map_left_iff, List.forall₂_map_right_iff]
        exact ((List.forall₂_and_left args args').mpr ⟨ihArgs, hargs⟩).imp fun _ _ h => h.1 h.2
      rw [display_apply, display_apply, ihFn hfn, hdisplays]

/-- The text of a readable tree determines it: in a run that writes addresses as words, two such
    trees have the same text exactly if they look alike. -/
theorem display_eq_iff_alike {e e' : Expr} (hwords : WrittenAsWords address) (he : e.Readable)
    (he' : e'.Readable) : e.display address = e'.display address ↔ e.Alike address e' := by
  constructor
  · intro h
    have htext : (e.display address).toList ++ [] = (e'.display address).toList ++ [] := by rw [h]
    exact (read_display hwords he he' htext).1
  · exact Alike.display_eq

/-! ## An example -/

instance (t : Ty) : Decidable t.Plain :=
  inferInstanceAs (Decidable (t.Legible (signatureMarks ++ displayMarks)))

instance (name : String) : Decidable (PlainName name) :=
  decidable_of_iff (name.toList.all (· ∉ displayMarks) = true) (by simp [PlainName])

instance : DecidablePred Expr.Plain
  | .const value => inferInstanceAs (Decidable (value.type ∈ NativeTy.literals))
  | .prim p => inferInstanceAs (Decidable (PlainName p.name ∧ p.type.Plain))
  | .apply type _ _ => inferInstanceAs (Decidable type.Plain)
  | .var v => inferInstanceAs (Decidable (PlainName v.name ∧ v.type.Plain))
  | .lambda name type _ _ _ => inferInstanceAs (Decidable (PlainName name ∧ type.Plain))

/-- A second addition of two integers, compiled under another symbol. -/
def sampleSum : NativeValue :=
  ⟨.fn .host .int [.int, .int], ⟨"sum", fun (x y : Int64) => x + y⟩⟩

/-- The addresses in a run of a program in which the two additions begin at the given places. -/
def sampleAddresses (add sum : String) : NativeValue → String
  | ⟨.fn _ _ _, f⟩ => if f.symbol = "add" then add else sum
  | _ => sum

/-- The second addition of two variables with the same name, with a flag set at the addition. -/
def sampleUnsharedBody : Expr :=
  .apply .int
    (.prim { Constructible.samplePrimitive with function := sampleSum, explicitSymbol := true })
    [.var ⟨2, "x", .int, some ⟨4, 5⟩⟩, .var ⟨3, "x", .int, some ⟨8, 9⟩⟩]

/-- The function that doubles an integer, with a node for each of its three variables. -/
def sampleUnshared : Expr :=
  .lambda "double" (.fn (some .int) [.int]) "int(int)" [⟨1, "x", .int, some ⟨0, 1⟩⟩]
    sampleUnsharedBody

theorem readable_sampleLambda : Constructible.sampleLambda.Readable where
  constructible := Constructible.constructible_sampleLambda
  plain := by decide +kernel

theorem readable_sampleUnshared : sampleUnshared.Readable where
  constructible := by
    have hvar : ∀ id span, Constructible (.var ⟨id, "x", .int, span⟩) := fun id span =>
      Constructible.var_iff.mpr (by decide : "x" ≠ "")
    have hbuilt : Primitive.build "add" sampleSum =
        .ok { Constructible.samplePrimitive with function := sampleSum } := rfl
    have hbody : Constructible sampleUnsharedBody :=
      Constructible.apply_iff.mpr ⟨.prim hbuilt true .none, by simp [hvar], rfl⟩
    exact Constructible.lambda_iff.mpr ⟨by simp [hvar], hbody, by decide, by decide, rfl, rfl⟩
  plain := by decide +kernel

theorem writtenAsWords_sampleAddresses {add sum : String}
    (hadd : ∀ c ∈ add.toList, c ∉ addressMarks) (hsum : ∀ c ∈ sum.toList, c ∉ addressMarks) :
    WrittenAsWords (sampleAddresses add sum) := by
  intro v
  fun_cases sampleAddresses <;> assumption

/-- Where both additions are the same machine code at one address, the functions cannot be told
    apart; where each has an address of its own, they can. -/
theorem display_eq_iff_alike_samples :
    let merged := sampleAddresses "0x401000" "0x401000"
    let apart := sampleAddresses "0x401000" "0x401040"
    (Constructible.sampleLambda.display merged = sampleUnshared.display merged ∧
      Constructible.sampleLambda.Alike merged sampleUnshared) ∧
    ¬ Constructible.sampleLambda.Alike apart sampleUnshared ∧
      Constructible.sampleLambda.display apart ≠ sampleUnshared.display apart := by
  intro merged apart
  have hword : ∀ c ∈ "0x401000".toList, c ∉ addressMarks := by simp [addressMarks]
  have hword' : ∀ c ∈ "0x401040".toList, c ∉ addressMarks := by simp [addressMarks]
  have hmerged : WrittenAsWords merged := writtenAsWords_sampleAddresses hword hword
  have hapart : WrittenAsWords apart := writtenAsWords_sampleAddresses hword hword'
  have htext : Constructible.sampleLambda.display merged = sampleUnshared.display merged := by
    have haddress : merged Constructible.samplePrimitive.function = merged sampleSum := rfl
    simp [Constructible.sampleLambda, Constructible.sampleBody, Constructible.sampleVariable,
      sampleUnshared, sampleUnsharedBody, display_lambda, display_apply, display_prim, display_var,
      haddress]
  have hdiffers : ¬ Constructible.sampleLambda.Alike apart sampleUnshared := by
    intro h
    cases h with
    | lambda _ hbody =>
      cases hbody with
      | apply hfn _ =>
        cases hfn with
        | prim _ _ _ haddress _ => exact absurd haddress (by decide)
  refine ⟨⟨htext, ?_⟩, hdiffers, ?_⟩
  · exact (display_eq_iff_alike hmerged readable_sampleLambda readable_sampleUnshared).mp htext
  · intro h
    exact hdiffers
      ((display_eq_iff_alike hapart readable_sampleLambda readable_sampleUnshared).mp h)

end Expr

end ExprGraph
