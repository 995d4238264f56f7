/-
  ExprGraph.Proofs.Json.Stored

  The stored forms lose nothing and admit nothing out of range.

  For each of the four stored things a relation says which JSON values are forms of it: a name as a
  text or as the key of a null, a span as an object or as an array of its two ends, a path as an
  object in an object.  Reading decides that relation (`Kind.ofJson?_eq_some_iff` and its siblings),
  so what is written is read back, fields beside the ones that count make no difference, and what is
  admitted can be said without the reader (`stored_forms_exact`).
-/

import ExprGraph.Json.Codec

namespace ExprGraph

/-! ## Values -/

namespace Json

/-- An integer from zero up to a bound, which is left out. -/
def IsNatBelow (bound : Nat) (j : Json) : Prop := ∃ n : Int, j = .int n ∧ 0 ≤ n ∧ n < bound

variable {j : Json} {bound : Nat}

/-- What is read as a natural number is the integer of that number. -/
theorem natBelow?_eq_some_iff {n : Nat} : j.natBelow? bound = some n ↔ j = nat n ∧ n < bound := by
  cases j with
  | int i =>
    cases i with
    | ofNat m =>
      simp only [natBelow?, nat, Json.int.injEq, Int.ofNat.injEq]
      grind
    | negSucc m => simp [natBelow?, nat]
  | _ => simp [natBelow?, nat]

/-- A value stands for a word exactly if it is the integer of that word. -/
theorem map_natBelow?_eq_some_iff {Word : Type} {ofNat : Nat → Word} {toNat : Word → Nat}
    (hlt : ∀ w, toNat w < bound) (hword : ∀ w, ofNat (toNat w) = w)
    (hnat : ∀ n, n < bound → toNat (ofNat n) = n) {w : Word} :
    (j.natBelow? bound).map ofNat = some w ↔ j = nat (toNat w) := by
  simp only [Option.map_eq_some_iff, natBelow?_eq_some_iff]
  constructor
  · rintro ⟨n, ⟨rfl, hn⟩, rfl⟩
    rw [hnat n hn]
  · rintro rfl
    exact ⟨toNat w, ⟨rfl, hlt w⟩, hword w⟩

theorem word32?_eq_some_iff {w : UInt32} : j.word32? = some w ↔ j = nat w.toNat :=
  map_natBelow?_eq_some_iff UInt32.toNat_lt (fun _ => UInt32.ofNat_toNat)
    fun _ => UInt32.toNat_ofNat_of_lt'

theorem word64?_eq_some_iff {w : UInt64} : j.word64? = some w ↔ j = nat w.toNat :=
  map_natBelow?_eq_some_iff UInt64.toNat_lt (fun _ => UInt64.ofNat_toNat)
    fun _ => UInt64.toNat_ofNat_of_lt'

theorem isSome_natBelow?_iff : (j.natBelow? bound).isSome = true ↔ j.IsNatBelow bound := by
  simp only [Option.isSome_iff_exists, natBelow?_eq_some_iff]
  constructor
  · rintro ⟨n, rfl, hn⟩
    exact ⟨n, rfl, Int.natCast_nonneg n, Int.ofNat_lt.mpr hn⟩
  · rintro ⟨i, rfl, hnonneg, hlt⟩
    obtain ⟨n, rfl⟩ := Int.eq_ofNat_of_zero_le hnonneg
    exact ⟨n, rfl, Int.ofNat_lt.mp hlt⟩

theorem isNatBelow_iff_word32 : j.IsNatBelow UInt32.size ↔ ∃ w : UInt32, j = nat w.toNat := by
  simp only [← word32?_eq_some_iff, ← Option.isSome_iff_exists, word32?, Option.isSome_map,
    isSome_natBelow?_iff]

theorem isNatBelow_iff_word64 : j.IsNatBelow UInt64.size ↔ ∃ w : UInt64, j = nat w.toNat := by
  simp only [← word64?_eq_some_iff, ← Option.isSome_iff_exists, word64?, Option.isSome_map,
    isSome_natBelow?_iff]

/-! ### Fields -/

/-- The fields have an integer below the bound under each of the names. -/
def HasNatsBelow (bound : Nat) (names : List String) (fields : List (String × Json)) : Prop :=
  ∀ name ∈ names, ∃ j, fields.lookup name = some j ∧ j.IsNatBelow bound

@[simp] theorem hasNatsBelow_nil {fields : List (String × Json)} :
    HasNatsBelow bound [] fields := List.forall_mem_nil _

@[simp] theorem hasNatsBelow_cons {name : String} {names : List String}
    {fields : List (String × Json)} :
    HasNatsBelow bound (name :: names) fields ↔
      (∃ j, fields.lookup name = some j ∧ j.IsNatBelow bound) ∧ HasNatsBelow bound names fields :=
  List.forall_mem_cons

/-- The fields are the known ones and others, under other names, in any order. -/
def Adds (known fields : List (String × Json)) : Prop :=
  ∃ extra, fields.Perm (known ++ extra) ∧ ∀ f ∈ extra, f.1 ∉ known.map Prod.fst

/-- A field is found by its name if no other field has that name. -/
theorem lookup_of_mem {fields : List (String × Json)} {name : String} {value : Json}
    (hmem : (name, value) ∈ fields) (hunique : ∀ v, (name, v) ∈ fields → v = value) :
    fields.lookup name = some value := by
  have hsome : (fields.lookup name).isSome = true :=
    List.lookup_isSome_iff.mpr ⟨(name, value), hmem, beq_self_eq_true name⟩
  obtain ⟨found, hfound⟩ := Option.isSome_iff_exists.mp hsome
  obtain ⟨before, rest, hsplit, -⟩ := List.lookup_eq_some_iff.mp hfound
  rw [hfound, hunique found (by rw [hsplit]; simp)]

/-- What is added makes no difference to the known names. -/
theorem Adds.mem_iff {known fields : List (String × Json)} (h : Adds known fields)
    {name : String} (hname : name ∈ known.map Prod.fst) (value : Json) :
    (name, value) ∈ fields ↔ (name, value) ∈ known := by
  obtain ⟨extra, hperm, hextra⟩ := h
  rw [hperm.mem_iff, List.mem_append, or_iff_left]
  exact fun hmem => hextra _ hmem hname

theorem Adds.lookup {known fields : List (String × Json)} (h : Adds known fields)
    {name : String} {value : Json} (hmem : (name, value) ∈ known)
    (hunique : ∀ v, (name, v) ∈ known → v = value) : fields.lookup name = some value := by
  have hname : name ∈ known.map Prod.fst := List.mem_map.mpr ⟨(name, value), hmem, rfl⟩
  -- The order of the fields does not matter, since no other field has the name.
  refine lookup_of_mem ((h.mem_iff hname value).mpr hmem) fun v hv => ?_
  exact hunique v ((h.mem_iff hname v).mp hv)

/-! ### Names -/

/-- A name by itself: as a text, or as the only key of an object with the value null. -/
def IsTag (tag : String) (j : Json) : Prop := j = .str tag ∨ j = .obj [(tag, .null)]

theorem tag?_eq_some_iff {s : String} : j.tag? = some s ↔ j.IsTag s := by
  unfold tag? IsTag
  split <;> simp_all

/-- A member of an enumeration is read from its name alone, if each member is the first with its
    name. -/
theorem bind_tag?_eq_some_iff {α : Type} {all : List α} {tag : α → String}
    (hfirst : ∀ a, (all.find? fun b => tag b == tag a) = some a) {a : α} :
    (j.tag?.bind fun s => all.find? fun b => tag b == s) = some a ↔ j.IsTag (tag a) := by
  have hfound : ∀ s, (all.find? fun b => tag b == s) = some a ↔ tag a = s := by
    intro s
    constructor
    · intro h
      simpa using List.find?_some h
    · rintro rfl
      exact hfirst a
  simp only [Option.bind_eq_some_iff, hfound, ← tag?_eq_some_iff, exists_eq_right']

end Json

/-! ## Forms -/

theorem Kind.ofJson?_eq_some_iff {j : Json} {k : Kind} : ofJson? j = some k ↔ j.IsTag k.tag :=
  Json.bind_tag?_eq_some_iff ofTag?_tag

theorem Intrinsic.ofJson?_eq_some_iff {j : Json} {i : Intrinsic} :
    ofJson? j = some i ↔ j.IsTag i.tag :=
  Json.bind_tag?_eq_some_iff ofTag?_tag

namespace Span

variable {s : Span} {j : Json}

/-- The forms of a span. -/
inductive StoredAs (s : Span) : Json → Prop where
  | fields {fields : List (String × Json)}
      (hstart : fields.lookup "start" = some (.nat s.start.toNat))
      (hstop : fields.lookup "end" = some (.nat s.stop.toNat)) : StoredAs s (.obj fields)
  | ends : StoredAs s (.arr [.nat s.start.toNat, .nat s.stop.toNat])

theorem ofEnds?_eq_some_iff {start stop : Json} :
    ofEnds? start stop = some s ↔ start = .nat s.start.toNat ∧ stop = .nat s.stop.toNat := by
  rw [← Json.word64?_eq_some_iff, ← Json.word64?_eq_some_iff]
  obtain ⟨first, last⟩ := s
  cases hstart : start.word64? <;> cases hstop : stop.word64? <;> simp [ofEnds?, hstart, hstop]

/-- A span is read from its forms, and from nothing else. -/
theorem ofJson?_eq_some_iff : ofJson? j = some s ↔ s.StoredAs j := by
  constructor
  · intro h
    unfold ofJson? at h
    split at h
    case h_1 start stop =>
      obtain ⟨rfl, rfl⟩ := ofEnds?_eq_some_iff.mp h
      exact .ends
    case h_2 fields =>
      obtain ⟨start, hstart, h⟩ := Option.bind_eq_some_iff.mp h
      obtain ⟨stop, hstop, h⟩ := Option.bind_eq_some_iff.mp h
      obtain ⟨rfl, rfl⟩ := ofEnds?_eq_some_iff.mp h
      exact .fields hstart hstop
    case h_3 => cases h
  · rintro (⟨hstart, hstop⟩ | _)
    · simp [ofJson?, hstart, hstop, ofEnds?_eq_some_iff]
    · exact ofEnds?_eq_some_iff.mpr ⟨rfl, rfl⟩

end Span

namespace BindingPath

variable {p : BindingPath} {j : Json}

/-- The forms of a path. -/
inductive StoredAs : BindingPath → Json → Prop where
  | lexical {link slot : UInt32} {fields : List (String × Json)}
      (hlink : fields.lookup "link" = some (.nat link.toNat))
      (hslot : fields.lookup "slot" = some (.nat slot.toNat)) :
      StoredAs (.lexical link slot) (.obj [("Local", .obj fields)])
  | global {slot : UInt32} {fields : List (String × Json)}
      (hslot : fields.lookup "slot" = some (.nat slot.toNat)) :
      StoredAs (.global slot) (.obj [("Global", .obj fields)])

/-- A path is read from its forms, and from nothing else. -/
theorem ofJson?_eq_some_iff : ofJson? j = some p ↔ p.StoredAs j := by
  constructor
  · intro h
    unfold ofJson? at h
    split at h
    case h_1 form fields =>
      -- The key of the outer object decides which fields of the inner one are read.
      split at h
      case isTrue hform =>
        subst hform
        simp only [Option.bind_eq_bind, Option.bind_eq_some_iff, Json.word32?_eq_some_iff] at h
        obtain ⟨_, hlink, link, rfl, _, hslot, slot, rfl, h⟩ := h
        cases h
        exact .lexical hlink hslot
      case isFalse =>
        split at h
        case isTrue hform =>
          subst hform
          simp only [Option.bind_eq_bind, Option.bind_eq_some_iff, Json.word32?_eq_some_iff] at h
          obtain ⟨_, hslot, slot, rfl, h⟩ := h
          cases h
          exact .global hslot
        case isFalse => cases h
    case h_2 => cases h
  · rintro (⟨hlink, hslot⟩ | ⟨hslot⟩)
    · simp [ofJson?, hlink, hslot, Json.word32?_nat_toNat]
    · simp [ofJson?, hslot, Json.word32?_nat_toNat]

end BindingPath

/-! ## What is admitted -/

/-- The values from which a span is read: an object with both ends, or an array of just the two. -/
def Json.HoldsSpan (j : Json) : Prop :=
  (∃ fields, j = .obj fields ∧ HasNatsBelow UInt64.size ["start", "end"] fields) ∨
  ∃ start stop, j = .arr [start, stop] ∧
    start.IsNatBelow UInt64.size ∧ stop.IsNatBelow UInt64.size

/-- The values from which a path is read: an object with one key, the name of a form, whose value is
    an object with all numbers of that form. -/
def Json.HoldsPath (j : Json) : Prop :=
  ∃ fields,
    (j = .obj [("Local", .obj fields)] ∧ HasNatsBelow UInt32.size ["link", "slot"] fields) ∨
    (j = .obj [("Global", .obj fields)] ∧ HasNatsBelow UInt32.size ["slot"] fields)

theorem Span.exists_storedAs_iff {j : Json} : (∃ s : Span, s.StoredAs j) ↔ j.HoldsSpan := by
  simp only [Json.HoldsSpan, Json.hasNatsBelow_cons, Json.hasNatsBelow_nil, and_true,
    Json.isNatBelow_iff_word64]
  constructor
  · rintro ⟨s, hs⟩
    cases hs with
    | fields hstart hstop => exact .inl ⟨_, rfl, ⟨_, hstart, _, rfl⟩, ⟨_, hstop, _, rfl⟩⟩
    | ends => exact .inr ⟨_, _, rfl, ⟨_, rfl⟩, ⟨_, rfl⟩⟩
  · rintro (⟨_, rfl, ⟨_, hstart, start, rfl⟩, ⟨_, hstop, stop, rfl⟩⟩ |
      ⟨_, _, rfl, ⟨start, rfl⟩, ⟨stop, rfl⟩⟩)
    · exact ⟨⟨start, stop⟩, .fields hstart hstop⟩
    · exact ⟨⟨start, stop⟩, .ends⟩

theorem BindingPath.exists_storedAs_iff {j : Json} :
    (∃ p : BindingPath, p.StoredAs j) ↔ j.HoldsPath := by
  simp only [Json.HoldsPath, Json.hasNatsBelow_cons, Json.hasNatsBelow_nil, and_true,
    Json.isNatBelow_iff_word32]
  constructor
  · rintro ⟨p, hp⟩
    cases hp with
    | lexical hlink hslot => exact ⟨_, .inl ⟨rfl, ⟨_, hlink, _, rfl⟩, ⟨_, hslot, _, rfl⟩⟩⟩
    | global hslot => exact ⟨_, .inr ⟨rfl, ⟨_, hslot, _, rfl⟩⟩⟩
  · rintro ⟨_, ⟨rfl, ⟨_, hlink, link, rfl⟩, ⟨_, hslot, slot, rfl⟩⟩ | ⟨rfl, ⟨_, hslot, slot, rfl⟩⟩⟩
    · exact ⟨.lexical link slot, .lexical hlink hslot⟩
    · exact ⟨.global slot, .global hslot⟩

/-! ## The four forms -/

/-- A stored form loses nothing and admits no more than it should: what is written is read back,
    each thing is read from its forms and from nothing else, reading succeeds on the values that are
    admitted and on no others, and what was read from any of them is written so that the same is
    read again. -/
structure StoredExactly {α : Type} (write : α → Json) (read : Json → Option α)
    (StoredAs : α → Json → Prop) (Admits : Json → Prop) : Prop where
  read_write : ∀ a, read (write a) = some a
  read_eq_some_iff : ∀ j a, read j = some a ↔ StoredAs a j
  isSome_read_iff : ∀ j, (read j).isSome = true ↔ Admits j
  reread : ∀ j a, read j = some a → read (write a) = some a

/-- It is enough that reading decides which form a value is, and that writing gives a form. -/
theorem StoredExactly.of_storedAs {α : Type} {write : α → Json} {read : Json → Option α}
    {StoredAs : α → Json → Prop} {Admits : Json → Prop}
    (hread : ∀ j a, read j = some a ↔ StoredAs a j) (hwrite : ∀ a, StoredAs a (write a))
    (hadmits : ∀ j, (∃ a, StoredAs a j) ↔ Admits j) :
    StoredExactly write read StoredAs Admits where
  read_write a := (hread _ a).mpr (hwrite a)
  read_eq_some_iff := hread
  isSome_read_iff j := by simp only [Option.isSome_iff_exists, hread, hadmits]
  reread _ a _ := (hread _ a).mpr (hwrite a)

theorem Span.storedAs_toJson (s : Span) : s.StoredAs s.toJson := .fields rfl rfl

theorem BindingPath.storedAs_toJson (p : BindingPath) : p.StoredAs p.toJson := by
  cases p with
  | lexical link slot => exact .lexical rfl rfl
  | global slot => exact .global rfl

/-- Fields that are added to the object of a span are ignored. -/
theorem Span.storedAs_of_adds {s : Span} {known fields : List (String × Json)}
    (hs : s.toJson = .obj known) (h : Json.Adds known fields) : s.StoredAs (.obj fields) := by
  cases hs
  exact .fields (h.lookup (by simp) (by simp)) (h.lookup (by simp) (by simp))

/-- Fields that are added to the inner object of a path are ignored. -/
theorem BindingPath.storedAs_of_adds {p : BindingPath} {form : String}
    {known fields : List (String × Json)} (hp : p.toJson = .obj [(form, .obj known)])
    (h : Json.Adds known fields) : p.StoredAs (.obj [(form, .obj fields)]) := by
  cases p with
  | lexical link slot =>
    cases hp
    exact .lexical (h.lookup (by simp) (by simp)) (h.lookup (by simp) (by simp))
  | global slot =>
    cases hp
    exact .global (h.lookup (by simp) (by simp))

/-- The stored forms of kinds, intrinsics, spans and paths lose nothing and admit nothing else.  A
    kind or an intrinsic is read from its exact name, as a text or as the only key of an object with
    the value null, a span from an object or an array with both ends, and a path from an object in
    an object with the numbers of its form, all in the range of their words.  Further fields in the
    object of a span or in the inner object of a path do not change what is read. -/
theorem stored_forms_exact :
    StoredExactly Kind.toJson Kind.ofJson? (fun k j => j.IsTag k.tag)
      (fun j => ∃ k : Kind, j.IsTag k.tag) ∧
    StoredExactly Intrinsic.toJson Intrinsic.ofJson? (fun i j => j.IsTag i.tag)
      (fun j => ∃ i : Intrinsic, j.IsTag i.tag) ∧
    StoredExactly Span.toJson Span.ofJson? Span.StoredAs Json.HoldsSpan ∧
    StoredExactly BindingPath.toJson BindingPath.ofJson? BindingPath.StoredAs Json.HoldsPath ∧
    (∀ (s : Span) (known fields : List (String × Json)), s.toJson = .obj known →
      Json.Adds known fields → Span.ofJson? (.obj fields) = some s) ∧
    ∀ (p : BindingPath) (form : String) (known fields : List (String × Json)),
      p.toJson = .obj [(form, .obj known)] → Json.Adds known fields →
        BindingPath.ofJson? (.obj [(form, .obj fields)]) = some p := by
  refine ⟨?kinds, ?intrinsics, ?spans, ?paths, ?spanFields, ?pathFields⟩
  case kinds =>
    exact .of_storedAs (fun _ _ => Kind.ofJson?_eq_some_iff) (fun _ => .inl rfl) fun _ => Iff.rfl
  case intrinsics =>
    exact .of_storedAs (fun _ _ => Intrinsic.ofJson?_eq_some_iff) (fun _ => .inl rfl)
      fun _ => Iff.rfl
  case spans =>
    exact .of_storedAs (fun _ _ => Span.ofJson?_eq_some_iff) Span.storedAs_toJson
      fun _ => Span.exists_storedAs_iff
  case paths =>
    exact .of_storedAs (fun _ _ => BindingPath.ofJson?_eq_some_iff) BindingPath.storedAs_toJson
      fun _ => BindingPath.exists_storedAs_iff
  case spanFields =>
    intro s known fields hs hadds
    exact Span.ofJson?_eq_some_iff.mpr (Span.storedAs_of_adds hs hadds)
  case pathFields =>
    intro p form known fields hp hadds
    exact BindingPath.ofJson?_eq_some_iff.mpr (BindingPath.storedAs_of_adds hp hadds)

/-- A span among other fields and in the other order, the slot of a path beside a field that only
    the other form has, the largest words, and the number after them. -/
theorem stored_forms_exact_samples :
    let spanFields : List (String × Json) := [("note", .null), ("end", .nat 8), ("start", .nat 3)]
    let pathFields : List (String × Json) := [("slot", .nat 2), ("link", .null)]
    Json.Adds [("start", .nat 3), ("end", .nat 8)] spanFields ∧
      Span.ofJson? (.obj spanFields) = some ⟨3, 8⟩ ∧
    Json.Adds [("slot", .nat 2)] pathFields ∧
      BindingPath.ofJson? (.obj [("Global", .obj pathFields)]) = some (.global 2) ∧
    (BindingPath.ofJson? (.obj [("Global", .obj [("slot", .int 4294967295)])])).isSome = true ∧
    (BindingPath.ofJson? (.obj [("Global", .obj [("slot", .int 4294967296)])])).isSome = false := by
  intro spanFields pathFields
  obtain ⟨-, -, -, hpaths, hspanFields, hpathFields⟩ := stored_forms_exact
  have hspan : Json.Adds [("start", .nat 3), ("end", .nat 8)] spanFields := by
    refine ⟨[("note", .null)], ?_, by simp⟩
    exact List.reverse_perm [("start", Json.nat 3), ("end", .nat 8), ("note", .null)]
  have hpath : Json.Adds [("slot", .nat 2)] pathFields :=
    ⟨[("link", .null)], .refl _, by simp⟩
  refine ⟨hspan, hspanFields ⟨3, 8⟩ _ _ rfl hspan, hpath,
    hpathFields (.global 2) "Global" _ _ rfl hpath, ?_, ?_⟩
  · rw [hpaths.isSome_read_iff]
    exact ⟨_, .inr ⟨rfl, by simp [Json.IsNatBelow, UInt32.size]⟩⟩
  · rw [Bool.eq_false_iff, ne_eq, hpaths.isSome_read_iff]
    rintro ⟨fields, ⟨h, -⟩ | ⟨h, hnats⟩⟩
    · simp at h
    · obtain rfl : [("slot", .int 4294967296)] = fields := by simpa using h
      simp [Json.IsNatBelow, UInt32.size] at hnats

end ExprGraph
