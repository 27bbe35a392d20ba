import ShapeCoords.Markup.Token.Stream

/-!
Tags that are written out plainly: names in small letters, each value between double quotes and
free of references. Reading one gives back the tag, without a fault.
-/

namespace ShapeCoords.Markup

open Text (isAsciiLetter lowerAscii)

def IsPlainName (name : String) : Prop :=
  name.toList ≠ [] ∧ ∀ c ∈ name.toList, c.isLower

/-- A character that stands for itself in the name of an attribute. -/
def IsAttributeChar (c : Char) : Prop :=
  isSpace c = false ∧ c ∉ ['/', '>', '=', '"', '\'', '<', '\x00'] ∧ lowerAscii c = c

def IsAttributeName (name : String) : Prop :=
  name.toList ≠ [] ∧ ∀ c ∈ name.toList, IsAttributeChar c

/-- Between double quotes every character of the text stands for itself. -/
def IsPlainValue (value : String) : Prop :=
  ∀ c ∈ value.toList, c ≠ '"' ∧ c ≠ '&' ∧ c ≠ '\r' ∧ c ≠ '\x00'

structure Attribute.IsPlain (a : Attribute) : Prop where
  name : IsAttributeName a.name
  value : IsPlainValue a.value

/-- An attribute as it stands in a tag, with the space in front of it. -/
def Attribute.text (a : Attribute) : List Char :=
  ' ' :: a.name.toList ++ '=' :: '"' :: a.value.toList ++ ['"']

def openTagText (name : String) (attributes : List Attribute) : List Char :=
  '<' :: name.toList ++ attributes.flatMap Attribute.text ++ ['>']

def endTagText (name : String) : List Char :=
  '<' :: '/' :: name.toList ++ ['>']

instance (name : String) : Decidable (IsPlainName name) :=
  @instDecidableAnd _ _ inferInstance (List.decidableBAll _ _)

instance (c : Char) : Decidable (IsAttributeChar c) :=
  @instDecidableAnd _ _ inferInstance inferInstance

instance (name : String) : Decidable (IsAttributeName name) :=
  @instDecidableAnd _ _ inferInstance (List.decidableBAll _ _)

instance (value : String) : Decidable (IsPlainValue value) :=
  List.decidableBAll _ _

instance (a : Attribute) : Decidable a.IsPlain :=
  decidable_of_iff (IsAttributeName a.name ∧ IsPlainValue a.value)
    ⟨fun h => ⟨h.1, h.2⟩, fun h => ⟨h.name, h.value⟩⟩

/-! Characters of names -/

theorem ne_of_isLower {c d : Char} (hc : c.isLower) (hd : d.isLower = false) : c ≠ d := by
  rintro rfl
  rw [hc] at hd
  cases hd

theorem isSpace_of_isLower {c : Char} (hc : c.isLower) : isSpace c = false := by
  have hspace := ne_of_isLower hc (show ' '.isLower = false by decide)
  have htab := ne_of_isLower hc (show '\t'.isLower = false by decide)
  have hnewline := ne_of_isLower hc (show '\n'.isLower = false by decide)
  have hreturn := ne_of_isLower hc (show '\r'.isLower = false by decide)
  have hfeed := ne_of_isLower hc (show '\x0c'.isLower = false by decide)
  simp [isSpace, Text.isAsciiSpace, hspace, htab, hnewline, hreturn, hfeed]

theorem bounds_of_isLower {c : Char} (hc : c.isLower) : 'a' ≤ c ∧ c ≤ 'z' := by
  have hbounds : (decide ('a' ≤ c) && decide (c ≤ 'z')) = true := hc
  simpa using hbounds

theorem isAsciiLetter_of_isLower {c : Char} (hc : c.isLower) : isAsciiLetter c := by
  simp only [isAsciiLetter, Bool.or_eq_true, Bool.and_eq_true, decide_eq_true_eq]
  exact .inl (bounds_of_isLower hc)

theorem lowerAscii_of_isLower {c : Char} (hc : c.isLower) : lowerAscii c = c := by
  have hcapital : ¬c ≤ 'Z' := fun hle =>
    absurd (Char.le_trans (bounds_of_isLower hc).1 hle) (by decide)
  simp [lowerAscii, hcapital]

theorem nameCharacter_of_isLower {c : Char} (hc : c.isLower) : TagDraft.nameCharacter c = c := by
  have hnull := ne_of_isLower hc (show '\x00'.isLower = false by decide)
  rw [TagDraft.nameCharacter, if_neg hnull, lowerAscii_of_isLower hc]

theorem nameFault?_of_isLower {c : Char} (hc : c.isLower) {odd : List Char}
    (hodd : ∀ d ∈ odd, d.isLower = false) : TagDraft.nameFault? odd c = none := by
  have hnull := ne_of_isLower hc (show '\x00'.isLower = false by decide)
  have hmem : c ∉ odd := fun hmem => ne_of_isLower hc (hodd c hmem) rfl
  rw [TagDraft.nameFault?, if_neg (not_or.2 ⟨hnull, hmem⟩)]

theorem nameCharacter_of_isAttributeChar {c : Char} (hc : IsAttributeChar c) :
    TagDraft.nameCharacter c = c := by
  obtain ⟨-, hmark, hsmall⟩ := hc
  have hnull : c ≠ '\x00' := fun h => hmark (by simp [h])
  rw [TagDraft.nameCharacter, if_neg hnull, hsmall]

theorem nameFault?_of_isAttributeChar {c : Char} (hc : IsAttributeChar c) {odd : List Char}
    (hodd : odd ⊆ ['"', '\'', '<', '=']) : TagDraft.nameFault? odd c = none := by
  obtain ⟨-, hmark, -⟩ := hc
  have hnull : c ≠ '\x00' := fun h => hmark (by simp [h])
  have hmem : c ∉ odd := by
    intro hmem
    have hlisted := hodd hmem
    simp only [List.mem_cons, List.not_mem_nil, or_false] at hlisted
    rcases hlisted with rfl | rfl | rfl | rfl <;> simp at hmark
  rw [TagDraft.nameFault?, if_neg (not_or.2 ⟨hnull, hmem⟩)]

/-! Names and values -/

theorem readTag_goOn {d e : TagDraft} {c : Char} {place next : TagPlace}
    (h : d.step c place = .goOn next e) (n : Nat) (s : List Char) :
    readTag place d n (c :: s) = readTag next e (n + 1) s := by
  rw [readTag, h]

theorem readTag_name {s : List Char} (hs : ∀ c ∈ s, c.isLower) (d : TagDraft) (n : Nat)
    (rest : List Char) :
    readTag .name d n (s ++ rest) =
      readTag .name { d with name := s.reverse ++ d.name } (n + s.length) rest := by
  induction s generalizing d n with
  | nil => rfl
  | cons c s ih =>
      have hc := hs c List.mem_cons_self
      have hstep : d.step c .name = .goOn .name { d with name := c :: d.name } := by
        have hslash := ne_of_isLower hc (show '/'.isLower = false by decide)
        have hend := ne_of_isLower hc (show '>'.isLower = false by decide)
        simp [TagDraft.step, isSpace_of_isLower hc, hslash, hend, TagDraft.extendName,
          nameCharacter_of_isLower hc, nameFault?_of_isLower hc]
      rw [List.cons_append, readTag_goOn hstep, ih fun d hd => hs d (List.mem_cons_of_mem c hd)]
      simp [Nat.add_assoc, Nat.add_comm 1]

theorem readTag_attributeName {s : List Char} (hs : ∀ c ∈ s, IsAttributeChar c) (d : TagDraft) (n : Nat)
    (rest : List Char) :
    readTag .attributeName d n (s ++ rest) =
      readTag .attributeName { d with attributeName := s.reverse ++ d.attributeName }
        (n + s.length) rest := by
  induction s generalizing d n with
  | nil => rfl
  | cons c s ih =>
      have hc := hs c List.mem_cons_self
      have hstep : d.step c .attributeName =
          .goOn .attributeName { d with attributeName := c :: d.attributeName } := by
        have hslash : c ≠ '/' := fun h => hc.2.1 (by simp [h])
        have hend : c ≠ '>' := fun h => hc.2.1 (by simp [h])
        have hequals : c ≠ '=' := fun h => hc.2.1 (by simp [h])
        have hfault : TagDraft.nameFault? ['"', '\'', '<'] c = none :=
          nameFault?_of_isAttributeChar hc (by simp)
        simp [TagDraft.step, hc.1, hslash, hend, hequals, TagDraft.extendAttributeName,
          nameCharacter_of_isAttributeChar hc, hfault]
      rw [List.cons_append, readTag_goOn hstep, ih fun d hd => hs d (List.mem_cons_of_mem c hd)]
      simp [Nat.add_assoc, Nat.add_comm 1]

theorem readTag_quoted {s : List Char} (hs : '"' ∉ s) (d : TagDraft) (n : Nat)
    (rest : List Char) :
    readTag (.quoted '"') d n (s ++ rest) =
      readTag (.quoted '"') { d with value := s.reverse ++ d.value } (n + s.length) rest := by
  induction s generalizing d n with
  | nil => rfl
  | cons c s ih =>
      rw [List.mem_cons, not_or] at hs
      obtain ⟨hc, hs⟩ := hs
      have hstep : d.step c (.quoted '"') = .goOn (.quoted '"') (d.extendValue c) := by
        rw [TagDraft.step, if_neg (Ne.symm hc)]
      rw [List.cons_append, readTag_goOn hstep, ih hs]
      simp [TagDraft.extendValue, Nat.add_assoc, Nat.add_comm 1]

theorem decodeValue_plain {s : List Char} (hs : ∀ c ∈ s, c ≠ '&' ∧ c ≠ '\r' ∧ c ≠ '\x00') :
    decodeValue 0 s = ([], s) := by
  induction s with
  | nil => rfl
  | cons c s ih =>
      obtain ⟨hand, hreturn, hnull⟩ := hs c List.mem_cons_self
      rw [decodeValue, if_neg hand, if_neg hnull, if_neg hreturn,
        ih fun d hd => hs d (List.mem_cons_of_mem c hd)]

/-- A value that was written out plainly is kept as it stands. -/
theorem closeValue_plain {d : TagDraft}
    (hvalue : ∀ c ∈ d.value, c ≠ '&' ∧ c ≠ '\r' ∧ c ≠ '\x00') : d.closeValue '"' = d := by
  have hdecode : decodeValue 0 (d.value.reverse ++ ['"']) = ([], d.value.reverse ++ ['"']) := by
    refine decodeValue_plain fun c hc => ?_
    rcases List.mem_append.1 hc with hc | hc
    · exact hvalue c (List.mem_reverse.1 hc)
    · cases List.mem_singleton.1 hc
      decide
  rw [TagDraft.closeValue, hdecode]
  simp

/-! Attributes and whole tags -/

/-- The draft of an opening tag in which no attribute is open. -/
def TagDraft.closed (keeps : Bool) (name : List Char) (attributes : List Attribute) : TagDraft :=
  { kind := .opening
    keepsValues := keeps
    name := name.reverse
    attributes := attributes.reverse }

/-- A draft in which an attribute is complete but not among the others yet. -/
def TagDraft.pending (keeps : Bool) (name : List Char) (attributes : List Attribute)
    (a : Attribute) : TagDraft :=
  { closed keeps name attributes with
    attributeName := a.name.toList.reverse
    value := a.value.toList.reverse }

theorem closeAttribute_closed (keeps : Bool) (name : List Char) (attributes : List Attribute) :
    (TagDraft.closed keeps name attributes).closeAttribute =
      TagDraft.closed keeps name attributes := rfl

theorem closeAttribute_pending (keeps : Bool) (name : List Char) {attributes : List Attribute}
    {a : Attribute} (ha : a.name.toList ≠ []) (hnew : ∀ b ∈ attributes, b.name ≠ a.name) :
    (TagDraft.pending keeps name attributes a).closeAttribute =
      TagDraft.closed keeps name (attributes ++ [a]) := by
  have hname : (a.name.toList.reverse).isEmpty = false := by simpa using ha
  have hfresh : (attributes.reverse.any fun b => b.name == a.name) = false := by
    simpa using hnew
  simp only [TagDraft.closeAttribute, TagDraft.pending, TagDraft.closed, hname,
    List.reverse_reverse, String.ofList_toList, hfresh, List.reverse_append]
  rfl

theorem readTag_attribute {place : TagPlace} (hplace : place = .name ∨ place = .afterValue)
    {d : TagDraft} {keeps : Bool} {name : List Char} {attributes : List Attribute}
    (hd : d.closeAttribute = .closed keeps name attributes) {a : Attribute} (ha : a.IsPlain)
    (n : Nat) (rest : List Char) :
    readTag place d n (a.text ++ rest) =
      readTag .afterValue (.pending keeps name attributes a) (n + a.text.length) rest := by
  obtain ⟨⟨hnonempty, hletters⟩, hvalue⟩ := ha
  obtain ⟨c, s, hname⟩ := List.exists_cons_of_ne_nil hnonempty
  rw [hname] at hletters
  have hc := hletters c List.mem_cons_self
  have hs : ∀ d ∈ s, IsAttributeChar d := fun d hd => hletters d (List.mem_cons_of_mem c hd)
  have hspace : d.step ' ' place = .goOn .beforeAttribute d := by
    rcases hplace with rfl | rfl <;> rfl
  have hopen : d.step c .beforeAttribute =
      .goOn .attributeName { TagDraft.closed keeps name attributes with attributeName := [c] } := by
    have hslash : c ≠ '/' := fun h => hc.2.1 (by simp [h])
    have hend : c ≠ '>' := fun h => hc.2.1 (by simp [h])
    have hfault : TagDraft.nameFault? ['"', '\'', '<', '='] c = none :=
      nameFault?_of_isAttributeChar hc (List.Subset.refl _)
    simp [TagDraft.step, TagDraft.stepBefore, hc.1, hslash, hend, TagDraft.openAttribute,
      nameCharacter_of_isAttributeChar hc, hfault, hd]
  have hquote : '"' ∉ a.value.toList := fun hmem => (hvalue _ hmem).1 rfl
  have hnamed : { TagDraft.closed keeps name attributes with attributeName := s.reverse ++ [c] } =
      TagDraft.pending keeps name attributes ⟨a.name, ""⟩ := by
    simp [TagDraft.pending, TagDraft.closed, hname]
  have hequals : (TagDraft.pending keeps name attributes ⟨a.name, ""⟩).step '=' .attributeName =
      .goOn .beforeValue (.pending keeps name attributes ⟨a.name, ""⟩) := rfl
  have hmark : (TagDraft.pending keeps name attributes ⟨a.name, ""⟩).step '"' .beforeValue =
      .goOn (.quoted '"') (.pending keeps name attributes ⟨a.name, ""⟩) := rfl
  have hread : { TagDraft.pending keeps name attributes ⟨a.name, ""⟩ with
      value := a.value.toList.reverse ++
        (TagDraft.pending keeps name attributes ⟨a.name, ""⟩).value } =
      TagDraft.pending keeps name attributes a := by
    simp [TagDraft.pending, TagDraft.closed]
  have hclose : (TagDraft.pending keeps name attributes a).step '"' (.quoted '"') =
      .goOn .afterValue (.pending keeps name attributes a) := by
    rw [TagDraft.step, if_pos rfl, closeValue_plain]
    intro e he
    exact (hvalue e (List.mem_reverse.1 he)).2
  rw [Attribute.text, hname]
  simp only [List.cons_append, List.append_assoc, List.nil_append]
  rw [readTag_goOn hspace, readTag_goOn hopen, readTag_attributeName hs, hnamed,
    readTag_goOn hequals, readTag_goOn hmark, readTag_quoted hquote, hread, readTag_goOn hclose]
  simp only [List.length_cons, List.length_append, List.length_nil]
  congr 1
  omega

theorem readTag_attributes {attributes : List Attribute}
    (hplain : ∀ a ∈ attributes, a.IsPlain) {place : TagPlace}
    (hplace : place = .name ∨ place = .afterValue) {d : TagDraft} {keeps : Bool}
    {name : List Char} {read : List Attribute} (hd : d.closeAttribute = .closed keeps name read)
    (hdistinct : ((read ++ attributes).map Attribute.name).Nodup) (n : Nat) (rest : List Char) :
    readTag place d n (attributes.flatMap Attribute.text ++ '>' :: rest) =
      .complete ⟨.opening, String.ofList name, read ++ attributes, false⟩ []
        (n + (attributes.flatMap Attribute.text).length + 1) := by
  induction attributes generalizing place d read n with
  | nil =>
      have hend : d.step '>' place = .complete false d := by
        rcases hplace with rfl | rfl <;> rfl
      rw [List.flatMap_nil, List.nil_append, readTag, hend]
      simp [TagDraft.close, hd, TagDraft.closed]
  | cons a attributes ih =>
      have ha := hplain a List.mem_cons_self
      have hnew : ∀ b ∈ read, b.name ≠ a.name := by
        intro b hb hname
        rw [List.map_append, List.nodup_append] at hdistinct
        exact hdistinct.2.2 b.name (List.mem_map_of_mem hb) a.name (by simp) hname
      have hnext := closeAttribute_pending keeps name ha.name.1 hnew
      rw [List.append_cons] at hdistinct
      rw [List.flatMap_cons, List.append_assoc, readTag_attribute hplace hd ha,
        ih (fun b hb => hplain b (List.mem_cons_of_mem a hb)) (.inr rfl) hnext hdistinct,
        ← List.append_cons, List.length_append]
      congr 1
      omega

/-! Reading in markup -/

theorem next_openTag {name : String} (hname : IsPlainName name) {attributes : List Attribute}
    (hplain : ∀ a ∈ attributes, a.IsPlain) (hdistinct : (attributes.map Attribute.name).Nodup)
    (foreign : Bool) (rest : List Char) :
    Source.next ⟨openTagText name attributes ++ rest, none⟩ foreign .markup =
      ([.token (.tag ⟨.opening, name, attributes, false⟩)], ⟨rest, none⟩) := by
  obtain ⟨hnonempty, hletters⟩ := hname
  obtain ⟨c, s, hcs⟩ := List.exists_cons_of_ne_nil hnonempty
  rw [hcs] at hletters
  have hc := hletters c List.mem_cons_self
  have hs : ∀ d ∈ s, d.isLower := fun d hd => hletters d (List.mem_cons_of_mem c hd)
  have hread := readTag_attributes hplain (.inl rfl) (closeAttribute_closed false (c :: s) [])
    hdistinct (0 + s.length) rest
  have hname : readTag .name { kind := .opening, name := [c] } 0
      (s ++ (attributes.flatMap Attribute.text ++ '>' :: rest)) =
      readTag .name (.closed false (c :: s) []) (0 + s.length)
        (attributes.flatMap Attribute.text ++ '>' :: rest) := by
    rw [readTag_name hs]
    simp [TagDraft.closed]
  rw [openTagText, hcs]
  simp only [List.cons_append, List.append_assoc, List.nil_append]
  rw [Source.next, nextInMarkup]
  dsimp only
  rw [if_pos rfl, readAngle]
  · rw [if_pos (isAsciiLetter_of_isLower hc), lowerAscii_of_isLower hc, hname, hread, readingOfTag,
      ← hcs, String.ofList_toList, Nat.zero_add, List.nil_append, List.map_nil, List.nil_append,
      List.append_cons, ← List.append_assoc, List.drop_left' (by simp; omega)]
  · exact ne_of_isLower hc (by decide)
  · exact ne_of_isLower hc (by decide)
  · exact ne_of_isLower hc (by decide)

theorem next_endTag {name : String} (hname : IsPlainName name) (foreign : Bool)
    (rest : List Char) :
    Source.next ⟨endTagText name ++ rest, none⟩ foreign .markup =
      ([.token (.tag ⟨.closing, name, [], false⟩)], ⟨rest, none⟩) := by
  obtain ⟨hnonempty, hletters⟩ := hname
  obtain ⟨c, s, hcs⟩ := List.exists_cons_of_ne_nil hnonempty
  rw [hcs] at hletters
  have hc := hletters c List.mem_cons_self
  have hs : ∀ d ∈ s, d.isLower := fun d hd => hletters d (List.mem_cons_of_mem c hd)
  have hread : readTag .name { kind := .closing, name := [c] } 0 (s ++ '>' :: rest) =
      .complete ⟨.closing, name, [], false⟩ [] (s.length + 1) := by
    rw [readTag_name hs, readTag]
    simp [TagDraft.step, TagDraft.stepBefore, TagDraft.close, TagDraft.closeAttribute, isSpace,
      Text.isAsciiSpace, ← hcs, String.ofList_toList]
  rw [endTagText, hcs]
  simp only [List.cons_append, List.append_assoc, List.nil_append]
  rw [Source.next, nextInMarkup]
  dsimp only
  rw [if_pos rfl, readAngle, readEndTag]
  · rw [if_pos (isAsciiLetter_of_isLower hc), lowerAscii_of_isLower hc, hread, readingOfTag]
    simp
  · exact ne_of_isLower hc (by decide)

end ShapeCoords.Markup
