import ShapeCoords.Proofs.Page.Cutting
import ShapeCoords.Proofs.Page.Frame

/-!
Blocks without a tag inside. Such a block is cut in one way wherever it stands in the HTML of a
page, and its texts together are the source of its diagram.
-/

namespace ShapeCoords.Page

open Markup (Attribute IsPlainName Tag endTagText openTagText)

/-- A text, a comment or a declaration. -/
def Part.IsTagFree (p : Part) : Prop :=
  (∃ raw, p.piece = .text raw) ∨ ∃ raw, p.piece = .other raw

/-- What a part adds to the text of the block that it lies in. -/
def Part.ownText (p : Part) : List Char :=
  match p.piece with
  | .text raw => raw
  | _ => []

/-- A text that is a block: a start tag that begins one, no tag inside, and the end tag of the same
name. -/
structure Block where
  text : List Char
  kind : BlockKind
  start : Part
  inner : List Part
  stop : Part
  cut : parts text = start :: inner ++ [stop]
  begins : start.block? = some kind
  tagFree : ∀ p ∈ inner, p.IsTagFree
  ends : ∃ startRaw startTag stopRaw stopTag, start.piece = .tag startRaw startTag ∧
    stop.piece = .tag stopRaw stopTag ∧ stopTag.kind = .closing ∧ stopTag.name = startTag.name

def Block.ownText (b : Block) : List Char :=
  b.inner.flatMap Part.ownText

/-- The source of the diagram in a block. -/
def Block.source (b : Block) : String :=
  sourceOf b.ownText

/-! Cutting a block -/

theorem eq_nil_of_partsFrom_eq_nil {n : Nat} {c : Context} {reading : Reading} {text : List Char}
    (hn : text.length ≤ n) (h : partsFrom n c reading text = []) : text = [] := by
  cases n with
  | zero => simpa using hn
  | succ n =>
      rw [partsFrom] at h
      split at h
      · next hempty => simpa using hempty
      · dsimp only at h
        split at h <;> cases h

/-- The first part of a text is the same whatever stands behind the text, if it is a tag or others
follow. What is left of the text then has the other parts. -/
theorem exists_left {n : Nat} {text : List Char} {p : Part} {ps : List Part}
    (h : partsFrom (n + 1) {} inMarkup text = p :: ps)
    (hadvance : advance {} inMarkup p.piece = ({}, inMarkup))
    (hwhole : (∃ raw t, p.piece = .tag raw t) ∨ ps ≠ []) :
    p.isRefused = false ∧ p.space = .html ∧
      ∃ left, left.length < text.length ∧ partsFrom n {} inMarkup left = ps ∧
        ∀ c, CutsInto left {} ps c → CutsInto text {} (p :: ps) c := by
  have hne : text ≠ [] := by
    rintro rfl
    cases h
  obtain ⟨piece, hpiece⟩ : ∃ piece, firstPiece {} inMarkup text = piece := ⟨_, rfl⟩
  obtain ⟨⟨c, next⟩, hnext⟩ : ∃ x, advance {} inMarkup piece = x := ⟨_, rfl⟩
  have hsure := isRefused_of_sure (c := {}) rfl
  rw [partsFrom_step hpiece hne (hsure piece) hnext] at h
  injection h with hfirst hleft
  obtain rfl : piece = p.piece := by rw [← hfirst]
  rw [hadvance] at hnext
  cases hnext
  have hleads := firstPiece_leads {} inMarkup hne
  rw [hpiece] at hleads
  have hpos := List.length_pos_iff.2 hleads.2
  have hle := hleads.1.length_le
  have hmore : IsWhole text p.piece := by
    refine hwhole.imp_right fun hps => Nat.lt_of_le_of_ne hle fun hlength => hps ?_
    rw [← hleft, hlength, List.drop_length]
    cases n <;> rfl
  refine ⟨by rw [← hfirst], by rw [← hfirst], text.drop p.piece.raw.length,
    by rw [List.length_drop]; omega, hleft, fun c hcuts rest => ?_⟩
  have happend : firstPiece {} inMarkup (text ++ rest) = p.piece := by
    rw [← hpiece] at hmore ⊢
    exact firstPiece_append rfl hmore hne rest
  have hpasses := Passes.piece happend (by simp [hne]) (hsure p.piece) hadvance
  rw [hfirst, List.drop_append_of_le_length hle] at hpasses
  exact hpasses.trans (hcuts rest)

/-- What stands in front of an end tag, and that tag. -/
theorem cutsInto_of_tagFree {n : Nat} {text : List Char} {inner : List Part} {stop : Part}
    (h : partsFrom n {} inMarkup text = inner ++ [stop]) (hn : text.length ≤ n)
    (hinner : ∀ p ∈ inner, p.IsTagFree)
    (hstop : ∃ raw t, stop.piece = .tag raw t ∧ t.kind = .closing) :
    CutsInto text {} (inner ++ [stop]) {} ∧ ∀ p ∈ inner ++ [stop], p.isRefused = false := by
  induction n generalizing text inner with
  | zero => simp [partsFrom] at h
  | succ n ih =>
      cases inner with
      | nil =>
          obtain ⟨raw, t, hpiece, hclosing⟩ := hstop
          have hadvance : advance {} inMarkup stop.piece = ({}, inMarkup) := by
            rw [hpiece, advance, hclosing]
            rfl
          obtain ⟨hrefused, -, left, hlt, hleft, hcuts⟩ :=
            exists_left h hadvance (.inl ⟨raw, t, hpiece⟩)
          obtain rfl := eq_nil_of_partsFrom_eq_nil (by omega) hleft
          exact ⟨hcuts {} (.nil {}), by simpa using hrefused⟩
      | cons p inner =>
          obtain ⟨hp, hinner⟩ := List.forall_mem_cons.1 hinner
          have hadvance : advance {} inMarkup p.piece = ({}, inMarkup) := by
            rcases hp with ⟨raw, hraw⟩ | ⟨raw, hraw⟩ <;> rw [hraw] <;> rfl
          obtain ⟨hrefused, -, left, hlt, hleft, hcuts⟩ :=
            exists_left h hadvance (.inr (by simp))
          obtain ⟨hbehind, hunrefused⟩ := ih hleft (by omega) hinner
          exact ⟨hcuts {} hbehind, List.forall_mem_cons.2 ⟨hrefused, hunrefused⟩⟩

theorem name_of_block {t : Tag} {kind : BlockKind} (h : BlockKind.of? t = some kind) :
    t.name = "pre" ∨ t.name = "div" ∨ t.name = "code" := by
  unfold BlockKind.of? at h
  dsimp only at h
  split at h
  · next hpre => exact .inl hpre.1
  · split at h
    · next hdiv => exact .inr (.inl hdiv.1)
    · split at h
      · next hcode => exact .inr (.inr hcode.1)
      · cases h

theorem openTag_of_block {t : Tag} {kind : BlockKind} (h : BlockKind.of? t = some kind) :
    ({} : Context).openTag t = ({}, .markup) := by
  rcases name_of_block h with hname | hname | hname <;>
    simp [Context.openTag, hname, Guard.afterOpening, contentOf]

namespace Block

variable (b : Block)

theorem start_tag : ∃ raw t, b.start.piece = .tag raw t ∧ t.kind = .opening ∧
    BlockKind.of? t = some b.kind :=
  tag_of_block b.begins

theorem cutsInto_and :
    CutsInto b.text {} (b.start :: b.inner ++ [b.stop]) {} ∧ b.start.space = .html ∧
      ∀ p ∈ b.start :: b.inner ++ [b.stop], p.isRefused = false := by
  obtain ⟨raw, t, hstart, hopening, hof⟩ := b.start_tag
  obtain ⟨_, _, stopRaw, stopTag, _, hstop, hclosing, _⟩ := b.ends
  have hadvance : advance {} inMarkup b.start.piece = ({}, inMarkup) := by
    rw [hstart, advance, hopening]
    dsimp only
    rw [openTag_of_block hof]
  have hcut := b.cut
  rw [parts, List.cons_append] at hcut
  obtain ⟨n, hn⟩ : ∃ n, b.text.length = n + 1 := by
    refine Nat.exists_eq_succ_of_ne_zero fun hzero => ?_
    rw [hzero] at hcut
    cases hcut
  rw [hn] at hcut
  obtain ⟨hrefused, hspace, left, hlt, hleft, hcuts⟩ :=
    exists_left hcut hadvance (.inl ⟨raw, t, hstart⟩)
  obtain ⟨hbehind, hunrefused⟩ :=
    cutsInto_of_tagFree hleft (by omega) b.tagFree ⟨stopRaw, stopTag, hstop, hclosing⟩
  exact ⟨hcuts {} hbehind, hspace, List.forall_mem_cons.2 ⟨hrefused, hunrefused⟩⟩

theorem cutsInto : CutsInto b.text {} (parts b.text) {} := by
  rw [b.cut]
  exact b.cutsInto_and.1

theorem unrefused : ∀ p ∈ parts b.text, p.isRefused = false := by
  rw [b.cut]
  exact b.cutsInto_and.2.2

end Block

/-! The open elements in a block -/

theorem Part.IsTagFree.opened {p : Part} (hp : p.IsTagFree) (opened : List OpenElement) :
    p.opened opened = opened := by
  rcases hp with ⟨raw, hraw⟩ | ⟨raw, hraw⟩ <;> rw [Part.opened, hraw]

theorem Part.IsTagFree.block? {p : Part} (hp : p.IsTagFree) : p.block? = none := by
  rcases hp with ⟨raw, hraw⟩ | ⟨raw, hraw⟩ <;> rw [Part.block?, Part.startTag?, hraw] <;> rfl

theorem isTagFree_contentParts (content : List Char) : ∀ p ∈ contentParts content, p.IsTagFree := by
  intro p hp
  unfold contentParts at hp
  split at hp
  · cases hp
  · rw [List.mem_singleton.1 hp]
    exact .inl ⟨content, rfl⟩

theorem openedBehind_of_tagFree {ps : List Part} (h : ∀ p ∈ ps, p.IsTagFree)
    (opened : List OpenElement) : openedBehind opened ps = opened := by
  induction ps generalizing opened with
  | nil => rfl
  | cons p ps ih =>
      obtain ⟨hp, hps⟩ := List.forall_mem_cons.1 h
      rw [openedBehind, List.foldl_cons, hp.opened]
      exact ih hps opened

namespace Block

variable (b : Block) (opened : List OpenElement)

/-- The element of a block is open inside of it, and not behind it. -/
theorem exists_element : ∃ e : OpenElement, e.block = some b.kind ∧
    b.start.opened opened = e :: opened ∧ b.stop.opened (e :: opened) = opened := by
  obtain ⟨raw, t, hstart, hopening, hof⟩ := b.start_tag
  obtain ⟨startRaw, startTag, stopRaw, stopTag, hstart', hstop, hclosing, hname⟩ := b.ends
  rw [hstart] at hstart'
  cases hstart'
  refine ⟨⟨t.name, BlockKind.of? t⟩, hof, ?_, ?_⟩
  · have hcontent : voidNames.contains t.name = false := by
      rcases name_of_block hof with h | h | h <;> rw [h] <;> decide
    rw [Part.opened, hstart]
    dsimp only
    rw [hopening]
    dsimp only
    rw [if_pos b.cutsInto_and.2.1, hcontent]
    rfl
  · rw [Part.opened, hstop]
    dsimp only
    rw [hclosing]
    simp [hname]

theorem isBlock : IsBlock opened b.start b.inner b.stop := by
  obtain ⟨e, -, hopens, hcloses⟩ := b.exists_element opened
  -- inside of the block nothing opens or closes
  have hinside (m : Nat) (hm : m ≤ b.inner.length) :
      openedBehind opened ((b.start :: b.inner ++ [b.stop]).take (m + 1)) = e :: opened := by
    rw [List.cons_append, List.take_succ_cons, List.take_append_of_le_length hm, openedBehind,
      List.foldl_cons, hopens]
    exact openedBehind_of_tagFree (fun p hp => b.tagFree p (List.mem_of_mem_take hp)) _
  refine ⟨by rw [b.begins]; rfl, fun p hp => (b.tagFree p hp).block?, ?_, b.ends⟩
  refine ⟨by omega, by simp, ?_, ?_⟩
  · intro k hk hkm
    obtain ⟨m, rfl⟩ := Nat.exists_eq_succ_of_ne_zero (Nat.ne_of_gt hk)
    rw [hinside m (by omega)]
    simp [openedBehind]
  · have hall := hinside b.inner.length (Nat.le_refl _)
    have htake : (b.start :: b.inner ++ [b.stop]).take (b.inner.length + 1) =
        b.start :: b.inner := List.take_left' rfl
    rw [htake] at hall
    rw [List.take_of_length_le (by simp), openedBehind_append, hall]
    exact hcloses

end Block

/-! Collecting the texts of blocks -/

section Collecting

variable {v : Visit} {vs : List Visit} {texts : List (List Char)} {p : Part}
  {around : List BlockKind}

theorem refused?_of_unrefused (h : v.part.isRefused = false) : v.refused? = none := by
  rw [Visit.refused?, h]

theorem refusedInText?_of_unrefused (h : v.part.isRefused = false) : v.refusedInText? = none := by
  unfold Visit.refusedInText?
  split
  · rw [refused?_of_unrefused h, ite_self]
  · exact refused?_of_unrefused h

theorem extendLast_nil (texts : List (List Char)) : extendLast [] texts = texts := by
  cases texts with
  | nil => rfl
  | cons t texts => rw [extendLast, List.append_nil]

/-- A part adds its text once for each kind of block around it. -/
theorem collectTexts_part (h : p.isRefused = false) (hblock : p.block? = none) :
    collectTexts texts (⟨p, around⟩ :: vs) =
      collectTexts
        (extendLast (List.replicate (Visit.readings ⟨p, around⟩) p.ownText).flatten texts) vs := by
  have hrefused := refusedInText?_of_unrefused (v := ⟨p, around⟩) h
  have hnone : Visit.block? ⟨p, around⟩ = none := hblock
  simp only [collectTexts, hrefused, hnone]
  cases hpiece : p.piece with
  | text raw => simp only [Part.ownText, hpiece]
  | other raw => simp [Part.ownText, hpiece, extendLast_nil]
  | tag raw t => simp [Part.ownText, hpiece, extendLast_nil]
  | cut raw name => simp [Part.ownText, hpiece, extendLast_nil]

theorem collectTexts_start {kind : BlockKind} (h : p.isRefused = false)
    (hblock : p.block? = some kind) :
    collectTexts texts (⟨p, around⟩ :: vs) = collectTexts ([] :: texts) vs := by
  have hrefused := refusedInText?_of_unrefused (v := ⟨p, around⟩) h
  have hsome : Visit.block? ⟨p, around⟩ = some kind := hblock
  simp only [collectTexts, hrefused, hsome]

theorem exists_collectTexts_step (texts : List (List Char)) (h : v.refusedInText? = none) :
    ∃ next, ∀ vs, collectTexts texts (v :: vs) = collectTexts next vs := by
  simp only [collectTexts, h]
  cases v.block? with
  | some kind => exact ⟨_, fun vs => rfl⟩
  | none => cases v.part.piece <;> exact ⟨_, fun vs => rfl⟩

theorem collectTexts_append {collected : List (List Char)}
    (h : collectTexts texts vs = .ok collected) (ws : List Visit) :
    collectTexts texts (vs ++ ws) = collectTexts collected ws := by
  induction vs generalizing texts with
  | nil =>
      cases h
      rfl
  | cons v vs ih =>
      have hv := (collectTexts_ok h).1 v List.mem_cons_self
      obtain ⟨next, hstep⟩ := exists_collectTexts_step texts hv
      rw [hstep] at h
      rw [List.cons_append, hstep, ih h]

end Collecting

/-- A part that is neither refused nor the start of a block. -/
def Part.IsPlain (p : Part) : Prop :=
  p.isRefused = false ∧ p.block? = none

/-- Outside of all blocks nothing is collected. -/
theorem collectTexts_outside {opened : List OpenElement} {ps : List Part}
    (hopened : NoBlocks opened) (hps : ∀ p ∈ ps, p.IsPlain) (texts : List (List Char)) :
    collectTexts texts (visitsFrom opened ps) = .ok texts := by
  induction ps generalizing opened with
  | nil => rfl
  | cons p ps ih =>
      obtain ⟨⟨hrefused, hblock⟩, hps⟩ := List.forall_mem_cons.1 hps
      have hbehind : NoBlocks (p.opened opened) :=
        hopened.opened hblock fun h => absurd (hrefused.symm.trans h) Bool.false_ne_true
      have haround : opened.filterMap OpenElement.block = [] := hopened
      rw [visitsFrom, collectTexts_part hrefused hblock, haround]
      change collectTexts (extendLast [] texts) _ = _
      rw [extendLast_nil, ih hbehind hps]

/-- In a block the texts are put behind each other. What is said of the open elements holds at each
part, and then no other block is around it. -/
theorem collectTexts_inside (Inside : List OpenElement → Prop) {kind : BlockKind} {ps : List Part}
    (haround : ∀ opened, Inside opened → opened.filterMap OpenElement.block = [kind])
    (hstays : ∀ p ∈ ps, ∀ opened, Inside opened → Inside (p.opened opened))
    (hps : ∀ p ∈ ps, p.IsPlain) {opened : List OpenElement} (hopened : Inside opened)
    (t : List Char) (texts : List (List Char)) :
    collectTexts (t :: texts) (visitsFrom opened ps) =
        .ok ((t ++ ps.flatMap Part.ownText) :: texts) ∧
      Inside (openedBehind opened ps) := by
  induction ps generalizing opened t with
  | nil => exact ⟨by simp [visitsFrom, collectTexts], hopened⟩
  | cons p ps ih =>
      obtain ⟨⟨hrefused, hblock⟩, hps⟩ := List.forall_mem_cons.1 hps
      obtain ⟨hfirst, hstays⟩ := List.forall_mem_cons.1 hstays
      have hreadings : Visit.readings ⟨p, [kind]⟩ = 1 := by
        cases kind <;> rfl
      obtain ⟨hcollect, hbehind⟩ := ih hstays hps (hfirst opened hopened) (t ++ p.ownText)
      refine ⟨?_, hbehind⟩
      rw [visitsFrom, collectTexts_part hrefused hblock, haround opened hopened, hreadings,
        List.replicate_one, List.flatten_singleton, extendLast, hcollect, List.flatMap_cons,
        List.append_assoc]

/-- The parts from the start tag of a block to its end tag add one text to those collected. -/
theorem collectTexts_block (Inside : List OpenElement → Prop) {kind : BlockKind}
    {start stop : Part} {inner : List Part}
    (haround : ∀ opened, Inside opened → opened.filterMap OpenElement.block = [kind])
    (hstays : ∀ p ∈ inner, ∀ opened, Inside opened → Inside (p.opened opened))
    (hinner : ∀ p ∈ inner, p.IsPlain) (hstart : start.isRefused = false)
    (hblock : start.block? = some kind) (hstop : stop.IsPlain) (hstopText : stop.ownText = [])
    {opened : List OpenElement} (hopens : Inside (start.opened opened))
    (texts : List (List Char)) :
    collectTexts texts (visitsFrom opened (start :: inner ++ [stop])) =
        .ok (inner.flatMap Part.ownText :: texts) ∧
      ∃ behind, Inside behind ∧
        openedBehind opened (start :: inner ++ [stop]) = stop.opened behind := by
  obtain ⟨hcollect, hbehind⟩ :=
    collectTexts_inside Inside haround hstays hinner hopens [] texts
  refine ⟨?_, _, hbehind, ?_⟩
  · rw [List.cons_append, visitsFrom, collectTexts_start hstart hblock, visitsFrom_append,
      collectTexts_append hcollect, visitsFrom, collectTexts_part hstop.1 hstop.2, hstopText]
    simp [extendLast_nil, visitsFrom, collectTexts]
  · rw [List.cons_append, openedBehind, List.foldl_cons, List.foldl_append]
    rfl

/-- A block outside of all others is collected as one text. -/
theorem Block.collectTexts_eq (b : Block) {opened : List OpenElement} (hopened : NoBlocks opened)
    (texts : List (List Char)) :
    collectTexts texts (visitsFrom opened (parts b.text)) =
      .ok (b.ownText :: texts) := by
  obtain ⟨e, he, hopens, -⟩ := b.exists_element opened
  obtain ⟨_, _, stopRaw, stopTag, _, hstop, hclosing, _⟩ := b.ends
  have hunrefused := b.unrefused
  rw [b.cut] at hunrefused ⊢
  have haround : (e :: opened).filterMap OpenElement.block = [b.kind] := by
    rw [List.filterMap_cons, he, show opened.filterMap OpenElement.block = [] from hopened]
  have hstopPlain : b.stop.IsPlain :=
    ⟨hunrefused b.stop (by simp), by simp [Part.block?, Part.startTag?, hstop, hclosing]⟩
  -- no part inside changes which elements are open
  refine (collectTexts_block (· = e :: opened) (fun _ h => h ▸ haround)
    (fun p hp _ h => h ▸ (b.tagFree p hp).opened _)
    (fun p hp => ⟨hunrefused p (by simp [hp]), (b.tagFree p hp).block?⟩)
    (hunrefused b.start (by simp)) b.begins hstopPlain ?_ hopens texts).1
  rw [Part.ownText, hstop]

/-! Blocks that are written out -/

def BlockKind.tagName : BlockKind → String
  | .pre => "pre"
  | .div => "div"
  | .code => "code"

def BlockKind.className : BlockKind → String
  | .pre | .div => "mermaid"
  | .code => "language-mermaid"

def BlockKind.attributes (kind : BlockKind) : List Attribute :=
  [⟨"class", kind.className⟩]

theorem BlockKind.of?_attributes (kind : BlockKind) :
    BlockKind.of? ⟨.opening, kind.tagName, kind.attributes, false⟩ = some kind := by
  cases kind <;> decide +kernel

theorem BlockKind.isPlain_attributes (kind : BlockKind) : ∀ a ∈ kind.attributes, a.IsPlain := by
  cases kind <;> decide

/-- A block that is written out with its class alone, and with any content free of `<`. -/
def Block.written (kind : BlockKind) (content : List Char) (h : '<' ∉ content) : Block where
  text := openTagText kind.tagName kind.attributes ++ (content ++ endTagText kind.tagName)
  kind := kind
  start := openTagPart kind.tagName kind.attributes {}
  inner := contentParts content
  stop := endTagPart kind.tagName {}
  cut := (cutsInto_element (by cases kind <;> decide) kind.isPlain_attributes
    (by simp [BlockKind.attributes]) (openTag_of_block kind.of?_attributes) h).parts_eq
  begins := kind.of?_attributes
  tagFree := isTagFree_contentParts content
  ends := ⟨_, _, _, _, rfl, rfl, rfl, rfl⟩

end ShapeCoords.Page
