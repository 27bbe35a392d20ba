import Mathlib.Logic.Relation
import Mathlib.Tactic.SplitIfs
import ShapeCoords.Markup.Builder.Modes

/-!
What treating a token can do to the tree and the open elements. Whatever the rules for a token are,
they come down to a few edits: elements are closed, one is made where the open elements say, and, in
the wrong place, content moves away from where it was read. Each time the latter happens a fault
tells of it.
-/

namespace ShapeCoords.Markup

/-- The faults that may tell of content that moved away from where it was read. -/
def Fault.misplaces : Fault → Bool
  | .unexpectedToken | .textInTable | .nonSpaceInTable | .formattingNotCurrent => true
  | _ => false

/-- An element that content misplaced in a table goes in front of, or into. -/
def ElementName.takesMisplaced (e : ElementName) : Bool :=
  e.isNamed "table" || e.isNamed "template"

/-- The parts of a document in front of its root. -/
def Mode.isEarly : Mode → Bool
  | .initial | .beforeHtml => true
  | _ => false

/-- The parts of a document behind the start of its root, other than text. -/
def Mode.isOrdinary : Mode → Bool
  | .initial | .beforeHtml | .text | .inTableText => false
  | _ => true

theorem Mode.isEarly_of_isOrdinary {m : Mode} (h : m.isOrdinary = true) : m.isEarly = false := by
  cases m <;> first | rfl | cases h

/-- Formatting that content misplaced in a table does not go into. -/
def IsPlain (formatting : List Formatting) : Prop :=
  ∀ o tag, .element o tag ∈ formatting → tag.element.takesMisplaced = false

/-- The root was come by, in the part that is read and in those to go back to. -/
structure AreLate (mode behind : Mode) (templates : List Mode) : Prop where
  now : mode.isEarly = false
  behind : mode.isOrdinary = false → behind.isEarly = false
  templates : ∀ m ∈ templates, m.isOrdinary = true

theorem AreLate.of_isOrdinary {mode behind : Mode} {templates : List Mode}
    (hmode : mode.isOrdinary = true) (htemplates : ∀ m ∈ templates, m.isOrdinary = true) :
    AreLate mode behind templates :=
  ⟨mode.isEarly_of_isOrdinary hmode, fun h => absurd (hmode.symm.trans h) (by decide), htemplates⟩

namespace Builder

open Relation (ReflTransGen)

def Begun (b : Builder) : Prop :=
  AreLate b.mode b.modeBehindText b.templateModes

/-- The tree stays as it is, and no element is opened. -/
structure Closes (b c : Builder) : Prop where
  tree : c.tree = b.tree
  opened : c.opened.Sublist b.opened
  head : c.head = b.head ∨ ∃ o ∈ b.opened, c.head = some o
  fosters : c.fosters = true → b.fosters = true
  faults : b.faults <:+ c.faults

/-- An edit of the tree and the open elements. -/
inductive Edit : Builder → Builder → Prop
  | closes {b c : Builder} : b.Closes c → Edit b c
  | attributes (b : Builder) (id : Nat) (attributes : List Attribute) :
      Edit b { b with tree := b.tree.addAttributes id attributes }
  | makes (b : Builder) (e : ElementName) (attributes : List Attribute) :
      Edit b (b.insertEmpty e attributes)
  | opens (b : Builder) (e : ElementName) (attributes : List Attribute) :
      Edit b (b.insert e attributes)
  | opensRoot {b : Builder} (attributes : List Attribute) :
      b.opened = [] → Edit b (b.insertRoot attributes)
  /-- From now on content moves in front of a table. -/
  | fosters (b : Builder) {f : Fault} :
      f.misplaces = true → Edit b { b.report f with fosters := true }
  /-- Metadata behind the head goes into that. -/
  | makesInHead {b : Builder} {head : Open} (e : ElementName) (attributes : List Attribute) :
      b.head = some head →
        Edit b ((((b.report .unexpectedToken).push head).insertEmpty e attributes).closeOpen
          head.id)
  | opensInHead {b : Builder} {head : Open} (e : ElementName) (attributes : List Attribute) :
      b.head = some head →
        Edit b ((((b.report .unexpectedToken).push head).insert e attributes).closeOpen head.id)
  /-- The body makes way for a frameset. -/
  | drops {b : Builder} {opened : List Open} (id : Nat) :
      opened.Sublist b.opened →
        Edit b { b.report .unexpectedToken with tree := b.tree.detach id, opened := opened }
  /-- A block moves out of formatting that ends inside of it. -/
  | movesOut {b : Builder} {target outer block : Open} {tag : Tag}
      {above between below : List Open} :
      b.opened = above ++ block :: (between ++ outer :: below) → outer.id = target.id →
      (∀ o ∈ above ++ block :: between, o.element.takesMisplaced = false) →
      .element target tag ∈ b.formatting → IsPlain b.formatting →
        Edit b ((b.report .formattingNotCurrent).moveOut target tag above block between below)

/-- One state comes from another one by edits, none of which leads back in front of the root. -/
structure LeadsTo (b c : Builder) : Prop where
  edits : IsPlain b.formatting → ReflTransGen Edit b c
  plain : IsPlain b.formatting → IsPlain c.formatting
  begun : b.Begun → c.Begun

/-- Two states that agree in the modes, and in all that outlasts a table or formatting. -/
structure AgreesElsewhere (b c : Builder) : Prop where
  mode : c.mode = b.mode
  modeBehindText : c.modeBehindText = b.modeBehindText
  templateModes : c.templateModes = b.templateModes
  head : c.head = b.head
  fosters : c.fosters = b.fosters
  faults : c.faults = b.faults

section AgreesElsewhere

variable {b c d : Builder}

theorem AgreesElsewhere.trans (h : b.AgreesElsewhere c) (h' : c.AgreesElsewhere d) :
    b.AgreesElsewhere d where
  mode := h'.mode.trans h.mode
  modeBehindText := h'.modeBehindText.trans h.modeBehindText
  templateModes := h'.templateModes.trans h.templateModes
  head := h'.head.trans h.head
  fosters := h'.fosters.trans h.fosters
  faults := h'.faults.trans h.faults

theorem AgreesElsewhere.begun (h : b.AgreesElsewhere c) (hb : b.Begun) : c.Begun := by
  rwa [Begun, h.mode, h.modeBehindText, h.templateModes]

theorem agreesElsewhere_reopen (b : Builder) (entries : List Formatting) :
    b.AgreesElsewhere (b.reopen entries) := by
  induction entries with
  | nil => exact ⟨rfl, rfl, rfl, rfl, rfl, rfl⟩
  | cons entry entries ih =>
      cases entry with
      | marker => exact ih
      | element o tag => exact ih.trans ⟨rfl, rfl, rfl, rfl, rfl, rfl⟩

theorem agreesElsewhere_reconstruct (b : Builder) : b.AgreesElsewhere b.reconstruct :=
  let rest := b.formatting.dropWhile fun f => !b.isOpenOrMarker f
  let h := agreesElsewhere_reopen { b with formatting := rest }
    (b.formatting.takeWhile fun f => !b.isOpenOrMarker f)
  ⟨h.mode, h.modeBehindText, h.templateModes, h.head, h.fosters, h.faults⟩

end AgreesElsewhere

theorem Closes.refl (b : Builder) : b.Closes b :=
  ⟨rfl, .refl _, .inl rfl, fun h => h, List.suffix_refl _⟩

namespace LeadsTo

variable {b c d : Builder}

theorem refl (b : Builder) : b.LeadsTo b :=
  ⟨fun _ => .refl, fun h => h, fun h => h⟩

theorem edit (h : b.LeadsTo c) (hedit : IsPlain c.formatting → Edit c d)
    (hplain : IsPlain c.formatting → IsPlain d.formatting) (hbegun : c.Begun → d.Begun) :
    b.LeadsTo d where
  edits hb := (h.edits hb).tail (hedit (h.plain hb))
  plain hb := hplain (h.plain hb)
  begun hb := hbegun (h.begun hb)

theorem ite {p : Prop} [Decidable p] (hc : b.LeadsTo c) (hd : b.LeadsTo d) :
    b.LeadsTo (if p then c else d) := by
  split
  · exact hc
  · exact hd

/-! Choosing the mode -/

theorem isOrdinary_selectMode (opened : List Open) : (selectMode opened).isOrdinary = true := by
  induction opened with
  | nil => rfl
  | cons o opened ih =>
      rw [selectMode]
      split_ifs
      · rfl
      · rfl
      · exact ih

/-- A part of a document that goes on behind an element, if any. -/
def IsOrdinary? (mode? : Option Mode) : Prop :=
  ∀ m ∈ mode?, m.isOrdinary = true

theorem IsOrdinary?.none : IsOrdinary? none :=
  fun _ h => by cases h

theorem IsOrdinary?.some {m : Mode} (h : m.isOrdinary = true) : IsOrdinary? (some m) :=
  fun _ hm => by
    cases hm
    exact h

theorem IsOrdinary?.ite {p : Prop} [Decidable p] {x y : Option Mode} (hx : IsOrdinary? x)
    (hy : IsOrdinary? y) : IsOrdinary? (if p then x else y) := by
  split
  · exact hx
  · exact hy

theorem isOrdinary_modeOf? (htemplates : ∀ m ∈ b.templateModes, m.isOrdinary = true) (o : Open)
    (outer : List Open) : IsOrdinary? (b.modeOf? o outer) := by
  have htemplate : (b.templateModes.headD .inBody).isOrdinary = true := by
    cases hmodes : b.templateModes with
    | nil => rfl
    | cons m modes => exact htemplates m (hmodes ▸ List.mem_cons_self)
  have hroot : (if b.head.isNone then Mode.beforeHead else .afterHead).isOrdinary = true := by
    split <;> rfl
  rw [modeOf?]
  exact .ite .none <| .ite (.some (isOrdinary_selectMode outer)) <|
    .ite (.ite .none (.some rfl)) <| .ite (.some rfl) <| .ite (.some rfl) <| .ite (.some rfl) <|
    .ite (.some rfl) <| .ite (.some rfl) <| .ite (.some htemplate) <|
    .ite (.ite .none (.some rfl)) <| .ite (.some rfl) <| .ite (.some rfl) <|
    .ite (.some hroot) .none

theorem isOrdinary_modeOfOpen (htemplates : ∀ m ∈ b.templateModes, m.isOrdinary = true)
    (opened : List Open) : (b.modeOfOpen opened).isOrdinary = true := by
  induction opened with
  | nil => rfl
  | cons o outer ih =>
      rw [modeOfOpen]
      cases hmode : b.modeOf? o outer with
      | none => exact ih
      | some m => exact isOrdinary_modeOf? htemplates o outer m hmode

/-! Closing -/

section Closing

variable (h : b.LeadsTo c)
include h

/-- What is read next, and the like, is not up to the tree. -/
theorem closes (hclose : c.Closes d) (hplain : IsPlain c.formatting → IsPlain d.formatting)
    (hbegun : c.Begun → d.Begun) : b.LeadsTo d :=
  h.edit (fun _ => .closes hclose) hplain hbegun

theorem close {opened : List Open} (hopened : opened.Sublist c.opened) :
    b.LeadsTo { c with opened := opened } :=
  h.closes { Closes.refl c with opened := hopened } (fun hc => hc) fun hc => hc

theorem format {formatting : List Formatting}
    (hformatting : IsPlain c.formatting → IsPlain formatting) :
    b.LeadsTo { c with formatting := formatting } :=
  h.closes { Closes.refl c with } hformatting fun hc => hc

theorem formatSome {formatting : List Formatting} (hsub : formatting ⊆ c.formatting) :
    b.LeadsTo { c with formatting := formatting } :=
  h.format fun hplain o tag hmem => hplain o tag (hsub hmem)

theorem report (f : Fault) : b.LeadsTo (c.report f) :=
  h.closes { Closes.refl c with faults := List.suffix_cons _ _ } (fun hc => hc) fun hc => hc

theorem forbidFrameset : b.LeadsTo c.forbidFrameset :=
  h.closes { Closes.refl c with } (fun hc => hc) fun hc => hc

theorem setForm (form : Option Nat) : b.LeadsTo { c with form := form } :=
  h.closes { Closes.refl c with } (fun hc => hc) fun hc => hc

theorem setSkipsNewline (skips : Bool) : b.LeadsTo { c with skipsNewline := skips } :=
  h.closes { Closes.refl c with } (fun hc => hc) fun hc => hc

theorem setTableTexts (texts : List (List Char)) : b.LeadsTo { c with tableTexts := texts } :=
  h.closes { Closes.refl c with } (fun hc => hc) fun hc => hc

theorem endFostering : b.LeadsTo { c with fosters := false } :=
  h.closes { Closes.refl c with fosters := fun hf => by cases hf } (fun hc => hc) fun hc => hc

theorem enter {mode : Mode} (hmode : mode.isOrdinary = true) : b.LeadsTo (c.enter mode) :=
  h.closes { Closes.refl c with } (fun hc => hc) fun hc => .of_isOrdinary hmode hc.templates

/-- What was read before the text is read again. -/
theorem resume (hmode : c.mode.isOrdinary = false) : b.LeadsTo (c.enter c.modeBehindText) :=
  h.closes { Closes.refl c with } (fun hc => hc) fun hc =>
    ⟨hc.behind hmode, fun _ => hc.behind hmode, hc.templates⟩

theorem pop : b.LeadsTo c.pop :=
  h.close (List.tail_sublist _)

theorem closeOpen (id : Nat) : b.LeadsTo (c.closeOpen id) :=
  h.close List.eraseP_sublist

theorem popWhile (p : ElementName → Bool) : b.LeadsTo (c.popWhile p) :=
  h.close (List.dropWhile_sublist _)

theorem popUntilCurrent (p : ElementName → Bool) : b.LeadsTo (c.popUntilCurrent p) :=
  h.popWhile _

theorem popThrough (p : ElementName → Bool) : b.LeadsTo (c.popThrough p) :=
  (h.popUntilCurrent p).pop

theorem popThroughNamed (name : String) : b.LeadsTo (c.popThroughNamed name) :=
  h.popThrough _

theorem endImplied : b.LeadsTo c.endImplied :=
  h.popWhile _

theorem endImpliedExcept (name : String) : b.LeadsTo (c.endImpliedExcept name) :=
  h.popWhile _

theorem closeExpecting (f : Fault) (p : ElementName → Bool) : b.LeadsTo (c.closeExpecting f p) :=
  .ite (h.popThrough p) ((h.popThrough p).report f)

theorem expectToClose (name : String) : b.LeadsTo (c.expectToClose name) :=
  h.closeExpecting _ _

theorem closeParagraph : b.LeadsTo c.closeParagraph :=
  (h.endImpliedExcept "p").expectToClose "p"

theorem closeParagraphInScope : b.LeadsTo c.closeParagraphInScope :=
  .ite h.closeParagraph h

theorem clearFormattingToMarker : b.LeadsTo c.clearFormattingToMarker :=
  h.formatSome ((List.tail_sublist _).trans (List.dropWhile_sublist _)).subset

theorem pushMarker : b.LeadsTo c.pushMarker :=
  h.format fun hplain o tag hmem => by
    rcases List.mem_cons.1 hmem with hmarker | hmem
    · cases hmarker
    · exact hplain o tag hmem

theorem removeFormatting (id : Nat) : b.LeadsTo (c.removeFormatting id) :=
  h.formatSome List.eraseP_sublist.subset

end Closing

/-! Insertion -/

section Insertion

variable (h : b.LeadsTo c)
include h

theorem addAttributes (id : Nat) (attributes : List Attribute) :
    b.LeadsTo { c with tree := c.tree.addAttributes id attributes } :=
  h.edit (fun _ => .attributes c id attributes) (fun hc => hc) fun hc => hc

theorem insertEmpty (e : ElementName) (attributes : List Attribute) :
    b.LeadsTo (c.insertEmpty e attributes) :=
  h.edit (fun _ => .makes c e attributes) (fun hc => hc) fun hc => hc

theorem insert (e : ElementName) (attributes : List Attribute) :
    b.LeadsTo (c.insert e attributes) :=
  h.edit (fun _ => .opens c e attributes) (fun hc => hc) fun hc => hc

theorem insertTag (t : Tag) : b.LeadsTo (c.insertTag t) :=
  h.insert _ _

theorem insertEmptyTag (t : Tag) : b.LeadsTo (c.insertEmptyTag t) :=
  h.insertEmpty _ _

theorem insertPhantom (name : String) : b.LeadsTo (c.insertPhantom name) :=
  h.insert _ _

/-- Text is read, and then what is read now. -/
theorem suspend (mode : Mode) (hearly : mode.isEarly = false) :
    b.LeadsTo { c with modeBehindText := c.mode, mode := mode } :=
  h.closes { Closes.refl c with } (fun hc => hc) fun hc => ⟨hearly, fun _ => hc.now, hc.templates⟩

theorem insertTextElement (t : Tag) (content : Content) :
    b.LeadsTo (c.insertTextElement t content).1 :=
  (h.insertTag t).suspend _ rfl

/-- The formatting that goes on gets a new entry. -/
theorem addFormatting (o : Open) {tag : Tag}
    (htag : IsPlain b.formatting → tag.element.takesMisplaced = false) :
    b.LeadsTo { c with formatting := .element o tag :: c.formatting } where
  edits hb := (h.edits hb).tail (.closes { Closes.refl c with })
  plain hb := by
    intro p t hmem
    rcases List.mem_cons.1 hmem with heq | hmem
    · cases heq
      exact htag hb
    · exact h.plain hb p t hmem
  begun := h.begun

end Insertion

theorem reopen {entries : List Formatting} (h : b.LeadsTo c)
    (hentries : IsPlain b.formatting → IsPlain entries) : b.LeadsTo (c.reopen entries) := by
  induction entries with
  | nil => exact h
  | cons entry entries ih =>
      have hrest := ih fun hb o tag hmem => hentries hb o tag (List.mem_cons_of_mem _ hmem)
      cases entry with
      | marker => exact hrest
      | element o tag =>
          exact (hrest.insertTag tag).addFormatting _ fun hb =>
            hentries hb o tag List.mem_cons_self

theorem reconstruct (h : b.LeadsTo c) : b.LeadsTo c.reconstruct :=
  (h.formatSome (List.dropWhile_sublist _).subset).reopen fun hb o tag hmem =>
    h.plain hb o tag ((List.takeWhile_sublist _).subset hmem)

theorem insertFormatting (h : b.LeadsTo c) {t : Tag} (ht : t.element.takesMisplaced = false) :
    b.LeadsTo (c.insertFormatting t) := by
  unfold Builder.insertFormatting
  refine LeadsTo.addFormatting (LeadsTo.insertTag ?_ t) _ fun _ => ht
  split
  · exact .ite (h.removeFormatting _) h
  · exact h

theorem resetMode (h : b.LeadsTo c) : b.LeadsTo c.resetMode :=
  h.closes { Closes.refl c with } (fun hc => hc) fun hc =>
    .of_isOrdinary (isOrdinary_modeOfOpen hc.templates c.opened) hc.templates

end LeadsTo

end Builder

end ShapeCoords.Markup
