import ShapeCoords.Proofs.Markup.OrderOfMaking
import ShapeCoords.Proofs.Markup.TextEdits

/-!
The elements of a text stand in the order in which they were made, as long as no fault tells of
content that moved away from where it was read.
-/

namespace ShapeCoords.Markup

open Relation (ReflTransGen)

namespace Tree

variable {t u : Tree}

theorem MadeInOrder.congr (ht : t.MadeInOrder) (hlinks : u.links = t.links)
    (hsize : u.elements.size = t.elements.size) : u.MadeInOrder := by
  have hunder : u.Under = t.Under := by
    funext child owner
    rw [Under, hlinks, Under]
  exact ⟨by rw [hlinks, hsize]; exact ht.linked, by rw [hunder]; exact ht.below,
    by rw [hunder]; exact ht.follows, by rw [hlinks]; exact ht.onePlace⟩

/-- An element stands in the one that was made last, or around that. -/
def IsLatest (t : Tree) (id : Nat) : Prop :=
  ∃ last, t.elements.size = last + 1 ∧ ReflTransGen t.Under last id

theorem under_append_create {e : Element} {p : Place} {child owner : Nat} :
    ((t.create e).append t.elements.size p).Under child owner ↔
      child = t.elements.size ∧ p.owner? = some owner ∨ t.Under child owner := by
  constructor
  · rintro ⟨q, hq, howner⟩
    rcases List.mem_cons.1 hq with heq | hq
    · cases heq
      exact .inl ⟨rfl, howner⟩
    · exact .inr ⟨q, hq, howner⟩
  · rintro (⟨rfl, howner⟩ | ⟨q, hq, howner⟩)
    · exact ⟨p, List.mem_cons_self, howner⟩
    · exact ⟨q, List.mem_cons_of_mem _ hq, howner⟩

/-- Making an element behind all others, in one around the latest. -/
theorem MadeInOrder.append_create (ht : t.MadeInOrder) (e : Element) {p : Place}
    (hp : ∀ owner ∈ p.owner?, t.IsLatest owner)
    (hplace : ∀ l ∈ t.links, l.parent.owner? = p.owner? → l.parent = p) :
    ((t.create e).append t.elements.size p).MadeInOrder := by
  have hsize : ((t.create e).append t.elements.size p).elements.size = t.elements.size + 1 := by
    simp [Tree.append, Tree.create]
  refine ⟨?_, fun child owner h => ?_, fun child owner h => ?_, fun l hl m hm howner => ?_⟩
  · rw [hsize, List.range_succ, List.reverse_append, List.reverse_singleton, List.singleton_append,
      ← ht.linked]
    rfl
  · rcases under_append_create.1 h with ⟨rfl, howner⟩ | h
    · obtain ⟨last, hlast, hup⟩ := hp owner howner
      have := Nat.cast_le.1 (ht.rankedBy.le_of_reflTransGen hup)
      omega
    · exact ht.below _ _ h
  · have hmono : ∀ {x y}, ReflTransGen t.Under x y →
        ReflTransGen ((t.create e).append t.elements.size p).Under x y := fun h =>
      ReflTransGen.mono (fun _ _ h => under_append_create.2 (.inr h)) _ _ h
    rcases under_append_create.1 h with ⟨rfl, howner⟩ | h
    · obtain ⟨last, hlast, hup⟩ := hp owner howner
      exact ⟨last, hlast, hmono hup⟩
    · obtain ⟨last, hlast, hup⟩ := ht.follows _ _ h
      exact ⟨last, hlast, hmono hup⟩
  · rcases List.mem_cons.1 hl with rfl | hl <;> rcases List.mem_cons.1 hm with rfl | hm
    · rfl
    · exact (hplace m hm howner.symm).symm
    · exact hplace l hl howner
    · exact ht.onePlace l hl m hm howner

end Tree

namespace Builder

open Markup.Tree

/-- The open elements are those around the one that was made last. -/
structure IsInOrder (b : Builder) : Prop where
  made : b.tree.MadeInOrder
  enclosing : b.opened.Pairwise fun inner outer =>
    outer.id < inner.id ∧ ReflTransGen b.tree.Under inner.id outer.id
  latest : ∀ o ∈ b.opened, b.tree.IsLatest o.id
  places : ∀ o ∈ b.opened, ∀ l ∈ b.tree.links, l.parent.owner? = some o.id →
    l.parent = contentPlace o
  fosters : b.fosters = false

variable {b c : Builder}

theorem Closes.isInOrder (h : b.Closes c) (hb : b.IsInOrder) : c.IsInOrder := by
  obtain ⟨hmade, henclosing, hlatest, hplaces, hfosters⟩ := hb
  rw [← h.tree] at hmade henclosing hlatest hplaces
  refine ⟨hmade, henclosing.sublist h.opened, fun o ho => hlatest o (h.opened.subset ho),
    fun o ho => hplaces o (h.opened.subset ho), ?_⟩
  rw [Bool.eq_false_iff]
  intro hc
  exact absurd (hfosters.symm.trans (h.fosters hc)) (by decide)

/-- A place in the innermost open element, or in the document if none is open. -/
def IsInnermost (p : Place) (b : Builder) : Prop :=
  p = .document ∧ b.opened = [] ∨ ∃ o, b.opened.head? = some o ∧ p = contentPlace o

theorem owner?_contentPlace (o : Open) : (contentPlace o).owner? = some o.id := by
  rw [contentPlace]
  split <;> rfl

/-- As long as nothing moves, an element is made in the innermost open one. -/
theorem IsInOrder.position_eq (hb : b.IsInOrder) :
    ∃ p, b.position = .inside p ∧ b.IsInnermost p := by
  rw [position]
  cases hcurrent : b.current? with
  | none => exact ⟨_, rfl, .inl ⟨rfl, List.head?_eq_none_iff.1 hcurrent⟩⟩
  | some o =>
      refine ⟨contentPlace o, ?_, .inr ⟨o, hcurrent, rfl⟩⟩
      dsimp only
      rw [positionIn, hb.fosters]
      rfl

theorem IsInOrder.lt_size (hb : b.IsInOrder) {o : Open} (ho : o ∈ b.opened) :
    o.id < b.tree.elements.size := by
  obtain ⟨last, hlast, hup⟩ := hb.latest o ho
  have := Nat.cast_le.1 (hb.made.rankedBy.le_of_reflTransGen hup)
  omega

/-- All open elements are around the innermost one. -/
theorem IsInOrder.of_head (hb : b.IsInOrder) {o p : Open} (ho : b.opened.head? = some o)
    (hp : p ∈ b.opened) : p = o ∨ p.id < o.id ∧ ReflTransGen b.tree.Under o.id p.id := by
  obtain ⟨opened, hopened⟩ := List.head?_eq_some_iff.1 ho
  have henclosing := hb.enclosing
  rw [hopened] at hp henclosing
  rcases List.mem_cons.1 hp with rfl | hp
  · exact .inl rfl
  · exact .inr ((List.pairwise_cons.1 henclosing).1 p hp)

section Making

variable {p : Place}

theorem IsInnermost.exists_head (hp : b.IsInnermost p) {owner : Nat}
    (howner : p.owner? = some owner) :
    ∃ o, b.opened.head? = some o ∧ o.id = owner ∧ p = contentPlace o := by
  rcases hp with ⟨rfl, -⟩ | ⟨o, ho, rfl⟩
  · cases howner
  · rw [owner?_contentPlace] at howner
    exact ⟨o, ho, Option.some.inj howner, rfl⟩

/-- All that stands in the innermost element stands in the same place of it. -/
theorem IsInOrder.parent_eq (hb : b.IsInOrder) (hp : b.IsInnermost p) {l : Link}
    (hl : l ∈ b.tree.links) (howner : l.parent.owner? = p.owner?) : l.parent = p := by
  rcases hp with ⟨rfl, -⟩ | ⟨o, ho, rfl⟩
  · cases hparent : l.parent <;> rw [hparent] at howner <;> first | rfl | cases howner
  · rw [owner?_contentPlace] at howner
    exact hb.places o (List.mem_of_mem_head? ho) l hl howner

theorem IsInOrder.madeInOrder_append (hb : b.IsInOrder) (hp : b.IsInnermost p) (e : Element) :
    ((b.tree.create e).append b.tree.elements.size p).MadeInOrder := by
  refine hb.made.append_create e (fun owner howner => ?_) fun l hl => hb.parent_eq hp hl
  obtain ⟨o, ho, rfl, -⟩ := hp.exists_head howner
  exact hb.latest o (List.mem_of_mem_head? ho)

theorem reflTransGen_append {e : Element} {x y : Nat} (h : ReflTransGen b.tree.Under x y) :
    ReflTransGen ((b.tree.create e).append b.tree.elements.size p).Under x y :=
  ReflTransGen.mono (fun _ _ h => under_append_create.2 (.inr h)) _ _ h

/-- A new element stands in all that are open. -/
theorem IsInOrder.inside_opened (hb : b.IsInOrder) (hp : b.IsInnermost p) (e : Element) {o : Open}
    (ho : o ∈ b.opened) :
    ReflTransGen ((b.tree.create e).append b.tree.elements.size p).Under b.tree.elements.size
      o.id := by
  rcases hp with ⟨-, hnil⟩ | ⟨head, hhead, rfl⟩
  · rw [hnil] at ho
    cases ho
  · have hfirst : ((b.tree.create e).append b.tree.elements.size (contentPlace head)).Under
        b.tree.elements.size head.id :=
      under_append_create.2 (.inl ⟨rfl, owner?_contentPlace head⟩)
    rcases hb.of_head hhead ho with rfl | ⟨-, hup⟩
    · exact .single hfirst
    · exact .head hfirst (reflTransGen_append hup)

/-- An element is made in the innermost one, and is opened or not. -/
theorem IsInOrder.make (hb : b.IsInOrder) (e : Element) (hp : b.IsInnermost p) {o : Open}
    (ho : o.id = b.tree.elements.size)
    (htree : c.tree = (b.tree.create e).append b.tree.elements.size p)
    (hopened : c.opened.Sublist (o :: b.opened)) (hfosters : c.fosters = b.fosters) :
    c.IsInOrder := by
  have hmade := hb.madeInOrder_append hp e
  have hinside : ∀ q ∈ b.opened, ReflTransGen c.tree.Under b.tree.elements.size q.id :=
    fun q hq => htree ▸ hb.inside_opened hp e hq
  have hmono : ∀ {x y}, ReflTransGen b.tree.Under x y → ReflTransGen c.tree.Under x y :=
    fun h => htree ▸ reflTransGen_append h
  have hsize : c.tree.elements.size = b.tree.elements.size + 1 := by
    simp [htree, Tree.append, Tree.create]
  have hlinks : ∀ l ∈ c.tree.links, l = ⟨b.tree.elements.size, p⟩ ∨ l ∈ b.tree.links := by
    intro l hl
    rw [htree] at hl
    exact List.mem_cons.1 hl
  rw [← htree] at hmade
  refine ⟨hmade, List.Pairwise.sublist hopened (List.pairwise_cons.2 ⟨fun q hq => ?_, ?_⟩),
    fun q hq => ⟨b.tree.elements.size, hsize, ?_⟩, fun q hq l hl hq' => ?_, hfosters.trans hb.fosters⟩
  · rw [ho]
    exact ⟨hb.lt_size hq, hinside q hq⟩
  · exact hb.enclosing.imp fun h => ⟨h.1, hmono h.2⟩
  · rcases List.mem_cons.1 (hopened.subset hq) with rfl | hq
    · rw [ho]
    · exact hinside q hq
  · rcases List.mem_cons.1 (hopened.subset hq) with rfl | hq
    · -- nothing stands in the new element so far
      rw [ho] at hq'
      have hlt := hmade.below _ _ ⟨l.parent, hl, hq'⟩
      have hmem := hmade.rankedBy.childMade l hl
      omega
    · rcases hlinks l hl with rfl | hl
      · obtain ⟨head, hhead, hid, rfl⟩ := hp.exists_head hq'
        rcases hb.of_head hhead hq with rfl | ⟨hlt, -⟩
        · rfl
        · exact absurd hid hlt.ne'
      · exact hb.places q hq l hl hq'

end Making

/-- Each edit that may move content reports a fault that tells of it. -/
theorem Edit.isInOrder (h : Edit b c) : ∃ new, c.faults = new ++ b.faults ∧
    (b.IsInOrder → (∀ f ∈ new, f.misplaces = false) → c.IsInOrder) := by
  have hmoves {f : Fault} (hf : f.misplaces = true) (hfaults : c.faults = f :: b.faults) :
      ∃ new, c.faults = new ++ b.faults ∧
        (b.IsInOrder → (∀ f ∈ new, f.misplaces = false) → c.IsInOrder) :=
    ⟨[f], hfaults, fun _ hnew => absurd (hnew f List.mem_cons_self) (by rw [hf]; decide)⟩
  cases h with
  | closes h =>
      obtain ⟨new, hnew⟩ := h.faults
      exact ⟨new, hnew.symm, fun hb _ => h.isInOrder hb⟩
  | attributes id attributes =>
      have hsize : (b.tree.addAttributes id attributes).elements.size = b.tree.elements.size := by
        simp [Tree.addAttributes]
      refine ⟨[], rfl, fun hb _ => ⟨hb.made.congr rfl hsize, hb.enclosing, fun o ho => ?_, hb.places,
        hb.fosters⟩⟩
      obtain ⟨last, hlast, hup⟩ := hb.latest o ho
      exact ⟨last, hsize.trans hlast, hup⟩
  | makes e attributes =>
      refine ⟨[], rfl, fun hb _ => ?_⟩
      obtain ⟨p, hposition, hp⟩ := hb.position_eq
      exact hb.make _ hp (o := b.next e) rfl
        (by rw [insertEmpty, hposition]; rfl) (List.sublist_cons_self _ _) rfl
  | opens e attributes =>
      refine ⟨[], rfl, fun hb _ => ?_⟩
      obtain ⟨p, hposition, hp⟩ := hb.position_eq
      exact hb.make _ hp (o := b.next e) rfl
        (by rw [insert, insertEmpty, hposition]; rfl) (.refl _) rfl
  | opensRoot attributes hopened =>
      refine ⟨[], rfl, fun hb _ => ?_⟩
      exact hb.make _ (.inl ⟨rfl, hopened⟩) (o := b.next ⟨.html, "html"⟩) rfl rfl (.refl _) rfl
  | fosters hf => exact hmoves hf rfl
  | drops id hopened => exact hmoves (f := .unexpectedToken) rfl rfl
  | movesOut hopened houter hplain hentry hformatting =>
      exact hmoves (f := .formattingNotCurrent) rfl (agreesElsewhere_moveOut _ _ _ _ _ _ _).faults
  | makesInHead e attributes hhead => exact hmoves (f := .unexpectedToken) rfl rfl
  | opensInHead e attributes hhead => exact hmoves (f := .unexpectedToken) rfl rfl

theorem GoesTo.isInOrder (h : b.GoesTo c) (hplain : IsPlain b.formatting) :
    ∃ new, c.faults = new ++ b.faults ∧
      (b.IsInOrder → (∀ f ∈ new, f.misplaces = false) → c.IsInOrder) := by
  have hedits := h.edits hplain
  clear h
  induction hedits with
  | refl => exact ⟨[], rfl, fun hb _ => hb⟩
  | tail _ hedit ih =>
      obtain ⟨before, hbefore, hb⟩ := ih
      obtain ⟨new, hnew, hedit⟩ := hedit.isInOrder
      refine ⟨new ++ before, by rw [hnew, hbefore, List.append_assoc], fun hstart hall => ?_⟩
      exact hedit (hb hstart fun f hf => hall f (List.mem_append_right _ hf))
        fun f hf => hall f (List.mem_append_left _ hf)

/-- Nothing has been made so far. -/
theorem isInOrder_of_empty (htree : b.tree = {}) (hopened : b.opened = [])
    (hfosters : b.fosters = false) : b.IsInOrder := by
  have hunder : ∀ child owner, ¬Tree.Under {} child owner := fun _ _ ⟨_, hp, _⟩ => by cases hp
  refine ⟨?_, ?_, ?_, ?_, hfosters⟩
  · rw [htree]
    exact ⟨rfl, fun _ _ h => absurd h (hunder _ _), fun _ _ h => absurd h (hunder _ _),
      fun l hl => by cases hl⟩
  · rw [hopened]
    exact .nil
  · rw [hopened]
    exact fun o ho => by cases ho
  · rw [hopened]
    exact fun o ho => by cases ho

end Builder

end ShapeCoords.Markup
