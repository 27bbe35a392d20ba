import Mathlib.Logic.Function.Basic
import ShapeCoords.Proofs.Markup.Ranks
import ShapeCoords.Proofs.Markup.TextEdits

/-!
The tree of a text is a forest, however much the text has to be repaired: every edit keeps ranks by
which each element is above the one it stands in, and each open element above those around it.
-/

namespace ShapeCoords.Markup

open Markup.Tree

namespace Builder

open Relation (ReflTransGen)

/-- The ranks of the tree go along with the order in which elements are open. -/
structure IsRankedBy (rank : Nat → ℚ) (b : Builder) : Prop where
  tree : b.tree.RankedBy rank
  opened : b.opened.Pairwise fun inner outer => rank outer.id < rank inner.id
  openedMade : ∀ o ∈ b.opened, o.id < b.tree.elements.size
  headMade : ∀ o ∈ b.head, o.id < b.tree.elements.size

variable {rank : Nat → ℚ} {b c : Builder}

/-! Edits that move nothing -/

theorem Closes.isRankedBy (h : b.Closes c) (hb : b.IsRankedBy rank) : c.IsRankedBy rank where
  tree := h.tree ▸ hb.tree
  opened := hb.opened.sublist h.opened
  openedMade o ho := by
    rw [h.tree]
    exact hb.openedMade o (h.opened.subset ho)
  headMade o ho := by
    rw [h.tree]
    rcases h.head with heq | ⟨p, hp, heq⟩
    · exact hb.headMade o (heq ▸ ho)
    · rw [heq] at ho
      cases ho
      exact hb.openedMade _ hp

/-- A new element gets the highest rank, wherever it is put. -/
theorem exists_rank_make (hb : b.tree.RankedBy rank) (e : Element) {p : Position}
    {opened : List Open} (hp : p.IsWithin opened)
    (hopened : ∀ o ∈ opened, o.id < b.tree.elements.size) :
    ∃ other : Nat → ℚ, (p.insert b.tree.elements.size (b.tree.create e)).RankedBy other ∧
      (∀ i < b.tree.elements.size, other i = rank i ∧ rank i < other b.tree.elements.size) := by
  let n := b.tree.elements.size
  obtain ⟨q, hq⟩ := exists_top_rank rank n
  have hn : n < (b.tree.create e).elements.size := by simp [n, Tree.create]
  have hold : ∀ i < n, Function.update rank n q i = rank i := fun i hi =>
    Function.update_of_ne hi.ne _ _
  have hnew : Function.update rank n q n = q := Function.update_self _ _ _
  have htree : (b.tree.create e).RankedBy (Function.update rank n q) := (hb.rerank hold).create e
  obtain ⟨place, hlinks, hplace⟩ := Position.exists_place htree hp
    (fun o ho => (hopened o ho).trans hn) n
  refine ⟨_, htree.put hlinks (congrArg Array.size (Position.elements_insert ..))
    (fun l hl => hb.child_ne_size hl) hn fun owner howner => ?_, fun i hi => ⟨hold i hi, ?_⟩⟩
  · obtain ⟨hmade, o, ho, hle⟩ := hplace owner howner
    refine ⟨hmade, hle.trans_lt ?_⟩
    rw [hnew, hold _ (hopened o ho)]
    exact hq _ (hopened o ho)
  · show rank i < Function.update rank n q n
    rw [hnew]
    exact hq i hi

/-- A new element is made, and opened or not. -/
theorem isRankedBy_of_make (hb : b.IsRankedBy rank) (e : Element) {p : Position}
    (hp : p.IsWithin (b.head.toList ++ b.opened)) {o : Open} (ho : o.id = b.tree.elements.size)
    (htree : c.tree = p.insert b.tree.elements.size (b.tree.create e))
    (hopened : c.opened.Sublist (o :: b.opened)) (hhead : c.head = b.head) :
    ∃ other, c.IsRankedBy other := by
  have hmade : ∀ p ∈ b.head.toList ++ b.opened, p.id < b.tree.elements.size := by
    intro p hp
    rcases List.mem_append.1 hp with hp | hp
    · exact hb.headMade p (Option.mem_toList.1 hp)
    · exact hb.openedMade p hp
  obtain ⟨other, hother, hold⟩ := exists_rank_make hb.tree e hp hmade
  have hsize : c.tree.elements.size = b.tree.elements.size + 1 := by
    rw [htree, Position.elements_insert]
    simp [Tree.create]
  refine ⟨other, htree ▸ hother, ?_, fun p hp => ?_, fun p hp => ?_⟩
  · refine List.Pairwise.sublist hopened (List.pairwise_cons.2 ⟨fun p hp => ?_, ?_⟩)
    · obtain ⟨heq, hlt⟩ := hold p.id (hb.openedMade p hp)
      rw [ho, heq]
      exact hlt
    · refine hb.opened.imp_of_mem fun {inner outer} hinner houter hlt => ?_
      rwa [(hold _ (hb.openedMade _ hinner)).1, (hold _ (hb.openedMade _ houter)).1]
  · rw [hsize]
    rcases List.mem_cons.1 (hopened.subset hp) with rfl | hp
    · omega
    · exact Nat.lt_succ_of_lt (hb.openedMade p hp)
  · rw [hsize]
    exact Nat.lt_succ_of_lt (hb.headMade p (hhead ▸ hp))

/-! Moving out -/

/-- The ranks of a chain of copies: from `floor` up to the block, inwards. -/
structure Chain.IsRankedBy (rank : Nat → ℚ) (floor : ℚ) (block : Nat) (c : Chain) : Prop where
  tree : c.builder.tree.RankedBy rank
  blockMade : block < c.builder.tree.elements.size
  lastMade : c.last < c.builder.tree.elements.size
  floor_lt : floor < rank c.last
  last_le : rank c.last ≤ rank block
  kept : c.kept.Pairwise fun outer inner => rank outer.id < rank inner.id
  keptMade : ∀ o ∈ c.kept, o.id < c.builder.tree.elements.size
  last_le_kept : ∀ o ∈ c.kept, rank c.last ≤ rank o.id
  kept_lt : ∀ o ∈ c.kept, rank o.id < rank block
  plain : ∀ o ∈ c.kept, o.element.takesMisplaced = false

section Chain

variable {floor : ℚ} {block : Nat} {chain : Chain}

/-- Each copy gets a rank between the floor and the chain so far. -/
theorem Chain.IsRankedBy.copy (h : chain.IsRankedBy rank floor block) (o : Open) {tag : Tag}
    (htag : tag.element.takesMisplaced = false) :
    ∃ other : Nat → ℚ, (chain.copy o tag).IsRankedBy other floor block ∧
      ∀ i < chain.builder.tree.elements.size, other i = rank i := by
  let n := chain.builder.tree.elements.size
  obtain ⟨q, hfloor, hlast⟩ := exists_between h.floor_lt
  let other := Function.update rank n q
  have hold : ∀ i < n, other i = rank i := fun i hi => Function.update_of_ne hi.ne _ _
  have hnew : other n = q := Function.update_self _ _ _
  have hsize : (chain.copy o tag).builder.tree.elements.size = n + 1 := by
    simp [Chain.copy, Tree.append, Tree.detach, Tree.create, Builder.create, n]
  have hmade : ∀ {i}, i < n → i < (chain.copy o tag).builder.tree.elements.size := fun hi =>
    hsize ▸ Nat.lt_succ_of_lt hi
  have hnmade : n < (chain.copy o tag).builder.tree.elements.size := hsize ▸ Nat.lt_succ_self n
  have htree : (chain.copy o tag).builder.tree.RankedBy other := by
    refine (((h.tree.rerank hold).create _).detach chain.last).append
      (fun l hl => child_ne_of_mem_detach hl) (hmade h.lastMade) fun owner howner => ?_
    cases howner
    refine ⟨hnmade, ?_⟩
    show other n < other chain.last
    rwa [hnew, hold _ h.lastMade]
  refine ⟨other, ⟨htree, hmade h.blockMade, hnmade, ?_, ?_, ?_, ?_, ?_, ?_, ?_⟩, hold⟩
  · show floor < other n
    rwa [hnew]
  · show other n ≤ other block
    rw [hnew, hold _ h.blockMade]
    exact (hlast.trans_le h.last_le).le
  · refine List.pairwise_cons.2 ⟨fun k hk => ?_, ?_⟩
    · show other n < other k.id
      rw [hnew, hold _ (h.keptMade k hk)]
      exact hlast.trans_le (h.last_le_kept k hk)
    · refine h.kept.imp_of_mem fun {outer inner} houter hinner hlt => ?_
      rwa [hold _ (h.keptMade _ houter), hold _ (h.keptMade _ hinner)]
  · rintro k (_ | ⟨_, hk⟩)
    · exact hnmade
    · exact hmade (h.keptMade k hk)
  · rintro k (_ | ⟨_, hk⟩)
    · exact le_rfl
    · show other n ≤ other k.id
      rw [hnew, hold _ (h.keptMade k hk)]
      exact (hlast.trans_le (h.last_le_kept k hk)).le
  · rintro k (_ | ⟨_, hk⟩)
    · show other n < other block
      rw [hnew, hold _ h.blockMade]
      exact hlast.trans_le h.last_le
    · rw [hold _ (h.keptMade k hk), hold _ h.blockMade]
      exact h.kept_lt k hk
  · rintro k (_ | ⟨_, hk⟩)
    · exact htag
    · exact h.plain k hk

theorem Chain.IsRankedBy.extend (h : chain.IsRankedBy rank floor block)
    (hplain : IsPlain chain.builder.formatting) (n : Nat) (between : List Open) :
    ∃ other : Nat → ℚ, (chain.extend n between).IsRankedBy other floor block ∧
      ∀ i < chain.builder.tree.elements.size,
        i < (chain.extend n between).builder.tree.elements.size ∧ other i = rank i := by
  induction between generalizing chain n rank with
  | nil => exact ⟨rank, h, fun _ hi => ⟨hi, rfl⟩⟩
  | cons o between ih =>
      rw [Chain.extend]
      split
      · rename_i hentry
        have htag := hplain _ _ (List.mem_of_find?_eq_some hentry)
        obtain ⟨first, hfirst, hold⟩ := h.copy o htag
        obtain ⟨other, hother, hold'⟩ := ih hfirst (isPlain_map_replace hplain _ _ htag) (n + 1)
        refine ⟨other, hother, fun i hi => ?_⟩
        obtain ⟨hi', heq⟩ := hold' i (hi.trans hfirst.lastMade)
        exact ⟨hi', heq.trans (hold i hi)⟩
      · let next : Chain := { chain with builder := chain.builder.removeFormatting o.id }
        have hnext : next.IsRankedBy rank floor block := { h with }
        exact ih hnext (fun p t hmem => hplain p t (List.eraseP_sublist.subset hmem)) (n + 1)

end Chain

section MoveOut

variable {target outer block : Open} {tag : Tag} {above between below : List Open}

theorem isRankedBy_start (hb : b.IsRankedBy rank) (hmade : block.id < b.tree.elements.size)
    {floor : ℚ} (hfloor : floor < rank block.id) :
    Chain.IsRankedBy rank floor block.id { builder := b, last := block.id } where
  tree := hb.tree
  blockMade := hmade
  lastMade := hmade
  floor_lt := hfloor
  last_le := le_rfl
  kept := .nil
  keptMade := fun o ho => by cases ho
  last_le_kept := fun o ho => by cases ho
  kept_lt := fun o ho => by cases ho
  plain := fun o ho => by cases ho

/-- Where a block goes that moves out of formatting inside of other elements. -/
def outerPosition (below : List Open) (b : Builder) : Position :=
  match below with
  | ancestor :: _ => b.positionIn ancestor
  | [] => .inside .document

/-- That is around the formatting, or in front of a table further out. -/
theorem isWithin_outerPosition {kept : List Open}
    (hopened : b.opened = above ++ block :: kept ++ target :: below)
    (hplain : ∀ o ∈ above ++ block :: kept, o.element.takesMisplaced = false) :
    (outerPosition below b).IsWithin (target :: below) := by
  cases below with
  | nil => exact fun _ h => by cases h
  | cons ancestor below =>
      rw [outerPosition, positionIn]
      split
      · rw [hopened, fosterPosition_append (by simp) hplain]
        exact isWithin_fosterPosition _
      · exact isWithin_contentPlace (List.mem_cons_of_mem _ List.mem_cons_self)

/-- The tree behind a chain of copies has moved out of the formatting. -/
def Chain.movedTree (target : Open) (above : List Open) (block : Open) (below : List Open)
    (chain : Chain) : Tree :=
  let opened := above ++ block :: chain.kept.reverse ++ target :: below
  let tree := chain.builder.tree.detach chain.last
  (outerPosition below { chain.builder with opened := opened, tree := tree }).insert chain.last tree

theorem Chain.IsRankedBy.movedTree {chain : Chain}
    (h : chain.IsRankedBy rank (rank target.id) block.id)
    (hplain : ∀ o ∈ above ++ [block], o.element.takesMisplaced = false)
    (hbelow : ∀ o ∈ target :: below,
      o.id < chain.builder.tree.elements.size ∧ rank o.id ≤ rank target.id) :
    (chain.movedTree target above block below).RankedBy rank := by
  refine Position.rankedBy_move h.tree (isWithin_outerPosition rfl fun o ho => ?_) h.lastMade
    fun o ho => ⟨(hbelow o ho).1, (hbelow o ho).2.trans_lt h.floor_lt⟩
  rw [List.append_cons, List.mem_append, List.mem_reverse] at ho
  exact ho.elim (hplain o) (h.plain o)

theorem Chain.size_movedTree (target : Open) (above : List Open) (block : Open)
    (below : List Open) (chain : Chain) :
    (chain.movedTree target above block below).elements.size = chain.builder.tree.elements.size :=
  congrArg Array.size (Position.elements_insert _ _ _)

theorem Chain.IsRankedBy.made {chain : Chain} {floor : ℚ}
    (h : chain.IsRankedBy rank floor block.id)
    (hopened : ∀ o ∈ above ++ block :: below, o.id < chain.builder.tree.elements.size) :
    ∀ o ∈ above ++ block :: (chain.kept.reverse ++ below),
      o.id < (chain.movedTree target above block below).elements.size := by
  intro o ho
  rw [Chain.size_movedTree]
  simp only [List.mem_append, List.mem_cons, List.mem_reverse] at ho hopened
  rcases ho with ho | rfl | ho | ho
  · exact hopened o (.inl ho)
  · exact h.blockMade
  · exact h.keptMade o ho
  · exact hopened o (.inr (.inr ho))

/-- The copies are open around the block, instead of the formatting. -/
theorem Chain.IsRankedBy.pairwise {chain : Chain} {floor : ℚ}
    (h : chain.IsRankedBy rank floor block.id)
    (hopened : (above ++ block :: below).Pairwise fun inner outer => rank outer.id < rank inner.id)
    (hbelow : ∀ o ∈ below, rank o.id ≤ floor) :
    (above ++ block :: (chain.kept.reverse ++ below)).Pairwise
      fun inner outer => rank outer.id < rank inner.id := by
  have hkept : ∀ o ∈ chain.kept.reverse, floor < rank o.id ∧ rank o.id < rank block.id :=
    fun o ho =>
      have ho := List.mem_reverse.1 ho
      ⟨h.floor_lt.trans_le (h.last_le_kept o ho), h.kept_lt o ho⟩
  obtain ⟨habove, hrest, hcross⟩ := List.pairwise_append.1 hopened
  obtain ⟨hblock, hrest⟩ := List.pairwise_cons.1 hrest
  have hcopies : (chain.kept.reverse ++ below).Pairwise
      fun inner outer => rank outer.id < rank inner.id :=
    List.pairwise_append.2 ⟨List.pairwise_reverse.2 h.kept, hrest,
      fun o ho p hp => (hbelow p hp).trans_lt (hkept o ho).1⟩
  have hunder : ∀ o ∈ chain.kept.reverse ++ below, rank o.id < rank block.id := by
    intro o ho
    rcases List.mem_append.1 ho with ho | ho
    · exact (hkept o ho).2
    · exact hblock o ho
  refine List.pairwise_append.2 ⟨habove, List.pairwise_cons.2 ⟨hunder, hcopies⟩,
    fun o ho p hp => ?_⟩
  have hlt := hcross o ho block List.mem_cons_self
  rcases List.mem_cons.1 hp with rfl | hp
  · exact hlt
  · exact (hunder p hp).trans hlt

/-- The formatting goes on right inside of the block. -/
theorem pairwise_enclose {other : Nat → ℚ} {new : Open} {outwards : List Open} {n : Nat}
    (hopened : (above ++ block :: outwards).Pairwise
      fun inner outer => rank outer.id < rank inner.id)
    (hmade : ∀ o ∈ above ++ block :: outwards, o.id < n) (hold : ∀ i < n, other i = rank i)
    (hnew : rank block.id < other new.id)
    (hnext : ∀ i < n, rank block.id < rank i → other new.id < rank i) :
    (above ++ new :: block :: outwards).Pairwise
      fun inner outer => other outer.id < other inner.id := by
  have hopened : (above ++ block :: outwards).Pairwise
      fun inner outer => other outer.id < other inner.id :=
    hopened.imp_of_mem fun {o p} ho hp hlt => by
      rwa [hold _ (hmade o ho), hold _ (hmade p hp)]
  have hblock := hold _ (hmade block (by simp))
  obtain ⟨habove, hrest, hcross⟩ := List.pairwise_append.1 hopened
  have hunder : ∀ o ∈ block :: outwards, other o.id < other new.id := by
    intro o ho
    rcases List.mem_cons.1 ho with rfl | ho
    · rwa [hblock]
    · exact ((List.pairwise_cons.1 hrest).1 o ho).trans (by rwa [hblock])
  refine List.pairwise_append.2 ⟨habove, List.pairwise_cons.2 ⟨hunder, hrest⟩, fun o ho p hp => ?_⟩
  rcases List.mem_cons.1 hp with rfl | hp
  · have hmadeo := hmade o (List.mem_append_left _ ho)
    have hlt := hcross o ho block List.mem_cons_self
    rw [hold _ hmadeo, hblock] at hlt
    rw [hold _ hmadeo]
    exact hnext _ hmadeo hlt
  · exact hcross o ho p hp

theorem isRankedBy_moveOut (hb : b.IsRankedBy rank)
    (hopened : b.opened = above ++ block :: (between ++ outer :: below))
    (houter : outer.id = target.id)
    (hplain : ∀ o ∈ above ++ block :: between, o.element.takesMisplaced = false)
    (hformatting : IsPlain b.formatting) :
    ∃ other, (b.moveOut target tag above block between below).IsRankedBy other := by
  have hmade : ∀ o ∈ above ++ block :: (between ++ outer :: below),
      o.id < b.tree.elements.size := hopened ▸ hb.openedMade
  have hstack := hopened ▸ hb.opened
  have hfloor : rank target.id < rank block.id := by
    rw [← houter]
    exact (List.pairwise_cons.1 (List.pairwise_append.1 hstack).2.1).1 outer (by simp)
  obtain ⟨copied, hchain, hcopied⟩ :=
    (isRankedBy_start hb (hmade block (by simp)) hfloor).extend hformatting 0 between
  let chain := Chain.extend { builder := b, last := block.id } 0 between
  -- the ranks of the elements that were open do not change
  have hstack : (above ++ block :: (between ++ outer :: below)).Pairwise
      fun inner outer => copied outer.id < copied inner.id :=
    hstack.imp_of_mem fun {o p} ho hp hlt => by
      rwa [(hcopied _ (hmade o ho)).2, (hcopied _ (hmade p hp)).2]
  have hbelow : ∀ o ∈ below, copied o.id < copied target.id := by
    have := (List.pairwise_append.1 (List.pairwise_cons.1 (List.pairwise_append.1 hstack).2.1).2).2.1
    rw [← houter]
    exact (List.pairwise_cons.1 this).1
  have hsub : (above ++ block :: below).Sublist (above ++ block :: (between ++ outer :: below)) :=
    .append_left (.cons_cons _ (List.sublist_append_of_sublist_right (List.sublist_cons_self _ _))) _
  have htarget := hcopied _ (houter ▸ hmade outer (by simp))
  rw [← htarget.2] at hchain
  have hmoved : (chain.movedTree target above block below).RankedBy copied := by
    refine hchain.movedTree (fun o ho => hplain o ?_) fun o ho => ?_
    · rw [List.append_cons]
      exact List.mem_append_left _ ho
    · rcases List.mem_cons.1 ho with rfl | ho
      · exact ⟨htarget.1, le_rfl⟩
      · exact ⟨(hcopied _ (hmade o (by simp [ho]))).1, (hbelow o ho).le⟩
  have hmovedStack := hchain.pairwise (hstack.sublist hsub) fun o ho => (hbelow o ho).le
  let n := (chain.movedTree target above block below).elements.size
  have hmovedMade : ∀ o ∈ above ++ block :: (chain.kept.reverse ++ below), o.id < n :=
    hchain.made fun o ho => (hcopied _ (hmade o (hsub.subset ho))).1
  obtain ⟨other, htree, hold, hnew, hnext⟩ := hmoved.enclose (hmovedMade block (by simp))
    ⟨tag.element.space, tag.element.name, tag.attributes⟩
  have hstackEq : (b.moveOut target tag above block between below).opened =
      above ++ ⟨n, tag.element⟩ :: block :: (chain.kept.reverse ++ below) := by
    show above ++ ⟨n, tag.element⟩ :: block :: chain.kept.reverse ++ below = _
    simp
  have hgrown : (b.moveOut target tag above block between below).tree.elements.size = n + 1 :=
    Array.size_push _
  refine ⟨other, htree, hstackEq ▸ pairwise_enclose hmovedStack hmovedMade hold hnew hnext,
    fun o ho => ?_, fun o ho => ?_⟩
  · rw [hgrown]
    rw [hstackEq] at ho
    rcases List.mem_append.1 ho with ho | ho
    · exact Nat.lt_succ_of_lt (hmovedMade o (List.mem_append_left _ ho))
    · rcases List.mem_cons.1 ho with rfl | ho
      · exact Nat.lt_succ_self n
      · exact Nat.lt_succ_of_lt (hmovedMade o (List.mem_append_right _ ho))
  · rw [(agreesElsewhere_moveOut b target block tag above between below).head] at ho
    rw [hgrown, show n = _ from Chain.size_movedTree _ _ _ _ _]
    exact Nat.lt_succ_of_lt (hcopied _ (hb.headMade o ho)).1

end MoveOut

/-! All edits -/

theorem isWithin_head {head : Open} (hhead : b.head = some head) :
    ((b.report .unexpectedToken).push head).position.IsWithin (b.head.toList ++ b.opened) := by
  rw [hhead]
  exact isWithin_position _

theorem Edit.isRankedBy (h : Edit b c) (hb : b.IsRankedBy rank) : ∃ other, c.IsRankedBy other := by
  have hposition : b.position.IsWithin (b.head.toList ++ b.opened) :=
    (isWithin_position b).mono (List.subset_append_right _ _)
  cases h with
  | closes h => exact ⟨rank, h.isRankedBy hb⟩
  | attributes id attributes =>
      have hsize : (b.tree.addAttributes id attributes).elements.size = b.tree.elements.size := by
        simp [Tree.addAttributes]
      exact ⟨rank, hb.tree.addAttributes id attributes, hb.opened,
        fun o ho => (hb.openedMade o ho).trans_eq hsize.symm,
        fun o ho => (hb.headMade o ho).trans_eq hsize.symm⟩
  | makes e attributes =>
      exact isRankedBy_of_make hb _ hposition (o := b.next e) rfl rfl (List.sublist_cons_self _ _) rfl
  | opens e attributes =>
      exact isRankedBy_of_make hb _ hposition (o := b.next e) rfl rfl (.refl _) rfl
  | opensRoot attributes hopened =>
      exact isRankedBy_of_make hb _ (p := .inside .document) (fun _ h => by cases h)
        (o := b.next ⟨.html, "html"⟩) rfl rfl (.refl _) rfl
  | fosters hf => exact ⟨rank, hb.tree, hb.opened, hb.openedMade, hb.headMade⟩
  | drops id hopened =>
      exact ⟨rank, hb.tree.detach id, hb.opened.sublist hopened,
        fun o ho => hb.openedMade o (hopened.subset ho), hb.headMade⟩
  | movesOut hopened houter hplain hentry hformatting =>
      have hb' : (b.report .formattingNotCurrent).IsRankedBy rank :=
        ⟨hb.tree, hb.opened, hb.openedMade, hb.headMade⟩
      exact isRankedBy_moveOut hb' hopened houter hplain hformatting
  | @makesInHead head e attributes hhead =>
      have hclosed : ((head :: b.opened).eraseP fun o => o.id == head.id) = b.opened := by
        rw [List.eraseP_cons_of_pos (by simp)]
      refine isRankedBy_of_make hb _ (isWithin_head hhead) (o := b.next e) rfl rfl ?_ rfl
      show ((head :: b.opened).eraseP fun o => o.id == head.id).Sublist _
      rw [hclosed]
      exact List.sublist_cons_self _ _
  | @opensInHead head e attributes hhead =>
      have hne : (b.next e).id ≠ head.id := (hb.headMade head hhead).ne'
      have hclosed : ((b.next e :: head :: b.opened).eraseP fun o => o.id == head.id) =
          b.next e :: b.opened := by
        rw [List.eraseP_cons_of_neg (by simpa using hne), List.eraseP_cons_of_pos (by simp)]
      refine isRankedBy_of_make hb _ (isWithin_head hhead) (o := b.next e) rfl rfl ?_ rfl
      show ((b.next e :: head :: b.opened).eraseP fun o => o.id == head.id).Sublist _
      rw [hclosed]

/-- The tree of a text is a forest. -/
theorem GoesTo.isForest (h : GoesTo {} c) : c.tree.IsForest := by
  have hstart : ({} : Builder).IsRankedBy fun _ => 0 :=
    { tree :=
        { distinct := List.nodup_nil
          childMade := fun l hl => by cases hl
          ownerMade := fun child owner hunder => by
            obtain ⟨p, hp, -⟩ := hunder
            cases hp
          higher := fun child owner hunder => by
            obtain ⟨p, hp, -⟩ := hunder
            cases hp }
      opened := .nil
      openedMade := fun o ho => by cases ho
      headMade := fun o ho => by cases ho }
  have hedits : ∀ d, ReflTransGen Edit {} d → ∃ rank, d.IsRankedBy rank := by
    intro d hd
    induction hd with
    | refl => exact ⟨_, hstart⟩
    | tail _ hedit ih =>
        obtain ⟨rank, hranked⟩ := ih
        exact hedit.isRankedBy hranked
  obtain ⟨rank, hranked⟩ := hedits c (h.edits fun o tag hmem => by cases hmem)
  exact ⟨rank, hranked.tree⟩

end Builder

/-- However a text has to be repaired, no element of its tree stands in itself or in two places. -/
theorem isForest_parse (s : List Char) : (parse s).1.IsForest :=
  (Builder.GoesTo.build _ _ _ (.refl (.inr ⟨rfl, rfl, rfl⟩))).isForest

end ShapeCoords.Markup
