import Mathlib.Data.List.TakeWhile
import ShapeCoords.Proofs.Page.Agreement

/-!
Drawings take the place of blocks and of nothing else: a page whose blocks stand alone is cut at
them, and with the drawings in between all that stands around them is the same as before.
-/

namespace ShapeCoords.Page

open Markup (Tag)

def openedBehind (opened : List OpenElement) (ps : List Part) : List OpenElement :=
  ps.foldl (fun opened p => p.opened opened) opened

/-- The element that part `i` begins stays open up to part `j`, which closes it and none around
it: part `j` is its own end tag. -/
structure EndsAt (opened : List OpenElement) (ps : List Part) (i j : Nat) : Prop where
  lt : i < j
  inRange : j < ps.length
  staysOpen : ∀ k, i < k → k ≤ j →
    (openedBehind opened (ps.take i)).length < (openedBehind opened (ps.take k)).length
  closes : openedBehind opened (ps.take (j + 1)) = openedBehind opened (ps.take i)

def NoBlocks (opened : List OpenElement) : Prop :=
  opened.filterMap OpenElement.block = []

/-- Each block lies in no other one and is closed by its own end tag. -/
def BlocksStandAlone (opened : List OpenElement) (ps : List Part) : Prop :=
  ∀ i p, ps[i]? = some p → p.block?.isSome →
    NoBlocks (openedBehind opened (ps.take i)) ∧ ∃ j, EndsAt opened ps i j

/-- What stands in front of a block, and the block from its start tag to its end tag. -/
structure Section where
  before : List Part
  block : List Part

/-- The parts of one block: it begins with the start tag, ends with the end tag of the same name
that belongs to it, and has no block in between. -/
structure IsBlock (opened : List OpenElement) (start : Part) (inner : List Part) (stop : Part) :
    Prop where
  begins : start.block?.isSome
  plain : ∀ p ∈ inner, p.block? = none
  ends : EndsAt opened (start :: inner ++ [stop]) 0 (inner.length + 1)
  sameName : ∃ startRaw startTag stopRaw stopTag, start.piece = .tag startRaw startTag ∧
    stop.piece = .tag stopRaw stopTag ∧ stopTag.kind = .closing ∧ stopTag.name = startTag.name

/-- Parts are cut at the blocks among them. -/
inductive Cut : List OpenElement → List Part → List Section → List Part → Prop where
  | last {opened : List OpenElement} {ps : List Part} (plain : ∀ p ∈ ps, p.block? = none) :
      Cut opened ps [] ps
  | block {opened : List OpenElement} {before inner rest last : List Part} {start stop : Part}
      {ss : List Section} (plain : ∀ p ∈ before, p.block? = none)
      (isBlock : IsBlock (openedBehind opened before) start inner stop)
      (tail : Cut (openedBehind opened before) rest ss last) :
      Cut opened (before ++ (start :: inner ++ [stop]) ++ rest)
        (⟨before, start :: inner ++ [stop]⟩ :: ss) last

def rawText (ps : List Part) : List Char :=
  ps.flatMap fun p => p.piece.raw

/-- The text around the blocks with one drawing in the place of each. -/
def weave (ss : List Section) (drawings : List String) (last : List Part) : List Char :=
  (ss.zipWith (fun s drawing => rawText s.before ++ drawing.toList) drawings).flatten ++
    rawText last

theorem openedBehind_append (opened : List OpenElement) (ps qs : List Part) :
    openedBehind opened (ps ++ qs) = openedBehind (openedBehind opened ps) qs :=
  List.foldl_append

/-! What one part does to the open elements -/

theorem opened_cases (p : Part) (opened : List OpenElement) :
    (∃ raw t, p.piece = .tag raw t ∧ t.kind = .opening ∧
      p.opened opened = ⟨t.name, BlockKind.of? t⟩ :: opened) ∨
    p.opened opened = opened ∨
    ∃ raw t, p.piece = .tag raw t ∧ t.kind = .closing ∧ (∃ e ∈ opened, e.name = t.name) ∧
      p.opened opened = (opened.dropWhile fun e => e.name != t.name).tail := by
  unfold Part.opened
  split
  · next raw t hpiece =>
    split
    · next hkind =>
      generalize (if p.space = .html then _ else _ : Bool) = hasContent
      cases hasContent
      · exact .inr (.inl rfl)
      · exact .inl ⟨raw, t, hpiece, hkind, rfl⟩
    · next hkind =>
      split
      · next hany =>
        obtain ⟨e, he, hname⟩ := List.any_eq_true.1 hany
        exact .inr (.inr ⟨raw, t, hpiece, hkind, ⟨e, he, by simpa using hname⟩, rfl⟩)
      · exact .inr (.inl rfl)
  · exact .inr (.inl rfl)

theorem opened_suffix {p : Part} {opened base : List OpenElement} {x : OpenElement}
    (hx : x :: base <:+ opened) (h : base.length < (p.opened opened).length) :
    x :: base <:+ p.opened opened := by
  rcases opened_cases p opened with ⟨raw, t, -, -, heq⟩ | heq | ⟨raw, t, -, -, -, heq⟩
  · rw [heq]
    exact hx.trans (List.suffix_cons _ _)
  · rwa [heq]
  · have hsuffix : p.opened opened <:+ opened := by
      rw [heq]
      exact (List.tail_suffix _).trans (List.dropWhile_suffix _)
    exact List.suffix_of_suffix_length_le hx hsuffix (Nat.succ_le_of_lt h)

/-- The part that closes an element and none around it is an end tag of the same name. -/
theorem closing_of_opened_eq {p : Part} {opened base : List OpenElement} {x : OpenElement}
    (hx : x :: base <:+ opened) (h : p.opened opened = base) :
    ∃ raw t, p.piece = .tag raw t ∧ t.kind = .closing ∧ t.name = x.name := by
  have hlength := hx.length_le
  rcases opened_cases p opened with ⟨raw, t, -, -, heq⟩ | heq | ⟨raw, t, hpiece, hkind, he, heq⟩
  · have := congrArg List.length (heq.symm.trans h)
    simp only [List.length_cons] at this hlength
    omega
  · have := congrArg List.length (heq.symm.trans h)
    simp only [List.length_cons] at this hlength
    omega
  · refine ⟨raw, t, hpiece, hkind, ?_⟩
    have htail := heq.symm.trans h
    cases hdrop : opened.dropWhile fun e => e.name != t.name with
    | nil =>
        obtain ⟨e, he, hname⟩ := he
        have := List.dropWhile_eq_nil_iff.1 hdrop e he
        simp [hname] at this
    | cons y rest =>
        -- what is dropped ends right above `base`, so the element closed is `x`
        rw [hdrop] at htail
        obtain rfl : rest = base := htail
        have hsuffix : y :: rest <:+ opened := hdrop ▸ List.dropWhile_suffix _
        have hxy : x :: rest = y :: rest :=
          (List.suffix_of_suffix_length_le hx hsuffix (by simp)).eq_of_length (by simp)
        have hhead := List.head?_dropWhile_not (fun e : OpenElement => e.name != t.name) opened
        rw [hdrop] at hhead
        injection hxy with hxy
        simp only [List.head?_cons, bne_eq_false_iff_eq] at hhead
        rw [hxy, hhead]

/-! From standing alone to the cut -/

theorem openedBehind_take_succ (opened : List OpenElement) {ps : List Part} {k : Nat} {p : Part}
    (h : ps[k]? = some p) :
    openedBehind opened (ps.take (k + 1)) = p.opened (openedBehind opened (ps.take k)) := by
  rw [List.take_add_one, h, openedBehind_append]
  rfl

theorem tag_of_block {p : Part} {kind : BlockKind} (h : p.block? = some kind) :
    ∃ raw t, p.piece = .tag raw t ∧ t.kind = .opening ∧ BlockKind.of? t = some kind := by
  unfold Part.block? Part.startTag? at h
  split at h
  · next raw t hpiece =>
    split at h
    · next hstart =>
      have hkind : t.kind = .opening := by
        simp only [Bool.and_eq_true, decide_eq_true_eq] at hstart
        exact hstart.1
      exact ⟨raw, t, hpiece, hkind, h⟩
    · cases h
  · cases h

/-- Up to its end tag an element stays where its start tag put it. -/
theorem EndsAt.suffix {opened : List OpenElement} {ps : List Part} {i j : Nat} {p : Part}
    (h : EndsAt opened ps i j) (hp : ps[i]? = some p) {raw : List Char} {t : Tag}
    (hpiece : p.piece = .tag raw t) {k : Nat} (hik : i < k) (hkj : k ≤ j) :
    ⟨t.name, BlockKind.of? t⟩ :: openedBehind opened (ps.take i) <:+
      openedBehind opened (ps.take k) := by
  -- the open elements never get as few as before the start tag, so it is not reached from above
  induction k, hik using Nat.le_induction with
  | base =>
      have hlonger := h.staysOpen (i + 1) (Nat.lt_succ_self i) hkj
      rw [openedBehind_take_succ opened hp] at hlonger ⊢
      rcases opened_cases p (openedBehind opened (ps.take i)) with
        ⟨raw', t', hpiece', -, heq⟩ | heq | ⟨_, _, _, _, _, heq⟩
      · rw [hpiece] at hpiece'
        cases hpiece'
        exact heq ▸ List.suffix_rfl
      · rw [heq] at hlonger
        omega
      · rw [heq] at hlonger
        exact absurd ((List.tail_suffix _).trans (List.dropWhile_suffix _)).length_le
          (Nat.not_le_of_lt hlonger)
  | succ k hik ih =>
      obtain ⟨q, hq⟩ : ∃ q, ps[k]? = some q :=
        ⟨_, List.getElem?_eq_getElem (by have := h.inRange; omega)⟩
      have hlonger := h.staysOpen (k + 1) (by omega) hkj
      rw [openedBehind_take_succ opened hq] at hlonger ⊢
      exact opened_suffix (ih (by omega)) hlonger

theorem EndsAt.take {opened : List OpenElement} {ps : List Part} {j n : Nat}
    (h : EndsAt opened ps 0 j) (hn : j < n) : EndsAt opened (ps.take n) 0 j where
  lt := h.lt
  inRange := by
    rw [List.length_take]
    have := h.inRange
    omega
  staysOpen k hk hkj := by
    rw [List.take_take, List.take_take, Nat.min_eq_left (by omega), Nat.min_eq_left (by omega)]
    exact h.staysOpen k hk hkj
  closes := by
    rw [List.take_take, List.take_take, Nat.min_eq_left (by omega), Nat.min_eq_left (by omega)]
    exact h.closes

theorem BlocksStandAlone.append_right {opened : List OpenElement} {ps qs : List Part}
    (h : BlocksStandAlone opened (ps ++ qs)) :
    BlocksStandAlone (openedBehind opened ps) qs := by
  have htake (k : Nat) : openedBehind opened ((ps ++ qs).take (ps.length + k)) =
      openedBehind (openedBehind opened ps) (qs.take k) := by
    rw [List.take_length_add_append, openedBehind_append]
  intro i p hp hblock
  obtain ⟨hnone, j, hj⟩ := h (ps.length + i) p
    (by rw [List.getElem?_append_right (by omega)]; simpa using hp) hblock
  obtain ⟨m, rfl⟩ := Nat.exists_eq_add_of_lt hj.lt
  refine ⟨htake i ▸ hnone, i + m + 1, ?_, ?_, ?_, ?_⟩
  · omega
  · have := hj.inRange
    rw [List.length_append] at this
    omega
  · intro k hik hkj
    rw [← htake, ← htake]
    exact hj.staysOpen (ps.length + k) (by omega) (by omega)
  · rw [← htake, ← htake, show ps.length + (i + m + 1 + 1) = ps.length + i + m + 1 + 1 by omega]
    exact hj.closes

theorem Cut.cons {opened : List OpenElement} {p : Part} {ps last : List Part}
    {ss : List Section} (h : Cut (p.opened opened) ps ss last) (hp : p.block? = none) :
    ∃ ss last, Cut opened (p :: ps) ss last := by
  cases h with
  | last plain => exact ⟨_, _, .last (List.forall_mem_cons.2 ⟨hp, plain⟩)⟩
  | @block _ before inner rest _ start stop ss plain isBlock tail =>
      have hplain : ∀ q ∈ p :: before, q.block? = none := List.forall_mem_cons.2 ⟨hp, plain⟩
      exact ⟨_, _, .block hplain isBlock tail⟩

theorem BlocksStandAlone.isBlock {opened : List OpenElement} {p stop : Part} {ps : List Part}
    {m : Nat} (h : BlocksStandAlone opened (p :: ps)) (hp : p.block?.isSome)
    (hends : EndsAt opened (p :: ps) 0 (m + 1)) (hstop : ps[m]? = some stop) :
    IsBlock opened p (ps.take m) stop := by
  obtain ⟨kind, hkind⟩ := Option.isSome_iff_exists.1 hp
  obtain ⟨raw, t, hpiece, -, hof⟩ := tag_of_block hkind
  have hlength : m < ps.length := by
    simpa using hends.inRange
  have htake : p :: ps.take m ++ [stop] = (p :: ps).take (m + 2) := by
    rw [List.take_succ_cons, List.take_add_one, hstop]
    rfl
  refine ⟨hp, ?_, ?_, ?_⟩
  · -- a block in between would lie in this one
    intro q hq
    obtain ⟨k, hk, hqk⟩ := List.mem_take_iff_getElem.1 hq
    have hget : (p :: ps)[k + 1]? = some q := by
      rw [List.getElem?_cons_succ, List.getElem?_eq_getElem (by omega), hqk]
    refine Option.not_isSome_iff_eq_none.1 fun hblock => ?_
    have hnone := (h (k + 1) q hget hblock).1
    have hmem := (hends.suffix rfl hpiece (k := k + 1) (by omega) (by omega)).mem
      (List.mem_cons_self)
    have := List.filterMap_eq_nil_iff.1 hnone _ hmem
    simp [hof] at this
  · rw [htake, List.length_take, Nat.min_eq_left (by omega)]
    exact hends.take (by omega)
  · have hsuffix := hends.suffix rfl hpiece (k := m + 1) (by omega) (Nat.le_refl _)
    have hcloses := hends.closes
    rw [openedBehind_take_succ opened (p := stop) (by simpa using hstop)] at hcloses
    obtain ⟨stopRaw, stopTag, hstopPiece, hclosing, hname⟩ :=
      closing_of_opened_eq hsuffix hcloses
    exact ⟨raw, t, stopRaw, stopTag, hpiece, hstopPiece, hclosing, hname⟩

/-- Parts whose blocks stand alone can be cut at them. -/
theorem exists_cut {opened : List OpenElement} {ps : List Part}
    (h : BlocksStandAlone opened ps) : ∃ ss last, Cut opened ps ss last := by
  -- on the number of parts, since a block is cut off with all parts in it
  induction hn : ps.length using Nat.strongRecOn generalizing opened ps with
  | ind n ih =>
    cases ps with
    | nil => exact ⟨[], [], .last (by simp)⟩
    | cons p ps =>
        cases hp : p.block? with
        | none =>
            have hrest : BlocksStandAlone (p.opened opened) ps :=
              BlocksStandAlone.append_right (show BlocksStandAlone opened ([p] ++ ps) from h)
            obtain ⟨ss, last, hcut⟩ := ih ps.length (by simp [← hn]) hrest rfl
            exact hcut.cons hp
        | some kind =>
            have hsome : p.block?.isSome := by simp [hp]
            obtain ⟨-, j, hends⟩ := h 0 p rfl hsome
            obtain ⟨m, rfl⟩ := Nat.exists_eq_add_of_lt hends.lt
            rw [Nat.zero_add] at hends
            have hlength : m < ps.length := by simpa using hends.inRange
            have hstop : ps[m]? = some ps[m] := List.getElem?_eq_getElem hlength
            have hblock := h.isBlock hsome hends hstop
            have hsplit : p :: ps = (p :: ps.take m ++ [ps[m]]) ++ ps.drop (m + 1) := by
              rw [List.cons_append, List.cons_append, List.append_assoc, List.singleton_append,
                List.getElem_cons_drop, List.take_append_drop]
            have hopened : openedBehind opened (p :: ps.take m ++ [ps[m]]) = opened := by
              have := hblock.ends.closes
              rwa [List.take_of_length_le (by simp; omega)] at this
            have hrest : BlocksStandAlone opened (ps.drop (m + 1)) := by
              rw [hsplit] at h
              simpa only [hopened] using h.append_right
            obtain ⟨ss, last, hcut⟩ := ih (ps.drop (m + 1)).length
              (by simp only [← hn, List.length_drop, List.length_cons]; omega) hrest rfl
            rw [hsplit]
            have hnone : ∀ q ∈ ([] : List Part), q.block? = none := by simp
            exact ⟨_, _, .block hnone hblock hcut⟩

/-! What replacing makes of the cut -/

theorem rawText_append (ps qs : List Part) : rawText (ps ++ qs) = rawText ps ++ rawText qs :=
  List.flatMap_append

theorem Cut.rawText_eq {opened : List OpenElement} {ps last : List Part} {ss : List Section}
    (h : Cut opened ps ss last) :
    rawText ps =
      (ss.flatMap fun s => rawText s.before ++ rawText s.block) ++ rawText last := by
  induction h with
  | last => rfl
  | block plain isBlock tail ih =>
      simp only [rawText_append, ih, List.flatMap_cons, List.append_assoc]

theorem visitsFrom_append (opened : List OpenElement) (ps qs : List Part) :
    visitsFrom opened (ps ++ qs) =
      visitsFrom opened ps ++ visitsFrom (openedBehind opened ps) qs := by
  induction ps generalizing opened with
  | nil => rfl
  | cons p ps ih => simp [visitsFrom, ih, openedBehind]

theorem blockCount_append (vs ws : List Visit) :
    blockCount (vs ++ ws) = blockCount vs + blockCount ws :=
  List.countP_append

theorem fill_append (drawings : List String) (vs ws : List Visit) :
    fill drawings (vs ++ ws) = fill drawings vs ++ fill (drawings.drop (blockCount vs)) ws := by
  induction vs generalizing drawings with
  | nil => simp [fill, blockCount]
  | cons v vs ih =>
      cases hblock : v.block? with
      | none => simp [fill, blockCount, hblock, ih]
      | some kind =>
          simp only [List.cons_append, fill, hblock, ih, List.append_assoc]
          congr 3
          simp [blockCount, hblock, List.drop_tail]

/-- Only a tag that is cut off is refused. -/
def OnlyCutRefused (ps : List Part) : Prop :=
  ∀ p ∈ ps, p.isRefused = true → ∃ raw name, p.piece = .cut raw (some name)

theorem NoBlocks.opened {p : Part} {opened : List OpenElement} (h : NoBlocks opened)
    (hp : p.block? = none)
    (hrefused : p.isRefused = true → ∃ raw name, p.piece = .cut raw (some name)) :
    NoBlocks (p.opened opened) := by
  rcases opened_cases p opened with ⟨raw, t, hpiece, hkind, heq⟩ | heq | ⟨_, _, _, _, _, heq⟩
  · -- a refused tag could be that of a block, but it would be a cut one and open nothing
    have hnot : p.isRefused = false := by
      cases hr : p.isRefused with
      | false => rfl
      | true =>
          obtain ⟨raw', name, hcut⟩ := hrefused hr
          rw [hpiece] at hcut
          cases hcut
    have hof : BlockKind.of? t = none := by
      simpa [Part.block?, Part.startTag?, hpiece, hkind, hnot] using hp
    rw [heq]
    simpa [NoBlocks, hof] using h
  · rwa [heq]
  · have hsuffix : p.opened opened <:+ opened := by
      rw [heq]
      exact (List.tail_suffix _).trans (List.dropWhile_suffix _)
    refine List.filterMap_eq_nil_iff.2 fun e he => ?_
    exact List.filterMap_eq_nil_iff.1 h e (hsuffix.mem he)

/-- Outside of all blocks parts stay as they are. -/
theorem fill_outside {opened : List OpenElement} {ps : List Part} (hopened : NoBlocks opened)
    (plain : ∀ p ∈ ps, p.block? = none) (hcut : OnlyCutRefused ps) (drawings : List String) :
    fill drawings (visitsFrom opened ps) = rawText ps ∧
      blockCount (visitsFrom opened ps) = 0 ∧ NoBlocks (openedBehind opened ps) := by
  induction ps generalizing opened with
  | nil => exact ⟨rfl, rfl, hopened⟩
  | cons p ps ih =>
      obtain ⟨hp, plain⟩ := List.forall_mem_cons.1 plain
      obtain ⟨hpcut, hcut⟩ := List.forall_mem_cons.1 hcut
      obtain ⟨hfill, hcount, hbehind⟩ := ih (hopened.opened hp hpcut) plain hcut
      have hblock : Visit.block? ⟨p, opened.filterMap OpenElement.block⟩ = none := hp
      have houtside : Visit.isOutside ⟨p, opened.filterMap OpenElement.block⟩ = true := by
        rw [Visit.isOutside, show opened.filterMap OpenElement.block = [] from hopened]
        rfl
      refine ⟨?_, ?_, hbehind⟩
      · simp [visitsFrom, fill, hblock, houtside, hfill, rawText]
      · simpa [visitsFrom, blockCount, hblock] using hcount

/-- Inside of a block nothing is left. -/
theorem fill_inside {vs : List Visit} (h : ∀ v ∈ vs, v.block? = none ∧ v.around ≠ [])
    (drawings : List String) : fill drawings vs = [] ∧ blockCount vs = 0 := by
  induction vs with
  | nil => exact ⟨rfl, rfl⟩
  | cons v vs ih =>
      obtain ⟨⟨hblock, haround⟩, hvs⟩ := List.forall_mem_cons.1 h
      obtain ⟨hfill, hcount⟩ := ih hvs
      have houtside : v.isOutside = false := by
        simpa [Visit.isOutside] using haround
      refine ⟨?_, ?_⟩
      · simp [fill, hblock, houtside, hfill]
      · simpa [blockCount, hblock] using hcount

theorem mem_visitsFrom {opened : List OpenElement} {ps : List Part} {v : Visit}
    (h : v ∈ visitsFrom opened ps) :
    ∃ k, k < ps.length ∧ ps[k]? = some v.part ∧
      v.around = (openedBehind opened (ps.take k)).filterMap OpenElement.block := by
  induction ps generalizing opened with
  | nil => cases h
  | cons p ps ih =>
      rcases List.mem_cons.1 h with rfl | h
      · exact ⟨0, by simp, rfl, rfl⟩
      · obtain ⟨k, hk, hpart, haround⟩ := ih h
        exact ⟨k + 1, by simpa using hk, hpart, haround⟩

/-- A block leaves its drawing, and the open elements as they were. -/
theorem fill_block {opened : List OpenElement} {start stop : Part} {inner : List Part}
    (h : IsBlock opened start inner stop) (hopened : NoBlocks opened) (drawings : List String) :
    fill drawings (visitsFrom opened (start :: inner ++ [stop])) =
        (drawings.headD "").toList ∧
      blockCount (visitsFrom opened (start :: inner ++ [stop])) = 1 ∧
      openedBehind opened (start :: inner ++ [stop]) = opened := by
  obtain ⟨kind, hkind⟩ := Option.isSome_iff_exists.1 h.begins
  obtain ⟨raw, t, hpiece, -, hof⟩ := tag_of_block hkind
  have hstop : stop.block? = none := by
    obtain ⟨_, _, _, stopTag, _, hstopPiece, hclosing, _⟩ := h.sameName
    simp [Part.block?, Part.startTag?, hstopPiece, hclosing]
  have hinside : ∀ v ∈ visitsFrom (start.opened opened) (inner ++ [stop]),
      v.block? = none ∧ v.around ≠ [] := by
    intro v hv
    obtain ⟨k, hk, hpart, haround⟩ := mem_visitsFrom hv
    refine ⟨?_, ?_⟩
    · have hmem := List.mem_of_getElem? hpart
      rcases List.mem_append.1 hmem with hmem | hmem
      · exact h.plain _ hmem
      · rw [Visit.block?, List.mem_singleton.1 hmem, hstop]
    · intro hnone
      have hsuffix := h.ends.suffix rfl hpiece (k := k + 1) (by omega)
        (by simp only [List.length_append, List.length_singleton] at hk; omega)
      have hmem := hsuffix.mem List.mem_cons_self
      have := List.filterMap_eq_nil_iff.1 (haround.symm.trans hnone) _ hmem
      simp [hof] at this
  obtain ⟨hfill, hcount⟩ := fill_inside hinside drawings.tail
  have hblock : Visit.block? ⟨start, opened.filterMap OpenElement.block⟩ = some kind := hkind
  have houtside : Visit.isOutside ⟨start, opened.filterMap OpenElement.block⟩ = true := by
    rw [Visit.isOutside, show opened.filterMap OpenElement.block = [] from hopened]
    rfl
  refine ⟨?_, ?_, ?_⟩
  · simp [visitsFrom, fill, hblock, houtside, hfill]
  · simpa [visitsFrom, blockCount, hblock] using hcount
  · have hcloses := h.ends.closes
    rwa [List.take_of_length_le (by simp)] at hcloses

/-- The drawings stand in the place of the blocks. -/
theorem Cut.fill_eq {opened : List OpenElement} {ps last : List Part} {ss : List Section}
    (h : Cut opened ps ss last) (hopened : NoBlocks opened) (hcut : OnlyCutRefused ps)
    {drawings : List String} (hdrawings : drawings.length = ss.length) :
    fill drawings (visitsFrom opened ps) = weave ss drawings last ∧
      blockCount (visitsFrom opened ps) = ss.length ∧ NoBlocks (openedBehind opened ps) := by
  induction h generalizing drawings with
  | last plain =>
      obtain rfl := List.length_eq_zero_iff.1 hdrawings
      simpa [weave] using fill_outside hopened plain hcut []
  | @block opened before inner rest last start stop ss plain isBlock tail ih =>
      cases drawings with
      | nil => cases hdrawings
      | cons drawing drawings =>
          have hbefore : OnlyCutRefused before := fun p hp => hcut p (by simp [hp])
          have hrest : OnlyCutRefused rest := fun p hp => hcut p (by simp [hp])
          obtain ⟨hfillBefore, hcountBefore, hnone⟩ :=
            fill_outside hopened plain hbefore (drawing :: drawings)
          obtain ⟨hfillBlock, hcountBlock, hbehind⟩ :=
            fill_block isBlock hnone (drawing :: drawings)
          obtain ⟨hfillRest, hcountRest, hlast⟩ :=
            ih hnone hrest (Nat.succ_inj.1 hdrawings)
          generalize start :: inner ++ [stop] = block at *
          simp only [visitsFrom_append, openedBehind_append, hbehind, fill_append,
            blockCount_append, hfillBefore, hcountBefore, hcountBlock, List.drop_zero,
            hfillBlock, Nat.zero_add, List.drop_one, List.tail_cons, hfillRest, hcountRest]
          refine ⟨?_, ?_, hlast⟩
          · simp [weave]
          · rw [List.length_cons, Nat.add_comm]

/-! Pages -/

theorem onlyCutRefused_of_collectSources {page : String} {sources : List String}
    (h : collectSources page = .ok sources) : OnlyCutRefused (parts page.toList) := by
  intro p hp hrefused
  rcases piece_of_isRefused hp hrefused with ⟨raw, t, hpiece⟩ | hcut
  · rw [← map_part_visitsFrom [] (parts page.toList)] at hp
    obtain ⟨v, hv, rfl⟩ := List.mem_map.1 hp
    have := (collectSources_ok h).1 v hv
    simp [Visit.refusedInText?, Visit.refused?, hpiece, hrefused] at this
  · exact hcut

/-- Where a page ends in a refused tag, a block is left open. -/
theorem not_endsInRefusedTag {page : String}
    (hnone : NoBlocks (openedBehind [] (parts page.toList))) (name : String) :
    ¬EndsInRefusedTag page name := by
  rintro ⟨before, v, raw, hvisits, -, hcut, haround⟩
  have hparts := congrArg (List.map Visit.part) hvisits
  rw [visits, map_part_visitsFrom, List.map_append] at hparts
  rw [visits, hparts, visitsFrom_append] at hvisits
  have hv := (List.append_inj' hvisits rfl).2
  simp only [List.map_cons, List.map_nil, visitsFrom, List.cons.injEq, and_true] at hv
  rw [hparts, openedBehind_append] at hnone
  -- a tag that is cut off changes no open element
  have hsame (opened : List OpenElement) : openedBehind opened ([v].map Visit.part) = opened := by
    simp [openedBehind, Part.opened, hcut]
  rw [hsame] at hnone
  rw [← hv] at haround
  exact haround hnone

/-- A page whose blocks stand alone is cut at its blocks, and replacing them keeps each character
between the cuts. -/
theorem inline_eq_weave {page : String} {sources : List String}
    (h : collectSources page = .ok sources)
    (halone : BlocksStandAlone [] (parts page.toList)) :
    ∃ ss last, Cut [] (parts page.toList) ss last ∧
      page.toList =
        (ss.flatMap fun s => rawText s.before ++ rawText s.block) ++ rawText last ∧
      ss.length = sources.length ∧
      ∀ drawings, drawings.length = sources.length →
        inline page drawings = .ok (String.ofList (weave ss drawings last)) := by
  obtain ⟨ss, last, hcut⟩ := exists_cut halone
  have honly := onlyCutRefused_of_collectSources h
  have htext : rawText (parts page.toList) = page.toList := by
    refine flatMap_raw_partsFrom (Nat.le_refl _) fun p hp hrefused => ?_
    obtain ⟨raw, name, hpiece⟩ := honly p hp hrefused
    exact ⟨raw, some name, hpiece⟩
  obtain ⟨-, hcount, hnone⟩ := hcut.fill_eq rfl honly
    (show (ss.map fun _ => "").length = ss.length by simp)
  have hsources : ss.length = sources.length := by
    rw [(collectSources_ok h).2, visits, hcount]
  have hunrefused : ∀ v ∈ visits page.toList, v.refused? = none := by
    rcases unrefused_or_endsInRefusedTag h with hunrefused | ⟨name, hend⟩
    · exact hunrefused
    · exact absurd hend (not_endsInRefusedTag hnone name)
  refine ⟨ss, last, hcut, ?_, hsources, ?_⟩
  · rw [← hcut.rawText_eq, htext]
  · intro drawings hdrawings
    obtain ⟨hfill, -, -⟩ := hcut.fill_eq rfl honly (hdrawings.trans hsources.symm)
    rw [inline_of_unrefused hunrefused, visits, hcount, hfill, hdrawings, hsources,
      if_neg (Nat.lt_irrefl _), if_pos rfl]

theorem inline_eq_weave_unclosed_child :
    collectSources "&lt;<pre class=mermaid>a<b>c</pre>d" = .ok ["ac"] ∧
      BlocksStandAlone [] (parts "&lt;<pre class=mermaid>a<b>c</pre>d".toList) ∧
      ∃ ss last, Cut [] (parts "&lt;<pre class=mermaid>a<b>c</pre>d".toList) ss last ∧
        ss.length = 1 ∧ inline "&lt;<pre class=mermaid>a<b>c</pre>d" ["<svg>&</svg>"] =
          .ok (String.ofList (weave ss ["<svg>&</svg>"] last)) := by
  have hcollect : collectSources "&lt;<pre class=mermaid>a<b>c</pre>d" = .ok ["ac"] := by
    decide +kernel
  have halone : BlocksStandAlone [] (parts "&lt;<pre class=mermaid>a<b>c</pre>d".toList) := by
    have hlength : (parts "&lt;<pre class=mermaid>a<b>c</pre>d".toList).length = 7 := by
      decide +kernel
    intro i p hi hblock
    have hlt := (List.getElem?_eq_some_iff.1 hi).1
    have hfirst : i = 1 := by
      have hnot : ∀ k, k < 7 → k ≠ 1 →
          ((parts "&lt;<pre class=mermaid>a<b>c</pre>d".toList)[k]?.bind Part.block?) = none := by
        decide +kernel
      by_contra hi1
      have hnone := hnot i (hlength ▸ hlt) hi1
      rw [hi, Option.bind_some] at hnone
      rw [hnone] at hblock
      exact Bool.false_ne_true hblock
    subst hfirst
    refine ⟨by unfold NoBlocks; decide +kernel, 5, by decide, by decide +kernel, ?_,
      by decide +kernel⟩
    intro k hk hk5
    have hlonger : ∀ k, k < 6 → 1 < k →
        (openedBehind [] ((parts "&lt;<pre class=mermaid>a<b>c</pre>d".toList).take 1)).length <
          (openedBehind []
            ((parts "&lt;<pre class=mermaid>a<b>c</pre>d".toList).take k)).length := by
      decide +kernel
    exact hlonger k (by omega) hk
  obtain ⟨ss, last, hcut, -, hlength, hinline⟩ := inline_eq_weave hcollect halone
  exact ⟨hcollect, halone, ss, last, hcut, hlength, hinline ["<svg>&</svg>"] rfl⟩

end ShapeCoords.Page
