import Mathlib.Logic.Basic
import ShapeCoords.CommandLine.Arguments

/-!
The grammar of a command line. Words are split into items exactly as it requires.
-/

namespace ShapeCoords.CommandLine

/-- The words that spell an item. Any word may stand behind a flag that takes a path, and only a lone
hyphen may start with one and be a path of its own. -/
inductive Spells : List String → Item → Prop where
  | drawing {name : String} {d : Drawing} (h : Drawing.ofName name = some d) :
      Spells ["--renderer", name] (.drawing d)
  | program (path : String) : Spells ["--mmdc", path] (.program path)
  | config (path : String) : Spells ["--config", path] (.config path)
  | circleCenter (c : CircleCenter) : Spells ["--circle-center", c.name] (.circleCenter c)
  | identityFallback : Spells ["--identity-fallback"] .identityFallback
  | adjustedBottomRight : Spells ["--adjusted-bottom-right"] .adjustedBottomRight
  | skipMalformed : Spells ["--skip-malformed"] .skipMalformed
  | strictMarkup : Spells ["--strict-markup"] .strictMarkup
  | page {path : String} (h : path.toList.head? ≠ some '-' ∨ path = "-") :
      Spells [path] (.page path)

/-- The words that spell some items, one after the other. A last path may stand behind `--`. -/
inductive Writes : List String → List Item → Prop where
  | nil : Writes [] []
  | marker : Writes ["--"] []
  | last (path : String) : Writes ["--", path] [.page path]
  | item {words rest : List String} {i : Item} {items : List Item} (h : Spells words i)
      (hrest : Writes rest items) : Writes (words ++ rest) (i :: items)

namespace Item

variable {word value : String} {words rest : List String} {i : Item} {items : List Item}

theorem split_flag {read : String → Option Item} (hword : word ≠ "--")
    (hflag : ofValue? word = some read) (hvalue : read value = some i) :
    split (word :: value :: rest) = (split rest).map (i :: ·) := by
  rw [split, if_neg hword, hflag]
  dsimp only
  rw [hvalue]
  cases split rest <;> rfl

theorem split_word (hword : word ≠ "--") (hflag : ofValue? word = none)
    (hitem : ofWord word = some i) : split (word :: rest) = (split rest).map (i :: ·) := by
  rw [split, if_neg hword, hflag]
  dsimp only
  rw [hitem]
  cases split rest <;> rfl

/-- A path is no flag. -/
theorem ofWord_path (h : word.toList.head? ≠ some '-' ∨ word = "-") :
    word ≠ "--" ∧ ofValue? word = none ∧ ofWord word = some (.page word) := by
  have hne {flag : String} (hflag : flag.toList.head? = some '-') (hlone : flag ≠ "-") :
      word ≠ flag := by
    rintro rfl
    rcases h with h | h
    · exact h hflag
    · exact hlone h
  refine ⟨hne rfl (by decide), ?_, ?_⟩
  · unfold ofValue?
    split
    · exact absurd rfl (hne (by decide) (by decide))
    · exact absurd rfl (hne (by decide) (by decide))
    · exact absurd rfl (hne (by decide) (by decide))
    · exact absurd rfl (hne (by decide) (by decide))
    · rfl
  · unfold ofWord
    split
    · exact absurd rfl (hne (by decide) (by decide))
    · exact absurd rfl (hne (by decide) (by decide))
    · exact absurd rfl (hne (by decide) (by decide))
    · exact absurd rfl (hne (by decide) (by decide))
    · rw [if_neg]
      rintro ⟨hhyphen, hlone⟩
      rcases h with h | h
      · exact h hhyphen
      · exact hlone h

theorem split_spells (h : Spells words i) (rest : List String) :
    split (words ++ rest) = (split rest).map (i :: ·) := by
  cases h with
  | drawing h => exact split_flag (by decide) rfl (by rw [h]; rfl)
  | program path => exact split_flag (by decide) rfl rfl
  | config path => exact split_flag (by decide) rfl rfl
  | circleCenter c => exact split_flag (by decide) rfl (by cases c <;> rfl)
  | identityFallback => exact split_word (by decide) rfl rfl
  | adjustedBottomRight => exact split_word (by decide) rfl rfl
  | skipMalformed => exact split_word (by decide) rfl rfl
  | strictMarkup => exact split_word (by decide) rfl rfl
  | page h =>
      obtain ⟨hword, hflag, hitem⟩ := ofWord_path h
      exact split_word hword hflag hitem

theorem split_writes (h : Writes words items) : split words = some items := by
  induction h with
  | nil => rw [split]
  | marker => rfl
  | last path => rfl
  | item hspells _ ih => rw [split_spells hspells, ih, Option.map_some]

theorem spells_of_ofWord (h : ofWord word = some i) : Spells [word] i := by
  unfold ofWord at h
  split at h
  · cases h
    exact .identityFallback
  · cases h
    exact .adjustedBottomRight
  · cases h
    exact .skipMalformed
  · cases h
    exact .strictMarkup
  · split at h
    · cases h
    · next hpath =>
      cases h
      rw [not_and_or, not_not] at hpath
      exact .page hpath

theorem spells_of_ofValue? {read : String → Option Item} (hflag : ofValue? word = some read)
    (hvalue : read value = some i) : Spells [word, value] i := by
  unfold ofValue? at hflag
  split at hflag
  · cases hflag
    obtain ⟨d, hd, rfl⟩ := Option.map_eq_some_iff.1 hvalue
    exact .drawing hd
  · cases hflag
    cases hvalue
    exact .program value
  · cases hflag
    cases hvalue
    exact .config value
  · cases hflag
    obtain ⟨⟨name, c⟩, hfind, rfl⟩ := Option.map_eq_some_iff.1 hvalue
    have hname : name = value := by simpa using List.find?_some hfind
    have hvariant : name = c.name := by
      obtain ⟨c', -, heq⟩ := List.mem_map.1 (List.mem_of_find?_eq_some hfind)
      cases heq
      rfl
    rw [← hname, hvariant]
    exact .circleCenter c
  · cases hflag

theorem writes_of_behindMarker (h : behindMarker words = some items) :
    Writes ("--" :: words) items := by
  unfold behindMarker at h
  split at h
  · cases h
    exact .marker
  · cases h
    exact .last _
  · cases h

/-- Words are split into the items that they spell. -/
theorem split_eq_some_iff : split words = some items ↔ Writes words items := by
  refine ⟨fun h => ?_, split_writes⟩
  -- one case for each way in which the first word is taken
  fun_induction split words generalizing items with
  | case1 =>
      cases h
      exact .nil
  | case2 rest => exact writes_of_behindMarker h
  | case3 => cases h
  | case4 word hword read hflag value rest ih =>
      obtain ⟨i, hi, h⟩ := Option.bind_eq_some_iff.1 h
      obtain ⟨items', hrest, h⟩ := Option.bind_eq_some_iff.1 h
      cases h
      exact .item (spells_of_ofValue? hflag hi) (ih hrest)
  | case5 word rest hword hflag ih =>
      obtain ⟨i, hi, h⟩ := Option.bind_eq_some_iff.1 h
      obtain ⟨items', hrest, h⟩ := Option.bind_eq_some_iff.1 h
      cases h
      exact .item (spells_of_ofWord hi) (ih hrest)

end Item

end ShapeCoords.CommandLine
