import ShapeCoords.Markup.CharacterReference

/-!
Character references by name: a name that no other one goes on is read as a whole whatever stands
behind it. The names for the characters that markup is made of are such names.
-/

namespace ShapeCoords.Markup

open Text

/-- What is left of the references behind a name. -/
def behindName (name : List Char) (references : List NamedReference) : List NamedReference :=
  name.foldl (fun references c => goingOn c references) references

theorem behindName_nil (name : List Char) : behindName name [] = [] := by
  induction name with
  | nil => rfl
  | cons c name ih => exact ih

/-! The table -/

/-- The references that lines of a table tell of. -/
def referencesOf (lines : List (List Char)) : List NamedReference :=
  lines.flatMap fun line => (splitAtEach ' ' line).map NamedReference.ofWord

/-- Lines and the same lines character by character. -/
inductive Spelled : List String → List (List Char) → Prop where
  | nil : Spelled [] []
  | cons {line : String} {characters : List Char} {lines : List String}
      {rest : List (List Char)} (first : line = String.ofList characters)
      (tail : Spelled lines rest) : Spelled (line :: lines) (characters :: rest)

theorem Spelled.toList_eq {lines : List String} {spelled : List (List Char)}
    (h : Spelled lines spelled) : lines.map String.toList = spelled := by
  induction h with
  | nil => rfl
  | cons first _ ih => rw [List.map_cons, ih, first, String.toList_ofList]

theorem namedReferences_eq {spelled : List (List Char)} (h : Spelled referenceTable spelled) :
    namedReferences = referencesOf spelled := by
  rw [namedReferences, referencesOf, ← h.toList_eq, List.flatMap_map]

-- the table is one long list, of which each line is looked at
set_option maxRecDepth 100000 in
/-- Behind each of these names no reference goes on. -/
theorem behindName_namedReferences :
    behindName "amp;".toList namedReferences = [⟨[], ['&']⟩] ∧
      behindName "lt;".toList namedReferences = [⟨[], ['<']⟩] ∧
      behindName "gt;".toList namedReferences = [⟨[], ['>']⟩] := by
  have hspelled : ∃ spelled, Spelled referenceTable spelled ∧
      behindName ['a', 'm', 'p', ';'] (referencesOf spelled) = [⟨[], ['&']⟩] ∧
      behindName ['l', 't', ';'] (referencesOf spelled) = [⟨[], ['<']⟩] ∧
      behindName ['g', 't', ';'] (referencesOf spelled) = [⟨[], ['>']⟩] := by
    -- the lines are spelled out first, since the texts themselves are slow to look into
    apply Exists.intro
    apply And.intro
    · unfold referenceTable
      repeat (first | exact .nil | apply Spelled.cons rfl)
    · decide +kernel
  obtain ⟨spelled, htable, hnames⟩ := hspelled
  rw [namedReferences_eq htable]
  exact hnames

/-! Reading a name -/

/-- A name that no other one goes on is found as a whole. -/
theorem scanName_append {name characters : List Char} {references : List NamedReference}
    (h : behindName name references = [⟨[], characters⟩]) (hname : name ≠ []) (looked : Nat)
    (found : Option (Nat × List Char)) (rest : List Char) :
    (scanName references looked found (name ++ rest)).found =
      some (looked + name.length, characters) := by
  induction name generalizing references looked found with
  | nil => exact absurd rfl hname
  | cons c name ih =>
      have hbehind : behindName name (goingOn c references) = [⟨[], characters⟩] := h
      rw [List.cons_append, scanName]
      cases hgoing : goingOn c references with
      | nil =>
          rw [hgoing, behindName_nil] at hbehind
          cases hbehind
      | cons r rs =>
          rw [hgoing] at hbehind
          dsimp only
          cases name with
          | cons d name =>
              have hlength : looked + 1 + (d :: name).length = looked + (c :: d :: name).length := by
                simp only [List.length_cons]
                omega
              rw [ih hbehind (by simp), hlength]
          | nil =>
              -- the name ends here, and no character goes on it
              obtain ⟨rfl, rfl⟩ := List.cons.inj hbehind
              cases rest <;> simp [scanName, goingOn]

/-- A name with its semicolon in front of a text. -/
theorem read_name {c : Char} {name characters : List Char} (hc : isAsciiLetter c = true)
    (h : behindName (c :: name ++ [';']) namedReferences = [⟨[], characters⟩]) (rest : List Char) :
    (CharacterReference.read false (c :: name ++ [';'] ++ rest)).characters = characters ∧
      (CharacterReference.read false (c :: name ++ [';'] ++ rest)).length =
        (c :: name ++ [';']).length := by
  have hmark : c ∉ ['#', '\t', '\n', '\x0c', ' ', '<', '&'] := by
    simp only [List.mem_cons, List.not_mem_nil, or_false]
    rintro (rfl | rfl | rfl | rfl | rfl | rfl | rfl) <;> cases hc
  simp only [List.mem_cons, List.not_mem_nil, or_false, not_or] at hmark
  have hread : CharacterReference.read false (c :: name ++ [';'] ++ rest) =
      CharacterReference.ofName false (c :: name ++ [';'] ++ rest) := by
    simp only [List.cons_append]
    unfold CharacterReference.read
    split
    · next heq => cases heq
    · next heq => exact absurd (List.cons.inj heq).1 hmark.1
    · next heq => exact absurd (List.cons.inj heq).1 hmark.1
    · next heq => exact absurd (List.cons.inj heq).1 hmark.1
    · next heq => exact absurd (List.cons.inj heq).1 hmark.1
    · next heq =>
      obtain ⟨rfl, rfl⟩ := List.cons.inj heq
      simp [hmark]
  have hsemicolon : ((c :: name ++ [';'] ++ rest).drop
      ((c :: name ++ [';']).length - 1)).head? = some ';' := by
    simp
  rw [hread, CharacterReference.ofName, scanName_append h (by simp), Nat.zero_add]
  simp only [hsemicolon, if_true, and_self]

end ShapeCoords.Markup
