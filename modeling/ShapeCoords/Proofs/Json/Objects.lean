import ShapeCoords.Proofs.Json.Numbers
import ShapeCoords.Proofs.Json.Spacing
import ShapeCoords.Proofs.Json.Strings

/-!
Reading the texts of strings and objects.
-/

namespace ShapeCoords.Json

open Reader

/-! Strings -/

theorem fourHex?_control : ∀ n < 0x20, fourHex? '0' '0' (Text.hexDigitChar (n / 16))
    (Text.hexDigitChar (n % 16)) = some n := by
  decide

/-- An escaped character stands for that character. -/
theorem IsStringBody.escape {s cs : List Char} (c : Char) (h : IsStringBody s cs) :
    IsStringBody (escape c ++ s) (c :: cs) := by
  rw [Json.escape]
  split
  · next hc =>
    subst hc
    exact .escaped rfl h
  · next hquote =>
  split
  · next hc =>
    subst hc
    exact .escaped rfl h
  · next hbackslash =>
  -- the characters that have an escape of one letter
  iterate 5
    split
    · next hc =>
      subst hc
      exact .escaped rfl h
  split
  · next hcontrol =>
    have hunicode := IsStringBody.unicode (fourHex?_control c.toNat hcontrol) (by omega) h
    rwa [Char.ofNat_toNat] at hunicode
  · next hplain => exact .plain hquote hbackslash hplain h

theorem isStringBody_flatMap_escape (s : List Char) : IsStringBody (s.flatMap escape) s := by
  induction s with
  | nil => exact .nil
  | cons c s ih =>
      rw [List.flatMap_cons]
      exact ih.escape c

/-- A quoted string is read as that string, behind its first quote. -/
theorem Reads.string (s : String) (t : List Char) :
    Reads Reader.string (s.toList.flatMap escape ++ '"' :: t) s t := by
  have hreads := (isStringBody_flatMap_escape s.toList).reads t
  rwa [String.ofList_toList] at hreads

/-! Objects -/

/-- However it is spaced, the text of `v` is read as `j` if values are read to the depth `d`. -/
def ReadsBack (d : Nat) (v j : Json) : Prop :=
  ∀ sp depth w t, Spaces w → EndsNumber t → Reads (any d) (w ++ (v.spaced sp depth ++ t)) j t

theorem exists_readsBack_float (d : Nat) (v : Float) :
    ∃ j, numberOf j = some (settled v) ∧ ReadsBack d (.float v) j := by
  cases d with
  | zero =>
      obtain ⟨j, hj, hreads⟩ := exists_reads_numberText v none
      exact ⟨j, hj, fun _ _ w t hw ht => hreads w t hw ht⟩
  | succ d =>
      obtain ⟨j, hj, hreads⟩ := exists_reads_numberText v (some (any d))
      exact ⟨j, hj, fun _ _ w t hw ht => hreads w t hw ht⟩

section Objects

variable {d : Nat} {m n : String × Json} {ms ns : List (String × Json)}

/-- A member is read back with its name. -/
structure MemberReadsBack (d : Nat) (m n : String × Json) : Prop where
  name_eq : m.1 = n.1
  value : ReadsBack d m.2 n.2

/-- What is read behind a name. -/
def objectMember (d : Nat) (name : String) (read : List (String × Json)) :
    Reader (List (String × Json)) := do
  colon
  return (name, ← any d) :: read

theorem endsNumber_spacedMembers (sp : Spacing) (depth : Nat) (ms : List (String × Json))
    {w : List Char} (hw : Spaces w) (t : List Char) :
    EndsNumber (spacedMembers sp depth false ms ++ (w ++ '\x7d' :: t)) := by
  cases ms with
  | nil =>
      rw [spacedMembers, List.nil_append]
      exact EndsNumber.spaces hw (EndsNumber.cons (by decide) t)
  | cons m ms =>
      rw [spacedMembers_false_cons]
      exact EndsNumber.cons (by decide) _

/-- One step reads one member. -/
theorem Reads.memberStep (h : MemberReadsBack d m n) (sp : Spacing) (depth : Nat) (first : Bool)
    (acc : List (String × Json)) {t : List Char} (ht : EndsNumber t) :
    Reads (memberStep (objectMember d) (first, acc)) (separator first ++ (sp.lineBreak depth ++
      (quoted m.1 ++ ':' :: (sp.colonSpace ++ (m.2.spaced sp depth ++ t)))))
      ((false, n :: acc), true) t := by
  obtain ⟨name, v⟩ := m
  obtain ⟨name', j⟩ := n
  obtain ⟨hname, hvalue⟩ := h
  cases hname
  rw [quoted, List.cons_append, List.cons_append, List.append_assoc, List.singleton_append]
  refine (Reads.nextMember Spaces.nil (sp.lineBreak_spaces depth) _).bind ?_
  refine (Reads.string name _).bind ?_
  refine Reads.bind ((Reads.colon Spaces.nil _).bind ?_) (Reads.pure _ _)
  exact (hvalue sp depth _ _ sp.colonSpace_spaces ht).bind (Reads.pure _ _)

/-- All steps together read all members. -/
theorem repeats_memberStep (h : List.Forall₂ (MemberReadsBack d) ms ns) (sp : Spacing)
    (depth : Nat) (first : Bool) (acc : List (String × Json)) {w : List Char} (hw : Spaces w)
    (t : List Char) :
    ∃ first', Repeats (memberStep (objectMember d)) (first, acc)
      (spacedMembers sp depth first ms ++ (w ++ '\x7d' :: t)) (first', ns.reverse ++ acc)
      ('\x7d' :: t) := by
  induction h generalizing first acc with
  | nil => exact ⟨first, .stop ((Reads.nextMember_end hw t).bind (Reads.pure _ _))⟩
  | @cons m n ms ns hm _ ih =>
      obtain ⟨first', hrest⟩ := ih false (n :: acc)
      have hstep := Reads.memberStep hm sp depth first acc
        (endsNumber_spacedMembers sp depth ms hw t)
      refine ⟨first', ?_⟩
      rw [List.reverse_cons, List.append_assoc, List.singleton_append, spacedMembers]
      simp only [List.append_assoc, List.cons_append]
      refine .next hstep ?_ hrest
      simp only [List.length_append, List.length_cons]
      omega

theorem ReadsBack.object (h : List.Forall₂ (MemberReadsBack d) ms ns) :
    ReadsBack (d + 1) (.object ms) (.object ns) := by
  intro sp depth w t hw _
  rw [spaced, List.cons_append, List.append_assoc, List.append_assoc, List.singleton_append]
  obtain ⟨first, hmembers⟩ := repeats_memberStep h sp (depth + 1) true []
    (sp.closing_spaces depth ms) t
  refine (Reads.valueStart hw rfl _).bind (Reads.locate ((Reads.skip '\x7b' _).bind ?_))
  refine ((hmembers.reads_eachMember).closedBy (Reads.objectEnd t)).bind ?_
  rw [List.append_nil, List.reverse_reverse]
  exact Reads.pure _ t

end Objects

end ShapeCoords.Json
