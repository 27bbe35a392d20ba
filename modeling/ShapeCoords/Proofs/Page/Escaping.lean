import ShapeCoords.Page.Block
import ShapeCoords.Proofs.Markup.References

/-!
Texts as they are written in markup, with references in the place of the characters that markup is
made of. Replacing the references gives such a text back, whatever it looks like itself.
-/

namespace ShapeCoords.Page

open Markup (behindName namedReferences)
open Text (isAsciiLetter)

def escapedChar (c : Char) : List Char :=
  if c = '&' then "&amp;".toList
  else if c = '<' then "&lt;".toList
  else if c = '>' then "&gt;".toList
  else [c]

/-- A text as it is written in markup. -/
def escaped (s : List Char) : List Char :=
  s.flatMap escapedChar

theorem escaped_nil : escaped [] = [] := rfl

theorem escaped_append (s t : List Char) : escaped (s ++ t) = escaped s ++ escaped t :=
  List.flatMap_append

/-- No tag starts in a text that is written so. -/
theorem not_mem_escaped (s : List Char) : '<' ∉ escaped s := by
  intro h
  obtain ⟨c, -, hc⟩ := List.mem_flatMap.1 h
  unfold escapedChar at hc
  split at hc
  · simp at hc
  · split at hc
    · simp at hc
    · next hne =>
      split at hc
      · simp at hc
      · exact hne (List.mem_singleton.1 hc).symm

/-! Replacing references -/

theorem unescape_skip (s rest : List Char) : unescape s.length (s ++ rest) = unescape 0 rest := by
  induction s with
  | nil => rfl
  | cons c s ih => simpa [unescape] using ih

theorem unescape_cons {c : Char} (hc : c ≠ '&') (s : List Char) :
    unescape 0 (c :: s) = c :: unescape 0 s := by
  simp [unescape, hc]

/-- A reference by a name that no other one goes on. -/
theorem unescape_name {c : Char} {name characters : List Char} (hc : isAsciiLetter c = true)
    (h : behindName (c :: name ++ [';']) namedReferences = [⟨[], characters⟩])
    (rest : List Char) :
    unescape 0 ('&' :: (c :: name ++ [';'] ++ rest)) = characters ++ unescape 0 rest := by
  obtain ⟨hcharacters, hlength⟩ := Markup.read_name hc h rest
  rw [unescape, if_pos rfl]
  dsimp only
  rw [hcharacters, hlength, unescape_skip]

theorem unescape_escapedChar (c : Char) (rest : List Char) :
    unescape 0 (escapedChar c ++ rest) = c :: unescape 0 rest := by
  obtain ⟨hamp, hlt, hgt⟩ := Markup.behindName_namedReferences
  unfold escapedChar
  split
  · next h =>
    subst h
    exact @unescape_name 'a' ['m', 'p'] _ rfl hamp rest
  · next hne =>
    split
    · next h =>
      subst h
      exact @unescape_name 'l' ['t'] _ rfl hlt rest
    · split
      · next h =>
        subst h
        exact @unescape_name 'g' ['t'] _ rfl hgt rest
      · exact unescape_cons hne rest

/-- The references in a written text are replaced once, and those in what follows after it. -/
theorem unescape_escaped_append (s rest : List Char) :
    unescape 0 (escaped s ++ rest) = s ++ unescape 0 rest := by
  induction s with
  | nil => rfl
  | cons c s ih =>
      have hcons : escaped (c :: s) = escapedChar c ++ escaped s := rfl
      rw [hcons, List.append_assoc, unescape_escapedChar, ih, List.cons_append]

theorem sourceOf_escaped (s : List Char) : sourceOf (escaped s) = String.ofList (Text.trim s) := by
  have hunescape := unescape_escaped_append s []
  rw [List.append_nil] at hunescape
  rw [sourceOf, hunescape, unescape, List.append_nil]

end ShapeCoords.Page
