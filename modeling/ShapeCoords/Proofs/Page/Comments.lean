import ShapeCoords.Proofs.Page.Cutting

/-!
Comments in a page: one that is written out is a piece of its own, whatever stands in it and behind
it.
-/

namespace ShapeCoords.Page

open Markup (CommentPlace)

def commentEnd : List Char :=
  ['-', '-', '>']

/-- What a comment ends with if a mark is in front of its last character, against the rules. -/
def markedCommentEnd : List Char :=
  ['-', '-', '!', '>']

/-- No comment ends in a text. -/
def EndsNoComment (s : List Char) : Prop :=
  ¬ commentEnd <:+: s ∧ ¬ markedCommentEnd <:+: s

structure Comment where
  content : List Char
  /-- It does not end the comment right behind its start. -/
  notEndedAtOnce : ¬ ['>'] <+: content ∧ ¬ ['-', '>'] <+: content
  notEnded : EndsNoComment content

def Comment.text (c : Comment) : List Char :=
  "<!--".toList ++ (c.content ++ commentEnd)

theorem EndsNoComment.suffix {s t : List Char} (h : EndsNoComment t) (hs : s <:+ t) :
    EndsNoComment s :=
  ⟨fun hend => h.1 (hend.trans hs.isInfix), fun hend => h.2 (hend.trans hs.isInfix)⟩

/-! Reading up to the end -/

/-- What was read right before a place of a comment, as far as it may be part of its end. -/
def readBefore : CommentPlace → List Char
  | .start | .body => []
  | .startDash | .dash => ['-']
  | .dashes => ['-', '-']
  | .dashesBang => ['-', '-', '!']

section Reading

variable {c : Char} {s : List Char}

/-- A character behind the start of a comment that does not end it. What is read before the next
place was read before, or is the character. -/
theorem exists_next {place : CommentPlace} (hplace : place ≠ .start ∧ place ≠ .startDash)
    (h : EndsNoComment (readBefore place ++ c :: s)) :
    ∃ next, (place.step c).place = some next ∧ (next ≠ .start ∧ next ≠ .startDash) ∧
      readBefore next ++ s <:+ readBefore place ++ c :: s := by
  cases place with
  | start => exact absurd rfl hplace.1
  | startDash => exact absurd rfl hplace.2
  | body =>
      by_cases hdash : c = '-'
      · exact ⟨.dash, by simp [CommentPlace.step, hdash], by simp, [], by simp [readBefore, hdash]⟩
      · exact ⟨.body, by simp [CommentPlace.step, CommentPlace.plainStep, hdash], by simp, [c], rfl⟩
  | dash =>
      by_cases hdash : c = '-'
      · exact ⟨.dashes, by simp [CommentPlace.step, hdash], by simp, [],
          by simp [readBefore, hdash]⟩
      · exact ⟨.body, by simp [CommentPlace.step, CommentPlace.plainStep, hdash], by simp,
          ['-', c], rfl⟩
  | dashes =>
      have hend : c ≠ '>' := by
        rintro rfl
        exact h.1 ⟨[], s, rfl⟩
      by_cases hmark : c = '!'
      · exact ⟨.dashesBang, by simp [CommentPlace.step, hmark], by simp, [],
          by simp [readBefore, hmark]⟩
      by_cases hdash : c = '-'
      · exact ⟨.dashes, by simp [CommentPlace.step, hdash], by simp, ['-'],
          by simp [readBefore, hdash]⟩
      · exact ⟨.body, by simp [CommentPlace.step, hend, hmark, hdash], by simp,
          ['-', '-', c], rfl⟩
  | dashesBang =>
      have hend : c ≠ '>' := by
        rintro rfl
        exact h.2 ⟨[], s, rfl⟩
      by_cases hdash : c = '-'
      · exact ⟨.dash, by simp [CommentPlace.step, hdash], by simp, ['-', '-', '!'],
          by simp [readBefore, hdash]⟩
      · exact ⟨.body, by simp [CommentPlace.step, CommentPlace.plainStep, hend, hdash], by simp,
          ['-', '-', '!', c], rfl⟩

/-- Behind its start a comment goes on up to its end. -/
theorem commentLength_inside {place : CommentPlace}
    (hplace : place ≠ .start ∧ place ≠ .startDash) (h : EndsNoComment (readBefore place ++ s))
    (rest : List Char) :
    commentLength place (s ++ (commentEnd ++ rest)) = s.length + 3 := by
  induction s generalizing place with
  | nil => cases place <;> simp_all [commentLength, commentEnd, CommentPlace.step]
  | cons c s ih =>
      obtain ⟨next, hstep, hnext, hread⟩ := exists_next hplace h
      rw [List.cons_append, commentLength, hstep]
      dsimp only
      rw [ih hnext (h.suffix hread), List.length_cons]

/-- The start of a comment is read like what is behind it, unless it ends the comment. -/
theorem commentLength_startDash (h : s.head? ≠ some '>') :
    commentLength .startDash s = commentLength .dash s := by
  cases s with
  | nil => rfl
  | cons c s =>
      have hend : c ≠ '>' := fun heq => h (congrArg some heq)
      by_cases hdash : c = '-' <;>
        simp [commentLength, CommentPlace.step, CommentPlace.startStep, hend, hdash]

theorem commentLength_start (h : ¬ ['>'] <+: s ∧ ¬ ['-', '>'] <+: s) :
    commentLength .start s = commentLength .body s := by
  cases s with
  | nil => rfl
  | cons c s =>
      have hend : c ≠ '>' := by
        rintro rfl
        exact h.1 ⟨s, rfl⟩
      by_cases hdash : c = '-'
      · subst hdash
        have hbehind : s.head? ≠ some '>' := by
          intro heq
          obtain ⟨t, rfl⟩ := List.head?_eq_some_iff.1 heq
          exact h.2 ⟨t, rfl⟩
        have hlength := commentLength_startDash hbehind
        simp [commentLength, CommentPlace.step, CommentPlace.startStep, hlength]
      · simp [commentLength, CommentPlace.step, CommentPlace.startStep, hend, hdash]

theorem commentLength_text (c : Comment) (rest : List Char) :
    commentLength .start (c.content ++ (commentEnd ++ rest)) = c.content.length + 3 := by
  obtain ⟨content, ⟨hmark, hdash⟩, hnotEnded⟩ := c
  have hstarts : ¬ ['>'] <+: content ++ (commentEnd ++ rest) ∧
      ¬ ['-', '>'] <+: content ++ (commentEnd ++ rest) := by
    rcases content with _ | ⟨x, _ | ⟨y, s⟩⟩
    · simp [commentEnd]
    · simp_all [commentEnd]
    · simp only [List.cons_append, List.cons_prefix_cons, List.nil_prefix, and_true] at *
      exact ⟨hmark, hdash⟩
  exact (commentLength_start hstarts).trans
    (commentLength_inside (by simp) (by simpa [readBefore] using hnotEnded) rest)

end Reading

theorem firstPiece_comment (c : Comment) (rest : List Char) :
    firstPiece {} inMarkup (c.text ++ rest) = .other c.text := by
  have hpage : c.text ++ rest =
      '<' :: '!' :: ("--".toList ++ (c.content ++ (commentEnd ++ rest))) := by
    simp [Comment.text]
  have hlength : 4 + (c.content.length + 3) = c.text.length := by
    simp [Comment.text, commentEnd]
    omega
  rw [hpage, firstPiece_angle]
  change anglePiece false _ = _
  rw [anglePiece_comment (Text.dropWord_append _ _), commentLength_text, hlength, ← hpage,
    List.take_left]

/-- A comment in content of HTML is cut off as a whole. -/
theorem cutsInto_comment (c : Comment) : CutsInto c.text {} [⟨.other c.text, false, .html⟩] {} := by
  have hne : c.text ≠ [] := by simp [Comment.text]
  exact .piece (by rfl) hne (firstPiece_comment c) rfl rfl

end ShapeCoords.Page
