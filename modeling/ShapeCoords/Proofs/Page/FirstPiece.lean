import ShapeCoords.Proofs.Markup.Tags
import ShapeCoords.Proofs.Page.Pieces

/-!
The first piece of a page: a tag that is written out plainly, and any other piece that is whole. A
whole piece is the same whatever stands behind it.
-/

namespace ShapeCoords.Page

open Markup (Attribute CommentPlace IsPlainName Tag TagDraft TagKind TagPlace endTagText openTagText
  readTag)
open Text (dropWord isAsciiLetter)

/-- The content that tags are cut from. -/
abbrev inMarkup : Reading :=
  .content .markup

/-! Tags that are written out plainly -/

section Tags

variable {name : String} {attributes : List Attribute}

theorem readTag_openTag (hname : IsPlainName name) (hplain : ∀ a ∈ attributes, a.IsPlain)
    (hdistinct : (attributes.map Attribute.name).Nodup) (rest : List Char) :
    readTag .name { kind := .opening, keepsValues := true } 0
        (name.toList ++ (attributes.flatMap Attribute.text ++ '>' :: rest)) =
      .complete ⟨.opening, name, attributes, false⟩ []
        (name.toList.length + (attributes.flatMap Attribute.text).length + 1) := by
  have hread := Markup.readTag_attributes hplain (.inl rfl)
    (Markup.closeAttribute_closed true name.toList []) hdistinct (0 + name.toList.length) rest
  rw [Markup.readTag_name hname.2]
  rw [String.ofList_toList, Nat.zero_add, List.nil_append] at hread
  simpa [TagDraft.closed] using hread

theorem readTag_endTag (hname : IsPlainName name) (rest : List Char) :
    readTag .name { kind := .closing, keepsValues := true } 0 (name.toList ++ '>' :: rest) =
      .complete ⟨.closing, name, [], false⟩ [] (name.toList.length + 1) := by
  rw [Markup.readTag_name hname.2, readTag]
  simp [TagDraft.step, TagDraft.stepBefore, TagDraft.close, TagDraft.closeAttribute, Markup.isSpace,
    Text.isAsciiSpace, String.ofList_toList]

theorem firstPiece_angle (c : Context) (s : List Char) :
    firstPiece c inMarkup ('<' :: s) = anglePiece (c.space != .html) ('<' :: s) := rfl

/-- What a `<` begins that no mark follows. -/
theorem anglePiece_unmarked (literal : Bool) {x : Char} (hx : x ∉ ['!', '/', '?'])
    (s : List Char) :
    anglePiece literal ('<' :: x :: s) =
      if isAsciiLetter x then tagPiece .opening 1 ('<' :: x :: s) (x :: s) else .text ['<'] := by
  unfold anglePiece
  simp only [List.drop_one, List.tail_cons]
  split
  · next h => cases h
  · next h =>
    cases h
    simp at hx
  · next h =>
    cases h
    simp at hx
  · next h =>
    cases h
    simp at hx
  · next h =>
    cases h
    simp at hx
  · next h =>
    cases h
    rfl

theorem anglePiece_slash (literal : Bool) (x : Char) (s : List Char) :
    anglePiece literal ('<' :: '/' :: x :: s) =
      if isAsciiLetter x then tagPiece .closing 2 ('<' :: '/' :: x :: s) (x :: s)
      else .other (('<' :: '/' :: x :: s).take (declarationLength ('<' :: '/' :: x :: s))) := rfl

theorem not_mark_of_isAsciiLetter {x : Char} (hx : isAsciiLetter x) : x ∉ ['!', '/', '?'] := by
  simp only [List.mem_cons, List.not_mem_nil, or_false]
  rintro (rfl | rfl | rfl) <;> cases hx

theorem tagPiece_eq {kind : TagKind} {mark length : Nat} {page s raw behind : List Char} {t : Tag}
    {faults : List Markup.Fault}
    (hread : readTag .name { kind := kind, keepsValues := true } 0 s = .complete t faults length)
    (hpage : page = raw ++ behind) (hlength : raw.length = mark + length) :
    tagPiece kind mark page s = .tag raw t := by
  rw [tagPiece, hread, hpage]
  dsimp only
  rw [← hlength, List.take_left]

theorem firstPiece_openTag (hname : IsPlainName name) (hplain : ∀ a ∈ attributes, a.IsPlain)
    (hdistinct : (attributes.map Attribute.name).Nodup) (c : Context) (rest : List Char) :
    firstPiece c inMarkup (openTagText name attributes ++ rest) =
      .tag (openTagText name attributes) ⟨.opening, name, attributes, false⟩ := by
  have hpage : '<' :: (name.toList ++ (attributes.flatMap Attribute.text ++ '>' :: rest)) =
      openTagText name attributes ++ rest := by
    simp [openTagText]
  have hlength : (openTagText name attributes).length =
      1 + (name.toList.length + (attributes.flatMap Attribute.text).length + 1) := by
    simp [openTagText]
    omega
  have htag := tagPiece_eq (readTag_openTag hname hplain hdistinct rest) hpage hlength
  obtain ⟨x, s, hcs⟩ := List.exists_cons_of_ne_nil hname.1
  have hx := Markup.isAsciiLetter_of_isLower (hname.2 x (by simp [hcs]))
  rw [← hpage, firstPiece_angle]
  rw [hcs, List.cons_append] at htag ⊢
  rw [anglePiece_unmarked _ (not_mark_of_isAsciiLetter hx), if_pos hx, htag]

theorem firstPiece_endTag (hname : IsPlainName name) (c : Context) (rest : List Char) :
    firstPiece c inMarkup (endTagText name ++ rest) =
      .tag (endTagText name) ⟨.closing, name, [], false⟩ := by
  have hpage : '<' :: '/' :: (name.toList ++ '>' :: rest) = endTagText name ++ rest := by
    simp [endTagText]
  have hlength : (endTagText name).length = 2 + (name.toList.length + 1) := by
    simp [endTagText]
    omega
  have htag := tagPiece_eq (readTag_endTag hname rest) hpage hlength
  obtain ⟨x, s, hcs⟩ := List.exists_cons_of_ne_nil hname.1
  have hx := Markup.isAsciiLetter_of_isLower (hname.2 x (by simp [hcs]))
  rw [← hpage, firstPiece_angle]
  rw [hcs, List.cons_append] at htag ⊢
  rw [anglePiece_slash, if_pos hx, htag]

end Tags

/-! What stands behind a piece -/

section Behind

variable {page s rest : List Char}

theorem readTag_append {place : TagPlace} {draft : TagDraft} {n length : Nat} {t : Tag}
    {faults : List Markup.Fault} (h : readTag place draft n s = .complete t faults length)
    (rest : List Char) :
    readTag place draft n (s ++ rest) = .complete t faults length ∧ length ≤ n + s.length := by
  induction s generalizing place draft n with
  | nil => cases h
  | cons x s ih =>
      rw [List.cons_append, readTag]
      rw [readTag] at h
      cases hstep : draft.step x place with
      | goOn next draft' =>
          rw [hstep] at h
          obtain ⟨hread, hlength⟩ := ih h
          exact ⟨hread, by rw [List.length_cons]; omega⟩
      | complete selfClosing draft' =>
          rw [hstep] at h
          cases h
          exact ⟨rfl, by rw [List.length_cons]; omega⟩

theorem tagPiece_append {kind : TagKind} {mark : Nat} {raw : List Char} {t : Tag}
    (h : tagPiece kind mark page s = .tag raw t) (hs : mark + s.length ≤ page.length)
    (rest : List Char) : tagPiece kind mark (page ++ rest) (s ++ rest) = .tag raw t := by
  unfold tagPiece at h ⊢
  dsimp only at h ⊢
  split at h
  · next t' faults length hread =>
    obtain ⟨hread', hlength⟩ := readTag_append hread rest
    rw [hread']
    dsimp only
    rw [List.take_append_of_le_length (by omega)]
    exact h
  · cases h

theorem declarationLength_append (h : declarationLength s < s.length) (rest : List Char) :
    declarationLength (s ++ rest) = declarationLength s := by
  induction s with
  | nil => cases h
  | cons x s ih =>
      rw [List.cons_append, declarationLength, declarationLength]
      rw [declarationLength, List.length_cons] at h
      split
      · rfl
      · next hx =>
        rw [if_neg hx] at h
        rw [ih (by omega)]

theorem commentLength_append {place : CommentPlace} (h : commentLength place s < s.length)
    (rest : List Char) : commentLength place (s ++ rest) = commentLength place s := by
  induction s generalizing place with
  | nil => cases h
  | cons x s ih =>
      rw [List.cons_append, commentLength, commentLength]
      rw [commentLength, List.length_cons] at h
      split
      · next next hnext =>
        rw [hnext] at h
        dsimp only at h
        rw [ih (by omega)]
      · rfl

theorem dropWord_append_eq_none {word : List Char} (h : dropWord word s = none)
    (hword : word.length ≤ s.length) (rest : List Char) : dropWord word (s ++ rest) = none := by
  refine Option.eq_none_iff_forall_ne_some.2 fun r hr => ?_
  have hprefix : word <+: s := by
    refine List.prefix_of_prefix_length_le ⟨r, ?_⟩ (List.prefix_append s rest) hword
    exact (Text.eq_append_of_dropWord hr).symm
  obtain ⟨u, rfl⟩ := hprefix
  rw [Text.dropWord_append] at h
  cases h

/-- A piece is a whole tag, or there is more of the page behind it. -/
def IsWhole (page : List Char) (piece : Piece) : Prop :=
  (∃ raw t, piece = .tag raw t) ∨ piece.raw.length < page.length

theorem declaration_append (h : IsWhole page (.other (page.take (declarationLength page))))
    (rest : List Char) :
    declarationLength page < page.length ∧
      Piece.other ((page ++ rest).take (declarationLength (page ++ rest))) =
        .other (page.take (declarationLength page)) := by
  have hlt : declarationLength page < page.length := by
    rcases h with ⟨raw, t, h⟩ | h
    · cases h
    · rw [Piece.raw, List.length_take] at h
      omega
  refine ⟨hlt, ?_⟩
  rw [declarationLength_append hlt, List.take_append_of_le_length (Nat.le_of_lt hlt)]

theorem tagPiece_append_of_isWhole {kind : TagKind} {mark : Nat}
    (h : IsWhole page (tagPiece kind mark page s)) (hs : mark + s.length ≤ page.length)
    (rest : List Char) :
    tagPiece kind mark (page ++ rest) (s ++ rest) = tagPiece kind mark page s := by
  cases hpiece : tagPiece kind mark page s with
  | tag raw t => exact tagPiece_append hpiece hs rest
  | cut raw name =>
      obtain rfl := tagPiece_cut hpiece
      rw [hpiece] at h
      rcases h with ⟨raw', t, h⟩ | h
      · cases h
      · exact absurd h (Nat.lt_irrefl _)
  | text raw =>
      unfold tagPiece at hpiece
      dsimp only at hpiece
      split at hpiece <;> cases hpiece
  | other raw =>
      unfold tagPiece at hpiece
      dsimp only at hpiece
      split at hpiece <;> cases hpiece

theorem anglePiece_comment {u : List Char} (h : dropWord "--".toList s = some u) :
    anglePiece false ('<' :: '!' :: s) =
      .other (('<' :: '!' :: s).take (4 + commentLength .start u)) := by
  unfold anglePiece
  simp only [List.drop_one, List.tail_cons, h]

theorem anglePiece_declaration (h : dropWord "--".toList s = none) :
    anglePiece false ('<' :: '!' :: s) =
      .other (('<' :: '!' :: s).take (declarationLength ('<' :: '!' :: s))) := by
  unfold anglePiece
  simp only [List.drop_one, List.tail_cons, h]

theorem anglePiece_bang_append (h : IsWhole ('<' :: '!' :: s) (anglePiece false ('<' :: '!' :: s)))
    (rest : List Char) :
    anglePiece false ('<' :: '!' :: (s ++ rest)) = anglePiece false ('<' :: '!' :: s) := by
  cases hdrop : dropWord "--".toList s with
  | some u =>
      rw [anglePiece_comment hdrop] at h ⊢
      obtain rfl := Text.eq_append_of_dropWord hdrop
      have hlt : commentLength .start u < u.length := by
        rcases h with ⟨raw, t, h⟩ | h
        · cases h
        · have hdashes : "--".toList.length = 2 := rfl
          simp only [Piece.raw, List.length_take, List.length_cons, List.length_append] at h
          omega
      have hword : dropWord "--".toList ("--".toList ++ u ++ rest) = some (u ++ rest) := by
        rw [List.append_assoc, Text.dropWord_append]
      rw [anglePiece_comment hword, commentLength_append hlt, ← List.cons_append,
        ← List.cons_append, List.take_append_of_le_length (by simp; omega)]
  | none =>
      rw [anglePiece_declaration hdrop] at h ⊢
      obtain ⟨hlt, heq⟩ := declaration_append h rest
      -- a declaration that has its end in front of more text is longer than the word
      have hword : "--".toList.length ≤ s.length := by
        rcases s with _ | ⟨x, _ | ⟨y, s⟩⟩
        · simp [declarationLength] at hlt
        · simp [declarationLength] at hlt
        · simp
      rw [anglePiece_declaration (dropWord_append_eq_none hdrop hword rest)]
      exact heq

/-- In content of HTML a whole piece is the same whatever stands behind it. -/
theorem anglePiece_append (h : IsWhole ('<' :: s) (anglePiece false ('<' :: s)))
    (rest : List Char) :
    anglePiece false ('<' :: (s ++ rest)) = anglePiece false ('<' :: s) := by
  have hnot {page : List Char} : ¬IsWhole page (.text page) := by
    rintro (⟨raw, t, h⟩ | h)
    · cases h
    · exact absurd h (Nat.lt_irrefl _)
  cases s with
  | nil => exact absurd h hnot
  | cons x s =>
      by_cases hbang : x = '!'
      · subst hbang
        exact anglePiece_bang_append h rest
      by_cases hslash : x = '/'
      · subst hslash
        cases s with
        | nil => exact absurd h hnot
        | cons y s =>
            rw [List.cons_append, List.cons_append, anglePiece_slash, anglePiece_slash]
            rw [anglePiece_slash] at h
            cases hy : isAsciiLetter y with
            | true =>
                rw [hy, if_pos rfl] at h
                rw [if_pos rfl, if_pos rfl]
                exact tagPiece_append_of_isWhole h (by simp; omega) rest
            | false =>
                rw [hy, if_neg Bool.false_ne_true] at h
                rw [if_neg Bool.false_ne_true, if_neg Bool.false_ne_true]
                exact (declaration_append h rest).2
      by_cases hquestion : x = '?'
      · subst hquestion
        exact (declaration_append h rest).2
      have hmark : x ∉ ['!', '/', '?'] := by simp [hbang, hslash, hquestion]
      rw [List.cons_append, anglePiece_unmarked _ hmark, anglePiece_unmarked _ hmark]
      rw [anglePiece_unmarked _ hmark] at h
      cases hx : isAsciiLetter x with
      | true =>
          rw [hx, if_pos rfl] at h
          rw [if_pos rfl, if_pos rfl]
          exact tagPiece_append_of_isWhole h (by simp; omega) rest
      | false => rfl

theorem firstPiece_append {c : Context} (hc : c.space = .html)
    (h : IsWhole page (firstPiece c inMarkup page)) (hpage : page ≠ []) (rest : List Char) :
    firstPiece c inMarkup (page ++ rest) = firstPiece c inMarkup page := by
  obtain ⟨x, s, rfl⟩ := List.exists_cons_of_ne_nil hpage
  by_cases hx : x = '<'
  · subst hx
    rw [List.cons_append, firstPiece_angle, firstPiece_angle, hc]
    rw [firstPiece_angle, hc] at h
    exact anglePiece_append h rest
  · have htake (t : List Char) : firstPiece c inMarkup (x :: t) =
        .text ((x :: t).takeWhile fun y => y != '<') := by
      unfold firstPiece
      dsimp only
      rw [List.takeWhile_cons, if_pos (by simpa using hx)]
    rw [List.cons_append, htake, htake]
    rw [htake] at h
    have hlt : ((x :: s).takeWhile fun y => y != '<').length < (x :: s).length := by
      rcases h with ⟨raw, t, h⟩ | h
      · cases h
      · exact h
    rw [← List.cons_append, List.takeWhile_append, if_neg (Nat.ne_of_lt hlt)]

end Behind

end ShapeCoords.Page
