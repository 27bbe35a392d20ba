import ShapeCoords.Proofs.Markup.Building
import ShapeCoords.Proofs.Text.Runs

/-!
Paragraphs of plain text: reading one makes an element without content, as text makes none.
-/

namespace ShapeCoords.Markup

open Builder
open Text (EndsRun takeWhile_run endsRun_dropWhile)

/-- Outside of tags every character of the text stands for itself. -/
def IsPlainText (s : List Char) : Prop :=
  ∀ c ∈ s, c ≠ '<' ∧ c ≠ '&' ∧ c ≠ '\r' ∧ c ≠ '\x00'

instance (s : List Char) : Decidable (IsPlainText s) :=
  List.decidableBAll _ _

def paragraphText (s : List Char) : List Char :=
  openTagText "p" [] ++ s ++ endTagText "p"

/-- The innermost open element is one of HTML in the body, and text in it changes nothing. -/
structure Builder.TakesText (b : Builder) (o : Open) (outer : List Open) : Prop where
  opened : b.opened = o :: outer
  space : o.element.space = .html
  mode : b.mode = .inBody
  formatting : b.formatting = []
  framesetAllowed : b.framesetAllowed = false
  skipsNewline : b.skipsNewline = false

section Text

variable {b : Builder} {o : Open} {outer : List Open} {s : List Char}

theorem step_text (hb : b.TakesText o outer) (s : List Char) : b.step (.text s) = (b, .done) := by
  have hcurrent : b.current? = some o := by rw [current?, hb.opened, List.head?_cons]
  have hhtml : isHtmlIn o.element (.text s) = true := by
    simp [isHtmlIn, Builder.holdsHtml, hb.space]
  have hreconstruct : b.reconstruct = b := by
    rw [Builder.reconstruct, hb.formatting]
    change { b with formatting := [] } = b
    rw [← hb.formatting]
  have hforbid : b.forbidFrameset = b := by
    rw [forbidFrameset, ← hb.framesetAllowed]
  rw [Builder.step, hcurrent]
  dsimp only
  rw [if_pos hhtml, hb.mode]
  change b.textInBody s = _
  rw [textInBody, hreconstruct, hforbid, ite_self]
  rfl

theorem takeToken_text (hb : b.TakesText o outer) (hs : s ≠ []) :
    b.takeToken (.text s) = (b, none) := by
  have hskips : { b with skipsNewline := false } = b := by rw [← hb.skipsNewline]
  have hbound : b.stepBound (.text s) = 63 + 8 * s.length + 8 * b.opened.length + 1 := by
    change 64 + 8 * s.length + 8 * b.opened.length = _
    omega
  have hportion : b.portion (.text s) = (.text s, []) := by
    rw [portion, hb.mode]
    rfl
  rw [takeToken, hskips, hb.skipsNewline, Bool.false_and, if_neg Bool.false_ne_true,
    if_neg (by simpa using hs), hbound, settle, hportion]
  dsimp only
  rw [step_text hb]
  rfl

/-- A run of a plain text is read up to the next line break, or up to the next tag. -/
theorem next_run {c : Char} (hplain : IsPlainText (c :: s)) (hc : c ≠ '\n') (foreign : Bool)
    {rest : List Char} (hrest : EndsRun (fun d => d != '<') rest) :
    ∃ run behind, c :: s = run ++ behind ∧ run ≠ [] ∧
      Source.next ⟨run ++ (behind ++ rest), none⟩ foreign .markup =
        ([.token (.text run)], ⟨behind ++ rest, none⟩) := by
  let inRun (d : Char) : Bool := !isMarkupStart d
  obtain ⟨hangle, hand, hreturn, hnull⟩ := hplain c List.mem_cons_self
  have hfirst : inRun c = true := by
    simp [inRun, isMarkupStart, hangle, hand, hreturn, hnull, hc]
  have hrun : (c :: s).takeWhile inRun = c :: s.takeWhile inRun := by
    rw [List.takeWhile_cons, hfirst, if_pos rfl]
  have hend : EndsRun inRun rest := by
    intro d hd
    have hangle : d = '<' := by simpa using hrest d hd
    rw [hangle]
    rfl
  have hall : ∀ d ∈ (c :: s).takeWhile inRun, inRun d = true :=
    List.all_eq_true.1 List.all_takeWhile
  have htake := takeWhile_run hall ((endsRun_dropWhile inRun (c :: s)).append hend)
  refine ⟨(c :: s).takeWhile inRun, (c :: s).dropWhile inRun,
    List.takeWhile_append_dropWhile.symm, by rw [hrun]; exact List.cons_ne_nil _ _, ?_⟩
  generalize (c :: s).dropWhile inRun ++ rest = behind at htake ⊢
  rw [hrun] at htake ⊢
  rw [Source.next, nextInMarkup]
  dsimp only [List.cons_append]
  rw [if_neg hangle, if_neg hand, if_neg hc, if_neg hreturn, if_neg hnull, readRun]
  dsimp only
  rw [← List.cons_append, htake, List.drop_left]
  rfl

/-- Plain text in front of a tag is read without a trace. -/
theorem reaches_plainText (hb : b.TakesText o outer) (hplain : IsPlainText s) {rest : List Char}
    (hrest : EndsRun (fun d => d != '<') rest) : Reaches (s ++ rest) b rest b := by
  -- on the length, since a run is read at once
  induction hn : s.length using Nat.strongRecOn generalizing s with
  | ind n ih =>
    cases s with
    | nil => exact .refl rest b
    | cons c s =>
        by_cases hc : c = '\n'
        · subst hc
          have hfirst : Reaches (['\n'] ++ (s ++ rest)) b (s ++ rest) b :=
            .token (by simp) rfl (takeToken_text hb (by simp))
          have hbehind : Reaches (s ++ rest) b rest b :=
            ih s.length (by simp [← hn]) (fun d hd => hplain d (List.mem_cons_of_mem _ hd)) rfl
          exact hfirst.trans hbehind
        · obtain ⟨run, behind, hsplit, hne, hnext⟩ := next_run hplain hc b.isForeign hrest
          have hpos := List.length_pos_iff.2 hne
          have hlength := congrArg List.length hsplit
          rw [List.length_append] at hlength
          have hfirst : Reaches (run ++ (behind ++ rest)) b (behind ++ rest) b :=
            .token hne hnext (takeToken_text hb hne)
          have hbehind : Reaches (behind ++ rest) b rest b :=
            ih behind.length (by omega)
              (fun d hd => hplain d (by rw [hsplit]; exact List.mem_append_right _ hd)) rfl
          rw [hsplit, List.append_assoc]
          exact hfirst.trans hbehind

end Text

end ShapeCoords.Markup
