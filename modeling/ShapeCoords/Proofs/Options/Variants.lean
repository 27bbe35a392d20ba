import ShapeCoords.Options.Reading
import ShapeCoords.Proofs.Json.Defaults
import ShapeCoords.Proofs.Options.Members

/-!
The values of the fields of options: the name of a variant, as a string or as the only name of an
object with `null`, and `true` and `false`. Exactly the texts of these values are read.
-/

namespace ShapeCoords

open Text (isAsciiDigit)

namespace Json

open Reader

/-! How values start -/

/-- The first character of a text of the value. -/
def StartsWith : Json → Char → Prop
  | .null, c => c = 'n'
  | .bool b, c => c = if b then 't' else 'f'
  | .int _, c | .float _, c => c = '-' ∨ isAsciiDigit c = true
  | .string _, c => c = '"'
  | .array _, c => c = '['
  | .object _, c => c = '\x7b'

section Starts

variable {d : Nat} {s : List Char} {v : Json}

theorem IsNumeric.startsWith {c : Char} (hv : IsNumeric v) (hc : c = '-' ∨ isAsciiDigit c = true) :
    v.StartsWith c := by
  cases hv <;> exact hc

theorem IsText.exists_startsWith (h : IsText d s v) :
    ∃ c u, s = c :: u ∧ isSpace c = false ∧ v.StartsWith c := by
  obtain ⟨inner, htext, -⟩ := h.exists_inner
  cases htext with
  | null => exact ⟨_, _, rfl, rfl, rfl⟩
  | isTrue => exact ⟨_, _, rfl, rfl, rfl⟩
  | isFalse => exact ⟨_, _, rfl, rfl, rfl⟩
  | string hstring =>
      cases hstring
      exact ⟨_, _, rfl, rfl, rfl⟩
  | number hnumber =>
      obtain ⟨c, u, rfl, hc⟩ := hnumber.exists_eq_cons
      exact ⟨c, u, rfl, isSpace_of_isAsciiDigit hc, hnumber.isNumeric.startsWith (.inr hc)⟩
  | negative hnumber => exact ⟨_, _, rfl, rfl, hnumber.isNumeric.startsWith (.inl rfl)⟩
  | array => exact ⟨_, _, rfl, rfl, rfl⟩
  | object => exact ⟨_, _, rfl, rfl, rfl⟩

/-- A value is of the kind that the first character of its text tells. -/
theorem StartsWith.eq_of_letter {c : Char} (h : v.StartsWith c) :
    (c = 'n' → v = .null) ∧ (c = 't' → v = .bool true) ∧ (c = 'f' → v = .bool false) ∧
      (c = '"' → ∃ str, v = .string str) ∧ (c = '\x7b' → ∃ ms, v = .object ms) := by
  refine ⟨?_, ?_, ?_, ?_, ?_⟩ <;> rintro rfl <;> rcases v with _ | (_ | _) | _ | _ | _ | _ | _ <;>
    simp [StartsWith, isAsciiDigit] at h ⊢

theorem IsText.of_null (h : IsText d s .null) : s = ['n', 'u', 'l', 'l'] := by
  obtain ⟨inner, htext, -⟩ := h.exists_inner
  cases htext with
  | null => rfl
  | number hnumber => cases hnumber.isNumeric
  | negative hnumber => cases hnumber.isNumeric

theorem IsText.of_string {str : String} (h : IsText d s (.string str)) : IsString s str := by
  obtain ⟨inner, htext, -⟩ := h.exists_inner
  cases htext with
  | string hstring => exact hstring
  | number hnumber => cases hnumber.isNumeric
  | negative hnumber => cases hnumber.isNumeric

theorem IsText.of_bool {b : Bool} (h : IsText d s (.bool b)) : s = (Json.bool b).compact := by
  obtain ⟨inner, htext, -⟩ := h.exists_inner
  cases htext with
  | isTrue => rfl
  | isFalse => rfl
  | number hnumber => cases hnumber.isNumeric
  | negative hnumber => cases hnumber.isNumeric

end Starts

end Json

open Json (Agrees EndsNumber Fails Gives IsMember IsString IsText Items Reads Spaces TakesValues
  Took)
open Json.Reader

namespace Options

section Variants

variable {α : Type} {variants : List (String × α)} {s t w w' w'' : List Char}

/-! Names -/

def namedVariant (variants : List (String × α)) (name : String) : Option α :=
  (variants.find? fun v => v.1 == name).map Prod.snd

theorem gives_variantName {name : String} (hs : IsString s name) (hw : Spaces w) (t : List Char) :
    Gives (variantName variants) (w ++ (s ++ t)) (namedVariant variants name) t := by
  obtain ⟨hbody⟩ := hs
  rw [List.cons_append, List.append_assoc, List.singleton_append, namedVariant]
  refine Gives.of_reads (Reads.valueStart hw rfl _) (Gives.locate ?_)
  refine Gives.of_reads (Reads.skip '"' _) (Gives.of_reads (hbody.reads t) ?_)
  cases variants.find? fun v => v.1 == _ with
  | none => exact Json.fails_fail _ t
  | some v => exact Reads.pure v.2 t

theorem took_variantName {a : α} (h : Took (variantName variants) s a t) :
    ∃ w e name, Spaces w ∧ s = w ++ (e ++ t) ∧ IsString e name ∧
      namedVariant variants name = some a := by
  obtain ⟨w, c, u, hw, rfl, -, hname⟩ := h.of_valueStart_bind
  replace hname := hname.of_locate
  split at hname
  · obtain ⟨name, v, hstring, hfind⟩ := hname.of_skip_bind.of_bind
    obtain ⟨e, rfl, he⟩ := hstring.of_string
    split at hfind
    · next v hv =>
      obtain ⟨rfl, rfl⟩ := hfind.of_pure
      exact ⟨w, '"' :: e, name, hw, rfl, he, by rw [namedVariant, hv]; rfl⟩
    · exact absurd hfind (Json.fails_fail _ _).not_took
  · exact absurd hname (Json.fails_wrongType _ _).not_took

/-! The value behind the name in an object -/

/-- What stands behind the name in an object. -/
def nullRest (a : α) : Json.Reader α := do
  colon
  Json.Reader.unit
  match ← peekToken with
  | some '\x7d' => skip; return a
  | some _ => failHere .expectedValue
  | none => failHere .endInObject

def nullOf : Json → Option Unit
  | .null => some ()
  | _ => none

theorem gives_unit {d : Nat} {e : List Char} {x : Json} (he : IsText d e x) (hw : Spaces w)
    (t : List Char) : Gives Json.Reader.unit (w ++ (e ++ t)) (nullOf x) t := by
  obtain ⟨c, u, rfl, hc, hstarts⟩ := he.exists_startsWith
  by_cases hnull : c = 'n'
  · obtain rfl := hstarts.eq_of_letter.1 hnull
    rw [he.of_null]
    exact (Reads.valueStart (c := 'n') hw rfl _).bind
      ((Reads.skip 'n' _).bind (Reads.word ['u', 'l', 'l'] t))
  · have hfails : Fails Json.Reader.unit (w ++ c :: (u ++ t)) := by
      refine (Reads.valueStart hw hc _).fails ?_
      split
      · exact absurd rfl hnull
      · exact Json.fails_wrongType _ _
    cases x with
    | null => exact absurd hstarts hnull
    | _ => exact hfails

theorem took_unit (h : Took Json.Reader.unit s () t) :
    ∃ w, Spaces w ∧ s = w ++ (['n', 'u', 'l', 'l'] ++ t) := by
  obtain ⟨w, c, u, hw, rfl, -, hnull⟩ := h.of_valueStart_bind
  split at hnull
  · exact ⟨w, hw, by rw [hnull.of_skip_bind.of_word]; rfl⟩
  · exact absurd hnull (Json.fails_wrongType _ _).not_took

/-- The value must be `null`, and there must be no other member. -/
theorem gives_nullRest (a : α) {d : Nat} {e rest : List Char} {x : Json}
    {ms : List (String × Json)} (hw : Spaces w) (hw' : Spaces w') (he : IsText d e x)
    (hms : Items (IsMember (IsText d)) false rest ms) (hw'' : Spaces w'') (t : List Char) :
    Gives (nullRest a) (w ++ ':' :: (w' ++ (e ++ (rest ++ (w'' ++ '\x7d' :: t)))))
      ((nullOf x).bind fun _ => if ms.isEmpty then some a else none) t := by
  refine Gives.of_reads (Reads.colon hw _) ?_
  refine (gives_unit he hw' _).bind fun _ _ => ?_
  cases hms with
  | nil => exact (Reads.peekToken hw'' rfl t).bind ((Reads.skip '\x7d' t).bind (Reads.pure a t))
  | cons hv =>
      simp only [List.append_assoc]
      exact (Reads.peekToken (c := ',') hv rfl _).fails (Json.fails_failHere _ _)

theorem took_nullRest {a b : α} (h : Took (nullRest a) s b t) :
    b = a ∧ ∃ w w' w'', Spaces w ∧ Spaces w' ∧ Spaces w'' ∧
      s = w ++ ':' :: (w' ++ (['n', 'u', 'l', 'l'] ++ (w'' ++ '\x7d' :: t))) := by
  obtain ⟨⟨⟩, _, hcolon, hrest⟩ := h.of_bind
  obtain ⟨w, hw, rfl⟩ := hcolon.of_colon
  obtain ⟨⟨⟩, u, hunit, hend⟩ := hrest.of_bind
  obtain ⟨w', hw', rfl⟩ := took_unit hunit
  obtain ⟨w'', u, hw'', rfl, -, hend⟩ := hend.of_peekToken_bind
  split at hend
  · next hu =>
    obtain ⟨v, rfl⟩ := List.head?_eq_some_iff.1 hu
    obtain ⟨rfl, rfl⟩ := hend.of_skip_bind.of_pure
    exact ⟨rfl, w, w', w'', hw, hw', hw'', rfl⟩
  · exact absurd hend (Json.fails_failHere _ _).not_took
  · exact absurd hend (Json.fails_failHere _ _).not_took

/-! Variants -/

theorem variantOf_cons (m : String × Json) (ms : List (String × Json)) :
    variantOf variants (.object (m :: ms)) =
      (namedVariant variants m.1).bind fun a =>
        (nullOf m.2).bind fun _ => if ms.isEmpty then some a else none := by
  obtain ⟨name, x⟩ := m
  cases ms with
  | nil => cases x <;> simp [variantOf, namedVariant, nullOf]
  | cons m' ms => cases x <;> simp [variantOf, nullOf]

/-- A variant is read from the text of a value that names it, and from no other. -/
theorem agrees_variant (variants : List (String × α)) (d : Nat) :
    Agrees (IsText d) (variant variants) (variantOf variants) := by
  intro s v w t hs hw ht
  obtain ⟨c, u, rfl, hc, hstarts⟩ := hs.exists_startsWith
  have hother (hquote : c ≠ '"') (hobject : c ≠ '\x7b') :
      Fails (variant variants) (w ++ c :: (u ++ t)) := by
    refine (Reads.valueStart hw hc _).fails ?_
    split
    · exact absurd rfl hquote
    · exact absurd rfl hobject
    · exact Json.fails_failNext _ _
  by_cases hquote : c = '"'
  · obtain ⟨str, rfl⟩ := hstarts.eq_of_letter.2.2.2.1 hquote
    subst hquote
    exact Gives.of_reads (Reads.valueStart hw rfl _)
      (gives_variantName hs.of_string Spaces.nil t)
  by_cases hobject : c = '\x7b'
  · obtain ⟨ms, rfl⟩ := hstarts.eq_of_letter.2.2.2.2 hobject
    obtain ⟨d', body, w', -, htext, hms, hw'⟩ := hs.of_object
    rw [htext]
    simp only [List.cons_append, List.append_assoc, List.nil_append]
    refine Gives.of_reads (Reads.valueStart hw rfl _) (Gives.of_reads (Reads.skip '\x7b' _) ?_)
    cases hms with
    | nil =>
        refine Fails.bind ((Reads.valueStart (c := '\x7d') hw' rfl t).fails (Fails.locate ?_))
        exact Json.fails_wrongType _ _
    | @cons _ v v' _ rest m ms hv hv' hm hms =>
        obtain ⟨hname, hu, hu', he⟩ := hm
        have hnamed (t : List Char) : Gives (variantName variants) _ _ t :=
          gives_variantName hname (hv.append hv') t
        simp only [Json.separator, if_true, List.nil_append, List.append_assoc,
          List.cons_append] at hnamed ⊢
        rw [variantOf_cons]
        exact (hnamed _).bind fun a _ => gives_nullRest a hu hu' he hms hw' t
  · have hfails := hother hquote hobject
    cases v with
    | string str => exact absurd hstarts hquote
    | object ms => exact absurd hstarts hobject
    | _ => exact hfails

theorem takesValues_variant (variants : List (String × α)) :
    TakesValues (IsText 1) (variant variants) (variantOf variants) := by
  intro s a t h
  obtain ⟨w, c, u, hw, rfl, -, hvariant⟩ := h.of_valueStart_bind
  split at hvariant
  · obtain ⟨w', e, name, hw', hs, he, hname⟩ := took_variantName hvariant
    exact ⟨w ++ w', e, .string name, hw.append hw', by rw [hs, List.append_assoc], .string he,
      hname⟩
  · obtain ⟨b, u', hb, hrest⟩ := hvariant.of_skip_bind.of_bind
    obtain ⟨v, e, name, hv, rfl, he, hname⟩ := took_variantName hb
    obtain ⟨rfl, w₁, w₂, w₃, hw₁, hw₂, hw₃, rfl⟩ := took_nullRest hrest
    have hmember : IsMember (IsText 0) (e ++ (w₁ ++ ':' :: (w₂ ++ ['n', 'u', 'l', 'l'])))
        (name, .null) := .mk he hw₁ hw₂ .null
    refine ⟨w, _, .object [(name, .null)], hw, ?_,
      .object rfl (.cons hv Spaces.nil hmember (.nil false)) hw₃, hname⟩
    simp [Json.separator]
  · exact absurd hvariant (Json.fails_failNext _ _).not_took

end Variants

/-! Truth values -/

theorem agrees_bool (d : Nat) : Agrees (IsText d) Json.Reader.bool boolOf := by
  intro s v w t hs hw ht
  obtain ⟨c, u, rfl, hc, hstarts⟩ := hs.exists_startsWith
  by_cases htrue : c = 't'
  · obtain rfl := hstarts.eq_of_letter.2.1 htrue
    rw [hs.of_bool]
    exact Reads.bool true hw t
  by_cases hfalse : c = 'f'
  · obtain rfl := hstarts.eq_of_letter.2.2.1 hfalse
    rw [hs.of_bool]
    exact Reads.bool false hw t
  · have hfails : Fails Json.Reader.bool (w ++ c :: (u ++ t)) := by
      refine (Reads.valueStart hw hc _).fails ?_
      split
      · exact absurd rfl htrue
      · exact absurd rfl hfalse
      · exact Json.fails_wrongType _ _
    cases v with
    | bool b => cases b <;> contradiction
    | _ => exact hfails

theorem takesValues_bool : TakesValues (IsText 1) Json.Reader.bool boolOf := by
  intro s b t h
  obtain ⟨w, c, u, hw, rfl, -, hbool⟩ := h.of_valueStart_bind
  split at hbool
  · obtain ⟨u', rfl, hpure⟩ := hbool.of_skip_word
    obtain ⟨rfl, rfl⟩ := hpure.of_pure
    exact ⟨w, _, .bool true, hw, rfl, .isTrue, rfl⟩
  · obtain ⟨u', rfl, hpure⟩ := hbool.of_skip_word
    obtain ⟨rfl, rfl⟩ := hpure.of_pure
    exact ⟨w, _, .bool false, hw, rfl, .isFalse, rfl⟩
  · exact absurd hbool (Json.fails_wrongType _ _).not_took

end Options

end ShapeCoords
