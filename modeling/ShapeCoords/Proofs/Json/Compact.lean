import ShapeCoords.Proofs.Json.NumberText

/-!
The compact text of a value fills one line: strings escape their control characters, and nothing
else has any.
-/

namespace ShapeCoords.Json

/-- The text has none of the control characters below U+0020, to which line breaks belong. -/
def NoControls (s : List Char) : Prop :=
  ∀ c ∈ s, 0x20 ≤ c.toNat

variable {s t : List Char}

instance : Decidable (NoControls s) :=
  List.decidableBAll _ s

theorem NoControls.append (hs : NoControls s) (ht : NoControls t) : NoControls (s ++ t) :=
  List.forall_mem_append.2 ⟨hs, ht⟩

theorem NoControls.cons {c : Char} (hc : 0x20 ≤ c.toNat) (hs : NoControls s) :
    NoControls (c :: s) :=
  List.forall_mem_cons.2 ⟨hc, hs⟩

/-! Scalars -/

theorem noControls_of_isNumeralChar (h : ∀ c ∈ s, Number.IsNumeralChar c) : NoControls s := by
  intro c hc
  rcases h c hc with hdigit | rfl | rfl | rfl | rfl
  · have := ((Number.isAsciiDigit_iff c).1 hdigit).1
    omega
  all_goals decide

theorem noControls_numberText (v : Float) : NoControls (numberText v) := by
  have hnull : NoControls "null".toList := by decide
  cases hv : Number.value v with
  | finite negative m q =>
      exact noControls_of_isNumeralChar fun _ => isNumeralChar_of_mem_numberText hv
  | nan =>
      rw [numberText, hv]
      exact hnull
  | infinite negative =>
      rw [numberText, hv]
      exact hnull

theorem hexDigitChar_not_control : ∀ n < 16, 0x20 ≤ (Text.hexDigitChar n).toNat := by
  decide

theorem noControls_escape (c : Char) : NoControls (escape c) := by
  rw [escape]
  split
  · decide
  split
  · decide
  split
  · decide
  split
  · decide
  split
  · decide
  split
  · decide
  split
  · decide
  split
  · next hcontrol =>
    refine NoControls.append (t := [_, _]) (s := ['\\', 'u', '0', '0']) (by decide) ?_
    refine .cons (hexDigitChar_not_control _ (by omega)) (.cons ?_ (by decide))
    exact hexDigitChar_not_control _ (by omega)
  · next hplain => exact .cons (by omega) (by decide)

theorem noControls_quoted (s : String) : NoControls (quoted s) := by
  refine .append (.cons (by decide) fun c hc => ?_) (by decide)
  obtain ⟨d, -, hd⟩ := List.mem_flatMap.1 hc
  exact noControls_escape d c hd

/-! Values -/

mutual

theorem noControls_compact : (v : Json) → NoControls v.compact
  | null => by decide
  | bool true => by decide
  | bool false => by decide
  | int _ => noControls_of_isNumeralChar fun _ => Number.isNumeralChar_of_mem_intDigits
  | float v => noControls_numberText v
  | string s => noControls_quoted s
  | array items =>
    .append (.cons (by decide) (noControls_compactItems items)) (by decide)
  | object members =>
    .append (.cons (by decide) (noControls_compactMembers members)) (by decide)

theorem noControls_compactItems : (vs : List Json) → NoControls (compactItems vs)
  | [] => by decide
  | [v] => noControls_compact v
  | v :: w :: vs =>
    .append (noControls_compact v) (.cons (by decide) (noControls_compactItems (w :: vs)))

theorem noControls_compactMembers : (ms : List (String × Json)) → NoControls (compactMembers ms)
  | [] => by decide
  | [(name, v)] =>
    .append (noControls_quoted name) (.cons (by decide) (noControls_compact v))
  | (name, v) :: m :: ms =>
    .append (.append (noControls_quoted name) (.cons (by decide) (noControls_compact v)))
      (.cons (by decide) (noControls_compactMembers (m :: ms)))

end

theorem newline_not_mem_compact (v : Json) : '\n' ∉ v.compact :=
  fun h => absurd (noControls_compact v _ h) (by decide)

end ShapeCoords.Json
