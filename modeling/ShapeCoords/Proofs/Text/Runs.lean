/-!
Runs of characters at the front of a text, which end where a character of another kind follows.
-/

namespace ShapeCoords.Text

variable {p : Char → Bool} {s t : List Char}

/-- No run of such characters goes on in `t`. -/
def EndsRun (p : Char → Bool) (t : List Char) : Prop :=
  ∀ c ∈ t.head?, p c = false

theorem EndsRun.nil : EndsRun p [] :=
  fun _ h => nomatch h

theorem EndsRun.cons {c : Char} (hc : p c = false) (t : List Char) : EndsRun p (c :: t) := by
  intro d hd
  cases hd
  exact hc

theorem EndsRun.append (hs : EndsRun p s) (ht : EndsRun p t) : EndsRun p (s ++ t) := by
  cases s with
  | nil => exact ht
  | cons c s => exact .cons (hs c rfl) _

theorem endsRun_dropWhile (p : Char → Bool) (s : List Char) : EndsRun p (s.dropWhile p) := by
  intro c hc
  have hhead := List.head?_dropWhile_not p s
  rw [Option.mem_def.1 hc] at hhead
  exact hhead

theorem takeWhile_run (hs : ∀ c ∈ s, p c = true) (ht : EndsRun p t) :
    (s ++ t).takeWhile p = s := by
  rw [List.takeWhile_append_of_pos hs]
  cases t with
  | nil => rw [List.takeWhile_nil, List.append_nil]
  | cons c t => rw [List.takeWhile_cons, ht c rfl, if_neg Bool.false_ne_true, List.append_nil]

theorem dropWhile_run (hs : ∀ c ∈ s, p c = true) (ht : EndsRun p t) :
    (s ++ t).dropWhile p = t := by
  rw [List.dropWhile_append_of_pos hs]
  cases t with
  | nil => rfl
  | cons c t => rw [List.dropWhile_cons, ht c rfl, if_neg Bool.false_ne_true]

end ShapeCoords.Text
