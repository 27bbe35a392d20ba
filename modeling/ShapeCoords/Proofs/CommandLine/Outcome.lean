import ShapeCoords.CommandLine.Run
import ShapeCoords.Proofs.Json.Compact
import ShapeCoords.Proofs.Record.RoundTrip

/-!
The outcome of the command. Arguments that are refused end it with the usage; otherwise the stages of
the run follow one another, and either the first that fails is reported and nothing is listed, or
the coordinates are listed in one line and in many.
-/

namespace ShapeCoords.CommandLine

/-! The stages of a run -/

section Stages

variable {s : Surroundings} {a : Arguments} {page drawn : String} {c : Collection}

/-- The diagrams of a page are drawn, or the page is left as it is. -/
inductive Draws (s : Surroundings) (a : Arguments) (page : String) : String → Prop where
  | off (h : a.drawing = .off) : Draws s a page page
  | rendered {r : Page.Renderer} {drawn : String} (hrenderer : renderer? s a = some r)
      (h : (Page.render r page).result = .ok drawn) : Draws s a page drawn

/-- A stage of the run fails, and those before it do not. -/
inductive FailsAt (s : Surroundings) (a : Arguments) : CommandError → Prop where
  | options {e : CommandError} (h : loadOptions s a = .error e) : FailsAt s a e
  | page {o : Options} {e : CommandError} (ho : loadOptions s a = .ok o)
      (h : readPage s a = .error e) : FailsAt s a e
  | drawing {o : Options} {page : String} {r : Page.Renderer} {e : Page.RenderError}
      (ho : loadOptions s a = .ok o) (hpage : readPage s a = .ok page)
      (hrenderer : renderer? s a = some r) (h : (Page.render r page).result = .error e) :
      FailsAt s a (.render e)
  | extraction {o : Options} {page drawn : String} {e : MarkupError}
      (ho : loadOptions s a = .ok o) (hpage : readPage s a = .ok page) (hdrawn : Draws s a page drawn)
      (h : extractCoordinates o drawn = .error e) : FailsAt s a (.extract e)

/-- All stages of the run succeed, and these are the coordinates of the shapes on the drawn page. -/
inductive Lists (s : Surroundings) (a : Arguments) : Collection → Prop where
  | mk {o : Options} {page drawn : String} {c : Collection} (ho : loadOptions s a = .ok o)
      (hpage : readPage s a = .ok page) (hdrawn : Draws s a page drawn)
      (h : extractCoordinates o drawn = .ok c) : Lists s a c

theorem Draws.result_drawPage (h : Draws s a page drawn) :
    (drawPage s a page).result = .ok drawn := by
  cases h with
  | off hoff => rw [drawPage, renderer?, hoff]
  | rendered hrenderer hdrawn =>
      rw [drawPage, hrenderer]
      exact hdrawn

theorem run_result {o : Options} (ho : loadOptions s a = .ok o) (hpage : readPage s a = .ok page) :
    (run s a).result =
      ((drawPage s a page).result.mapError CommandError.render).bind fun drawn =>
        (extractCoordinates o drawn).mapError CommandError.extract := by
  rw [run, ho, hpage]
  dsimp only
  cases (drawPage s a page).result with
  | error e => rfl
  | ok drawn =>
      change _ = (extractCoordinates o drawn).mapError CommandError.extract
      rw [extractCoordinates]
      dsimp only
      cases extractMarkup o drawn <;> rfl

theorem FailsAt.result_run {e : CommandError} (h : FailsAt s a e) :
    (run s a).result = .error e := by
  cases h with
  | options h => rw [run, h]
  | page ho h => rw [run, ho, h]
  | drawing ho hpage hrenderer h =>
      rw [run_result ho hpage, drawPage, hrenderer]
      dsimp only
      rw [h]
      rfl
  | extraction ho hpage hdrawn h =>
      rw [run_result ho hpage, hdrawn.result_drawPage]
      exact congrArg (Except.mapError CommandError.extract) h

theorem Lists.result_run (h : Lists s a c) : (run s a).result = .ok c := by
  obtain ⟨ho, hpage, hdrawn, h⟩ := h
  rw [run_result ho hpage, hdrawn.result_drawPage]
  exact congrArg (Except.mapError CommandError.extract) h

theorem failsAt_or_lists (s : Surroundings) (a : Arguments) :
    (∃ e, FailsAt s a e) ∨ ∃ c, Lists s a c := by
  cases ho : loadOptions s a with
  | error e => exact .inl ⟨e, .options ho⟩
  | ok o =>
  cases hpage : readPage s a with
  | error e => exact .inl ⟨e, .page ho hpage⟩
  | ok page =>
  -- a page that is drawn and one that is left as it is go the same way from here
  have hextract {drawn : String} (hdrawn : Draws s a page drawn) :
      (∃ e, FailsAt s a e) ∨ ∃ c, Lists s a c := by
    cases h : extractCoordinates o drawn with
    | error e => exact .inl ⟨_, .extraction ho hpage hdrawn h⟩
    | ok c => exact .inr ⟨c, ho, hpage, hdrawn, h⟩
  cases hrenderer : renderer? s a with
  | none =>
      refine hextract (.off ?_)
      rw [renderer?] at hrenderer
      split at hrenderer
      · cases hrenderer
      · cases hrenderer
      · assumption
  | some r =>
      cases h : (Page.render r page).result with
      | error e => exact .inl ⟨_, .drawing ho hpage hrenderer h⟩
      | ok drawn => exact hextract (.rendered hrenderer h)

theorem exists_eq_config {e : CommandError} (h : loadOptions s a = .error e) :
    ∃ path message, e = .config path message := by
  rw [loadOptions] at h
  split at h
  · next path _ =>
    rw [loadConfig] at h
    split at h
    · next content _ =>
      cases hparse : parseConfig path content with
      | error message =>
          rw [hparse] at h
          cases h
          exact ⟨path, message, rfl⟩
      | ok o =>
          rw [hparse] at h
          cases h
    · next f _ =>
      cases h
      exact ⟨path, f.message, rfl⟩
  · cases h

theorem exists_eq_input {e : CommandError} (h : readPage s a = .error e) :
    ∃ path f, e = .input path f := by
  have hmap {r : Except SystemFault String} {path : String}
      (h : r.mapError (CommandError.input path) = .error e) : ∃ path f, e = .input path f := by
    cases r with
    | error f =>
        cases h
        exact ⟨path, f, rfl⟩
    | ok page => cases h
  rw [readPage] at h
  split at h
  · exact hmap h
  · exact hmap h

theorem FailsAt.code_eq_one {e : CommandError} (h : FailsAt s a e) : e.code = 1 := by
  cases h with
  | options h =>
      obtain ⟨path, message, rfl⟩ := exists_eq_config h
      rfl
  | page _ h =>
      obtain ⟨path, f, rfl⟩ := exists_eq_input h
      rfl
  | drawing => rfl
  | extraction => rfl

end Stages

/-! The two texts of a listing -/

/-- The texts behind the two headings, of which the first ends with its line. -/
def listedTexts (output : String) : Option (String × String) := do
  let line := output.toList.takeWhile (· != '\n')
  let rest := (output.toList.dropWhile (· != '\n')).drop 1
  let compact ← Text.dropWord "Coordinates json:  ".toList line
  let indented ← Text.dropWord "Coordinates Array: ".toList rest
  return (String.ofList compact, String.ofList indented)

theorem newline_not_mem_json (c : Collection) : '\n' ∉ c.json.toList := by
  rw [Collection.json, String.toList_ofList]
  exact Json.newline_not_mem_compact c.toJson

theorem listedTexts_listing (c : Collection) :
    listedTexts (listing c) = some (c.json, c.prettyJson ++ "\n") := by
  have hlisting : (listing c).toList = ("Coordinates json:  ".toList ++ c.json.toList) ++
      '\n' :: ("Coordinates Array: ".toList ++ (c.prettyJson ++ "\n").toList) := by
    have hheading : "\nCoordinates Array: ".toList = '\n' :: "Coordinates Array: ".toList := rfl
    have happend (x j y p : String) : (x ++ j ++ y ++ p ++ "\n").toList =
        (x.toList ++ j.toList) ++ (y.toList ++ (p ++ "\n").toList) := by
      simp only [String.toList_append, List.append_assoc]
    refine (happend _ _ _ _).trans ?_
    rw [hheading]
    rfl
  have hline : ∀ x ∈ "Coordinates json:  ".toList ++ c.json.toList, (x != '\n') = true := by
    intro x hx
    rw [bne_iff_ne]
    rintro rfl
    rcases List.mem_append.1 hx with hx | hx
    · exact absurd hx (by decide)
    · exact newline_not_mem_json c hx
  have hend (t : List Char) : Text.EndsRun (· != '\n') ('\n' :: t) := .cons rfl t
  rw [listedTexts, hlisting]
  rw [Text.takeWhile_run hline (hend _), Text.dropWhile_run hline (hend _), List.drop_one,
    List.tail_cons, Text.dropWord_append, Text.dropWord_append]
  change some (String.ofList c.json.toList, String.ofList (c.prettyJson ++ "\n").toList) = _
  rw [String.ofList_toList, String.ofList_toList]

theorem parse_json (c : Collection) : Collection.parse c.json = .ok c.settled := by
  rw [Collection.json, Json.compact_eq_spaced 0]
  exact Collection.parse_spaced Json.dense c

/-- The line break at the end of a listing is white space behind the text. -/
theorem parse_prettyJson (c : Collection) :
    Collection.parse (c.prettyJson ++ "\n") = .ok c.settled := by
  have htext : c.prettyJson ++ "\n" = String.ofList (c.toJson.spaced Json.indented 0 ++ ['\n']) := by
    rw [Collection.prettyJson, Json.pretty, Json.prettyAt_eq_spaced 0, String.ofList_append]
  rw [htext]
  exact c.parse_spaced_append Json.indented fun x hx => by rw [List.mem_singleton.1 hx]; rfl

/-! The whole -/

theorem execute_of_refused {words : List String} (h : Arguments.parse words = none)
    (s : Surroundings) : execute s words = ⟨2, "", usage ++ "\n"⟩ := by
  rw [execute, parseArguments, h]
  rfl

theorem execute_of_accepted {words : List String} {a : Arguments}
    (h : Arguments.parse words = some a) (s : Surroundings) :
    execute s words = (run s a).outcome s.log := by
  rw [execute, parseArguments, h]

section Accepted

variable {s : Surroundings} {words : List String} {a : Arguments}

theorem execute_of_failsAt {e : CommandError} (h : Arguments.parse words = some a)
    (hfails : FailsAt s a e) :
    execute s words = ⟨1, "", s.log.text (run s a).events ++ (e.message ++ "\n")⟩ := by
  rw [execute_of_accepted h, Run.outcome, hfails.result_run]
  dsimp only
  rw [hfails.code_eq_one]

theorem execute_of_lists {c : Collection} (h : Arguments.parse words = some a)
    (hlists : Lists s a c) :
    execute s words = ⟨0, listing c, s.log.text (run s a).events⟩ := by
  rw [execute_of_accepted h, Run.outcome, hlists.result_run]

end Accepted

/-- The outcome of the command for any surroundings and arguments. The code is 2, with the usage,
for arguments that are refused, and nothing is logged then. For others it is 1 if a stage fails, with
the message of the first such stage behind the log, and 0 otherwise. Only then is anything listed,
and the list is two texts of the same collection, which can be taken apart at the first line break
and read back. -/
theorem execute_outcome (s : Surroundings) (words : List String) :
    ((execute s words).code = 2 ↔ Arguments.parse words = none) ∧
    (Arguments.parse words = none → execute s words = ⟨2, "", usage ++ "\n"⟩) ∧
    ∀ a, Arguments.parse words = some a →
      ((execute s words).code = 1 ↔ ∃ e, FailsAt s a e) ∧
      (∀ e, FailsAt s a e →
        execute s words = ⟨1, "", s.log.text (run s a).events ++ (e.message ++ "\n")⟩) ∧
      ((execute s words).code = 0 ↔ ¬ ∃ e, FailsAt s a e) ∧
      ((execute s words).code = 0 ↔ ∃ c, Lists s a c) ∧
      ∀ c, Lists s a c →
        execute s words = ⟨0, "Coordinates json:  " ++ c.json ++ "\nCoordinates Array: " ++
          c.prettyJson ++ "\n", s.log.text (run s a).events⟩ ∧
        '\n' ∉ c.json.toList ∧
        listedTexts (execute s words).output = some (c.json, c.prettyJson ++ "\n") ∧
        Collection.parse c.json = .ok c.settled ∧
        Collection.parse (c.prettyJson ++ "\n") = .ok c.settled := by
  refine ⟨⟨fun hcode => ?_, fun h => ?_⟩, fun h => execute_of_refused h s, fun a h => ?_⟩
  · cases h : Arguments.parse words with
    | none => rfl
    | some a =>
        rcases failsAt_or_lists s a with ⟨e, hfails⟩ | ⟨c, hlists⟩
        · rw [execute_of_failsAt h hfails] at hcode
          cases hcode
        · rw [execute_of_lists h hlists] at hcode
          cases hcode
  · rw [execute_of_refused h]
  -- a run fails or lists, and the code tells which
  have hfails {e : CommandError} (he : FailsAt s a e) := execute_of_failsAt h he
  have hlists {c : Collection} (hc : Lists s a c) := execute_of_lists h hc
  have hcode := failsAt_or_lists s a
  refine ⟨⟨fun hone => ?_, fun ⟨e, he⟩ => by rw [hfails he]⟩, fun e => hfails,
    ⟨fun hzero ⟨e, he⟩ => ?_, fun hnone => ?_⟩, ⟨fun hzero => ?_, fun ⟨c, hc⟩ => by rw [hlists hc]⟩,
    fun c hc => ?_⟩
  · refine hcode.resolve_right fun ⟨c, hc⟩ => ?_
    rw [hlists hc] at hone
    cases hone
  · rw [hfails he] at hzero
    cases hzero
  · obtain ⟨c, hc⟩ := hcode.resolve_left hnone
    rw [hlists hc]
  · refine hcode.resolve_left fun ⟨e, he⟩ => ?_
    rw [hfails he] at hzero
    cases hzero
  · rw [hlists hc]
    exact ⟨rfl, newline_not_mem_json c, listedTexts_listing c, parse_json c, parse_prettyJson c⟩

end ShapeCoords.CommandLine
