import TileTriggers.Script.Listing
import TileTriggers.Proofs.Script.Diagnosis
import TileTriggers.Proofs.Script.Layout
import TileTriggers.Proofs.Script.RoundTrip
import TileTriggers.Proofs.Text.Lines

/-!
# The Lines of a Listing

What is on a line is not touched by what ends it. Blanks behind a script are not part of
it, and a carriage return is a blank. So it makes no difference to the outcome of a line
whether the carriage return at its end is counted to the line or to its ending.

A script without a broken rule has a canonical line, and a listing of that line alone
holds the script.

## Main definitions

* `Layout.front`: All of a line up to its last parenthesis.
* `Layout.withTrail`: The same pieces with other blanks at the end.

## Theorems

* `Shape.ofLine?_append_blanks`, `Script.parse_append_blanks`: Blanks at the end of a line.
* `Script.parse_dropReturn`: The outcome of a line without its carriage return.
* `LineReport.texts_mapIdx_ofLine`, `LineReport.mapIdx_ofLine_inj`: Reports hold the lines.
* `LineReport.ofLine_render`: A canonical line holds its script.
* `compileListing_text`: A listing of a single canonical line.
-/

namespace TileTriggers

namespace Layout

variable (l : Layout)

/-- All of a line in front of its last parenthesis. -/
def front : List Char :=
  l.lead ++ (l.ifWord ++ l.condition.text (l.gap ++ (l.thenWord ++
    (l.action.gap ++ (l.action.word ++ (l.action.space ++ '(' :: l.action.args))))))

theorem text_eq_front : l.text = l.front ++ ')' :: l.trail := by
  simp only [text, front, OperatorCall.text, List.append_assoc, List.cons_append]

/-- The same pieces with other blanks at the end. -/
def withTrail {trail : List Char} (h : ∀ c ∈ trail, Text.isBlank c) : Layout :=
  { l with trail := trail, trail_blank := h }

theorem text_withTrail {trail : List Char} (h : ∀ c ∈ trail, Text.isBlank c) :
    (l.withTrail h).text = l.front ++ ')' :: trail :=
  (l.withTrail h).text_eq_front

end Layout

/-- Blanks at the end of a text stand behind its last parenthesis. -/
theorem exists_of_append_blanks {line blanks front trail : List Char}
    (h : ∀ c ∈ blanks, Text.isBlank c) (heq : line ++ blanks = front ++ ')' :: trail) :
    ∃ inner, line = front ++ ')' :: inner ∧ trail = inner ++ blanks := by
  -- A parenthesis is no blank, so the last one stands in front of them.
  have hclosing : ')' ∉ blanks := fun hmem => absurd (h ')' hmem) (by decide)
  rcases List.append_eq_append_iff.mp heq with ⟨some, -, hblanks⟩ | ⟨some, hline, htrail⟩
  · rw [hblanks] at hclosing
    exact absurd (List.mem_append_right some List.mem_cons_self) hclosing
  · cases some with
    | nil =>
        rw [List.nil_append] at htrail
        rw [← htrail] at hclosing
        exact absurd List.mem_cons_self hclosing
    | cons c inner =>
        rcases List.cons.inj htrail with ⟨rfl, hinner⟩
        exact ⟨inner, hline, hinner⟩

/-- Blanks at the end of a line make no difference to its cut. -/
theorem Shape.ofLine?_append_blanks (line : List Char) {blanks : List Char}
    (h : ∀ c ∈ blanks, Text.isBlank c) : ofLine? (line ++ blanks) = ofLine? line := by
  refine Option.ext fun s => ?_
  rw [ofLine?_eq_some_iff, ofLine?_eq_some_iff]
  constructor
  · rintro ⟨l, hl, rfl⟩
    -- A layout of the longer line ends in blanks, and without them it is one of the line.
    rw [l.text_eq_front] at hl
    rcases exists_of_append_blanks h hl.symm with ⟨inner, rfl, htrail⟩
    have hinner : ∀ c ∈ inner, Text.isBlank c := by
      intro c hc
      exact l.trail_blank c (htrail ▸ List.mem_append_left _ hc)
    exact ⟨l.withTrail hinner, l.text_withTrail hinner, rfl⟩
  · rintro ⟨l, rfl, rfl⟩
    have htrail : ∀ c ∈ l.trail ++ blanks, Text.isBlank c :=
      List.forall_mem_append.mpr ⟨l.trail_blank, h⟩
    refine ⟨l.withTrail htrail, ?_, rfl⟩
    rw [l.text_withTrail, l.text_eq_front, List.append_assoc, List.cons_append]

namespace Script

theorem parse_append_blanks (line : List Char) {blanks : List Char}
    (h : ∀ c ∈ blanks, Text.isBlank c) :
    parse (String.ofList (line ++ blanks)) = parse (String.ofList line) := by
  rw [parse, parse, LineParts.ofLine, LineParts.ofLine, String.toList_ofList,
    String.toList_ofList, Shape.ofLine?_append_blanks line h]

/-- A line has the same outcome with and without the carriage return at its end. -/
theorem parse_dropReturn (line : List Char) :
    parse (String.ofList (Text.dropReturn line)) = parse (String.ofList line) := by
  rcases Text.dropReturn_cases line with hsame | hreturn
  · rw [hsame]
  · -- A carriage return is a blank like any other.
    have hblank : ∀ c ∈ ['\r'], Text.isBlank c := List.forall_mem_singleton.mpr rfl
    conv_rhs => rw [hreturn, parse_append_blanks _ hblank]

theorem parse_nil : parse "" = .error .grammarMismatch := by
  refine parse_of_no_layout ?_
  rintro ⟨l, hl⟩
  rw [String.toList_empty, l.text_eq_front] at hl
  exact absurd hl (List.append_ne_nil_of_right_ne_nil _ (List.cons_ne_nil _ _))

theorem newline_notMem_renderCall {α : Type} [Vocabulary α] [Vocabulary.Faithful α]
    [Vocabulary.Spelled α] (op : α) {fields : List FieldValue}
    (h : ∀ v ∈ fields, v.violation? = none) :
    '\n' ∉ renderCall (Vocabulary.keyword op) fields := by
  intro hmem
  rw [renderCall, List.mem_append, List.mem_cons, List.mem_append, List.mem_singleton] at hmem
  -- Only the arguments could hold a line break, and they do not.
  rcases hmem with hkeyword | hopening | hjoined | hclosing
  · exact absurd (Vocabulary.isNameChar_of_mem_keyword hkeyword) (by decide)
  · exact absurd hopening (by decide)
  · exact notMem_joined (by decide) (by decide)
      (fun v hv => FieldValue.newline_notMem_render (h v hv)) hjoined
  · exact absurd hclosing (by decide)

section Valid

variable {s : Script}

/-- The canonical line is one line. -/
theorem newline_notMem_render (h : s.Valid) : '\n' ∉ s.render := by
  rcases violation?_of_valid h with ⟨hcondition, haction⟩
  simp only [render, List.mem_append, not_or]
  exact ⟨⟨⟨by decide, newline_notMem_renderCall _ hcondition⟩, by decide⟩,
    newline_notMem_renderCall _ haction⟩

theorem render_ne_nil : s.render ≠ [] := by
  simp [render]

end Valid

end Script

namespace LineReport

/-- What is told about numbered lines, when the numbers make no difference. -/
theorem map_mapIdx_of_forall {α β γ : Type} {line : Nat → α → β} {get : β → γ} {find : α → γ}
    (h : ∀ i a, get (line i a) = find a) (as : List α) :
    (as.mapIdx line).map get = as.map find := by
  refine List.ext_getElem? fun i => ?_
  rw [List.getElem?_map, List.getElem?_mapIdx, List.getElem?_map, Option.map_map]
  exact congrArg (Option.map · as[i]?) (funext (h i))

/-- The report of a line holds the line. -/
theorem texts_mapIdx_ofLine (lines : List (List Char)) :
    (lines.mapIdx ofLine).map (fun report => report.text.toList) = lines := by
  refine (map_mapIdx_of_forall ?_ lines).trans (List.map_id' lines)
  exact fun _ _ => String.toList_ofList

theorem results_mapIdx_ofLine (lines : List (List Char)) :
    (lines.mapIdx ofLine).map result =
      lines.map fun line => Script.parse (String.ofList line) := by
  refine map_mapIdx_of_forall ?_ lines
  exact fun _ _ => rfl

theorem mapIdx_ofLine_inj {lines lines' : List (List Char)} :
    lines.mapIdx ofLine = lines'.mapIdx ofLine ↔ lines = lines' := by
  constructor
  · intro h
    rw [← texts_mapIdx_ofLine lines, h, texts_mapIdx_ofLine]
  · rintro rfl
    rfl

/-- A canonical line holds its script. -/
theorem ofLine_render {s : Script} (h : s.Valid) (index : Nat) :
    ofLine index s.render = ⟨index + 1, s.text, .ok s⟩ := by
  change LineReport.mk (index + 1) s.text (Script.parse s.text) = _
  rw [Script.parse_text_of_valid h]

end LineReport

/-- A listing of one canonical line holds the script of that line. -/
theorem compileListing_text {s : Script} (h : s.Valid) :
    compileListing s.text = [⟨1, s.text, .ok s⟩] := by
  have hnil : ∀ line ∈ ([] : List (List Char)), '\n' ∉ line := by simp
  have hlines := Text.lines_intercalate hnil (Script.newline_notMem_render h)
  rw [List.nil_append, List.intercalate_singleton, List.map_nil, List.nil_append,
    if_neg Script.render_ne_nil] at hlines
  rw [compileListing, Script.text, String.toList_ofList, hlines, List.mapIdx_singleton,
    LineReport.ofLine_render h]
  rfl

end TileTriggers
