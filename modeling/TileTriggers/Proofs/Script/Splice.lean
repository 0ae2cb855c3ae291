import TileTriggers.Proofs.Script.Listing

/-!
# One Line among Others

The lines of a listing have nothing to do with each other. There is a report for each of
them, also for those that are blank or hold no script. What is reported of a line is what
is reported of it alone, but for its number, and the number is how many lines there are up
to it, whatever they hold. So a listing can be taken apart behind any line feed and put
together again, and a line can be exchanged without a trace on the other lines.

This rests on two things. A line is read to its end and no further, and where it ends does
not depend on what follows its line feed. The one thing to mind is the line that is put
in. If it ended in a carriage return, that would become part of the ending, and if nothing
were in it, it would be no line at the end of a text that is not finished.

Lines are found by their places and not by their reports. A place is a way to write the
listing down with one of its lines set apart, and it can be told from the text alone how
many places there are. A listing that lost a report would still have the place.

## Main definitions

* `LineReport.renumbered`: A report of the same line with other lines in front.
* `LinePlace`: A line of a listing in its place.
* `LinePlace.put`: The listing with another line in that place.
* `CompiledByLine`: The reports of a listing, place by place.

## Theorems

* `compileListing_append`: A listing in two parts.
* `length_compileListing`: There are as many reports as lines.
* `LinePlace.compileListing_eq`, `LinePlace.compileListing_put`: A line in its place, and
  another line in the same place.
* `exists_linePlace`: Every line has its place.
* `compileListing_by_line`: The reports of every listing.
-/

namespace TileTriggers

/-- The report of the same line when some more lines stand in front of it. -/
def LineReport.renumbered (before : Nat) (report : LineReport) : LineReport :=
  { report with number := report.number + before }

theorem LineReport.ofLine_add (index before : Nat) (line : List Char) :
    ofLine (index + before) line = (ofLine index line).renumbered before := by
  rw [ofLine, ofLine, renumbered, mk.injEq]
  exact ⟨Nat.add_right_comm index before 1, rfl, rfl⟩

theorem LineReport.renumbered_renumbered (n : Nat) (report : LineReport) :
    (report.renumbered 1).renumbered n = report.renumbered (n + 1) := by
  simp only [renumbered, Nat.add_assoc, Nat.add_comm 1 n]

/-- Every line has its report. -/
theorem length_compileListing (listing : String) :
    (compileListing listing).length = Text.lineCount listing.toList := by
  rw [compileListing, List.length_mapIdx, Text.length_lines]

/-- Lines behind others are numbered on. -/
theorem mapIdx_ofLine_add (before : Nat) (lines : List (List Char)) :
    lines.mapIdx (fun i => LineReport.ofLine (i + before)) =
      (lines.mapIdx LineReport.ofLine).map (LineReport.renumbered before) := by
  refine List.ext_getElem? fun i => ?_
  rw [List.getElem?_map, List.getElem?_mapIdx, List.getElem?_mapIdx, Option.map_map]
  exact congrArg (Option.map · lines[i]?) (funext (LineReport.ofLine_add i before))

/-- A listing in two parts, of which the first is finished. -/
theorem compileListing_append {before : String} (h : Text.Finished before.toList)
    (behind : String) :
    compileListing (before ++ behind) = compileListing before ++
      (compileListing behind).map (LineReport.renumbered (compileListing before).length) := by
  -- The lines of the second part keep their order, so all that changes are the numbers.
  rw [length_compileListing, ← Text.length_lines, compileListing, String.toList_append,
    Text.lines_append h, List.mapIdx_append, mapIdx_ofLine_add]
  rfl

/-- The first line of a listing, and the rest numbered on. -/
theorem compileListing_line {line ending behind : String} (hline : '\n' ∉ line.toList)
    (hends : Text.EndsLine line.toList ending.toList behind.toList) :
    compileListing (line ++ (ending ++ behind)) =
      ⟨1, line, Script.parse line⟩ :: (compileListing behind).map (LineReport.renumbered 1) := by
  have hfirst : LineReport.ofLine 0 line.toList = ⟨1, line, Script.parse line⟩ := by
    rw [LineReport.ofLine, String.ofList_toList]
  rw [compileListing, String.toList_append, String.toList_append,
    Text.lines_of_endsLine hends hline, List.mapIdx_cons, hfirst, mapIdx_ofLine_add]
  rfl

/-- A line with something on it that does not end in a carriage return can have any
    ending. -/
theorem Text.EndsLine.of_line {line line' ending rest : List Char}
    (h : EndsLine line ending rest) (hne : line' ≠ []) (hreturn : line'.getLast? ≠ some '\r') :
    EndsLine line' ending rest := by
  -- Each ending asks for one thing of its line, and the other line has them all.
  cases h with
  | feed => exact .feed hreturn
  | returnFeed => exact .returnFeed
  | unfinished => exact .unfinished hne

/-- A report tells the number of a line, the line, and what is read from it alone. -/
theorem report_of_getElem? {listing : String} {i : Nat} {report : LineReport}
    (h : (compileListing listing)[i]? = some report) :
    report.number = i + 1 ∧ '\n' ∉ report.text.toList ∧
      report.result = Script.parse report.text := by
  rw [compileListing, List.getElem?_mapIdx, Option.map_eq_some_iff] at h
  rcases h with ⟨line, hline, rfl⟩
  refine ⟨rfl, ?_, rfl⟩
  rw [LineReport.ofLine, String.toList_ofList]
  exact Text.newline_notMem_of_mem_lines (List.mem_of_getElem? hline)

/-! ## Places -/

/-- A line of a listing in its place: what stands before it is finished, and it has its
    ending in front of what stands behind it. -/
structure LinePlace (listing : String) where
  before : String
  line : String
  ending : String
  behind : String
  text : listing = before ++ (line ++ (ending ++ behind))
  before_finished : Text.Finished before.toList
  line_newline : '\n' ∉ line.toList
  ends : Text.EndsLine line.toList ending.toList behind.toList

namespace LinePlace

variable {listing : String}

/-- How many lines stand before the place. -/
def index (place : LinePlace listing) : Nat :=
  Text.lineCount place.before.toList

/-- The listing with another line in the place. -/
def put (place : LinePlace listing) (line : String) : String :=
  place.before ++ (line ++ (place.ending ++ place.behind))

/-- The place of the other line, which has something on it and does not end in a carriage
    return. -/
def other (place : LinePlace listing) {line : String} (hne : line ≠ "")
    (hnewline : '\n' ∉ line.toList) (hreturn : line.toList.getLast? ≠ some '\r') :
    LinePlace (place.put line) where
  before := place.before
  line := line
  ending := place.ending
  behind := place.behind
  text := rfl
  before_finished := place.before_finished
  line_newline := hnewline
  ends := place.ends.of_line (by rwa [ne_eq, String.toList_eq_nil_iff]) hreturn

/-- The reports of a listing around one of its lines. -/
theorem compileListing_eq (place : LinePlace listing) :
    compileListing listing = compileListing place.before ++
      ⟨place.index + 1, place.line, Script.parse place.line⟩ ::
        (compileListing place.behind).map (LineReport.renumbered (place.index + 1)) := by
  conv_lhs => rw [place.text]
  -- The line is the first of a listing, and that listing is the second part of the whole.
  rw [compileListing_append place.before_finished,
    compileListing_line place.line_newline place.ends, length_compileListing, List.map_cons,
    List.map_map]
  have hrest : LineReport.renumbered place.index ∘ LineReport.renumbered 1 =
      LineReport.renumbered (place.index + 1) :=
    funext (LineReport.renumbered_renumbered place.index)
  rw [← index, hrest]
  simp only [LineReport.renumbered, Nat.add_comm 1]

/-- Another line in the same place changes the report of that place. -/
theorem compileListing_put (place : LinePlace listing) {line : String} (hne : line ≠ "")
    (hnewline : '\n' ∉ line.toList) (hreturn : line.toList.getLast? ≠ some '\r') :
    compileListing (place.put line) =
      (compileListing listing).set place.index ⟨place.index + 1, line, Script.parse line⟩ := by
  have hother := (place.other hne hnewline hreturn).compileListing_eq
  -- There are as many reports before the place as lines, so the place is where it should be.
  have hindex : (compileListing place.before).length = place.index :=
    length_compileListing place.before
  rw [place.compileListing_eq, List.set_append_right _ _ hindex.le, hindex, Nat.sub_self,
    List.set_cons_zero]
  exact hother

end LinePlace

/-- Every line of a listing has a place. -/
theorem exists_linePlace {listing : String} {i : Nat} (h : i < Text.lineCount listing.toList) :
    ∃ place : LinePlace listing, place.index = i := by
  rw [← Text.length_lines] at h
  rcases Text.exists_endsLine (List.getElem?_eq_getElem h) with
    ⟨before, ending, behind, htext, hbefore, hi, hends⟩
  have hnewline := Text.newline_notMem_of_mem_lines (List.getElem_mem h)
  -- The pieces are lists of characters, and a place is made of texts.
  refine ⟨⟨.ofList before, .ofList (Text.lines listing.toList)[i], .ofList ending, .ofList behind,
    ?_, ?_, ?_, ?_⟩, ?_⟩
  · rw [← String.toList_inj]
    simp only [String.toList_append, String.toList_ofList]
    exact htext
  · rwa [String.toList_ofList]
  · rwa [String.toList_ofList]
  · rwa [String.toList_ofList, String.toList_ofList, String.toList_ofList]
  · rw [LinePlace.index, String.toList_ofList, ← Text.length_lines, hi]

/-! ## The Reports of a Listing -/

/-- The reports of a listing, place by place. -/
structure CompiledByLine (listing : String) : Prop where
  /-- A listing that is finished can be gone on with, and its reports stay as they are. -/
  append : listing = "" ∨ listing.toList.getLast? = some '\n' → ∀ behind,
    compileListing (listing ++ behind) = compileListing listing ++
      (compileListing behind).map (LineReport.renumbered (compileListing listing).length)
  /-- There is a report for each line. -/
  length : (compileListing listing).length = Text.lineCount listing.toList
  /-- The reports are numbered without a gap, and each is of a single line and tells what is
      read from that line alone. -/
  report : ∀ i report, (compileListing listing)[i]? = some report →
    report.number = i + 1 ∧ '\n' ∉ report.text.toList ∧ report.result = Script.parse report.text
  /-- Each line has a place. -/
  place : ∀ i < Text.lineCount listing.toList, ∃ place : LinePlace listing, place.index = i
  /-- The report of each place is that of its line, and those around it do not look at it. -/
  around : ∀ place : LinePlace listing, compileListing listing =
    compileListing place.before ++
      ⟨place.index + 1, place.line, Script.parse place.line⟩ ::
        (compileListing place.behind).map (LineReport.renumbered (place.index + 1))
  /-- Another line in the same place changes no other report. -/
  put : ∀ (place : LinePlace listing) (line : String), line ≠ "" → '\n' ∉ line.toList →
    line.toList.getLast? ≠ some '\r' → compileListing (place.put line) =
      (compileListing listing).set place.index ⟨place.index + 1, line, Script.parse line⟩

/-- The lines of every listing are compiled one by one. A listing in two parts, of which the
    first is finished, has the reports of both, those of the second numbered on. There are as
    many reports as lines, each with its place, and where a line stands another can be put,
    as long as something is on it and it does not end in a carriage return, without a change
    to any other report. -/
theorem compileListing_by_line (listing : String) : CompiledByLine listing where
  append h := by
    refine compileListing_append ?_
    rwa [Text.Finished, String.toList_eq_nil_iff]
  length := length_compileListing listing
  report _ _ h := report_of_getElem? h
  place _ h := exists_linePlace h
  around place := place.compileListing_eq
  put place _ hne hnewline hreturn := place.compileListing_put hne hnewline hreturn

/-- A listing of four lines: a script with both characters of an ending, a blank line, one
    that is no script, and a script on a line that is not finished. -/
def mixedListing : String :=
  "IF TIME_ELAPSED(1) THEN WIN()\r\n\nNOTHING\nIF TIME_ELAPSED(2) THEN WIN()"

/-- The place of the blank line in it. -/
def blankPlace : LinePlace mixedListing where
  before := "IF TIME_ELAPSED(1) THEN WIN()\r\n"
  line := ""
  ending := "\n"
  behind := "NOTHING\nIF TIME_ELAPSED(2) THEN WIN()"
  text := rfl
  before_finished := Or.inr (by decide +kernel)
  line_newline := by decide +kernel
  ends := .feed (by decide +kernel)

/-- All four lines of this listing are reported. The blank one and the one behind it are no
    scripts, and the report of the one behind is still the third when a script is put in the
    place of the blank one. -/
theorem compileListing_by_line_of_mixed_listing :
    (compileListing mixedListing).length = 4 ∧
      (compileListing mixedListing)[1]? = some ⟨2, "", .error .grammarMismatch⟩ ∧
      (compileListing mixedListing)[2]? = some ⟨3, "NOTHING", .error .grammarMismatch⟩ ∧
      (compileListing (blankPlace.put "IF TIME_ELAPSED(3) THEN WIN()")).length = 4 ∧
      (compileListing (blankPlace.put "IF TIME_ELAPSED(3) THEN WIN()"))[2]? =
        some ⟨3, "NOTHING", .error .grammarMismatch⟩ := by
  have h := compileListing_by_line mixedListing
  have hput := h.put blankPlace "IF TIME_ELAPSED(3) THEN WIN()" (by decide) (by decide +kernel)
    (by decide +kernel)
  have hlength : (compileListing mixedListing).length = 4 := h.length.trans (by decide +kernel)
  have hblank : (compileListing mixedListing)[1]? = some ⟨2, "", .error .grammarMismatch⟩ := by
    decide +kernel
  have hthird : (compileListing mixedListing)[2]? =
      some ⟨3, "NOTHING", .error .grammarMismatch⟩ := by
    decide +kernel
  -- The place of the blank line is the second, so the third report is not touched.
  have hindex : blankPlace.index = 1 := by decide +kernel
  refine ⟨hlength, hblank, hthird, ?_, ?_⟩
  · rw [hput, List.length_set, hlength]
  · rw [hput, hindex, List.getElem?_set_ne (by decide), hthird]

end TileTriggers
