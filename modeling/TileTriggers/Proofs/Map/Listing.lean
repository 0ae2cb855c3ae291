import TileTriggers.Proofs.Map.Normal
import TileTriggers.Proofs.Map.Paint
import TileTriggers.Proofs.Map.Resize
import TileTriggers.Proofs.Script.Listing

/-!
# The Listing of a Map

An editor shows the lines of a map as one text and stores what its author leaves of it.
An author who changes nothing should change nothing on the map, and does not, although
the text need not lead back to the same lines. Joining lines and cutting a text are at
odds about the endings: an empty line at the end is lost, and so is the carriage return
at the end of every line before the last. Neither holds a script, and a script is read
with or without the carriage return behind it.

For this a line has to be what its text says, whatever its history. Lines are compiled
from a listing or stand for the scripts of a file, and a script stands on a line with its
canonical text, which is one line and compiles to that script. No other edit touches the
lines.

## Main definitions

* `Document.Listed`: A document whose lines are what their texts say.
* `Document.relisted`: The document with its own listing stored in it.
* `withoutEmptyEnd`: Lines without an empty one at the end.

## Theorems

* `Document.lines_after`: What one edit does to the lines.
* `Document.Reachable.listed`: The lines of every document.
* `Document.lines_relisted`: The lines of the listing.
* `Document.Reachable.relist`: Storing a listing that was not changed.
-/

namespace TileTriggers

/-- Lines without the last one if that is empty. -/
def withoutEmptyEnd (lines : List LineReport) : List LineReport :=
  if lines.getLast?.map LineReport.text = some "" then lines.dropLast else lines

namespace Document

/-- A document whose lines are what their texts say: they are numbered in order, each is a
    single line, and each was compiled from its text. -/
def Listed (d : Document) : Prop :=
  ∃ texts : List (List Char), (∀ text ∈ texts, '\n' ∉ text) ∧
    d.lines = texts.mapIdx LineReport.ofLine

/-- The document with its own listing stored in it. -/
def relisted (d : Document) : Document :=
  (d.setScriptText d.scriptText).value

variable {d : Document}

/-! ## The Lines of Every Document -/

/-- An edit leaves the lines as they are or compiles them all from a listing. -/
theorem lines_after (hd : d.Sound) (e : Edit) :
    (d.after e).lines = d.lines ∨ ∃ listing, (d.after e).lines = compileListing listing := by
  -- Painting and resizing do not touch the lines, and a listing replaces all of them.
  cases e with
  | place x y kind =>
      refine Or.inl ?_
      rw [after, apply]
      cases hplace : d.place x y kind with
      | error error => rfl
      | ok painted =>
          rcases of_place_eq_ok hplace with ⟨rfl, t, hget, hfree⟩
          exact (paintEffect_paint hd hget hfree).1.lines
  | resize width height =>
      refine Or.inl ?_
      cases hresize : d.resize width height with
      | error error => rw [after_resize_of_error hresize]
      | ok resized =>
          rw [after_resize_of_ok hresize]
          exact (resizeEffect_of_ok hd hresize).lines
  | setScriptText listing => exact Or.inr ⟨listing, lines_setScriptText d listing⟩

theorem listed_of_compileListing {listing : String} (h : d.lines = compileListing listing) :
    d.Listed :=
  ⟨Text.lines listing.toList, fun _ => Text.newline_notMem_of_mem_lines, h⟩

/-- The scripts of a file stand on lines that compile to them. -/
theorem listed_load {data : List UInt8} {loaded : Logged Document} (h : load data = .ok loaded) :
    loaded.value.Listed := by
  -- What a line says does not depend on the bytes that its script was read from.
  have hvalid := (sound_load h).scripts
  refine ⟨loaded.value.scripts.map Script.render, ?_, ?_⟩
  · rw [List.forall_mem_map]
    exact fun s hs => Script.newline_notMem_render (hvalid s hs)
  · rw [(lines_load h).1]
    refine List.ext_getElem? fun i => ?_
    rw [List.getElem?_mapIdx, List.getElem?_mapIdx, List.getElem?_map, Option.map_map]
    refine Option.map_congr fun s hs => ?_
    exact (LineReport.ofLine_render (hvalid s (List.mem_of_getElem? hs)) i).symm

/-- Every history leads to documents whose lines are what their texts say. -/
theorem Reachable.listed (h : d.Reachable) : d.Listed := by
  -- A new map has no lines, and those of a file are written from its scripts.
  induction h with
  | @new width height d h =>
      refine ⟨[], by simp, ?_⟩
      unfold Document.new at h
      split at h
      · nomatch h
      · rw [← Except.ok.inj h]
        rfl
  | load h => exact listed_load h
  | after h e ih =>
      rcases lines_after h.sound e with hsame | ⟨listing, hlisting⟩
      · rcases ih with ⟨texts, hnewline, hlines⟩
        exact ⟨texts, hnewline, hsame.trans hlines⟩
      · exact listed_of_compileListing hlisting

/-- Each line is one line and was compiled from it. -/
theorem Listed.parse_text (h : d.Listed) {line : LineReport} (hline : line ∈ d.lines) :
    '\n' ∉ line.text.toList ∧ Script.parse line.text = line.result := by
  rcases h with ⟨texts, hnewline, hlines⟩
  rw [hlines] at hline
  rcases List.mem_mapIdx.mp hline with ⟨i, hi, rfl⟩
  refine ⟨?_, rfl⟩
  -- The text of a line is the line of the listing that it was made from.
  change '\n' ∉ (String.ofList texts[i]).toList
  rw [String.toList_ofList]
  exact hnewline _ (List.getElem_mem hi)

/-! ## The Listing Stored Again -/

variable {before : List (List Char)} {last : List Char}

theorem lines_relisted_of_nil (h : d.lines = []) : d.relisted.lines = [] := by
  rw [relisted, lines_setScriptText, scriptText, h]
  rfl

/-- The lines of the listing. All but the last lose a carriage return at the end, and the
    last is left out if it is empty. -/
theorem lines_relisted (hbefore : ∀ text ∈ before, '\n' ∉ text) (hlast : '\n' ∉ last)
    (h : d.lines = (before ++ [last]).mapIdx LineReport.ofLine) :
    d.relisted.lines =
      (before.map Text.dropReturn ++ if last = [] then [] else [last]).mapIdx
        LineReport.ofLine := by
  rw [relisted, lines_setScriptText, compileListing, scriptText, String.toList_ofList, h,
    LineReport.texts_mapIdx_ofLine, Text.lines_intercalate hbefore hlast]

theorem withoutEmptyEnd_ofLine :
    withoutEmptyEnd ((before ++ [last]).mapIdx LineReport.ofLine) =
      (before ++ if last = [] then [] else [last]).mapIdx LineReport.ofLine := by
  have htext : (LineReport.ofLine before.length last).text = "" ↔ last = [] :=
    String.ofList_eq_empty_iff
  rw [withoutEmptyEnd, List.mapIdx_concat, List.getLast?_concat, List.dropLast_concat]
  simp only [Option.map_some, Option.some.injEq, htext]
  split_ifs
  · rw [List.append_nil]
  · rw [List.mapIdx_concat]

/-- The results do not change, but for the empty line that is lost. -/
theorem Listed.results_relisted (h : d.Listed) :
    d.relisted.lines.map LineReport.result = (withoutEmptyEnd d.lines).map LineReport.result := by
  rcases h with ⟨texts, hnewline, hlines⟩
  -- Only the last line can be lost, so the others are kept apart from it.
  rcases List.eq_nil_or_concat' texts with rfl | ⟨before, last, rfl⟩
  · rw [lines_relisted_of_nil hlines, hlines]
    rfl
  · rw [List.forall_mem_append, List.forall_mem_singleton] at hnewline
    rw [lines_relisted hnewline.1 hnewline.2 hlines, hlines, withoutEmptyEnd_ofLine,
      LineReport.results_mapIdx_ofLine, LineReport.results_mapIdx_ofLine, List.map_append,
      List.map_append, List.map_map]
    -- A carriage return at the end is blank, and a line is compiled without it.
    exact congrArg (· ++ _) (List.map_congr_left fun line _ => Script.parse_dropReturn line)

/-- The scripts do not change, since an empty line holds none. -/
theorem Listed.scripts_relisted (h : d.Listed) : d.relisted.scripts = d.scripts := by
  -- Scripts are what results hold, so equal results have equal scripts.
  have hscripts : ∀ lines : List LineReport, lines.filterMap LineReport.script? =
      (lines.map LineReport.result).filterMap Except.toOption := by
    intro lines
    rw [List.filterMap_map]
    rfl
  have hend : (withoutEmptyEnd d.lines).filterMap LineReport.script? = d.scripts := by
    rw [scripts, withoutEmptyEnd]
    split_ifs with hempty
    · rcases Option.map_eq_some_iff.mp hempty with ⟨line, hline, htext⟩
      -- The line that is lost is empty, and nothing compiles from an empty line.
      have hnone : line.script? = none := by
        rw [LineReport.script?, ← (h.parse_text (List.mem_of_getLast? hline)).2, htext,
          Script.parse_nil]
        rfl
      conv_rhs => rw [← List.dropLast_append_getLast? line hline, List.filterMap_append,
        List.filterMap_cons_none hnone, List.filterMap_nil, List.append_nil]
    · rfl
  rw [scripts, hscripts, h.results_relisted, ← hscripts, hend]

/-- The lines are the same exactly when nothing is lost at their ends. -/
theorem Listed.lines_relisted_eq_iff (h : d.Listed) :
    d.relisted.lines = d.lines ↔
      (∀ line ∈ d.lines.getLast?, line.text ≠ "") ∧
        ∀ line ∈ d.lines.dropLast, line.text.toList.getLast? ≠ some '\r' := by
  rcases h with ⟨texts, hnewline, hlines⟩
  rcases List.eq_nil_or_concat' texts with rfl | ⟨before, last, rfl⟩
  · rw [List.mapIdx_nil] at hlines
    rw [lines_relisted_of_nil hlines, hlines]
    simp
  · rw [List.forall_mem_append, List.forall_mem_singleton] at hnewline
    have hempty : (LineReport.ofLine before.length last).text = "" ↔ last = [] :=
      String.ofList_eq_empty_iff
    -- A line loses nothing exactly when it does not end in a carriage return.
    have hreturn : (∀ line ∈ before.mapIdx LineReport.ofLine,
        line.text.toList.getLast? ≠ some '\r') ↔ before.map Text.dropReturn = before := by
      rw [Text.map_dropReturn_eq_self_iff]
      conv_rhs => rw [← LineReport.texts_mapIdx_ofLine before, List.forall_mem_map]
    rw [lines_relisted hnewline.1 hnewline.2 hlines, hlines, LineReport.mapIdx_ofLine_inj,
      List.mapIdx_concat, List.getLast?_concat, List.dropLast_concat, hreturn]
    simp only [Option.mem_some_iff, forall_eq', ne_eq, hempty]
    split_ifs with hnil
    · -- One line less cannot be the same lines.
      refine iff_of_false (fun hsame => ?_) fun hne => hne.1 hnil
      have hlength := congrArg List.length hsame
      rw [List.append_nil, List.length_map, List.length_append, List.length_singleton] at hlength
      omega
    · rw [List.append_left_inj, and_iff_right hnil]

/-- The pool does not change. The ids in use are those of the grid and the scripts, and no
    id is handed out on the way. -/
theorem ids_relisted (hd : d.Sound) (h : d.Listed) : d.relisted.ids = d.ids := by
  have hused := hd.used_congr (sound_setScriptText hd d.scriptText) rfl h.scripts_relisted
  have hprobe : d.relisted.ids.probe = d.ids.probe := rfl
  exact congrArg₂ Pool.mk hprobe hused

/-- Storing the listing of a map as it is. Each line is a single line, and it holds what
    its text compiles to, on every map. So the grid, the scripts and the pool stay the
    same, and the results of the lines as well, except that an empty line at the end is
    lost. The lines themselves are the same exactly when there is no such line and none
    before the last ends in a carriage return. -/
theorem Reachable.relist (h : d.Reachable) :
    (∀ line ∈ d.lines, '\n' ∉ line.text.toList ∧ Script.parse line.text = line.result) ∧
      d.relisted.grid = d.grid ∧ d.relisted.scripts = d.scripts ∧ d.relisted.ids = d.ids ∧
      d.relisted.lines.map LineReport.result = (withoutEmptyEnd d.lines).map LineReport.result ∧
      (d.relisted.lines = d.lines ↔
        (∀ line ∈ d.lines.getLast?, line.text ≠ "") ∧
          ∀ line ∈ d.lines.dropLast, line.text.toList.getLast? ≠ some '\r') := by
  have hlisted := h.listed
  exact ⟨fun _ => hlisted.parse_text, rfl, hlisted.scripts_relisted, ids_relisted h.sound hlisted,
    hlisted.results_relisted, hlisted.lines_relisted_eq_iff⟩

/-- A script whose line ends in a carriage return, and an empty line behind it. The script
    stays, and the lines do not. -/
theorem relist_of_carriage_return :
    ∃ d : Document, d.Reachable ∧ d.lines.length = 2 ∧ d.scripts.length = 1 ∧
      d.relisted.scripts = d.scripts ∧ d.relisted.lines ≠ d.lines := by
  have h := (Reachable.new (show new 1 1 = .ok _ from rfl)).setScriptText
    "IF TIME_ELAPSED(1) THEN WIN()\r\r\n\n"
  refine ⟨_, h, by decide +kernel, by decide +kernel, h.relist.2.2.1, fun hsame => ?_⟩
  exact absurd (h.relist.2.2.2.2.2.mp hsame).1 (by decide +kernel)

end Document

end TileTriggers
