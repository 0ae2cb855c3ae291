import TileTriggers.Text.Lines
import Mathlib.Data.List.Infix

/-!
# Lines and Their Endings

Lines that are joined by line feeds are not always found again by cutting the text into
lines. Joining puts an ending behind every line but the last, and the two notions of an
ending differ. A line that ends in a carriage return loses it, for the line feed that is
put behind it makes the two of them one ending. The last line is unfinished, so it keeps
its carriage return, but it is no line at all if nothing is in it.

Cutting a text in two is safe behind a line feed. The two parts have the lines of the
whole, since an ending never reaches over a line feed. So a line can be found in its text
together with its ending, and another line can be put in its place.

## Main definitions

* `Finished`: A text without an unfinished line.
* `EndsLine`: How a line can end in front of the rest of a text.
* `lineCount`: How many lines a text has.

## Theorems

* `separator_notMem_of_mem_splitOn`: Pieces between separators hold none.
* `dropReturn_eq_self_iff`, `dropReturn_cases`: What belongs to an ending.
* `newline_notMem_of_mem_lines`: A line holds no line feed.
* `lines_intercalate`: The lines of lines that were joined.
* `lines_append`: The lines of a text in two parts.
* `lines_of_endsLine`, `exists_endsLine`: A line with its ending.
* `lineInduction`: From one line feed to the next.
* `length_lines`: How many lines there are.
-/

namespace TileTriggers

namespace Text

/-- The pieces of a full cut hold no separator. -/
theorem separator_notMem_of_mem_splitOn {separator : Char} {cs piece : List Char}
    (h : piece ∈ cs.splitOn separator) : separator ∉ piece := by
  induction cs generalizing piece with
  | nil =>
      rw [List.splitOn_nil, List.mem_singleton] at h
      rw [h]
      exact List.not_mem_nil
  | cons c cs ih =>
      rw [List.splitOn_cons_eq_if_modifyHead] at h
      -- A separator begins a new piece, and nothing else does.
      split_ifs at h with hc
      · rcases List.mem_cons.mp h with hnil | hrest
        · rw [hnil]
          exact List.not_mem_nil
        · exact ih hrest
      · -- The character joins the first piece, and it is not the separator.
        rcases List.exists_cons_of_ne_nil (List.splitOn_ne_nil separator cs) with
          ⟨first, rest, hcut⟩
        rw [hcut, List.modifyHead_cons, List.mem_cons] at h
        rcases h with hfirst | hrest
        · rw [hfirst, List.mem_cons, not_or]
          rw [beq_iff_eq] at hc
          exact ⟨fun heq => hc heq.symm, ih (hcut ▸ List.mem_cons_self)⟩
        · exact ih (hcut ▸ List.mem_cons_of_mem first hrest)

variable {line last : List Char} {before : List (List Char)}

/-- What is dropped from a finished line is one carriage return at its end, or nothing. -/
theorem dropReturn_cases (line : List Char) :
    dropReturn line = line ∨ line = dropReturn line ++ ['\r'] := by
  rw [dropReturn]
  split_ifs with hreturn
  · exact Or.inr (List.dropLast_append_getLast? '\r' hreturn).symm
  · exact Or.inl rfl

theorem dropReturn_eq_self_iff : dropReturn line = line ↔ line.getLast? ≠ some '\r' := by
  rw [dropReturn]
  split_ifs with hreturn
  · -- A line that loses its last character is another line, for it is shorter.
    have hlength := congrArg List.length (List.dropLast_append_getLast? '\r' hreturn)
    refine iff_of_false (fun hsame => ?_) (not_not_intro hreturn)
    rw [hsame, List.length_append, List.length_singleton] at hlength
    omega
  · exact iff_of_true rfl hreturn

/-- Nothing is dropped from lines exactly when none of them ends in a carriage return. -/
theorem map_dropReturn_eq_self_iff :
    before.map dropReturn = before ↔ ∀ line ∈ before, line.getLast? ≠ some '\r' := by
  simp only [← dropReturn_eq_self_iff]
  conv_lhs => rw [← List.map_id before, List.map_map]
  exact List.map_inj_left

theorem mem_of_mem_dropReturn {c : Char} (h : c ∈ dropReturn line) : c ∈ line := by
  rcases dropReturn_cases line with hsame | hreturn
  · rwa [hsame] at h
  · rw [hreturn]
    exact List.mem_append_left _ h

/-- A line holds no line feed. -/
theorem newline_notMem_of_mem_lines {cs : List Char} (h : line ∈ lines cs) : '\n' ∉ line := by
  rw [lines, List.mem_append] at h
  -- A line is a finished piece without its carriage return, or the last piece.
  rcases h with hfinished | hunfinished
  · rcases List.mem_map.mp hfinished with ⟨piece, hpiece, rfl⟩
    intro hnewline
    exact separator_notMem_of_mem_splitOn (List.mem_of_mem_dropLast hpiece)
      (mem_of_mem_dropReturn hnewline)
  · split_ifs at hunfinished
    · exact absurd hunfinished List.not_mem_nil
    · rw [List.mem_singleton, List.getLast?_eq_some_getLast (List.splitOn_ne_nil _ _),
        Option.getD_some] at hunfinished
      rw [hunfinished]
      exact separator_notMem_of_mem_splitOn (List.getLast_mem _)

/-- Of lines that were joined by line feeds, all but the last are finished. The last is
    unfinished, and there is no such line if nothing is in it. -/
theorem lines_intercalate (hbefore : ∀ line ∈ before, '\n' ∉ line) (hlast : '\n' ∉ last) :
    lines (['\n'].intercalate (before ++ [last])) =
      before.map dropReturn ++ if last = [] then [] else [last] := by
  -- No line holds a line feed, so cutting finds the lines that were joined.
  have hpieces : (['\n'].intercalate (before ++ [last])).splitOn '\n' = before ++ [last] := by
    refine List.splitOn_intercalate '\n' ?_ (by simp)
    rw [List.forall_mem_append, List.forall_mem_singleton]
    exact ⟨hbefore, hlast⟩
  simp only [lines, hpieces, List.dropLast_concat, List.getLast?_concat, Option.getD_some,
    List.isEmpty_iff]

/-- The same text with and without its last ending has the same lines, unless the last
    line is blank. -/
example : lines "a\r\nb\r\n".toList = ["a".toList, "b".toList] ∧
    lines "a\r\nb\r".toList = ["a".toList, "b\r".toList] ∧ lines "a\n\n".toList =
      ["a".toList, []] := by decide +kernel

section Cut

variable {cs ending rest : List Char}

/-- A text that holds no unfinished line: it is empty or ends in a line feed. -/
def Finished (cs : List Char) : Prop :=
  cs = [] ∨ cs.getLast? = some '\n'

/-- How a line can end in front of the rest of a text. What belongs to the ending is not
    part of the line, and the last line may have no ending at all. -/
inductive EndsLine (line : List Char) : List Char → List Char → Prop
  | feed {rest : List Char} (h : line.getLast? ≠ some '\r') : EndsLine line ['\n'] rest
  | returnFeed {rest : List Char} : EndsLine line ['\r', '\n'] rest
  | unfinished (h : line ≠ []) : EndsLine line [] []

theorem lines_nil : lines [] = [] := rfl

/-- A line feed cuts a text in two. -/
theorem lines_append_newline (cs rest : List Char) :
    lines (cs ++ '\n' :: rest) = (cs.splitOn '\n').map dropReturn ++ lines rest := by
  have hpieces : (cs ++ '\n' :: rest).splitOn '\n' = cs.splitOn '\n' ++ rest.splitOn '\n' := by
    simp only [List.splitOn_eq_splitOnP]
    exact List.splitOnP_append_cons cs rest (BEq.refl '\n')
  -- The last piece of the whole is that of the rest, so the pieces before it are finished.
  have hrest := List.splitOn_ne_nil '\n' rest
  simp only [lines, hpieces, List.dropLast_append_of_ne_nil hrest,
    List.getLast?_append_of_ne_nil _ hrest, List.map_append, List.append_assoc]

/-- The first line feed ends the first line. -/
theorem lines_cons (h : '\n' ∉ line) (rest : List Char) :
    lines (line ++ '\n' :: rest) = dropReturn line :: lines rest := by
  rw [lines_append_newline, List.splitOn_eq_singleton h]
  rfl

/-- A text without a line feed is one line, unless nothing is in it. -/
theorem lines_of_notMem (h : '\n' ∉ line) (hne : line ≠ []) : lines line = [line] := by
  simp [lines, List.splitOn_eq_singleton h, hne]

/-- The lines of a finished text and of what follows it. -/
theorem lines_append (h : Finished cs) (rest : List Char) :
    lines (cs ++ rest) = lines cs ++ lines rest := by
  rcases h with rfl | hlast
  · rfl
  · -- Behind the line feed at its end a finished text has no further line.
    have hcs := (List.dropLast_append_getLast? '\n' hlast).symm
    rw [hcs, List.append_assoc, List.singleton_append, lines_append_newline, lines_append_newline,
      lines_nil, List.append_nil]

/-- A line with its ending is the first line of a text. -/
theorem lines_of_endsLine (h : EndsLine line ending rest) (hline : '\n' ∉ line) :
    lines (line ++ (ending ++ rest)) = line :: lines rest := by
  cases h with
  | feed hreturn =>
      rw [List.singleton_append, lines_cons hline, dropReturn_eq_self_iff.mpr hreturn]
  | returnFeed =>
      -- The carriage return belongs to the piece, and to the ending of the line.
      have hpiece : '\n' ∉ line ++ ['\r'] := by simp [hline]
      have hdrop : dropReturn (line ++ ['\r']) = line := by simp [dropReturn]
      rw [List.cons_append, List.singleton_append, List.append_cons, lines_cons hpiece, hdrop]
  | unfinished hne =>
      rw [List.append_nil, List.append_nil, lines_of_notMem hline hne, lines_nil]

/-- What stands in front of a line feed is a line and perhaps a part of its ending. -/
theorem exists_endsLine_first (first behind : List Char) :
    ∃ ending, first ++ '\n' :: behind = dropReturn first ++ (ending ++ behind) ∧
      EndsLine (dropReturn first) ending behind := by
  rcases dropReturn_cases first with hsame | hreturn
  · rw [hsame]
    exact ⟨['\n'], rfl, .feed (dropReturn_eq_self_iff.mp hsame)⟩
  · refine ⟨['\r', '\n'], ?_, .returnFeed⟩
    conv_lhs => rw [hreturn, List.append_assoc]
    rfl

/-- A text is one line without a line feed, or such a line and a line feed in front of a
    text. -/
theorem lineInduction {motive : List Char → Prop} (last : ∀ line, '\n' ∉ line → motive line)
    (feed : ∀ first behind, '\n' ∉ first → motive behind → motive (first ++ '\n' :: behind))
    (cs : List Char) : motive cs := by
  induction hlength : cs.length using Nat.strong_induction_on generalizing cs with
  | _ n ih =>
      by_cases hnewline : '\n' ∈ cs
      · rcases List.eq_append_cons_of_mem hnewline with ⟨first, behind, rfl, hfirst⟩
        -- Behind its first line feed a text is shorter.
        refine feed first behind hfirst (ih behind.length ?_ behind rfl)
        rw [← hlength, List.length_append, List.length_cons]
        omega
      · exact last cs hnewline

/-- How many lines a text has: one for each line feed, and the one that is not finished. -/
def lineCount (cs : List Char) : Nat :=
  cs.count '\n' + if cs = [] ∨ cs.getLast? = some '\n' then 0 else 1

/-- Whether a text is finished is settled behind its last line feed. -/
theorem finished_append_newline (first behind : List Char) :
    Finished (first ++ '\n' :: behind) ↔ Finished behind := by
  -- With nothing behind it the line feed is the last character, and both are finished.
  rcases List.eq_nil_or_concat' behind with rfl | ⟨before, c, rfl⟩
  · simp [Finished]
  · simp [Finished, List.getLast?_append, List.getLast?_cons]

/-- The first line counts for one, and the others follow it. -/
theorem lineCount_cons (h : '\n' ∉ line) (behind : List Char) :
    lineCount (line ++ '\n' :: behind) = lineCount behind + 1 := by
  have hfinished := finished_append_newline line behind
  simp only [Finished] at hfinished
  simp only [lineCount, hfinished, List.count_append, List.count_eq_zero_of_not_mem h,
    List.count_cons_self]
  omega

/-- Cutting finds as many lines as a text has. -/
theorem length_lines (cs : List Char) : (lines cs).length = lineCount cs := by
  induction cs using lineInduction with
  | last line hline =>
      -- An empty text has no line, and any other without a line feed has one.
      by_cases hempty : line = []
      · rw [hempty]
        rfl
      · have hlast : line.getLast? ≠ some '\n' := fun h => hline (List.mem_of_getLast? h)
        rw [lines_of_notMem hline hempty, lineCount, List.count_eq_zero_of_not_mem hline,
          if_neg (not_or.mpr ⟨hempty, hlast⟩)]
        rfl
  | feed first behind hfirst ih =>
      rw [lines_cons hfirst, List.length_cons, ih, lineCount_cons hfirst]

/-- Every line of a text stands behind a finished text with the lines before it, and has an
    ending in front of the rest. -/
theorem exists_endsLine {i : Nat} (h : (lines cs)[i]? = some line) :
    ∃ before ending rest, cs = before ++ (line ++ (ending ++ rest)) ∧ Finished before ∧
      (lines before).length = i ∧ EndsLine line ending rest := by
  induction cs using lineInduction generalizing i with
  | last only honly =>
      by_cases hempty : only = []
      · rw [hempty, lines_nil] at h
        exact absurd h (by simp)
      · -- There is one line, and nothing ends it.
        rw [lines_of_notMem honly hempty] at h
        cases i with
        | zero =>
            rcases Option.some.inj h with rfl
            refine ⟨[], [], [], ?_, Or.inl rfl, rfl, .unfinished hempty⟩
            simp
        | succ i => exact absurd h (by simp)
  | feed first behind hfirst ih =>
      rw [lines_cons hfirst] at h
      cases i with
      | zero =>
          rcases Option.some.inj h with rfl
          rcases exists_endsLine_first first behind with ⟨ending, htext, hends⟩
          exact ⟨[], ending, behind, htext, Or.inl rfl, rfl, hends⟩
      | succ i =>
          -- What stands before a later line grows by the first one and its ending.
          rcases ih h with ⟨before, ending, rest, rfl, hbefore, hi, hends⟩
          refine ⟨first ++ '\n' :: before, ending, rest, ?_,
            (finished_append_newline first before).mpr hbefore, ?_, hends⟩
          · rw [List.append_assoc, List.cons_append]
          · rw [lines_cons hfirst, List.length_cons, hi]

end Cut

end Text

end TileTriggers
