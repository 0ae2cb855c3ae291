import TileTriggers.Script.Line
import TileTriggers.Proofs.Text.Run

/-!
# The Layout of a Script Line

A line is a script to the eye when it can be laid out as blanks, IF, a call, a gap,
THEN, a call and blanks again. `Layout` says so without reading anything: its fields
are the pieces of a line, each with what makes it such a piece, and its text is the
pieces in a row.

Two questions remain about the cut of `Shape.ofLine?`. The first is whether a line can
be laid out in two ways. It cannot, because each piece ends where the next character
is none of its own: a word begins where blanks end, blanks and the parenthesis end a
word, and the arguments of a condition hold no parenthesis. The arguments of an action
do, so their end is found from the other side, where only blanks follow the last
parenthesis.

The second is whether the cut finds the layout. Each reader of the cut takes exactly
one piece, which is one equivalence per reader, and the cut is all of them in a row.

## Main definitions

* `OperatorCall`: An operator word with its arguments.
* `Layout`: The pieces of a line.
* `Layout.shape`: The pieces that the cut keeps.

## Theorems

* `Layout.text_injective`: A line is laid out in at most one way.
* `Shape.ofLine?_eq_some_iff`: The cut finds the layout and nothing else.
-/

namespace TileTriggers

namespace Text

theorem isWord_of_isBlank {c : Char} (h : isBlank c) : isWord c = false := by
  have hblanks : blanks.all (fun b => !isWord b) = true := by decide +kernel
  rw [isBlank, List.contains_eq_mem, decide_eq_true_eq] at h
  simpa using List.all_eq_true.mp hblanks c h

theorem isBlank_of_isWord {c : Char} (h : isWord c) : isBlank c = false := by
  rw [Bool.eq_false_iff]
  intro hblank
  exact absurd (h.symm.trans (isWord_of_isBlank hblank))
    (by simp only [reduceCtorEq, not_false_eq_true])

end Text

/-- An operator word with a gap in front of it and with its arguments behind it. -/
@[ext]
structure OperatorCall where
  gap : List Char
  word : List Char
  space : List Char
  args : List Char
  gap_ne_nil : gap ≠ []
  gap_blank : ∀ c ∈ gap, Text.isBlank c
  word_ne_nil : word ≠ []
  word_chars : ∀ c ∈ word, Text.isWord c
  space_blank : ∀ c ∈ space, Text.isBlank c

/-- A call in front of the rest of a line. -/
def OperatorCall.text (c : OperatorCall) (rest : List Char) : List Char :=
  c.gap ++ (c.word ++ (c.space ++ '(' :: (c.args ++ ')' :: rest)))

/-- The pieces of a script line, in the order in which they stand there. -/
@[ext]
structure Layout where
  lead : List Char
  ifWord : List Char
  condition : OperatorCall
  gap : List Char
  thenWord : List Char
  action : OperatorCall
  trail : List Char
  lead_blank : ∀ c ∈ lead, Text.isBlank c
  ifWord_lower : ifWord.map Char.toLower = ['i', 'f']
  condition_plain : ∀ c ∈ condition.args, Shape.isPlain c
  gap_ne_nil : gap ≠ []
  gap_blank : ∀ c ∈ gap, Text.isBlank c
  thenWord_lower : thenWord.map Char.toLower = ['t', 'h', 'e', 'n']
  action_line : '\n' ∉ action.args
  trail_blank : ∀ c ∈ trail, Text.isBlank c

/-- The line with the given pieces. -/
def Layout.text (l : Layout) : List Char :=
  l.lead ++ (l.ifWord ++ l.condition.text (l.gap ++ (l.thenWord ++ l.action.text l.trail)))

/-- The operators and arguments among the pieces of a line. -/
def Layout.shape (l : Layout) : Shape :=
  ⟨l.condition.word, l.condition.args, l.action.word, l.action.args⟩

/-- Neither IF nor THEN begins with a blank. -/
theorem isBlank_head_of_lower {word : List Char} {w : Char} {ws : List Char}
    (h : word.map Char.toLower = w :: ws) (hw : w.isAlpha) (cs : List Char) :
    ∀ c ∈ (word ++ cs).head?, Text.isBlank c = false := by
  have hblanks : Text.blanks.all (fun b => !b.toLower.isAlpha) = true := by decide
  rcases List.map_eq_cons_iff.mp h with ⟨c, others, rfl, rfl, -⟩
  intro d hd
  rw [List.cons_append, List.head?_cons, Option.mem_some_iff] at hd
  rw [← hd, Bool.eq_false_iff, Text.isBlank, List.contains_eq_mem, ne_eq, decide_eq_true_eq]
  intro hblank
  have hnot := List.all_eq_true.mp hblanks c hblank
  rw [hw] at hnot
  exact absurd hnot (by decide)

theorem length_eq_of_lower {word word' ws : List Char} (h : word.map Char.toLower = ws)
    (h' : word'.map Char.toLower = ws) : word.length = word'.length := by
  rw [← List.length_map Char.toLower, h, ← h', List.length_map]

/-- The last parenthesis of a line is the one behind which there are only blanks. -/
theorem closing_inj {args args' trail trail' : List Char} (h : ∀ c ∈ trail, Text.isBlank c)
    (h' : ∀ c ∈ trail', Text.isBlank c) (heq : args ++ ')' :: trail = args' ++ ')' :: trail') :
    args = args' ∧ trail = trail' := by
  -- Read from behind, blanks come first and the parenthesis ends them.
  have hreverse := congrArg List.reverse heq
  simp only [List.reverse_append, List.reverse_cons, List.append_assoc, List.singleton_append]
    at hreverse
  rcases Text.append_inj_of_run (fun c hc => h c (List.mem_reverse.mp hc))
    (fun c hc => h' c (List.mem_reverse.mp hc)) (Text.head?_cons_of_neg (by decide) _)
    (Text.head?_cons_of_neg (by decide) _) hreverse with ⟨htrail, hargs⟩
  exact ⟨List.reverse_inj.mp (List.tail_eq_of_cons_eq hargs), List.reverse_inj.mp htrail⟩

namespace OperatorCall

variable (c c' : OperatorCall)

theorem isBlank_head_word (rest : List Char) :
    ∀ d ∈ (c.word ++ rest).head?, Text.isBlank d = false := by
  intro d hd
  rw [List.head?_append_of_ne_nil _ c.word_ne_nil] at hd
  exact Text.isBlank_of_isWord (c.word_chars d (List.mem_of_mem_head? hd))

theorem isWord_head_space (rest : List Char) :
    ∀ d ∈ (c.space ++ '(' :: rest).head?, Text.isWord d = false := by
  intro d hd
  rw [List.head?_append, List.head?_cons, Option.mem_def, Option.or_eq_some_iff] at hd
  rcases hd with h | ⟨-, h⟩
  · exact Text.isWord_of_isBlank (c.space_blank d (List.mem_of_mem_head? h))
  · rw [← Option.some.inj h]
    decide

variable {c c'}

/-- What stands in front of the arguments of a call is determined by the line. -/
theorem opening_inj {cs cs' : List Char}
    (h : c.gap ++ (c.word ++ (c.space ++ '(' :: cs)) =
      c'.gap ++ (c'.word ++ (c'.space ++ '(' :: cs'))) :
    c.gap = c'.gap ∧ c.word = c'.word ∧ c.space = c'.space ∧ cs = cs' := by
  -- Gap, word and space are runs, each of which ends where the next one begins.
  rcases Text.append_inj_of_run c.gap_blank c'.gap_blank (c.isBlank_head_word _)
    (c'.isBlank_head_word _) h with ⟨hgap, h⟩
  rcases Text.append_inj_of_run c.word_chars c'.word_chars (c.isWord_head_space _)
    (c'.isWord_head_space _) h with ⟨hword, h⟩
  rcases Text.append_inj_of_run c.space_blank c'.space_blank (Text.head?_cons_of_neg (by decide) _)
    (Text.head?_cons_of_neg (by decide) _) h with ⟨hspace, h⟩
  exact ⟨hgap, hword, hspace, List.tail_eq_of_cons_eq h⟩

end OperatorCall

namespace Layout

/-- A line is laid out in at most one way. -/
theorem text_injective : Function.Injective text := by
  intro l l' h
  -- From the front, each piece ends where the next character is none of its own.
  rcases Text.append_inj_of_run l.lead_blank l'.lead_blank
    (isBlank_head_of_lower l.ifWord_lower (by decide) _)
    (isBlank_head_of_lower l'.ifWord_lower (by decide) _) h with ⟨hlead, h⟩
  rcases List.append_inj h (length_eq_of_lower l.ifWord_lower l'.ifWord_lower) with ⟨hif, h⟩
  rcases OperatorCall.opening_inj h with ⟨hconditionGap, hcondition, hconditionSpace, h⟩
  rcases Text.append_inj_of_run l.condition_plain l'.condition_plain
    (Text.head?_cons_of_neg (by decide) _) (Text.head?_cons_of_neg (by decide) _) h with
    ⟨hconditionArgs, h⟩
  rcases Text.append_inj_of_run l.gap_blank l'.gap_blank
    (isBlank_head_of_lower l.thenWord_lower (by decide) _)
    (isBlank_head_of_lower l'.thenWord_lower (by decide) _) (List.tail_eq_of_cons_eq h) with
    ⟨hgap, h⟩
  rcases List.append_inj h (length_eq_of_lower l.thenWord_lower l'.thenWord_lower) with
    ⟨hthen, h⟩
  rcases OperatorCall.opening_inj h with ⟨hactionGap, haction, hactionSpace, h⟩
  -- The last arguments may hold parentheses, but only blanks follow them.
  rcases closing_inj l.trail_blank l'.trail_blank h with ⟨hactionArgs, htrail⟩
  exact Layout.ext hlead hif
    (OperatorCall.ext hconditionGap hcondition hconditionSpace hconditionArgs) hgap hthen
    (OperatorCall.ext hactionGap haction hactionSpace hactionArgs) htrail

end Layout

namespace Shape

variable {cs rest : List Char}

theorem afterWord?_eq_some_iff {ws : List Char} :
    afterWord? ws cs = some rest ↔ ∃ word, cs = word ++ rest ∧ word.map Char.toLower = ws := by
  induction ws generalizing cs with
  | nil =>
      rw [afterWord?]
      constructor
      · intro h
        exact ⟨[], Option.some.inj h, rfl⟩
      · rintro ⟨word, rfl, h⟩
        rw [List.map_eq_nil_iff.mp h, List.nil_append]
  | cons w ws ih =>
      constructor
      · intro h
        -- The word is compared character by character in lower case.
        cases cs with
        | nil => exact absurd h (by simp only [afterWord?, reduceCtorEq, not_false_eq_true])
        | cons c cs =>
            rw [afterWord?, Option.ite_none_right_eq_some, ih] at h
            rcases h with ⟨hc, word, rfl, hword⟩
            exact ⟨c :: word, rfl, by rw [List.map_cons, hc, hword]⟩
      · rintro ⟨word, rfl, h⟩
        rcases List.map_eq_cons_iff.mp h with ⟨c, others, rfl, hc, hothers⟩
        rw [List.cons_append, afterWord?, if_pos hc]
        exact ih.mpr ⟨others, rfl, hothers⟩

theorem afterGap?_eq_some_iff :
    afterGap? cs = some rest ↔ ∃ gap, cs = gap ++ rest ∧ gap ≠ [] ∧
      (∀ c ∈ gap, Text.isBlank c) ∧ ∀ c ∈ rest.head?, Text.isBlank c = false := by
  -- A gap has one blank at least, so the first character decides.
  cases cs with
  | nil =>
      simp only [afterGap?, reduceCtorEq, false_iff]
      rintro ⟨gap, h, hne, -⟩
      exact hne (List.append_eq_nil_iff.mp h.symm).1
  | cons c cs =>
      rw [afterGap?, Option.ite_none_right_eq_some, Option.some.injEq, Text.dropWhile_eq_iff]
      constructor
      · rintro ⟨hc, gap, rfl, hgap, hrest⟩
        exact ⟨c :: gap, rfl, List.cons_ne_nil _ _, List.forall_mem_cons.mpr ⟨hc, hgap⟩, hrest⟩
      · rintro ⟨gap, h, hne, hgap, hrest⟩
        rcases List.exists_cons_of_ne_nil hne with ⟨first, others, rfl⟩
        rw [List.cons_append, List.cons.injEq] at h
        rw [List.forall_mem_cons] at hgap
        exact ⟨h.1 ▸ hgap.1, others, h.2, hgap.2, hrest⟩

theorem after?_eq_some_iff {c : Char} : after? c cs = some rest ↔ cs = c :: rest := by
  cases cs with
  | nil => simp only [after?, reduceCtorEq]
  | cons d cs => rw [after?, Option.ite_none_right_eq_some, Option.some.injEq, List.cons.injEq]

theorem word?_eq_some_iff {word : List Char} :
    word? cs = some (word, rest) ↔ cs = word ++ rest ∧ word ≠ [] ∧
      (∀ c ∈ word, Text.isWord c) ∧ ∀ c ∈ rest.head?, Text.isWord c = false := by
  -- The word is the longest run of word characters, and it must not be empty.
  rcases hspan : cs.span Text.isWord with ⟨run, behind⟩
  simp only [word?, hspan, Option.ite_none_left_eq_some, Option.some.injEq, List.isEmpty_iff]
  constructor
  · rintro ⟨hne, h⟩
    rw [h] at hspan
    rw [Prod.mk.injEq] at h
    rw [h.1] at hne
    rcases Text.span_eq_iff.mp hspan with ⟨hcs, hword, hrest⟩
    exact ⟨hcs, hne, hword, hrest⟩
  · rintro ⟨hcs, hne, hword, hrest⟩
    rw [Text.span_eq_iff.mpr ⟨hcs, hword, hrest⟩] at hspan
    rcases Prod.mk.inj hspan with ⟨rfl, rfl⟩
    exact ⟨hne, rfl⟩

theorem lastArgs?_eq_some_iff {args : List Char} :
    lastArgs? cs = some args ↔
      ∃ trail, cs = args ++ ')' :: trail ∧ '\n' ∉ args ∧ ∀ c ∈ trail, Text.isBlank c := by
  simp only [lastArgs?, Option.bind_eq_bind, Option.bind_eq_some_iff, after?_eq_some_iff,
    Text.dropWhile_eq_iff, Option.ite_none_left_eq_some, Option.some.injEq, List.contains_eq_mem,
    decide_eq_true_eq]
  -- The reader meets the pieces from behind.
  constructor
  · rintro ⟨back, ⟨run, hcs, hrun, -⟩, hline, rfl⟩
    rw [List.reverse_eq_iff, List.reverse_append, List.reverse_cons, List.append_assoc,
      List.singleton_append] at hcs
    exact ⟨run.reverse, hcs, fun h => hline (List.mem_reverse.mp h),
      fun c hc => hrun c (List.mem_reverse.mp hc)⟩
  · rintro ⟨trail, rfl, hline, htrail⟩
    refine ⟨args.reverse, ⟨trail.reverse, ?_, fun c hc => htrail c (List.mem_reverse.mp hc),
      Text.head?_cons_of_neg (by decide) _⟩, fun h => hline (List.mem_reverse.mp h),
      List.reverse_reverse args⟩
    rw [List.reverse_append, List.reverse_cons, List.append_assoc, List.singleton_append]

section OperatorCall

variable (c : OperatorCall) (rest : List Char)

theorem afterGap?_call : afterGap? (c.text rest) =
    some (c.word ++ (c.space ++ '(' :: (c.args ++ ')' :: rest))) :=
  afterGap?_eq_some_iff.mpr ⟨c.gap, rfl, c.gap_ne_nil, c.gap_blank, c.isBlank_head_word _⟩

theorem word?_call : word? (c.word ++ (c.space ++ '(' :: rest)) =
    some (c.word, c.space ++ '(' :: rest) :=
  word?_eq_some_iff.mpr ⟨rfl, c.word_ne_nil, c.word_chars, c.isWord_head_space _⟩

theorem after?_call : after? '(' ((c.space ++ '(' :: rest).dropWhile Text.isBlank) = some rest := by
  rw [after?_eq_some_iff, Text.dropWhile_eq_iff]
  exact ⟨c.space, rfl, c.space_blank, Text.head?_cons_of_neg (by decide) _⟩

/-- What the readers take up to an opening parenthesis makes a call with any arguments. -/
theorem exists_call {word cs' cs'' : List Char} (args : List Char)
    (hgap : afterGap? cs = some cs') (hword : word? cs' = some (word, cs''))
    (hopening : after? '(' (cs''.dropWhile Text.isBlank) = some rest) :
    ∃ c : OperatorCall, c.word = word ∧ c.args = args ∧
      cs = c.gap ++ (c.word ++ (c.space ++ '(' :: rest)) := by
  rcases afterGap?_eq_some_iff.mp hgap with ⟨gap, rfl, hgapNe, hgapBlank, -⟩
  rcases word?_eq_some_iff.mp hword with ⟨rfl, hwordNe, hwordChars, -⟩
  rcases Text.dropWhile_eq_iff.mp (after?_eq_some_iff.mp hopening) with ⟨space, rfl, hspace, -⟩
  exact ⟨⟨gap, word, space, args, hgapNe, hgapBlank, hwordNe, hwordChars, hspace⟩, rfl, rfl, rfl⟩

end OperatorCall

/-- What the cut finds is the shape of a layout. -/
theorem exists_layout_of_ofLine? {line : List Char} {s : Shape} (h : ofLine? line = some s) :
    ∃ l : Layout, l.text = line ∧ l.shape = s := by
  simp only [ofLine?, Option.bind_eq_bind, Option.bind_eq_some_iff, Prod.exists, Option.pure_def,
    Option.some.injEq] at h
  rcases h with ⟨_, hif, _, hgap, condition, _, hcondition, behind, hopening, _, hclosing,
    _, hthenGap, _, hthen, _, hactionGap, action, _, haction, _, hactionOpening,
    actionArgs, hactionArgs, rfl⟩
  -- The pieces in the order of the line.
  rcases afterWord?_eq_some_iff.mp hif with ⟨ifWord, hlead, hifWord⟩
  rcases Text.dropWhile_eq_iff.mp hlead with ⟨lead, rfl, hleadBlank, -⟩
  rcases hspan : behind.span isPlain with ⟨conditionArgs, rest⟩
  rw [hspan, after?_eq_some_iff] at hclosing
  change rest = _ at hclosing
  subst hclosing
  rcases Text.span_eq_iff.mp hspan with ⟨rfl, hplain, -⟩
  rcases exists_call _ conditionArgs hgap hcondition hopening with ⟨c, rfl, rfl, rfl⟩
  rcases afterGap?_eq_some_iff.mp hthenGap with ⟨thenGap, rfl, hthenGapNe, hthenGapBlank, -⟩
  rcases afterWord?_eq_some_iff.mp hthen with ⟨thenWord, rfl, hthenWord⟩
  rcases exists_call _ actionArgs hactionGap haction hactionOpening with ⟨d, rfl, rfl, rfl⟩
  rcases lastArgs?_eq_some_iff.mp hactionArgs with ⟨trail, rfl, hline, htrail⟩
  exact ⟨⟨lead, ifWord, c, thenGap, thenWord, d, trail, hleadBlank, hifWord, hplain, hthenGapNe,
    hthenGapBlank, hthenWord, hline, htrail⟩, rfl, rfl⟩

/-- A line that is laid out is cut into the shape of its layout. -/
theorem ofLine?_text (l : Layout) : ofLine? l.text = some l.shape := by
  -- Each reader is given the text from its piece on and takes that piece.
  let thenText := l.thenWord ++ l.action.text l.trail
  have hif : afterWord? ['i', 'f'] (l.text.dropWhile Text.isBlank) =
      some (l.condition.text (l.gap ++ thenText)) := by
    rw [afterWord?_eq_some_iff]
    refine ⟨l.ifWord, ?_, l.ifWord_lower⟩
    rw [Text.dropWhile_eq_iff]
    exact ⟨l.lead, rfl, l.lead_blank, isBlank_head_of_lower l.ifWord_lower (by decide) _⟩
  -- The arguments of the condition hold no parenthesis, so the first one ends them.
  have hspan : (l.condition.args ++ ')' :: (l.gap ++ thenText)).span isPlain =
      (l.condition.args, ')' :: (l.gap ++ thenText)) :=
    Text.span_eq_iff.mpr ⟨rfl, l.condition_plain, Text.head?_cons_of_neg (by decide) _⟩
  have hclosing : after? ')' (')' :: (l.gap ++ thenText)) = some (l.gap ++ thenText) :=
    after?_eq_some_iff.mpr rfl
  have hgap : afterGap? (l.gap ++ thenText) = some thenText :=
    afterGap?_eq_some_iff.mpr ⟨l.gap, rfl, l.gap_ne_nil, l.gap_blank,
      isBlank_head_of_lower l.thenWord_lower (by decide) _⟩
  have hthen : afterWord? ['t', 'h', 'e', 'n'] thenText = some (l.action.text l.trail) :=
    afterWord?_eq_some_iff.mpr ⟨l.thenWord, rfl, l.thenWord_lower⟩
  -- Those of the action may, so the last one does.
  have hargs : lastArgs? (l.action.args ++ ')' :: l.trail) = some l.action.args :=
    lastArgs?_eq_some_iff.mpr ⟨l.trail, rfl, l.action_line, l.trail_blank⟩
  simp only [ofLine?, hif, afterGap?_call, word?_call, after?_call, hspan, hclosing, hgap, hthen,
    hargs, Option.bind_eq_bind, Option.bind_some]
  rfl

/-- The cut finds the layout of a line, and it finds nothing in a line without one. -/
theorem ofLine?_eq_some_iff {line : List Char} {s : Shape} :
    ofLine? line = some s ↔ ∃ l : Layout, l.text = line ∧ l.shape = s := by
  constructor
  · exact exists_layout_of_ofLine?
  · rintro ⟨l, rfl, rfl⟩
    exact ofLine?_text l

end Shape

end TileTriggers
