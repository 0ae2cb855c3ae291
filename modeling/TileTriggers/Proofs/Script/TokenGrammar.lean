import TileTriggers.Proofs.Script.Spelling
import TileTriggers.Proofs.Text.Run

/-!
# The Grammar of Argument Tokens

What numbers, cells, spawns and lists look like, said without reading anything: a token
is its parts in a row, and the parts say what they are worth. Spaces are allowed around
numbers and names and outside of brackets and braces, and nowhere else.

The readers cut a token at every separator and look at the pieces afterwards, while the
grammar puts pieces together that are known already. The two meet because no part can
hold the separator around it. What would be cut in the wrong place has no reading at
all, so it does not matter where the reader cuts it.

A list is the one place where the grammar has a choice. Between the brackets there are
elements or there are spaces, and no element consists of spaces, so the two do not
overlap.

## Main definitions

* `Padded`: A text with spaces around it.
* `SpellsNumber`, `SpellsByte`: Numerals and what they are worth.
* `SpellsCell`, `SpellsSpawn`: Constructs in braces.
* `SpellsElements`, `SpellsList`: Lists of any of them.

## Theorems

* `padded_iff`: Trimming finds what the spaces are around.
* `between?_eq_some_iff`: Brackets and braces.
* `byte?_eq_some_iff`, `millis?_eq_some_iff`, `cell?_eq_some_iff`,
  `namedSpawn?_eq_some_iff`, `list?_eq_some_iff`: One equivalence for each reader.
* `readers_eq_some_iff`: The readers accept the grammar and nothing else.
-/

namespace TileTriggers

namespace Token

/-- Spaces and tabs only, or nothing at all. -/
def Spaces (cs : List Char) : Prop :=
  ∀ c ∈ cs, c = ' ' ∨ c = '\t'

/-- A text with spaces around it. -/
def Padded (token core : List Char) : Prop :=
  ∃ left right, token = left ++ (core ++ right) ∧ Spaces left ∧ Spaces right

/-- One or more decimal digits of this value, with spaces around them. There may be any
    number of leading zeros. -/
def SpellsNumber (token : List Char) (n : Nat) : Prop :=
  ∃ digits, Padded token digits ∧ digits ≠ [] ∧ (∀ c ∈ digits, c.isDigit) ∧
    Nat.ofDigitChars 10 digits 0 = n

/-- A number that fits in a byte. -/
def SpellsByte (token : List Char) (b : UInt8) : Prop :=
  SpellsNumber token b.toNat

/-- One or more ASCII letters, digits and underscores, with spaces around them. -/
def SpellsName (token : List Char) (name : String) : Prop :=
  Padded token name.toList ∧ name.toList ≠ [] ∧ ∀ c ∈ name.toList, c.isAlphanum ∨ c = '_'

/-- A text between an opening and a closing character, with spaces around the two. -/
def Enclosed (opening closing : Char) (token inner : List Char) : Prop :=
  Padded token (opening :: (inner ++ [closing]))

/-- Two bytes with a point between them. -/
def SpellsCoordinates (text : List Char) (cell : Cell) : Prop :=
  ∃ x y, text = x ++ '.' :: y ∧ SpellsByte x cell.x ∧ SpellsByte y cell.y

/-- Coordinates in braces. -/
def SpellsCell (token : List Char) (cell : Cell) : Prop :=
  ∃ inner, Enclosed '{' '}' token inner ∧ SpellsCoordinates inner cell

/-- A name, a byte and coordinates in braces, with hyphens between them. -/
def SpellsSpawn (token : List Char) (spawn : NamedSpawn) : Prop :=
  ∃ inner, Enclosed '{' '}' token inner ∧
    ∃ name id cell, inner = name ++ '-' :: (id ++ '-' :: cell) ∧ SpellsName name spawn.name ∧
      SpellsByte id spawn.id ∧ SpellsCoordinates cell spawn.cell

/-- One or more elements with commas between them. -/
inductive SpellsElements {α : Type} (element : List Char → α → Prop) :
    List Char → List α → Prop
  | last {token : List Char} {a : α} (ha : element token a) : SpellsElements element token [a]
  | more {token rest : List Char} {a : α} {as : List α} (ha : element token a)
      (has : SpellsElements element rest as) :
      SpellsElements element (token ++ ',' :: rest) (a :: as)

/-- Elements in brackets, or spaces in brackets for the empty list. -/
def SpellsList {α : Type} (element : List Char → α → Prop) (token : List Char) (as : List α) :
    Prop :=
  ∃ inner, Enclosed '[' ']' token inner ∧
    (Spaces inner ∧ as = [] ∨ SpellsElements element inner as)

/-! ## Spaces -/

theorem isSpace_iff {c : Char} : Text.isSpace c ↔ c = ' ' ∨ c = '\t' := by
  rw [Text.isSpace, Bool.or_eq_true, beq_iff_eq, beq_iff_eq]

theorem spaces_iff {cs : List Char} : Spaces cs ↔ ∀ c ∈ cs, Text.isSpace c := by
  simp only [Spaces, isSpace_iff]

/-- Trimming finds what the spaces are around, if it does not begin or end with one. -/
theorem padded_iff {token core : List Char} (h : Text.Tight Text.isSpace core) :
    Padded token core ↔ Text.trimSpaces token = core := by
  rw [Text.trimSpaces, Text.trimBy_eq_iff]
  simp only [Padded, spaces_iff, h, and_true]

/-- What is neither a space nor in the text with spaces around it is nowhere. -/
theorem Padded.notMem {token core : List Char} {c : Char} (h : Padded token core)
    (hcore : c ∉ core) (hc : Text.isSpace c = false) : c ∉ token := by
  rcases h with ⟨left, right, htoken, hleft, hright⟩
  have hspaces : ∀ {cs : List Char}, Spaces cs → c ∉ cs := fun hcs =>
    not_mem_of_alphabet (spaces_iff.mp hcs) hc
  rw [htoken]
  simp only [List.mem_append, hspaces hleft, hcore, hspaces hright, or_self, not_false_eq_true]

/-- A text that begins with anything but a space is not lost among the spaces. -/
theorem Padded.not_spaces {token core : List Char} {c : Char} (h : Padded token core)
    (hmem : c ∈ core) (hc : Text.isSpace c = false) : ¬ Spaces token := by
  rcases h with ⟨left, right, htoken, -, -⟩
  intro hspaces
  have hspace := spaces_iff.mp hspaces c (by simp [htoken, hmem])
  rw [hc] at hspace
  exact absurd hspace (by simp only [Bool.false_eq_true, not_false_eq_true])

/-! ## Numbers and Names -/

theorem isSpace_of_isNameChar {c : Char} (h : isNameChar c) : Text.isSpace c = false :=
  isSpace_of_isBlank (isBlank_of_isNameChar h)

theorem value?_trimSpaces_eq_some_iff {limit n : Nat} {token : List Char} :
    Decimal.value? limit (Text.trimSpaces token) = some n ↔ SpellsNumber token n ∧ n ≤ limit := by
  rw [Decimal.value?_eq_some_iff]
  constructor
  · intro h
    -- What is left of the token when it is trimmed are the digits.
    rcases h with ⟨hne, hdigits, hvalue, hle⟩
    have htight := Text.tight_trimBy Text.isSpace token
    exact ⟨⟨_, (padded_iff htight).mpr rfl, hne, hdigits, hvalue⟩, hle⟩
  · intro h
    rcases h with ⟨⟨digits, hpadded, hne, hdigits, hvalue⟩, hle⟩
    -- A digit is no space, so trimming takes the spaces away and stops at the digits.
    have htight : Text.Tight Text.isSpace digits := Text.tight_of_forall fun c hc =>
      isSpace_of_isNameChar (isNameChar_of_isDigit (hdigits c hc))
    rw [(padded_iff htight).mp hpadded]
    exact ⟨hne, hdigits, hvalue, hle⟩

theorem map_toNat_byte? (token : List Char) :
    (byte? token).map UInt8.toNat = Decimal.value? 255 (Text.trimSpaces token) := by
  rw [byte?, Option.map_map]
  -- The value is within the limit, so nothing is lost when it becomes a byte.
  cases h : Decimal.value? 255 (Text.trimSpaces token) with
  | none => rfl
  | some n =>
      have hle := (Decimal.value?_eq_some_iff.mp h).2.2.2
      rw [Option.map_some, Function.comp_apply, UInt8.toNat_ofNat', Nat.mod_eq_of_lt (by omega)]

theorem map_toNat_millis? (token : List Char) :
    (millis? token).map UInt32.toNat = Decimal.value? 4294967295 (Text.trimSpaces token) := by
  rw [millis?, Option.map_map]
  cases h : Decimal.value? 4294967295 (Text.trimSpaces token) with
  | none => rfl
  | some n =>
      have hle := (Decimal.value?_eq_some_iff.mp h).2.2.2
      rw [Option.map_some, Function.comp_apply, UInt32.toNat_ofNat', Nat.mod_eq_of_lt (by omega)]

theorem byte?_eq_some_iff {token : List Char} {b : UInt8} :
    byte? token = some b ↔ SpellsByte token b := by
  have hlt := b.toNat_lt
  -- Bytes are compared by their values, which is where the grammar is about numbers.
  have hinjective := Option.map_injective fun a b : UInt8 => UInt8.toNat_inj.mp
  rw [← hinjective.eq_iff, map_toNat_byte?, Option.map_some, value?_trimSpaces_eq_some_iff,
    and_iff_left (by omega), SpellsByte]

theorem millis?_eq_some_iff {token : List Char} {ms : UInt32} :
    millis? token = some ms ↔ SpellsNumber token ms.toNat := by
  have hlt := ms.toNat_lt
  have hinjective := Option.map_injective fun a b : UInt32 => UInt32.toNat_inj.mp
  rw [← hinjective.eq_iff, map_toNat_millis?, Option.map_some, value?_trimSpaces_eq_some_iff,
    and_iff_left (by omega)]

theorem SpellsNumber.notMem {token : List Char} {n : Nat} {c : Char} (h : SpellsNumber token n)
    (hname : isNameChar c = false) (hspace : Text.isSpace c = false) : c ∉ token := by
  rcases h with ⟨digits, hpadded, -, hdigits, -⟩
  refine hpadded.notMem (not_mem_of_alphabet ?_ hname) hspace
  exact fun d hd => isNameChar_of_isDigit (hdigits d hd)

theorem SpellsNumber.not_spaces {token : List Char} {n : Nat} (h : SpellsNumber token n) :
    ¬ Spaces token := by
  rcases h with ⟨digits, hpadded, hne, hdigits, -⟩
  rcases List.exists_mem_of_ne_nil digits hne with ⟨c, hc⟩
  exact hpadded.not_spaces hc (isSpace_of_isNameChar (isNameChar_of_isDigit (hdigits c hc)))

theorem isNameChar_iff {c : Char} : isNameChar c ↔ c.isAlphanum ∨ c = '_' := by
  rw [isNameChar, Bool.or_eq_true, beq_iff_eq]

theorem name?_eq_some_iff {token : List Char} {name : String} :
    name? token = some name ↔ SpellsName token name := by
  simp only [name?, List.isEmpty_iff, SpellsName, ← isNameChar_iff]
  constructor
  · intro h
    -- A token is refused if it is empty or has another character than those of names.
    split_ifs at h with hbad
    rw [not_or, not_not, List.all_eq_true] at hbad
    have htrim : Text.trimSpaces token = name.toList := by
      rw [← Option.some.inj h, String.toList_ofList]
    rw [← htrim]
    exact ⟨(padded_iff (Text.tight_trimBy _ _)).mpr rfl, hbad⟩
  · intro h
    rcases h with ⟨hpadded, hne, hchars⟩
    -- No character of a name is a space, so the name is all that trimming leaves.
    have htight : Text.Tight Text.isSpace name.toList :=
      Text.tight_of_forall fun c hc => isSpace_of_isNameChar (hchars c hc)
    rw [(padded_iff htight).mp hpadded, String.ofList_toList]
    simp only [hne, List.all_eq_true.mpr hchars, not_true_eq_false, or_self, if_false]

theorem SpellsName.notMem {token : List Char} {name : String} {c : Char}
    (h : SpellsName token name) (hname : isNameChar c = false)
    (hspace : Text.isSpace c = false) : c ∉ token := by
  rcases h with ⟨hpadded, -, hchars⟩
  refine hpadded.notMem (not_mem_of_alphabet ?_ hname) hspace
  exact fun d hd => isNameChar_iff.mpr (hchars d hd)

/-! ## Cells and Spawns -/

theorem between?_eq_some_iff {opening closing : Char} (hopening : Text.isSpace opening = false)
    (hclosing : Text.isSpace closing = false) {token inner : List Char} :
    between? opening closing token = some inner ↔ Enclosed opening closing token inner := by
  -- Neither end is a space, so what is enclosed is found by trimming.
  rw [Enclosed, padded_iff (Text.tight_cons_append hopening hclosing inner)]
  constructor
  · intro h
    unfold between? at h
    split at h
    · exact absurd h (by simp only [reduceCtorEq, not_false_eq_true])
    · rename_i first rest htrim
      -- The first and the last character are looked at, and they cannot be the same one.
      split_ifs at h with hends
      rcases List.getLast?_eq_some_iff.mp hends.2 with ⟨front, hfront⟩
      rw [hfront, List.dropLast_concat, Option.some.injEq] at h
      rw [htrim, hends.1, hfront, h]
  · intro h
    rw [between?, h]
    simp only [List.getLast?_concat, and_self, if_true, List.dropLast_concat]

theorem Enclosed.notMem {opening closing c : Char} {token inner : List Char}
    (h : Enclosed opening closing token inner) (hopening : c ≠ opening) (hclosing : c ≠ closing)
    (hinner : c ∉ inner) (hspace : Text.isSpace c = false) : c ∉ token := by
  refine Padded.notMem h ?_ hspace
  simp only [List.mem_cons, List.mem_append, List.not_mem_nil, hopening, hinner, hclosing,
    or_self, not_false_eq_true]

theorem Enclosed.not_spaces {opening closing : Char} {token inner : List Char}
    (h : Enclosed opening closing token inner) (hopening : Text.isSpace opening = false) :
    ¬ Spaces token :=
  Padded.not_spaces h List.mem_cons_self hopening

theorem SpellsCoordinates.notMem {text : List Char} {cell : Cell} {c : Char}
    (h : SpellsCoordinates text cell) (hname : isNameChar c = false) (hpoint : c ≠ '.')
    (hspace : Text.isSpace c = false) : c ∉ text := by
  rcases h with ⟨x, y, htext, hx, hy⟩
  have hnotX := SpellsNumber.notMem hx hname hspace
  have hnotY := SpellsNumber.notMem hy hname hspace
  rw [htext]
  simp only [List.mem_append, List.mem_cons, hnotX, hpoint, hnotY, or_self, not_false_eq_true]

theorem coordinates?_eq_some_iff {text : List Char} {cell : Cell} :
    coordinates? text = some cell ↔ SpellsCoordinates text cell := by
  constructor
  · intro h
    unfold coordinates? at h
    split at h
    · rename_i x y hcut
      -- The pieces joined again are the text, so there is one point in it.
      have htext : ['.'].intercalate (text.splitOn '.') = text := List.intercalate_splitOn '.'
      rw [hcut, List.intercalate_cons_cons, List.intercalate_singleton] at htext
      simp only [Option.bind_eq_bind, Option.bind_eq_some_iff, Option.pure_def,
        Option.some.injEq] at h
      rcases h with ⟨a, ha, b, hb, hcell⟩
      rw [← hcell]
      exact ⟨x, y, by rw [← htext]; simp, byte?_eq_some_iff.mp ha, byte?_eq_some_iff.mp hb⟩
    · exact absurd h (by simp only [reduceCtorEq, not_false_eq_true])
  · intro h
    rcases h with ⟨x, y, htext, hx, hy⟩
    -- Neither number holds a point, so the cut is at the point between them.
    have hnotX : '.' ∉ x := SpellsNumber.notMem hx (by decide) (by decide)
    have hnotY : '.' ∉ y := SpellsNumber.notMem hy (by decide) (by decide)
    rw [coordinates?, htext, List.splitOn_append_cons_self_of_not_mem hnotX,
      List.splitOn_eq_singleton hnotY]
    simp only [byte?_eq_some_iff.mpr hx, byte?_eq_some_iff.mpr hy]
    rfl

theorem cell?_eq_some_iff {token : List Char} {cell : Cell} :
    cell? token = some cell ↔ SpellsCell token cell := by
  rw [cell?, Option.bind_eq_bind, Option.bind_eq_some_iff, SpellsCell]
  simp only [between?_eq_some_iff (by decide : Text.isSpace '{' = false)
    (by decide : Text.isSpace '}' = false), coordinates?_eq_some_iff]

theorem namedSpawn?_eq_some_iff {token : List Char} {spawn : NamedSpawn} :
    namedSpawn? token = some spawn ↔ SpellsSpawn token spawn := by
  rw [namedSpawn?, Option.bind_eq_bind, Option.bind_eq_some_iff, SpellsSpawn]
  simp only [between?_eq_some_iff (by decide : Text.isSpace '{' = false)
    (by decide : Text.isSpace '}' = false)]
  refine exists_congr fun inner => and_congr_right fun _ => ?_
  constructor
  · intro h
    split at h
    · rename_i name id cell hcut
      -- The pieces joined again are the text, so there are two hyphens in it.
      have hinner : ['-'].intercalate (inner.splitOn '-') = inner := List.intercalate_splitOn '-'
      rw [hcut, List.intercalate_cons_cons, List.intercalate_cons_cons,
        List.intercalate_singleton] at hinner
      simp only [Option.bind_eq_bind, Option.bind_eq_some_iff, Option.pure_def,
        Option.some.injEq] at h
      rcases h with ⟨n, hn, b, hb, c, hc, hspawn⟩
      rw [← hspawn]
      exact ⟨name, id, cell, by rw [← hinner]; simp, name?_eq_some_iff.mp hn,
        byte?_eq_some_iff.mp hb, coordinates?_eq_some_iff.mp hc⟩
    · exact absurd h (by simp only [reduceCtorEq, not_false_eq_true])
  · intro h
    rcases h with ⟨name, id, cell, hinner, hname, hid, hcell⟩
    -- None of the three parts holds a hyphen, so the cuts are at the two between them.
    have hnotName : '-' ∉ name := hname.notMem (by decide) (by decide)
    have hnotId : '-' ∉ id := SpellsNumber.notMem hid (by decide) (by decide)
    have hnotCell : '-' ∉ cell := hcell.notMem (by decide) (by decide) (by decide)
    rw [hinner, List.splitOn_append_cons_self_of_not_mem hnotName,
      List.splitOn_append_cons_self_of_not_mem hnotId, List.splitOn_eq_singleton hnotCell]
    simp only [name?_eq_some_iff.mpr hname, byte?_eq_some_iff.mpr hid,
      coordinates?_eq_some_iff.mpr hcell]
    rfl

/-! ## Lists -/

section Elements

variable {α : Type} {element? : List Char → Option α} {element : List Char → α → Prop}

/-- What has to be known of elements for a list of them to be cut right. -/
structure Separable (element : List Char → α → Prop) : Prop where
  comma_notMem : ∀ {token a}, element token a → ',' ∉ token
  not_spaces : ∀ {token a}, element token a → ¬ Spaces token

theorem mapM_splitOn_eq_some_iff (hread : ∀ token a, element? token = some a ↔ element token a)
    (hseparable : Separable element) {text : List Char} {as : List α} :
    (text.splitOn ',').mapM element? = some as ↔ SpellsElements element text as := by
  constructor
  · -- The cut is either at the first comma or nowhere, and each cut yields one element.
    intro h
    induction as generalizing text with
    | nil =>
        -- A cut has one piece at least, so no elements are not read from any text.
        rcases List.exists_cons_of_ne_nil (List.splitOn_ne_nil ',' text) with ⟨token, rest, hcut⟩
        rw [hcut, List.mapM_cons] at h
        simp [Option.bind_eq_some_iff] at h
    | cons a as ih =>
        by_cases hcomma : ',' ∈ text
        · rcases List.eq_append_cons_of_mem hcomma with ⟨token, rest, htext, hnot⟩
          rw [htext, List.splitOn_append_cons_self_of_not_mem hnot, List.mapM_cons] at h
          simp only [Option.bind_eq_bind, Option.bind_eq_some_iff, Option.pure_def,
            Option.some.injEq, List.cons.injEq] at h
          rcases h with ⟨b, hb, bs, hbs, hba, hbas⟩
          rw [htext]
          exact .more ((hread token a).mp (hba ▸ hb)) (ih (hbas ▸ hbs))
        · rw [List.splitOn_eq_singleton hcomma, List.mapM_cons, List.mapM_nil] at h
          simp only [Option.bind_eq_bind, Option.bind_eq_some_iff, Option.pure_def,
            Option.some.injEq, List.cons.injEq, exists_eq_left'] at h
          rcases h with ⟨b, hb, hba, hnil⟩
          rw [← hnil]
          exact .last ((hread text a).mp (hba ▸ hb))
  · intro h
    -- No element holds a comma, so the cuts are at the commas between them.
    induction h with
    | last ha =>
        rw [List.splitOn_eq_singleton (hseparable.comma_notMem ha), List.mapM_cons,
          (hread _ _).mpr ha]
        rfl
    | more ha has ih =>
        rw [List.splitOn_append_cons_self_of_not_mem (hseparable.comma_notMem ha),
          List.mapM_cons, (hread _ _).mpr ha, ih]
        rfl

theorem SpellsElements.not_spaces (hseparable : Separable element) {text : List Char}
    {as : List α} (h : SpellsElements element text as) : ¬ Spaces text := by
  cases h with
  | last ha => exact hseparable.not_spaces ha
  | more ha has =>
      intro hspaces
      exact hseparable.not_spaces ha fun c hc => hspaces c (List.mem_append_left _ hc)

theorem list?_eq_some_iff (hread : ∀ token a, element? token = some a ↔ element token a)
    (hseparable : Separable element) {token : List Char} {as : List α} :
    list? element? token = some as ↔ SpellsList element token as := by
  rw [list?, Option.bind_eq_bind, Option.bind_eq_some_iff, SpellsList]
  simp only [between?_eq_some_iff (by decide : Text.isSpace '[' = false)
    (by decide : Text.isSpace ']' = false)]
  refine exists_congr fun inner => and_congr_right fun _ => ?_
  -- Spaces alone are the empty list, and no element is made of spaces.
  by_cases hinner : Spaces inner
  · have hall : inner.all Text.isSpace = true := List.all_eq_true.mpr (spaces_iff.mp hinner)
    have helements : ¬ SpellsElements element inner as := fun h => h.not_spaces hseparable hinner
    rw [if_pos hall, Option.pure_def, Option.some.injEq]
    simp only [hinner, helements, true_and, or_false, eq_comm]
  · have hall : ¬ inner.all Text.isSpace = true := fun h =>
      hinner (spaces_iff.mpr (List.all_eq_true.mp h))
    rw [if_neg hall, mapM_splitOn_eq_some_iff hread hseparable]
    simp only [hinner, false_and, false_or]

end Elements

theorem separable_byte : Separable SpellsByte where
  comma_notMem h := SpellsNumber.notMem h (by decide) (by decide)
  not_spaces h := SpellsNumber.not_spaces h

theorem separable_cell : Separable SpellsCell where
  comma_notMem := by
    intro token cell h
    rcases h with ⟨inner, henclosed, hinner⟩
    have hnotInner := hinner.notMem (c := ',') (by decide) (by decide) (by decide)
    exact henclosed.notMem (by decide) (by decide) hnotInner (by decide)
  not_spaces := by
    intro token cell h
    rcases h with ⟨inner, henclosed, -⟩
    exact henclosed.not_spaces (by decide)

theorem separable_spawn : Separable SpellsSpawn where
  comma_notMem := by
    intro token spawn h
    rcases h with ⟨inner, henclosed, name, id, cell, hinner, hname, hid, hcell⟩
    -- A comma would have to be in one of the three parts, for it is no hyphen.
    have hnotInner : ',' ∉ inner := by
      have hnotName : ',' ∉ name := hname.notMem (by decide) (by decide)
      have hnotId : ',' ∉ id := SpellsNumber.notMem hid (by decide) (by decide)
      have hnotCell : ',' ∉ cell := hcell.notMem (by decide) (by decide) (by decide)
      simp [hinner, hnotName, hnotId, hnotCell]
    exact henclosed.notMem (by decide) (by decide) hnotInner (by decide)
  not_spaces := by
    intro token spawn h
    rcases h with ⟨inner, henclosed, -⟩
    exact henclosed.not_spaces (by decide)

theorem idList?_eq_some_iff {token : List Char} {ids : List UInt8} :
    list? byte? token = some ids ↔ SpellsList SpellsByte token ids :=
  list?_eq_some_iff (fun _ _ => byte?_eq_some_iff) separable_byte

theorem cellList?_eq_some_iff {token : List Char} {cells : List Cell} :
    list? cell? token = some cells ↔ SpellsList SpellsCell token cells :=
  list?_eq_some_iff (fun _ _ => cell?_eq_some_iff) separable_cell

theorem spawnList?_eq_some_iff {token : List Char} {spawns : List NamedSpawn} :
    list? namedSpawn? token = some spawns ↔ SpellsList SpellsSpawn token spawns :=
  list?_eq_some_iff (fun _ _ => namedSpawn?_eq_some_iff) separable_spawn

/-- The readers of tokens accept what the grammar spells and nothing else, with the values
    that it says: numbers up to the limit of their type, cells, spawns whose type is still
    a name, and lists of any length. -/
theorem readers_eq_some_iff (token : List Char) :
    (∀ n, (byte? token).map UInt8.toNat = some n ↔ SpellsNumber token n ∧ n ≤ 255) ∧
      (∀ n, (millis? token).map UInt32.toNat = some n ↔
        SpellsNumber token n ∧ n ≤ 4294967295) ∧
      (∀ cell, cell? token = some cell ↔ SpellsCell token cell) ∧
      (∀ spawn, namedSpawn? token = some spawn ↔ SpellsSpawn token spawn) ∧
      (∀ bytes, list? byte? token = some bytes ↔ SpellsList SpellsByte token bytes) ∧
      (∀ cells, list? cell? token = some cells ↔ SpellsList SpellsCell token cells) ∧
      ∀ spawns, list? namedSpawn? token = some spawns ↔ SpellsList SpellsSpawn token spawns := by
  refine ⟨?_, ?_, fun _ => cell?_eq_some_iff, fun _ => namedSpawn?_eq_some_iff,
    fun _ => idList?_eq_some_iff, fun _ => cellList?_eq_some_iff, fun _ => spawnList?_eq_some_iff⟩
  · intro n
    rw [map_toNat_byte?]
    exact value?_trimSpaces_eq_some_iff
  · intro n
    rw [map_toNat_millis?]
    exact value?_trimSpaces_eq_some_iff

end Token

end TileTriggers
