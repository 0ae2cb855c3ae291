import TileTriggers.Script.Compile
import TileTriggers.Proofs.Fallible
import TileTriggers.Proofs.Script.Spelling

/-!
# Reading Back an Argument

Every argument that breaks no rule is read back from its text. The readers cut
first and look at the pieces afterwards, so for each construct there is one thing
to know: the separator does not occur in the parts, which is a matter of alphabets.

List elements are written with a space behind the comma. Cutting at the comma
leaves that space in front of all elements but the first, and no element reader
minds it.

## Theorems

* `splitOn_intercalate_space`: Cutting at a separator that has a space behind it.
* `cell?_render`, `namedSpawn?_render`, `list?_bracketed`: Constructs are read back.
* `readField_render`: Arguments are read back.
-/

namespace TileTriggers

/-- A text joined by a separator with a space behind it, cut at the separator: all
    pieces but the first have the space in front. -/
theorem splitOn_intercalate_space {separator : Char} (hspace : ' ' ≠ separator)
    {piece : List Char} {pieces : List (List Char)}
    (h : ∀ other ∈ piece :: pieces, separator ∉ other) :
    ([separator, ' '].intercalate (piece :: pieces)).splitOn separator =
      piece :: pieces.map (' ' :: ·) := by
  induction pieces generalizing piece with
  | nil =>
      rw [List.intercalate_singleton, List.splitOn_eq_singleton (h piece List.mem_cons_self)]
      rfl
  | cons next pieces ih =>
      rw [List.forall_mem_cons] at h
      rw [List.intercalate_cons_cons, List.append_assoc, List.cons_append, List.cons_append,
        List.nil_append, List.splitOn_append_cons_self_of_not_mem h.1,
        List.splitOn_cons_eq_if_modifyHead, ih h.2, if_neg (by simpa using hspace)]
      rfl

theorem mem_intercalate_cons (separator : List Char) {piece : List Char} {c : Char}
    (h : c ∈ piece) (pieces : List (List Char)) :
    c ∈ separator.intercalate (piece :: pieces) := by
  cases pieces with
  | nil =>
      rw [List.intercalate_singleton]
      exact h
  | cons next pieces =>
      rw [List.intercalate_cons_cons, List.append_assoc]
      exact List.mem_append_left _ h

namespace Token

theorem trimSpaces_of_isElementChar {cs : List Char} (h : ∀ c ∈ cs, isElementChar c) :
    Text.trimSpaces cs = cs := by
  refine Text.trimBy_eq_self_iff.mpr (Text.tight_of_forall fun c hc => ?_)
  exact isSpace_of_isElementChar (h c hc)

theorem between?_self (opening closing : Char) (hopening : Text.isSpace opening = false)
    (hclosing : Text.isSpace closing = false) (cs : List Char) :
    between? opening closing (opening :: (cs ++ [closing])) = some cs := by
  have htight : Text.trimSpaces (opening :: (cs ++ [closing])) = opening :: (cs ++ [closing]) :=
    Text.trimBy_eq_self_iff.mpr (Text.tight_cons_append hopening hclosing cs)
  rw [between?, htight]
  simp only [List.getLast?_concat, and_self, if_true, List.dropLast_concat]

theorem between?_space (opening closing : Char) (cs : List Char) :
    between? opening closing (' ' :: cs) = between? opening closing cs := by
  rw [between?, Text.trimSpaces, Text.trimBy_cons_of_pos (by decide)]
  rfl

theorem trimSpaces_digits (n : Nat) : Text.trimSpaces (Decimal.digits n) = Decimal.digits n :=
  trimSpaces_of_isElementChar fun _ hc => isElementChar_of_isNameChar (isNameChar_of_mem_digits hc)

theorem byte?_digits (b : UInt8) : byte? (Decimal.digits b.toNat) = some b := by
  have hlt := b.toNat_lt
  rw [byte?, trimSpaces_digits, Decimal.value?_digits (by omega), Option.map_some,
    UInt8.ofNat_toNat]

theorem byte?_space (cs : List Char) : byte? (' ' :: cs) = byte? cs := by
  rw [byte?, Text.trimSpaces, Text.trimBy_cons_of_pos (by decide)]
  rfl

theorem millis?_digits (ms : UInt32) : millis? (Decimal.digits ms.toNat) = some ms := by
  have hlt := ms.toNat_lt
  rw [millis?, trimSpaces_digits, Decimal.value?_digits (by omega), Option.map_some,
    UInt32.ofNat_toNat]

theorem coordinates?_coordinates (cell : Cell) : coordinates? cell.coordinates = some cell := by
  -- Numerals hold no point, so the cut is at the point between them.
  have hpoint : ∀ n, '.' ∉ Decimal.digits n := fun n =>
    not_mem_of_alphabet (fun _ => isNameChar_of_mem_digits) (by decide)
  rw [coordinates?, Cell.coordinates, List.splitOn_append_cons_self_of_not_mem (hpoint _),
    List.splitOn_eq_singleton (hpoint _)]
  simp only [byte?_digits]
  rfl

theorem cell?_render (cell : Cell) : cell? cell.render = some cell := by
  rw [cell?, Cell.render, between?_self '{' '}' (by decide) (by decide)]
  exact coordinates?_coordinates cell

theorem cell?_space (cs : List Char) : cell? (' ' :: cs) = cell? cs := by
  rw [cell?, between?_space]
  rfl

theorem name?_keyword (kind : TileType) : name? kind.keyword.toList = some kind.keyword := by
  have hchars : ∀ c ∈ kind.keyword.toList, isNameChar c := fun _ =>
    Vocabulary.isNameChar_of_mem_keyword (a := kind)
  have htrim : Text.trimSpaces kind.keyword.toList = kind.keyword.toList :=
    trimSpaces_of_isElementChar fun c hc => isElementChar_of_isNameChar (hchars c hc)
  have hne : kind.keyword.toList ≠ [] := Vocabulary.keyword_ne_nil kind
  rw [name?, htrim]
  simp only [List.isEmpty_iff, hne, List.all_eq_true.mpr hchars, not_true_eq_false, or_self,
    if_false, String.ofList_toList]

theorem namedSpawn?_render (spawn : Spawn) :
    namedSpawn? spawn.render = some ⟨spawn.kind.keyword, spawn.id, spawn.cell⟩ := by
  -- No part holds a hyphen, so the cuts are at the two between them.
  have hname : '-' ∉ spawn.kind.keyword.toList :=
    not_mem_of_alphabet (fun _ => Vocabulary.isNameChar_of_mem_keyword (a := spawn.kind))
      (by decide)
  have hid : '-' ∉ Decimal.digits spawn.id.toNat :=
    not_mem_of_alphabet (fun _ => isNameChar_of_mem_digits) (by decide)
  have hcell : '-' ∉ spawn.cell.coordinates := by
    intro hmem
    rcases chars_coordinates hmem with h | h
    · exact absurd h (by decide)
    · exact absurd h (by decide)
  have hinner := between?_self '{' '}' (by decide) (by decide)
    (spawn.kind.keyword.toList ++ '-' :: (Decimal.digits spawn.id.toNat ++
      '-' :: spawn.cell.coordinates))
  rw [List.append_assoc, List.cons_append, List.append_assoc, List.cons_append] at hinner
  rw [namedSpawn?, Spawn.render, hinner]
  simp only [Option.bind_eq_bind, Option.bind_some,
    List.splitOn_append_cons_self_of_not_mem hname, List.splitOn_append_cons_self_of_not_mem hid,
    List.splitOn_eq_singleton hcell, name?_keyword, byte?_digits, coordinates?_coordinates]
  rfl

theorem namedSpawn?_space (cs : List Char) : namedSpawn? (' ' :: cs) = namedSpawn? cs := by
  rw [namedSpawn?, between?_space]
  rfl

/-- A list is read back when its elements are, a space in front of an element makes no
    difference, and no element is empty or holds anything but element characters. -/
theorem list?_bracketed {α β : Type} {element? : List Char → Option β} (as : List α)
    (render : α → List Char) (value : α → β)
    (hspace : ∀ token, element? (' ' :: token) = element? token)
    (hread : ∀ a ∈ as, element? (render a) = some (value a))
    (hne : ∀ a ∈ as, render a ≠ [])
    (hchars : ∀ a ∈ as, ∀ c ∈ render a, isElementChar c) :
    list? element? (bracketed (as.map render)) = some (as.map value) := by
  rw [list?, bracketed, between?_self '[' ']' (by decide) (by decide)]
  simp only [Option.bind_eq_bind, Option.bind_some]
  -- No elements are written as nothing between the brackets, which is a case of its own.
  cases as with
  | nil => rfl
  | cons a as =>
      -- The elements hold no comma, so the cut gives them back, with the spaces.
      have hcut : ([',', ' '].intercalate ((a :: as).map render)).splitOn ',' =
          render a :: (as.map render).map (' ' :: ·) := by
        refine splitOn_intercalate_space (by decide) fun piece hpiece => ?_
        rcases List.mem_map.mp (List.map_cons ▸ hpiece) with ⟨b, hb, rfl⟩
        exact not_mem_of_alphabet (hchars b hb) (by decide)
      rw [if_neg, hcut]
      · rw [List.forall_mem_cons] at hread
        rw [List.mapM_cons, hread.1, List.map_map, List.mapM_map,
          Fallible.mapM_of_forall (g := value)]
        · rfl
        · intro b hb
          rw [Function.comp_apply, Function.comp_apply, hspace]
          exact hread.2 b hb
      · -- The first character of the first element is no space.
        rcases List.exists_cons_of_ne_nil (hne a List.mem_cons_self) with ⟨c, cs, hcs⟩
        intro hall
        have hmem : c ∈ render a := hcs ▸ List.mem_cons_self
        have hspaces := List.all_eq_true.mp hall c (mem_intercalate_cons _ hmem _)
        rw [isSpace_of_isElementChar (hchars a List.mem_cons_self c hmem)] at hspaces
        exact absurd hspaces (by decide)

theorem trim_keyword {α : Type} [Vocabulary α] [Vocabulary.Faithful α] [Vocabulary.Spelled α]
    (a : α) : Text.trim (Vocabulary.keyword a).toList = (Vocabulary.keyword a).toList := by
  refine Text.trimBy_eq_self_iff.mpr (Text.tight_of_forall fun c hc => ?_)
  exact isBlank_of_isNameChar (Vocabulary.isNameChar_of_mem_keyword hc)

theorem keyword?_keyword {α : Type} [Vocabulary α] [Vocabulary.Faithful α]
    [Vocabulary.Spelled α] (a : α) : keyword? (Vocabulary.keyword a).toList = some a := by
  rw [keyword?, trim_keyword, String.ofList_toList, Vocabulary.ofKeyword?_keyword]

end Token

/-- An argument that breaks no rule is read back from its text. -/
theorem readField_render (error : ScriptError) {v : FieldValue} (h : v.violation? = none) :
    readField error v.kind v.render = .ok v := by
  -- Each kind of argument has its reader, and the reader finds its own text.
  cases v with
  | combine value | order value | «repeat» value =>
      simp only [readField, FieldValue.kind, FieldValue.render, Token.keyword?_keyword]
      rfl
  | ids values =>
      have hread := Token.list?_bracketed values _ id Token.byte?_space
        (fun b _ => Token.byte?_digits b) (fun _ _ => Nat.toDigits_ne_nil)
        fun _ _ _ hc => isElementChar_of_isNameChar (isNameChar_of_mem_digits hc)
      simp only [readField, FieldValue.kind, FieldValue.render, hread, List.map_id]
      rfl
  | cells values =>
      have hread := Token.list?_bracketed values Cell.render id Token.cell?_space
        (fun cell _ => Token.cell?_render cell) (fun _ _ => List.cons_ne_nil _ _)
        fun _ _ _ => isElementChar_of_mem_cell
      simp only [readField, FieldValue.kind, FieldValue.render, hread, List.map_id]
      rfl
  | spawns values =>
      -- The reader leaves a name in place of each type, and every name is found.
      have hread := Token.list?_bracketed values Spawn.render
        (fun spawn => NamedSpawn.mk spawn.kind.keyword spawn.id spawn.cell)
        Token.namedSpawn?_space (fun spawn _ => Token.namedSpawn?_render spawn)
        (fun _ _ => List.cons_ne_nil _ _) fun _ _ _ => isElementChar_of_mem_spawn
      have hresolve : ∀ spawn ∈ values,
          NamedSpawn.resolve ⟨spawn.kind.keyword, spawn.id, spawn.cell⟩ = pure spawn := by
        intro spawn _
        have hname := Vocabulary.ofKeyword?_keyword spawn.kind
        change Vocabulary.ofKeyword? spawn.kind.keyword = _ at hname
        rw [NamedSpawn.resolve, hname]
        rfl
      simp only [readField, FieldValue.kind, FieldValue.render]
      rw [hread, Fallible.bind_eq_ok]
      refine ⟨_, rfl, ?_⟩
      rw [List.mapM_map, Fallible.bind_eq_ok]
      exact ⟨values, (Fallible.mapM_of_forall hresolve).trans (by rw [List.map_id']; rfl), rfl⟩
  | millis value =>
      simp only [readField, FieldValue.kind, FieldValue.render, Token.millis?_digits]
      rfl
  | mapIndex value =>
      simp only [readField, FieldValue.kind, FieldValue.render, Token.byte?_digits]
      rfl
  | cell value =>
      simp only [readField, FieldValue.kind, FieldValue.render, Token.cell?_render]
      rfl
  | text value =>
      rcases text_of_textFault? (Option.map_eq_none_iff.mp h) with ⟨hne, -, htight⟩
      -- A text without a fault has no blanks at its ends, so trimming leaves it as it is.
      have htrim : Text.trim value.toList = value.toList := Text.trimBy_eq_self_iff.mpr htight
      simp only [readField, FieldValue.kind, FieldValue.render, Token.text?, htrim,
        List.isEmpty_iff, hne, if_false, String.ofList_toList]
      rfl

end TileTriggers
