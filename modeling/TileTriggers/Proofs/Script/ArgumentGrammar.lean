import TileTriggers.Proofs.Script.RoundTrip
import TileTriggers.Proofs.Script.TokenGrammar
import TileTriggers.Proofs.Text.Lines
import Mathlib.Data.List.Forall2

/-!
# The Grammar of Calls

An operator word with its arguments is a call. What a call says is put plainly here:
cut what is between the parentheses at every semicolon, and the pieces are the arguments,
one of each kind that the schema of the operator asks for. A dialog text is the exception
and not cut at all.

The reader never does this cut. It cuts off as many tokens as there are kinds, and what
is left over stays in the last one. A surplus argument then shows itself in two ways. If
a single token is more than the schema has room for, there are too many tokens. Otherwise
the last token holds a semicolon, as every piece too many brings one with it, and trimming
takes none away. In both cases the reader refuses. With no piece too many the two cuts
are the same.

## Main definitions

* `SpellsArgument`: The text of an argument.
* `Inside`: What is between the parentheses.
* `SpellsArguments`: The text of all arguments of an operator.
* `SpellsCall`: An operator word with its arguments.

## Theorems

* `readField_eq_ok_iff`: An argument is read as what it spells.
* `splitAtMost_of_le`, `exists_splitAtMost_of_lt`: The two cuts.
* `readTokens_eq_ok_iff`, `readTokens_ne_ok_of_surplus`: The arguments along a schema.
* `readFields_eq_ok_iff`: The arguments of an operator are read as what they spell.
* `LineParts.compile_eq_ok_iff`: A script is compiled from the calls that spell it.
* `LineParts.compile_by_grammar`: The calls of a line decide what is compiled from it.
-/

namespace TileTriggers

/-- A spawn with the name of its type in place of the type. -/
def Spawn.named (s : Spawn) : NamedSpawn :=
  ⟨s.kind.keyword, s.id, s.cell⟩

open Token in
/-- The text of an argument, without blanks at its ends. Keywords and the names in spawns
    are exact. -/
def SpellsArgument (token : List Char) : FieldValue → Prop
  | .combine value => token = (Vocabulary.keyword value).toList
  | .ids values => SpellsList SpellsByte token values
  | .cells values => SpellsList SpellsCell token values
  | .spawns values => SpellsList SpellsSpawn token (values.map Spawn.named)
  | .order value => token = (Vocabulary.keyword value).toList
  | .repeat value => token = (Vocabulary.keyword value).toList
  | .millis value => SpellsNumber token value.toNat
  | .mapIndex value => SpellsByte token value
  | .cell value => SpellsCell token value
  | .text value => token ≠ [] ∧ token = value.toList

/-- A piece that is not blank and spells an argument. -/
def Fills (piece : List Char) (value : FieldValue) : Prop :=
  piece ≠ [] ∧ SpellsArgument piece value

/-- What is between the parentheses of an argument list, without blanks at its ends. -/
def Inside (args inner : List Char) : Prop :=
  ∃ between, Text.trim args = '(' :: (between ++ [')']) ∧ Text.trim between = inner

/-- All pieces between semicolons, without blanks at their ends. A blank text has none. -/
def pieces (inner : List Char) : List (List Char) :=
  if inner = [] then [] else (inner.splitOn ';').map Text.trim

/-- The arguments that a schema asks for: one piece for each kind, or a single text. -/
inductive SpellsArguments : List FieldKind → List Char → List FieldValue → Prop
  | separated {schema : List FieldKind} {inner : List Char} {values : List FieldValue}
      (htext : .text ∉ schema) (hkinds : values.map FieldValue.kind = schema)
      (hpieces : List.Forall₂ Fills (pieces inner) values) : SpellsArguments schema inner values
  | whole {inner : List Char} (hne : inner ≠ []) :
      SpellsArguments [.text] inner [.text (String.ofList inner)]

/-- An operator word with arguments in parentheses. Blanks around the word do not matter,
    nor does the case of ASCII letters in it. -/
structure SpellsCall (op : Operator) (word args : String) (values : List FieldValue) : Prop where
  word_eq : Vocabulary.lowered op.keyword =
    Vocabulary.lowered (String.ofList (Text.trim word.toList))
  arguments : ∃ inner, Inside args.toList inner ∧ SpellsArguments op.schema inner values

/-! ## A Single Argument -/

theorem orError_eq_ok_iff {ε α : Type} {e : ε} {o : Option α} {a : α} :
    orError e o = .ok a ↔ o = some a := by
  cases o with
  | none => simp [orError]
  | some b => simp [orError]

theorem map_orError_eq_ok_iff {ε α β : Type} {e : ε} {o : Option α} {f : α → β} {b : β} :
    f <$> orError e o = .ok b ↔ ∃ a, o = some a ∧ f a = b := by
  simp only [Fallible.map_eq_ok, orError_eq_ok_iff]

theorem resolve_eq_ok_iff {named : NamedSpawn} {spawn : Spawn} :
    named.resolve = .ok spawn ↔ named = spawn.named := by
  unfold NamedSpawn.resolve
  constructor
  · intro h
    -- A name that is no keyword is refused, so there is a kind with this keyword.
    split at h
    · rename_i kind hkind
      have hname : named.name = kind.keyword := Vocabulary.ofKeyword?_eq_some_iff.mp hkind
      rw [← Except.ok.inj h, Spawn.named, ← hname]
    · exact absurd h (by simp only [reduceCtorEq, not_false_eq_true])
  · intro h
    -- The other way round, the keyword of a kind names that kind and no other.
    have hkind : Vocabulary.ofKeyword? named.name = some spawn.kind := by
      rw [h]
      exact Vocabulary.ofKeyword?_keyword spawn.kind
    rw [hkind, h]
    rfl

section Tight

variable {token : List Char}

theorem keyword?_eq_some_iff {α : Type} [Vocabulary α] [Vocabulary.Faithful α] {a : α}
    (htight : Text.Tight Text.isBlank token) :
    Token.keyword? token = some a ↔ token = (Vocabulary.keyword a).toList := by
  rw [Token.keyword?, Text.trim, Text.trimBy_eq_self_iff.mpr htight,
    Vocabulary.ofKeyword?_eq_some_iff, ← String.toList_inj, String.toList_ofList]

theorem text?_eq_some_iff {text : String} (htight : Text.Tight Text.isBlank token) :
    Token.text? token = some text ↔ token ≠ [] ∧ token = text.toList := by
  rw [Token.text?, Text.trim, Text.trimBy_eq_self_iff.mpr htight]
  by_cases hnil : token = []
  · simp [hnil]
  · simp only [List.isEmpty_iff, hnil, if_false, Option.some.injEq, ne_eq, not_false_eq_true,
      true_and, ← String.toList_inj, String.toList_ofList]

theorem mapM_resolve_eq_ok_iff {named : List NamedSpawn} {spawns : List Spawn} :
    named.mapM NamedSpawn.resolve = .ok spawns ↔ named = spawns.map Spawn.named :=
  Fallible.mapM_eq_ok_iff_map fun _ _ => resolve_eq_ok_iff

variable {error : ScriptError} {kind : FieldKind} {value : FieldValue}

/-- What is read is of the kind asked for, and the text spells it. -/
theorem spells_of_readField (htight : Text.Tight Text.isBlank token)
    (h : readField error kind token = .ok value) :
    value.kind = kind ∧ SpellsArgument token value := by
  -- One case for each kind, and in each of them the grammar of its reader decides.
  cases kind with
  | combine | order | «repeat» =>
      rcases map_orError_eq_ok_iff.mp h with ⟨a, ha, hvalue⟩
      rw [← hvalue]
      exact ⟨rfl, (keyword?_eq_some_iff htight).mp ha⟩
  | idList =>
      rcases map_orError_eq_ok_iff.mp h with ⟨ids, hids, hvalue⟩
      rw [← hvalue]
      exact ⟨rfl, Token.idList?_eq_some_iff.mp hids⟩
  | cellList =>
      rcases map_orError_eq_ok_iff.mp h with ⟨cells, hcells, hvalue⟩
      rw [← hvalue]
      exact ⟨rfl, Token.cellList?_eq_some_iff.mp hcells⟩
  | spawnList =>
      -- The names are looked up behind the reader, and none of them is lost or changed.
      rcases Fallible.bind_eq_ok.mp h with ⟨named, hnamed, hrest⟩
      rcases Fallible.bind_eq_ok.mp hrest with ⟨spawns, hspawns, hvalue⟩
      have hread := Token.spawnList?_eq_some_iff.mp (orError_eq_ok_iff.mp hnamed)
      rw [mapM_resolve_eq_ok_iff.mp hspawns] at hread
      rw [← Except.ok.inj hvalue]
      exact ⟨rfl, hread⟩
  | millis =>
      rcases map_orError_eq_ok_iff.mp h with ⟨ms, hms, hvalue⟩
      rw [← hvalue]
      exact ⟨rfl, Token.millis?_eq_some_iff.mp hms⟩
  | mapIndex =>
      rcases map_orError_eq_ok_iff.mp h with ⟨map, hmap, hvalue⟩
      rw [← hvalue]
      exact ⟨rfl, Token.byte?_eq_some_iff.mp hmap⟩
  | cell =>
      rcases map_orError_eq_ok_iff.mp h with ⟨cell, hcell, hvalue⟩
      rw [← hvalue]
      exact ⟨rfl, Token.cell?_eq_some_iff.mp hcell⟩
  | text =>
      rcases map_orError_eq_ok_iff.mp h with ⟨text, htext, hvalue⟩
      rw [← hvalue]
      exact ⟨rfl, (text?_eq_some_iff htight).mp htext⟩

/-- What the text spells is read when an argument of its kind is asked for. -/
theorem readField_of_spells (htight : Text.Tight Text.isBlank token)
    (h : SpellsArgument token value) : readField error value.kind token = .ok value := by
  cases value with
  | combine a | order a | «repeat» a =>
      exact map_orError_eq_ok_iff.mpr ⟨a, (keyword?_eq_some_iff htight).mpr h, rfl⟩
  | ids ids => exact map_orError_eq_ok_iff.mpr ⟨ids, Token.idList?_eq_some_iff.mpr h, rfl⟩
  | cells cells => exact map_orError_eq_ok_iff.mpr ⟨cells, Token.cellList?_eq_some_iff.mpr h, rfl⟩
  | spawns spawns =>
      have hread := Token.spawnList?_eq_some_iff.mpr h
      refine Fallible.bind_eq_ok.mpr ⟨_, orError_eq_ok_iff.mpr hread, ?_⟩
      exact Fallible.bind_eq_ok.mpr ⟨spawns, mapM_resolve_eq_ok_iff.mpr rfl, rfl⟩
  | millis ms => exact map_orError_eq_ok_iff.mpr ⟨ms, Token.millis?_eq_some_iff.mpr h, rfl⟩
  | mapIndex map => exact map_orError_eq_ok_iff.mpr ⟨map, Token.byte?_eq_some_iff.mpr h, rfl⟩
  | cell cell => exact map_orError_eq_ok_iff.mpr ⟨cell, Token.cell?_eq_some_iff.mpr h, rfl⟩
  | text text => exact map_orError_eq_ok_iff.mpr ⟨text, (text?_eq_some_iff htight).mpr h, rfl⟩

/-- An argument is read as what its text spells, if that is of the kind asked for. -/
theorem readField_eq_ok_iff (htight : Text.Tight Text.isBlank token) :
    readField error kind token = .ok value ↔ value.kind = kind ∧ SpellsArgument token value := by
  constructor
  · exact spells_of_readField htight
  · intro h
    rw [← h.1]
    exact readField_of_spells htight h.2

end Tight

/-! ## The Two Cuts -/

theorem splitAtMost_of_le {n : Nat} {separator : Char} {cs : List Char}
    (h : (cs.splitOn separator).length ≤ n) :
    splitAtMost n separator cs = cs.splitOn separator := by
  rw [splitAtMost]
  exact if_pos h

/-- With a piece too many the last token holds a separator. -/
theorem exists_splitAtMost_of_lt {n : Nat} {separator : Char} {cs : List Char}
    (h : n + 1 < (cs.splitOn separator).length) :
    ∃ front token, splitAtMost (n + 1) separator cs = front ++ [token] ∧ front.length = n ∧
      separator ∈ token := by
  -- The pieces from the last token on are joined again, separators included.
  refine ⟨_, _, if_neg (by omega), ?_, ?_⟩
  · rw [List.length_take]
    omega
  · -- Two pieces at least are left for the last token.
    have hlength : 2 ≤ ((cs.splitOn separator).drop n).length := by
      rw [List.length_drop]
      omega
    rw [Nat.add_sub_cancel]
    rcases hdrop : (cs.splitOn separator).drop n with _ | ⟨piece, _ | ⟨next, rest⟩⟩
    · rw [hdrop] at hlength
      exact absurd hlength (by simp)
    · rw [hdrop] at hlength
      exact absurd hlength (by simp)
    · rw [List.intercalate_cons_cons]
      simp

/-! ## The Arguments along a Schema -/

section Schema

variable (op : Operator) (index : Nat) {kinds : List FieldKind} {kind : FieldKind}
  {tokens : List (List Char)} {token : List Char} {values : List FieldValue}

/-- What it takes to read an argument and those behind it. -/
theorem readTokens_cons_eq_ok_iff :
    readTokens op index (kind :: kinds) (token :: tokens) = .ok values ↔
      token ≠ [] ∧ ¬ (kinds = [] ∧ kind ≠ .text ∧ ';' ∈ token) ∧ ∃ value rest,
        readField (.unreadableField op index kind (String.ofList token)) kind token = .ok value ∧
          readTokens op (index + 1) kinds tokens = .ok rest ∧ values = value :: rest := by
  rw [readTokens]
  -- Three ways to go: no text in it, a surplus argument in it, or the reader of the kind.
  by_cases hempty : token = []
  · simp [hempty, throw, throwThe, MonadExceptOf.throw]
  · by_cases hsurplus : kinds = [] ∧ kind ≠ .text ∧ ';' ∈ token
    · simp [hempty, hsurplus, throw, throwThe, MonadExceptOf.throw]
    · have hpasses : (kinds.isEmpty && kind != .text && token.contains ';') = false := by
        simpa [and_assoc] using hsurplus
      simp only [List.isEmpty_iff, hempty, hpasses, hsurplus, Bool.false_eq_true, if_false,
        Fallible.bind_eq_ok, pure, Except.pure, Except.ok.injEq, ne_eq, not_false_eq_true,
        true_and, exists_and_left, eq_comm (b := values)]

/-- With as many tokens as kinds or fewer, and no semicolon in any, the arguments are read
    exactly when there is a token for each and it spells an argument of its kind. -/
theorem readTokens_eq_ok_iff (hlength : tokens.length ≤ kinds.length)
    (htokens : ∀ token ∈ tokens, Text.Tight Text.isBlank token ∧ ';' ∉ token) :
    readTokens op index kinds tokens = .ok values ↔
      values.map FieldValue.kind = kinds ∧ List.Forall₂ Fills tokens values := by
  induction kinds generalizing tokens index values with
  | nil =>
      rw [List.length_nil, Nat.le_zero, List.length_eq_zero_iff] at hlength
      rw [hlength, readTokens, List.forall₂_nil_left_iff, List.map_eq_nil_iff, and_self,
        Except.ok.injEq, eq_comm]
  | cons kind kinds ih =>
      cases tokens with
      | nil =>
          -- A missing argument is an error, and a value needs a piece that spells it.
          rw [readTokens, List.forall₂_nil_left_iff]
          constructor
          · intro h
            exact absurd h (by simp only [reduceCtorEq, not_false_eq_true])
          · intro h
            rw [h.2] at h
            exact absurd h.1 (by simp)
      | cons token tokens =>
          rw [List.length_cons, List.length_cons] at hlength
          rw [List.forall_mem_cons] at htokens
          rcases htokens with ⟨⟨htight, hsemicolon⟩, htokens⟩
          rw [readTokens_cons_eq_ok_iff]
          constructor
          · intro h
            -- The first value is of its kind and is spelled, and those behind it are by induction.
            rcases h with ⟨hne, -, value, rest, hvalue, hrest, hvalues⟩
            rcases (readField_eq_ok_iff htight).mp hvalue with ⟨hkind, hspells⟩
            rcases (ih _ (by omega) htokens).mp hrest with ⟨hkinds, hfills⟩
            rw [hvalues, List.map_cons, hkind, hkinds]
            exact ⟨rfl, .cons ⟨hne, hspells⟩ hfills⟩
          · intro h
            -- No token holds a semicolon, so none is refused as a surplus.
            rcases h with ⟨hkinds, hfills⟩
            cases hfills with
            | cons hfill hrest =>
                rw [List.map_cons, List.cons.injEq] at hkinds
                exact ⟨hfill.1, fun hsurplus => hsemicolon hsurplus.2.2, _, _,
                  (readField_eq_ok_iff htight).mpr ⟨hkinds.1, hfill.2⟩,
                  (ih _ (by omega) htokens).mpr ⟨hkinds.2, hrest⟩, rfl⟩

/-- A semicolon in the token of the last kind is refused, if that is no text. -/
theorem readTokens_ne_ok_of_surplus {front : List (List Char)}
    (hlength : kinds.length = front.length + 1) (htext : .text ∉ kinds)
    (hsemicolon : ';' ∈ token) :
    readTokens op index kinds (front ++ [token]) ≠ .ok values := by
  induction front generalizing kinds index values with
  | nil =>
      rcases List.length_eq_one_iff.mp hlength with ⟨kind, hkinds⟩
      -- The semicolon is in the last token and the last kind is no text, so it is refused there.
      rw [hkinds, List.mem_singleton] at htext
      rw [hkinds, List.nil_append, ne_eq, readTokens_cons_eq_ok_iff]
      intro h
      exact h.2.1 ⟨rfl, fun hkind => htext hkind.symm, hsemicolon⟩
  | cons other front ih =>
      rcases List.exists_cons_of_length_eq_add_one hlength with ⟨kind, rest, hkinds⟩
      rw [hkinds, List.length_cons, List.length_cons] at hlength
      -- Whatever is read in front of it, reading comes to that token with one kind left.
      rw [hkinds, List.mem_cons, not_or] at htext
      rw [hkinds, List.cons_append, ne_eq, readTokens_cons_eq_ok_iff]
      intro h
      rcases h with ⟨-, -, value, read, -, hread, -⟩
      exact ih (index + 1) (by omega) htext.2 hread

end Schema

/-! ## The Arguments of an Operator -/

section Arguments

variable {args inner : List Char} {schema : List FieldKind} {values : List FieldValue} {n : Nat}

theorem insideParentheses?_eq_some_iff :
    insideParentheses? args = some inner ↔ Inside args inner := by
  constructor
  · intro h
    unfold insideParentheses? at h
    -- A text that begins with a parenthesis has to end with one as well.
    split at h
    · rename_i rest htrim
      split_ifs at h with hends
      rcases List.getLast?_eq_some_iff.mp hends with ⟨between, hrest⟩
      rw [hrest, List.dropLast_concat, Option.some.injEq] at h
      exact ⟨between, hrest ▸ htrim, h⟩
    · exact absurd h (by simp only [reduceCtorEq, not_false_eq_true])
  · intro h
    rcases h with ⟨between, htrim, hinner⟩
    rw [insideParentheses?, htrim]
    simp only [List.getLast?_concat, if_true, List.dropLast_concat, hinner]

theorem Inside.tight (h : Inside args inner) : Text.Tight Text.isBlank inner := by
  rcases h with ⟨between, -, hinner⟩
  rw [← hinner]
  exact Text.tight_trimBy Text.isBlank between

/-- The tokens that are cut off for a schema of some length. -/
def cut (n : Nat) (inner : List Char) : List (List Char) :=
  if inner.isEmpty then [] else (splitAtMost (max n 1) ';' inner).map Text.trim

theorem tight_of_mem_pieces {piece : List Char} (h : piece ∈ pieces inner) :
    Text.Tight Text.isBlank piece ∧ ';' ∉ piece := by
  rw [pieces] at h
  split_ifs at h with hnil
  · exact absurd h List.not_mem_nil
  · rcases List.mem_map.mp h with ⟨part, hpart, hpiece⟩
    rw [← hpiece]
    -- The cut leaves no semicolon in a piece, and trimming adds none.
    refine ⟨Text.tight_trimBy Text.isBlank part, ?_⟩
    rw [Text.trim, Text.mem_trimBy_iff (by decide)]
    exact Text.separator_notMem_of_mem_splitOn hpart

/-- With no piece too many the two cuts are the same. -/
theorem cut_of_le (h : (pieces inner).length ≤ n) : cut n inner = pieces inner := by
  rw [pieces] at h
  rw [cut, pieces]
  -- The cut is into one token at least, which matters only for a text without pieces.
  by_cases hnil : inner = []
  · rw [if_pos hnil, if_pos (List.isEmpty_iff.mpr hnil)]
  · rw [if_neg hnil, List.length_map] at h
    rw [if_neg hnil, if_neg (fun hempty => hnil (List.isEmpty_iff.mp hempty)),
      splitAtMost_of_le (by omega)]

/-- With a piece too many there are too many tokens or the last one holds a semicolon. -/
theorem exists_cut_of_lt (h : n < (pieces inner).length) :
    ∃ front token, cut n inner = front ++ [token] ∧ front.length + 1 = max n 1 ∧
      (0 < n → ';' ∈ token) := by
  rw [pieces] at h
  split_ifs at h with hnil
  · exact absurd h (by simp)
  · rw [List.length_map] at h
    rw [cut, if_neg (fun hempty => hnil (List.isEmpty_iff.mp hempty))]
    -- Without any kind the whole text is one token, which is a token too many.
    cases n with
    | zero => exact ⟨[], Text.trim inner, by rw [Nat.zero_max, splitAtMost_one]; rfl, rfl, by simp⟩
    | succ n =>
        -- Otherwise the tokens are as many as the kinds, and trimming keeps the semicolon.
        rcases exists_splitAtMost_of_lt h with ⟨front, token, hcut, hlength, hsemicolon⟩
        have hmax : max (n + 1) 1 = n + 1 := by omega
        refine ⟨front.map Text.trim, Text.trim token, ?_, ?_, fun _ => ?_⟩
        · rw [hmax, hcut, List.map_append, List.map_singleton]
        · rw [hmax, List.length_map, hlength]
        · rw [Text.trim, Text.mem_trimBy_iff (by decide)]
          exact hsemicolon

/-- A text is not cut. -/
theorem cut_one (htight : Text.Tight Text.isBlank inner) (hne : inner ≠ []) :
    cut 1 inner = [inner] := by
  rw [cut, if_neg (fun hempty => hne (List.isEmpty_iff.mp hempty)), max_self, splitAtMost_one,
    List.map_singleton, Text.trim, Text.trimBy_eq_self_iff.mpr htight]

theorem spellsArguments_iff (h : .text ∉ schema) :
    SpellsArguments schema inner values ↔
      values.map FieldValue.kind = schema ∧ List.Forall₂ Fills (pieces inner) values := by
  constructor
  · intro hspells
    cases hspells with
    | separated _ hkinds hpieces => exact ⟨hkinds, hpieces⟩
    | whole => exact absurd (List.mem_singleton_self _) h
  · intro hspells
    exact .separated h hspells.1 hspells.2

theorem spellsArguments_text_iff :
    SpellsArguments [.text] inner values ↔
      inner ≠ [] ∧ values = [.text (String.ofList inner)] := by
  constructor
  · intro hspells
    cases hspells with
    | separated htext => exact absurd (List.mem_singleton_self _) htext
    | whole hne => exact ⟨hne, rfl⟩
  · intro hspells
    rw [hspells.2]
    exact .whole hspells.1

theorem Operator.length_schema_of_text (op : Operator) (h : .text ∈ op.schema) :
    op.schema.length = 1 := by
  -- Only an action has a text among its arguments, and that is its only one.
  cases op with
  | condition op => exact absurd h (ConditionOp.text_notMem_schema op)
  | action op => exact ActionOp.length_schema_of_text op h

/-- The tokens that are cut off are read exactly when the text spells the arguments. -/
theorem readTokens_cut_eq_ok_iff (op : Operator) (htight : Text.Tight Text.isBlank inner) :
    (cut op.schema.length inner).length ≤ op.schema.length ∧
        readTokens op 0 op.schema (cut op.schema.length inner) = .ok values ↔
      SpellsArguments op.schema inner values := by
  -- A text is not cut at all, so it is a case of its own.
  by_cases htext : .text ∈ op.schema
  · -- A text is the only argument of its operator, so one token is cut off, the whole.
    have hlength := op.length_schema_of_text htext
    rcases List.length_eq_one_iff.mp hlength with ⟨kind, hschema⟩
    rw [hschema, List.mem_singleton] at htext
    rw [hschema, ← htext, spellsArguments_text_iff, List.length_singleton]
    -- Without any text there is no token, and a missing argument is an error.
    by_cases hnil : inner = []
    · simp [hnil, cut, readTokens]
    · rw [cut_one htight hnil, readTokens_cons_eq_ok_iff]
      constructor
      · intro h
        rcases h with ⟨-, -, -, value, rest, hvalue, hrest, hvalues⟩
        rcases (readField_eq_ok_iff htight).mp hvalue with ⟨hkind, hspells⟩
        rw [readTokens, Except.ok.injEq] at hrest
        -- What was read is of the kind of a text, so it is this text.
        cases value with
        | text text =>
            rw [hvalues, ← hrest, hspells.2, String.ofList_toList]
            exact ⟨hspells.2 ▸ hnil, rfl⟩
        | _ => exact absurd hkind (by simp only [FieldValue.kind, reduceCtorEq, not_false_eq_true])
      · intro h
        have hspells : SpellsArgument inner (.text (String.ofList inner)) :=
          ⟨hnil, (String.toList_ofList).symm⟩
        exact ⟨le_refl 1, hnil, fun hsurplus => hsurplus.2.1 rfl, _, [],
          (readField_eq_ok_iff htight).mpr ⟨rfl, hspells⟩, rfl, h.2⟩
  · rw [spellsArguments_iff htext]
    -- Otherwise it matters whether the full cut has more pieces than there are kinds.
    by_cases hle : (pieces inner).length ≤ op.schema.length
    · -- If it has not, the two cuts are the same and no token holds a semicolon.
      rw [cut_of_le hle, and_iff_right hle]
      exact readTokens_eq_ok_iff op 0 hle fun _ => tight_of_mem_pieces
    · -- The full cut has more pieces than the schema has kinds, and the other is refused.
      rcases exists_cut_of_lt (by omega : op.schema.length < (pieces inner).length) with
        ⟨front, token, hcut, hfront, hsemicolon⟩
      constructor
      · intro h
        -- Too many tokens fail the count, and a semicolon in the last one is refused later.
        rw [hcut, List.length_append, List.length_singleton] at h
        exact absurd h.2 (readTokens_ne_ok_of_surplus op 0 (by omega) htext
          (hsemicolon (by omega)))
      · intro h
        -- And the grammar asks for as many pieces as there are kinds, which are fewer.
        have hlength := congrArg List.length h.1
        rw [List.length_map, ← h.2.length_eq] at hlength
        omega

/-- The arguments of an operator are read as what the text between the parentheses
    spells. -/
theorem readFields_eq_ok_iff {op : Operator} {args : String} :
    readFields op args = .ok values ↔
      ∃ inner, Inside args.toList inner ∧ SpellsArguments op.schema inner values := by
  -- The tokens are counted first, so that what is read has no more than there are kinds.
  have hcount : ∀ tokens : List (List Char),
      (do
        if op.schema.length < tokens.length then
          throw (.extraField op)
        readTokens op 0 op.schema tokens) = Except.ok values ↔
      tokens.length ≤ op.schema.length ∧ readTokens op 0 op.schema tokens = .ok values := by
    intro tokens
    by_cases hlength : op.schema.length < tokens.length
    · simp [hlength, Nat.not_le.mpr hlength, throw, throwThe, MonadExceptOf.throw]
    · simp [hlength, Nat.not_lt.mp hlength]
  rw [readFields, Fallible.bind_eq_ok]
  simp only [orError_eq_ok_iff, arguments?, Option.map_eq_some_iff,
    insideParentheses?_eq_some_iff, hcount]
  constructor
  · intro h
    rcases h with ⟨tokens, ⟨inner, hinside, htokens⟩, hread⟩
    rw [← htokens] at hread
    exact ⟨inner, hinside, (readTokens_cut_eq_ok_iff op hinside.tight).mp hread⟩
  · intro h
    rcases h with ⟨inner, hinside, hspells⟩
    exact ⟨_, ⟨inner, hinside, rfl⟩, (readTokens_cut_eq_ok_iff op hinside.tight).mpr hspells⟩

end Arguments

/-! ## Calls and Scripts -/

theorem operator?_eq_some_iff {α : Type} [Vocabulary α] [Vocabulary.Faithful α] {word : String}
    {op : α} : operator? α word = some op ↔
      Vocabulary.lowered (Vocabulary.keyword op) =
        Vocabulary.lowered (String.ofList (Text.trim word.toList)) :=
  Vocabulary.ofKeywordAnyCase?_eq_some_iff

theorem spellsCall_iff {op : Operator} {word args : String} {values : List FieldValue} :
    SpellsCall op word args values ↔
      Vocabulary.lowered op.keyword = Vocabulary.lowered (String.ofList (Text.trim word.toList)) ∧
        readFields op args = .ok values := by
  rw [readFields_eq_ok_iff]
  exact ⟨fun h => ⟨h.word_eq, h.arguments⟩, fun h => ⟨h.1, h.2⟩⟩

theorem spellsCall_condition_iff {op : ConditionOp} {word args : String}
    {values : List FieldValue} :
    SpellsCall (.condition op) word args values ↔
      operator? ConditionOp word = some op ∧ readFields (.condition op) args = .ok values := by
  rw [operator?_eq_some_iff]
  exact spellsCall_iff

theorem spellsCall_action_iff {op : ActionOp} {word args : String} {values : List FieldValue} :
    SpellsCall (.action op) word args values ↔
      operator? ActionOp word = some op ∧ readFields (.action op) args = .ok values := by
  rw [operator?_eq_some_iff]
  exact spellsCall_iff

theorem kinds_of_spellsArguments {schema : List FieldKind} {inner : List Char}
    {values : List FieldValue} (h : SpellsArguments schema inner values) :
    values.map FieldValue.kind = schema := by
  cases h with
  | separated _ hkinds => exact hkinds
  | whole => rfl

theorem SpellsCall.kinds {op : Operator} {word args : String} {values : List FieldValue}
    (h : SpellsCall op word args values) : values.map FieldValue.kind = op.schema := by
  rcases h.arguments with ⟨inner, -, hspells⟩
  exact kinds_of_spellsArguments hspells

/-- The arguments of an operator are spelled in one way only. -/
theorem SpellsCall.values_unique {op : Operator} {word args : String}
    {values values' : List FieldValue} (h : SpellsCall op word args values)
    (h' : SpellsCall op word args values') : values = values' := by
  have hread := (spellsCall_iff.mp h).2
  rw [(spellsCall_iff.mp h').2] at hread
  exact (Except.ok.inj hread).symm

/-- A call spells one condition at most. -/
theorem condition_eq_of_spellsCall {word args : String} {c c' : Condition}
    (h : SpellsCall (.condition c.op) word args c.fields)
    (h' : SpellsCall (.condition c'.op) word args c'.fields) : c = c' := by
  -- The word is looked up as one operator, and with that the arguments are the same.
  have hop : c.op = c'.op := Option.some.inj
    ((spellsCall_condition_iff.mp h).1.symm.trans (spellsCall_condition_iff.mp h').1)
  rw [← hop] at h'
  exact Condition.eq_of_fields hop (h.values_unique h')

/-- A call spells one action at most. -/
theorem action_eq_of_spellsCall {word args : String} {a a' : Action}
    (h : SpellsCall (.action a.op) word args a.fields)
    (h' : SpellsCall (.action a'.op) word args a'.fields) : a = a' := by
  have hop : a.op = a'.op := Option.some.inj
    ((spellsCall_action_iff.mp h).1.symm.trans (spellsCall_action_iff.mp h').1)
  rw [← hop] at h'
  exact Action.eq_of_fields hop (h.values_unique h')

theorem orInvalid_eq_ok_iff {α : Type} {r : Except SchemaViolation α} {a : α} :
    orInvalid r = .ok a ↔ r = .ok a := by
  cases r with
  | error violation => simp [orInvalid, Except.mapError]
  | ok b => simp [orInvalid, Except.mapError]

namespace LineParts

variable {parts : LineParts} {s : Script}

/-- A script is compiled from the calls that spell its two sides, if it breaks no rule. -/
theorem compile_eq_ok_iff : parts.compile = .ok s ↔
    SpellsCall (.condition s.condition.op) parts.condition parts.conditionArgs
        s.condition.fields ∧
      SpellsCall (.action s.action.op) parts.action parts.actionArgs s.action.fields ∧
      s.Valid := by
  rw [spellsCall_condition_iff, spellsCall_action_iff, compile]
  -- A success is taken apart into its steps, each of which has its own equivalence.
  simp only [Fallible.bind_eq_ok, orError_eq_ok_iff, orInvalid_eq_ok_iff,
    Condition.ofFields_eq_ok_iff, Action.ofFields_eq_ok_iff]
  constructor
  · intro h
    rcases h with ⟨conditionOp, hconditionOp, actionOp, hactionOp, conditionFields,
      hconditionFields, condition, ⟨rfl, rfl⟩, actionFields, hactionFields, action,
      ⟨rfl, rfl⟩, hscript⟩
    -- The script is looked at last, and one that breaks a rule is refused.
    split at hscript
    · exact absurd hscript (by simp only [throw, throwThe, MonadExceptOf.throw, reduceCtorEq,
        not_false_eq_true])
    · rename_i hvalid
      rw [← Except.ok.inj hscript]
      exact ⟨⟨hconditionOp, hconditionFields⟩, ⟨hactionOp, hactionFields⟩, hvalid⟩
  · intro h
    rcases h with ⟨⟨hconditionOp, hconditionFields⟩, ⟨hactionOp, hactionFields⟩, hvalid⟩
    refine ⟨_, hconditionOp, _, hactionOp, _, hconditionFields, s.condition, ⟨rfl, rfl⟩, _,
      hactionFields, s.action, ⟨rfl, rfl⟩, ?_⟩
    rw [Script.Valid] at hvalid
    rw [hvalid]
    rfl

/-- What two calls spell amounts to one script. -/
theorem exists_script_of_spellsCall {conditionOp : ConditionOp} {actionOp : ActionOp}
    {conditionWord conditionArgs actionWord actionArgs : String}
    {conditionValues actionValues : List FieldValue}
    (hcondition : SpellsCall (.condition conditionOp) conditionWord conditionArgs conditionValues)
    (haction : SpellsCall (.action actionOp) actionWord actionArgs actionValues) :
    ∃ s : Script, (s.condition.op = conditionOp ∧ s.condition.fields = conditionValues) ∧
      s.action.op = actionOp ∧ s.action.fields = actionValues := by
  -- What a call spells follows the schema, so it amounts to something.
  rcases Condition.exists_ofFields hcondition.kinds with ⟨condition, hconditionOf⟩
  rcases Action.exists_ofFields haction.kinds with ⟨action, hactionOf⟩
  exact ⟨⟨condition, action⟩, Condition.ofFields_eq_ok_iff.mp hconditionOf,
    Action.ofFields_eq_ok_iff.mp hactionOf⟩

/-- A line is compiled by the grammar of calls. Whatever is compiled has the operators and
    the arguments that the two calls spell and breaks no rule. And whatever two calls
    spell amounts to a script, which is compiled exactly when it breaks no rule, and
    nothing else is. -/
theorem compile_by_grammar (parts : LineParts) :
    (∀ s : Script, parts.compile = .ok s ↔
      SpellsCall (.condition s.condition.op) parts.condition parts.conditionArgs
          s.condition.fields ∧
        SpellsCall (.action s.action.op) parts.action parts.actionArgs s.action.fields ∧
        s.Valid) ∧
      ∀ conditionOp conditionValues actionOp actionValues,
        SpellsCall (.condition conditionOp) parts.condition parts.conditionArgs conditionValues →
        SpellsCall (.action actionOp) parts.action parts.actionArgs actionValues →
        ∃ s : Script, (s.condition.op = conditionOp ∧ s.condition.fields = conditionValues) ∧
          (s.action.op = actionOp ∧ s.action.fields = actionValues) ∧
          ∀ t, parts.compile = .ok t ↔ t = s ∧ s.Valid := by
  refine ⟨fun s => compile_eq_ok_iff, ?_⟩
  intro conditionOp conditionValues actionOp actionValues hcondition haction
  rcases exists_script_of_spellsCall hcondition haction with ⟨s, ⟨rfl, rfl⟩, rfl, rfl⟩
  refine ⟨s, ⟨rfl, rfl⟩, ⟨rfl, rfl⟩, fun t => ?_⟩
  constructor
  · intro h
    -- What is compiled is spelled by the same two calls, so it is the same script.
    rcases compile_eq_ok_iff.mp h with ⟨hcondition', haction', hvalid⟩
    have hts : t = s := by
      rw [Script.mk.injEq]
      exact ⟨condition_eq_of_spellsCall hcondition' hcondition,
        action_eq_of_spellsCall haction' haction⟩
    exact ⟨hts, hts ▸ hvalid⟩
  · intro h
    rw [h.1]
    exact compile_eq_ok_iff.mpr ⟨hcondition, haction, h.2⟩

/-- Words in any case, blanks everywhere, and a semicolon in a text. -/
theorem compile_by_grammar_of_kill :
    SpellsCall (.condition .kill) " kill" "( OR;[ 3] ;ANY_ORDER; ALWAYS)"
        [.combine .or, .ids [3], .order .anyOrder, .repeat .always] ∧
      SpellsCall (.action .dialog) "Dialog" "(a; b )" [.text "a; b"] ∧
      ∃ s : Script, (s.condition.op = .kill ∧
          s.condition.fields = [.combine .or, .ids [3], .order .anyOrder, .repeat .always]) ∧
        (s.action.op = .dialog ∧ s.action.fields = [.text "a; b"]) ∧
        ∀ t, LineParts.compile
            ⟨" kill", "( OR;[ 3] ;ANY_ORDER; ALWAYS)", "Dialog", "(a; b )"⟩ = .ok t ↔
          t = s ∧ s.Valid := by
  have hcondition : SpellsCall (.condition .kill) " kill" "( OR;[ 3] ;ANY_ORDER; ALWAYS)"
      [.combine .or, .ids [3], .order .anyOrder, .repeat .always] :=
    spellsCall_condition_iff.mpr ⟨by decide +kernel, by decide +kernel⟩
  have haction : SpellsCall (.action .dialog) "Dialog" "(a; b )" [.text "a; b"] :=
    spellsCall_action_iff.mpr ⟨by decide +kernel, by decide +kernel⟩
  exact ⟨hcondition, haction, (compile_by_grammar ⟨" kill", "( OR;[ 3] ;ANY_ORDER; ALWAYS)",
    "Dialog", "(a; b )"⟩).2 _ _ _ _ hcondition haction⟩

end LineParts

end TileTriggers
