import TileTriggers.Proofs.Script.Token

/-!
# Reading Back an Argument List

Arguments are joined by semicolons and cut at semicolons, and a dialog text can hold
semicolons. Two facts keep this sound. Only texts can hold one, and where an operator
takes a text it takes nothing else, so that the cut into at most one token leaves the
text whole.

The blanks around a token are trimmed. An argument has none at its ends, so what
is trimmed is what was written between arguments and no more.

## Main definitions

* `joined`: The arguments of an operator between its parentheses.

## Theorems

* `splitAtMost_one`: The cut into one token cuts nothing.
* `arguments?_joined`: Arguments are cut back into their texts.
* `readFields_joined`: Arguments are read back.
-/

namespace TileTriggers

/-- The texts of arguments as they stand between parentheses. -/
def joined (fields : List FieldValue) : List Char :=
  [';', ' '].intercalate (fields.map FieldValue.render)

theorem splitAtMost_one (separator : Char) (cs : List Char) :
    splitAtMost 1 separator cs = [cs] := by
  have hcut : [separator].intercalate (cs.splitOn separator) = cs :=
    List.intercalate_splitOn separator
  simp only [splitAtMost]
  split_ifs with hle
  · -- One piece is all that there was to cut.
    rcases List.exists_cons_of_ne_nil (List.splitOn_ne_nil separator cs) with ⟨piece, pieces, h⟩
    rw [h, List.length_cons] at hle
    rw [h, List.length_eq_zero_iff.mp (by omega : pieces.length = 0),
      List.intercalate_singleton] at hcut
    rw [h, List.length_eq_zero_iff.mp (by omega : pieces.length = 0), hcut]
  · rw [List.take_zero, List.drop_zero, hcut, List.nil_append]

theorem tight_intercalate {test : Char → Bool} (separator : List Char)
    {pieces : List (List Char)} (h : ∀ piece ∈ pieces, Text.Tight test piece ∧ piece ≠ []) :
    Text.Tight test (separator.intercalate pieces) ∧
      (pieces ≠ [] → separator.intercalate pieces ≠ []) := by
  induction pieces with
  | nil => exact ⟨Text.tight_of_forall (by simp), by simp⟩
  | cons piece pieces ih =>
      rw [List.forall_mem_cons] at h
      -- The first and the last character are those of the first and the last piece.
      cases pieces with
      | nil =>
          rw [List.intercalate_singleton]
          exact ⟨h.1.1, fun _ => h.1.2⟩
      | cons next pieces =>
          rcases ih h.2 with ⟨htight, hne⟩
          rw [List.intercalate_cons_cons]
          refine ⟨Text.tight_append h.1.1 htight h.1.2 (hne (List.cons_ne_nil _ _)) separator, ?_⟩
          intro _ hnil
          exact h.1.2 (List.append_eq_nil_iff.mp (List.append_eq_nil_iff.mp hnil).1).1

theorem insideParentheses?_self (inner : List Char) :
    insideParentheses? ('(' :: (inner ++ [')'])) = some (Text.trim inner) := by
  have htrim : Text.trim ('(' :: (inner ++ [')'])) = '(' :: (inner ++ [')']) :=
    Text.trimBy_eq_self_iff.mpr (Text.tight_cons_append (by decide) (by decide) inner)
  rw [insideParentheses?, htrim]
  simp only [List.getLast?_concat, if_true, List.dropLast_concat]

section Joined

variable {fields : List FieldValue}

/-- A character that is in no argument and is not written between arguments does not
    occur in their list. -/
theorem notMem_joined {c : Char} (hsemicolon : c ≠ ';') (hspace : c ≠ ' ')
    (h : ∀ v ∈ fields, c ∉ v.render) : c ∉ joined fields := by
  intro hc
  rcases mem_of_mem_intercalate hc with hc | ⟨piece, hpiece, hc⟩
  · simp only [List.mem_cons, List.not_mem_nil, or_false] at hc
    exact hc.elim hsemicolon hspace
  · rcases List.mem_map.mp hpiece with ⟨v, hv, rfl⟩
    exact h v hv hc

theorem tight_joined (hvalid : ∀ v ∈ fields, v.violation? = none) :
    Text.Tight Text.isBlank (joined fields) ∧ (fields ≠ [] → joined fields ≠ []) := by
  have hpieces : ∀ piece ∈ fields.map FieldValue.render,
      Text.Tight Text.isBlank piece ∧ piece ≠ [] := by
    intro piece hpiece
    rcases List.mem_map.mp hpiece with ⟨v, hv, rfl⟩
    exact ⟨FieldValue.tight_render (hvalid v hv), FieldValue.render_ne_nil (hvalid v hv)⟩
  rcases tight_intercalate [';', ' '] hpieces with ⟨htight, hne⟩
  exact ⟨htight, fun h => hne fun hnil => h (List.map_eq_nil_iff.mp hnil)⟩

/-- Arguments without a text among them are cut apart again. -/
theorem splitAtMost_joined (hne : fields ≠ []) (hvalid : ∀ v ∈ fields, v.violation? = none)
    (htext : ∀ v ∈ fields, v.kind ≠ .text) :
    (splitAtMost fields.length ';' (joined fields)).map Text.trim =
      fields.map FieldValue.render := by
  rcases List.exists_cons_of_ne_nil hne with ⟨v, vs, rfl⟩
  have htrim : ∀ w ∈ v :: vs, Text.trim w.render = w.render := fun w hw =>
    Text.trimBy_eq_self_iff.mpr (FieldValue.tight_render (hvalid w hw))
  -- No argument holds a semicolon, so all cuts are between arguments.
  have hcut : (joined (v :: vs)).splitOn ';' =
      v.render :: (vs.map FieldValue.render).map (' ' :: ·) := by
    refine splitOn_intercalate_space (by decide) fun piece hpiece => ?_
    rcases List.mem_map.mp (List.map_cons ▸ hpiece) with ⟨w, hw, rfl⟩
    exact not_mem_of_alphabet (fun c => FieldValue.isArgumentChar_of_mem_render (htext w hw))
      (by decide)
  rw [List.forall_mem_cons] at htrim
  rw [splitAtMost, hcut, if_pos (by simp), List.map_cons, htrim.1, List.map_map, List.map_map,
    List.map_cons]
  -- The space behind a semicolon goes when the token is trimmed.
  refine congrArg _ (List.map_congr_left fun w hw => ?_)
  rw [Function.comp_apply, Function.comp_apply, Text.trim,
    Text.trimBy_cons_of_pos (by decide), ← Text.trim, htrim.2 w hw]

/-- Arguments in parentheses are cut back into their texts, if a text among them is
    the only one. -/
theorem arguments?_joined (hvalid : ∀ v ∈ fields, v.violation? = none)
    (htext : FieldKind.text ∈ fields.map FieldValue.kind → fields.length = 1) :
    arguments? fields.length ('(' :: (joined fields ++ [')'])) =
      some (fields.map FieldValue.render) := by
  rcases tight_joined hvalid with ⟨htight, hne⟩
  rw [arguments?, insideParentheses?_self, Text.trim, Text.trimBy_eq_self_iff.mpr htight,
    Option.map_some]
  rcases fields with _ | ⟨v, vs⟩
  · rfl
  · have hlength : max (v :: vs).length 1 = (v :: vs).length := by
      rw [List.length_cons]
      omega
    rw [if_neg (by simpa using hne (List.cons_ne_nil _ _)), hlength]
    -- With a text there is one argument and no cut, without one every cut is right.
    by_cases hmem : FieldKind.text ∈ (v :: vs).map FieldValue.kind
    · have hone := htext hmem
      rw [hone, splitAtMost_one, List.map_singleton]
      rw [List.length_eq_one_iff] at hone
      rcases hone with ⟨w, hw⟩
      rw [hw] at htight ⊢
      rw [Text.trim, Text.trimBy_eq_self_iff.mpr htight, joined, List.map_singleton,
        List.intercalate_singleton]
    · rw [splitAtMost_joined (List.cons_ne_nil _ _) hvalid]
      intro w hw hkind
      exact hmem (List.mem_map.mpr ⟨w, hw, hkind⟩)

/-- Arguments are read back from their texts one by one. -/
theorem readTokens_render (op : Operator) (index : Nat)
    (hvalid : ∀ v ∈ fields, v.violation? = none) :
    readTokens op index (fields.map FieldValue.kind) (fields.map FieldValue.render) =
      .ok fields := by
  induction fields generalizing index with
  | nil => rfl
  | cons v vs ih =>
      rw [List.forall_mem_cons] at hvalid
      -- A semicolon in the last token would be one in a text.
      have hextra : ((vs.map FieldValue.kind).isEmpty && v.kind != .text &&
          v.render.contains ';') = false := by
        by_cases hkind : v.kind = .text
        · rw [hkind]
          simp
        · have hmem : ';' ∉ v.render :=
            not_mem_of_alphabet (fun c => FieldValue.isArgumentChar_of_mem_render hkind)
              (by decide)
          simp [hmem]
      rw [List.map_cons, List.map_cons, readTokens, hextra]
      simp only [List.isEmpty_iff, FieldValue.render_ne_nil hvalid.1, if_false,
        readField_render _ hvalid.1, ih (index + 1) hvalid.2]
      rfl

/-- The arguments of an operator are read back. -/
theorem readFields_joined (op : Operator) (hschema : fields.map FieldValue.kind = op.schema)
    (htext : FieldKind.text ∈ op.schema → op.schema.length = 1)
    (hvalid : ∀ v ∈ fields, v.violation? = none) :
    readFields op (String.ofList ('(' :: (joined fields ++ [')']))) = .ok fields := by
  have hlength : op.schema.length = fields.length := by rw [← hschema, List.length_map]
  rw [readFields, String.toList_ofList, hlength, arguments?_joined hvalid]
  · rw [Fallible.bind_eq_ok]
    -- There are as many tokens as kinds, so none is one too many.
    refine ⟨_, rfl, ?_⟩
    rw [List.length_map, if_neg (by omega), ← hschema]
    exact readTokens_render op 0 hvalid
  · rw [hschema, ← hlength]
    exact htext

end Joined

end TileTriggers
