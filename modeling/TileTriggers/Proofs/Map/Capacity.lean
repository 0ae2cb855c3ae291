import TileTriggers.Proofs.Map.RoundTrip
import TileTriggers.Proofs.Payload.Size
import TileTriggers.Proofs.Script.Listing

/-!
# What a Map File Has Room For

A map file has a byte for the number of its scripts and two bytes for the length of each.
These are the only limits that a document can exceed. Its size is one that a file can
have from the beginning, and its scripts break no rule. So a map that cannot be saved has
too many scripts, or else a script that is too long, and of several the first is told.

Nothing else is ever cut off to fit its bytes. Every number that is written is either held
against its limit right before or is within it for as long as the document exists: the
width and the height, the counts of lists and the length of a text. The length of the
file is therefore just the sum of what was meant to be in it.

## Main definitions

* `Unsavable`: Why scripts cannot be saved.
* `WrittenAs`: A file in which every number is the one that was meant.

## Theorems

* `Grid.length_bytes`: The length of the header and the tiles.
* `Document.mapM_payloadAt_eq_error_iff`: The first script that is too long.
* `Document.save_eq_error_iff`: When a sound document cannot be saved.
* `Document.writtenAs_of_save`: What is written otherwise.
* `Document.Reachable.save_outcome`: The two outcomes of saving.
-/

namespace TileTriggers

/-- Why scripts cannot be saved: there are too many of them, or there are not but one is
    too long, and none before it is. The error tells how many there are, or which one it is
    and how long. -/
inductive Unsavable (scripts : List Script) : CapacityError → Prop
  | count (h : 255 < scripts.length) : Unsavable scripts (.scriptCount scripts.length)
  | length {before behind : List Script} {s : Script} {payload : List UInt8}
      (hcount : scripts.length ≤ 255) (hsplit : scripts = before ++ s :: behind)
      (hbefore : ∀ s' ∈ before, ∃ payload', s'.encode = .ok payload' ∧ payload'.length ≤ 65535)
      (hencode : s.encode = .ok payload) (hlong : 65535 < payload.length) :
      Unsavable scripts (.scriptLength before.length payload.length)

/-- The file of a document with certain payloads, in which every number is the one that was
    meant. -/
structure WrittenAs (d : Document) (payloads : List (List UInt8)) (file : List UInt8) : Prop where
  /-- A header, two bytes for each tile and one for each object, the number of the scripts,
      and each payload behind two bytes. -/
  length_eq : file.length = 2 + 2 * d.grid.width * d.grid.height + d.grid.objectIds.length + 1 +
    (payloads.map fun payload => 2 + payload.length).sum
  /-- The width, the height and the number of the scripts are what their bytes say. -/
  layout : ∃ width height count : UInt8,
    file = width :: height :: (d.grid.tiles.toList.flatMap Document.tileBytes ++
      count :: payloads.flatMap Document.slotBytes) ∧
    width.toNat = d.grid.width ∧ height.toNat = d.grid.height ∧ count.toNat = payloads.length
  /-- So are the lengths of the payloads. -/
  lengths : ∀ payload ∈ payloads, ofBigEndian (bigEndian 2 payload.length) = payload.length
  /-- Within a payload the counts of lists and texts fit. -/
  counts : ∀ s ∈ d.scripts, ∀ v ∈ s.fields, v.Fits

/-- A tile has two bytes, and one more with an object on it. -/
theorem length_flatMap_tileBytes (ts : List Tile) :
    (ts.flatMap Document.tileBytes).length =
      2 * ts.length + (ts.filterMap Tile.objectId?).length := by
  induction ts with
  | nil => rfl
  | cons t ts ih =>
      rw [List.flatMap_cons, List.length_append, ih, tileBytes_eq, List.filterMap_cons]
      cases t.objectId? with
      | none =>
          simp only [Option.toList_none, List.length_cons, List.length_nil]
          omega
      | some id =>
          simp only [Option.toList_some, List.length_cons, List.length_nil]
          omega

theorem Grid.length_bytes {g : Grid} (hg : g.Sound) :
    g.bytes.length = 2 + 2 * g.width * g.height + g.objectIds.length := by
  have hsize : g.tiles.toList.length = g.width * g.height := hg.size
  rw [bytes, List.length_cons, List.length_cons, length_flatMap_tileBytes, hsize, objectIds,
    Nat.mul_assoc]
  omega

namespace Document

variable {d : Document}

/-- A payload is refused exactly for the first script that is too long. -/
theorem mapM_payloadAt_eq_error_iff {scripts : List Script} (hvalid : ∀ s ∈ scripts, s.Valid)
    {e : MapError} :
    scripts.zipIdx.mapM (fun p => payloadAt p.1 p.2) = .error e ↔
      ∃ before s behind, scripts = before ++ s :: behind ∧
        (∀ s' ∈ before, s'.bytes.length ≤ maxScriptLength) ∧ maxScriptLength < s.bytes.length ∧
        e = .capacity (.scriptLength before.length s.bytes.length) := by
  -- A valid script encodes, so its length is all that can be refused.
  have hok : ∀ s ∈ scripts, ∀ i, (∃ payload, payloadAt s i = .ok payload) ↔
      s.bytes.length ≤ maxScriptLength := by
    intro s hs i
    rw [payloadAt_of_valid (hvalid s hs)]
    split_ifs with hlong
    · simp only [exists_false, false_iff, Nat.not_le]
      exact hlong
    · simp only [Except.ok.injEq, exists_eq', true_iff]
      exact Nat.le_of_not_lt hlong
  have herror : ∀ s ∈ scripts, ∀ i, payloadAt s i = .error e ↔ maxScriptLength < s.bytes.length ∧
      e = .capacity (.scriptLength i s.bytes.length) := by
    intro s hs i
    rw [payloadAt_of_valid (hvalid s hs)]
    split_ifs with hlong
    · rw [Except.error.injEq, eq_comm, and_iff_right hlong]
    · simp only [false_iff, not_and]
      exact fun h => absurd h hlong
  rw [Fallible.mapM_eq_error_iff]
  constructor
  · -- The position of a script is the number of those before it.
    rintro ⟨before, p, behind, hsplit, hbefore, hp⟩
    rcases List.zipIdx_eq_append_iff.mp hsplit with ⟨front, rest, rfl, rfl, hrest⟩
    rcases List.zipIdx_eq_cons_iff.mp hrest.symm with ⟨s, tail, rfl, rfl, -⟩
    rw [List.forall_mem_append, List.forall_mem_cons] at hok herror
    rw [Nat.zero_add, herror.2.1] at hp
    refine ⟨front, s, tail, rfl, fun s' hs' => ?_, hp⟩
    rcases List.mem_iff_getElem.mp hs' with ⟨i, hi, rfl⟩
    refine (hok.1 _ hs' i).mp (hbefore (front[i], i) ?_)
    exact List.mk_mem_zipIdx_iff_getElem?.mpr (List.getElem?_eq_getElem hi)
  · -- The other way round, those before it pass at whatever position they are asked for.
    rintro ⟨front, s, tail, rfl, hbefore, hlong⟩
    rw [List.forall_mem_append, List.forall_mem_cons] at hok herror
    refine ⟨front.zipIdx, (s, front.length), tail.zipIdx (front.length + 1), ?_, ?_, ?_⟩
    · rw [List.zipIdx_append, List.zipIdx_cons, Nat.zero_add]
    · rintro ⟨s', i⟩ hs'
      have hmem := List.fst_mem_of_mem_zipIdx hs'
      exact (hok.1 s' hmem i).mpr (hbefore s' hmem)
    · exact (herror.2.1 _).mpr hlong

/-- A sound document cannot be saved exactly when its scripts are too many or one of them
    is too long. -/
theorem save_eq_error_iff (hd : d.Sound) {e : MapError} :
    d.save = .error e ↔ ∃ limit, e = .capacity limit ∧ Unsavable d.scripts limit := by
  unfold save
  rw [hd.grid.dimensions]
  simp only
  -- The number of the scripts is looked at before any of them.
  split_ifs with hmany
  · simp only [bind, Except.bind, throw, throwThe, MonadExceptOf.throw, Except.error.injEq]
    constructor
    · rintro rfl
      exact ⟨_, rfl, .count hmany⟩
    · rintro ⟨limit, rfl, hlimit⟩
      cases hlimit with
      | count => rfl
      | length hcount => exact absurd hmany (Nat.not_lt.mpr hcount)
  · rw [Fallible.bind_eq_error, mapM_payloadAt_eq_error_iff hd.scripts]
    constructor
    · rintro (⟨before, s, behind, hsplit, hbefore, hlong, rfl⟩ | ⟨payloads, -, hwrite⟩)
      · have hvalid := hd.scripts
        rw [hsplit, List.forall_mem_append, List.forall_mem_cons] at hvalid
        refine ⟨_, rfl, .length (Nat.le_of_not_lt hmany) hsplit (fun s' hs' => ?_)
          (Script.encode_of_valid hvalid.2.1) hlong⟩
        exact ⟨s'.bytes, Script.encode_of_valid (hvalid.1 s' hs'), hbefore s' hs'⟩
      · -- Once all payloads are there, writing them does not fail.
        exact nomatch hwrite
    · rintro ⟨limit, rfl, hlimit⟩
      cases hlimit with
      | count hcount => exact absurd hcount hmany
      | @length before behind s payload hcount hsplit hbefore hencode hlong =>
          -- What a script encodes to is its bytes.
          rw [(Script.encode_eq_ok_iff.mp hencode).2] at hlong ⊢
          refine Or.inl ⟨before, s, behind, hsplit, fun s' hs' => ?_, hlong, rfl⟩
          rcases hbefore s' hs' with ⟨payload', hencode', hshort⟩
          rw [← (Script.encode_eq_ok_iff.mp hencode').2]
          exact hshort

/-- A map with the listing of one canonical line has the script of that line. -/
theorem scripts_setScriptText_text {s : Script} (h : s.Valid) :
    (d.setScriptText s.text).value.scripts = [s] := by
  rw [scripts, lines_setScriptText, compileListing_text h]
  rfl

/-- What is written of a sound document. -/
theorem writtenAs_of_save (hd : d.Sound) {saved : Logged (List UInt8)} (h : d.save = .ok saved) :
    WrittenAs d (d.scripts.map Script.bytes) saved.value := by
  rcases (save_eq_ok_iff hd).mp h with ⟨hcount, hlength, rfl⟩
  rcases dimensionError?_eq_none_iff.mp hd.grid.dimensions with ⟨hwidth, hheight⟩
  constructor
  · have hslot : ∀ payload, (slotBytes payload).length = 2 + payload.length := by
      intro payload
      rw [slotBytes, List.length_append, length_bigEndian]
    simp only [sectionBytes, List.length_append, List.length_cons, List.length_flatMap,
      Grid.length_bytes hd.grid, hslot]
    omega
  · refine ⟨UInt8.ofNat d.grid.width, UInt8.ofNat d.grid.height, UInt8.ofNat d.scripts.length,
      rfl, ?_, ?_, ?_⟩
    · -- All numbers are within their limits, so their bytes say what was meant.
      exact UInt8.toNat_ofNat_of_lt' (Nat.lt_succ_of_le hwidth.2)
    · exact UInt8.toNat_ofNat_of_lt' (Nat.lt_succ_of_le hheight.2)
    · rw [toNat_ofNat_of_le_maxScripts hcount, List.length_map]
  · rw [List.forall_mem_map]
    exact fun s hs => ofBigEndian_bigEndian (Nat.lt_succ_of_le (hlength s hs))
  · -- Within a payload it is the rules of a valid script that bound the counts.
    exact fun s hs => Script.fits_of_valid (hd.scripts s hs)

/-- A map cannot be saved exactly when it has more than 255 scripts, which is told first
    and with their number, or a script of more than 65535 bytes, of which the first is
    told with its length. Such a script is a dialog, with a text that is longer than what
    the condition and three bytes leave of the slot. Neither the size of the map nor a rule
    that a script breaks is ever a reason. Otherwise the file holds what was meant, and its
    length tells that nothing was cut off. -/
theorem Reachable.save_outcome (h : d.Reachable) :
    (∀ e, d.save = .error e ↔ ∃ limit, e = .capacity limit ∧ Unsavable d.scripts limit) ∧
      (∀ s ∈ d.scripts, ∀ payload, s.encode = .ok payload →
        (65535 < payload.length ↔ ∃ text, s.action = .dialog text ∧
          65535 - 3 - (sideBytes s.condition.op s.condition.fields).length < text.utf8ByteSize)) ∧
      (∀ s ∈ d.scripts, (sideBytes s.condition.op s.condition.fields).length ≤ 515) ∧
      ∀ saved, d.save = .ok saved → ∃ payloads, d.scripts.mapM Script.encode = .ok payloads ∧
        WrittenAs d payloads saved.value := by
  have hd := h.sound
  refine ⟨fun e => save_eq_error_iff hd, fun s hs payload hencode => ?_,
    fun s hs => Script.length_condition_le (hd.scripts s hs), fun saved hsave => ?_⟩
  · rw [(Script.encode_eq_ok_iff.mp hencode).2]
    exact Script.lt_length_bytes_iff (hd.scripts s hs) (by decide)
  · exact ⟨_, Fallible.mapM_of_forall fun s hs => Script.encode_of_valid (hd.scripts s hs),
      writtenAs_of_save hd hsave⟩

end Document

/-! ## The Longest Dialog -/

/-- A text of one letter over and over. -/
theorem utf8ByteSize_replicate (n : Nat) :
    (String.ofList (List.replicate n 'a')).utf8ByteSize = n := by
  have hascii : ∀ c ∈ List.replicate n 'a', c.toNat < 128 := by
    intro c hc
    rw [List.eq_of_mem_replicate hc]
    decide
  rw [Text.utf8ByteSize_eq, String.toList_ofList, Text.flatMap_utf8EncodeChar_of_ascii hascii,
    List.length_map, List.length_replicate]

/-- It has no fault unless it is empty or too long. -/
theorem textFault?_replicate {n : Nat} (hpos : 0 < n) (hn : n ≤ maxTextLength) :
    textFault? (String.ofList (List.replicate n 'a')) = none := by
  -- A letter is no blank, so nothing is trimmed, and none of them is a fault.
  have htrim : Text.trim (List.replicate n 'a') = List.replicate n 'a' := by
    refine Text.trimBy_eq_self_iff.mpr (Text.tight_of_forall fun c hc => ?_)
    rw [List.eq_of_mem_replicate hc]
    decide
  have hempty : (List.replicate n 'a').isEmpty = false := by
    rw [List.isEmpty_eq_false_iff, ne_eq, List.replicate_eq_nil_iff]
    omega
  have hchars : (List.replicate n 'a').any
      (fun c => 128 ≤ c.toNat || c == '\n' || c == '\r') = false := by
    rw [List.any_eq_false]
    intro c hc
    rw [List.eq_of_mem_replicate hc]
    decide
  rw [textFault?]
  simp only [String.toList_ofList, hempty, utf8ByteSize_replicate, Nat.not_lt.mpr hn, hchars,
    htrim, ne_eq, not_true_eq_false, Bool.false_eq_true, if_false]

/-- A script that shows a text of one letter over and over. -/
def longDialog (n : Nat) : Script :=
  ⟨.timeElapsed 1, .dialog (String.ofList (List.replicate n 'a'))⟩

section LongDialog

variable {n : Nat}

theorem valid_longDialog (hpos : 0 < n) (hn : n ≤ maxTextLength) : (longDialog n).Valid := by
  have htext : FieldValue.violation? (.text (String.ofList (List.replicate n 'a'))) = none :=
    Option.map_eq_none_iff.mpr (textFault?_replicate hpos hn)
  refine List.findSome?_eq_none_iff.mpr fun v hv => ?_
  -- Of the two arguments only the text could break a rule.
  rcases List.mem_cons.mp hv with rfl | hv
  · rfl
  · rw [List.mem_singleton.mp hv]
    exact htext

theorem length_longDialog (hpos : 0 < n) (hn : n ≤ maxTextLength) :
    (longDialog n).bytes.length = 8 + n := by
  have hcondition : (sideBytes ConditionOp.timeElapsed [.millis 1]).length = 5 := rfl
  rw [Script.length_bytes_dialog (valid_longDialog hpos hn) rfl, utf8ByteSize_replicate]
  simp only [longDialog, Condition.op, Condition.fields, hcondition]

end LongDialog

/-- The longest text that a dialog can have, on a blank map. Its script is eight bytes too
    long for a slot. -/
theorem Document.save_outcome_of_longest_dialog :
    ∃ d : Document, d.Reachable ∧ d.save = .error (.capacity (.scriptLength 0 65543)) := by
  have hvalid := valid_longDialog (n := 65535) (by decide) (Nat.le_refl 65535)
  have hlength : (longDialog 65535).bytes.length = 65543 :=
    length_longDialog (by decide) (Nat.le_refl 65535)
  have h := (Reachable.new (show new 1 1 = .ok _ from rfl)).setScriptText (longDialog 65535).text
  refine ⟨_, h, (h.save_outcome.1 _).mpr ⟨_, rfl, ?_⟩⟩
  rw [scripts_setScriptText_text hvalid, ← hlength]
  have hnone : ∀ s ∈ ([] : List Script), ∃ payload, s.encode = .ok payload ∧
      payload.length ≤ 65535 := fun _ hmem => absurd hmem List.not_mem_nil
  refine .length (by decide) (List.nil_append [_]).symm hnone (Script.encode_of_valid hvalid) ?_
  omega

end TileTriggers
