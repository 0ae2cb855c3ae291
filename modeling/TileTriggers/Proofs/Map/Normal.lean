import TileTriggers.Proofs.Map.Damage
import TileTriggers.Proofs.Map.RoundTrip

/-!
# Files in Normal Form

Whatever could be loaded can be saved, for all that a file can hold fits into a file:
there are no more scripts than were counted by a byte, and the payload of each fitted its
slot. The file that is written is in normal form. It has one slot for each script, nothing
that is no script, and nothing behind the last slot. Loading it gives the same document
back, and saving that document gives the same file.

A file from which nothing was dropped is in normal form already, since a script has only
one payload. The one exception is a file that ends behind the tiles. It has no byte that
counts the scripts, and in the normal form that byte is there and counts none.

## Main definitions

* `Lossless`: Warnings of a file of which everything was loaded.

## Theorems

* `Document.fits_of_load`: What was loaded fits into a file.
* `Document.eq_sectionBytes_of_lossless`: A section of which nothing was dropped.
* `Document.save_of_load`: What becomes of a file that is loaded and saved.
-/

namespace TileTriggers

open Document (slotBytes)

/-- Warnings none of which is about bytes that were dropped. -/
def Lossless (warnings : List LoadWarning) : Prop :=
  (∀ index error, .corruptScript index error ∉ warnings) ∧ ∀ count, .trailingBytes count ∉ warnings

/-- Warnings about shared ids alone are no loss. -/
theorem lossless_of_forall {warnings : List LoadWarning}
    (h : ∀ w ∈ warnings, ∃ index id, w = .spawnIdConflict index id) : Lossless warnings := by
  constructor
  · intro index error hmem
    rcases h _ hmem with ⟨_, _, hw⟩
    exact absurd hw (by simp only [reduceCtorEq, not_false_eq_true])
  · intro count hmem
    rcases h _ hmem with ⟨_, _, hw⟩
    exact absurd hw (by simp only [reduceCtorEq, not_false_eq_true])

theorem eq_corruptScript_of_mem_rejections {first : Nat} {payloads : List (List UInt8)}
    {w : LoadWarning} (h : w ∈ rejections first payloads) :
    ∃ index error, w = .corruptScript index error := by
  induction payloads generalizing first with
  | nil => exact absurd h (by simp [rejections])
  | cons payload payloads ih =>
      rw [rejections] at h
      -- A payload is told if it is no script, and then the others are looked at.
      cases hdecode : Script.decode payload with
      | ok s =>
          rw [hdecode] at h
          exact ih h
      | error e =>
          rw [hdecode, List.mem_cons] at h
          rcases h with h | h
          · exact ⟨first, e, h⟩
          · exact ih h

/-- A script that was read from a payload has that payload for its bytes. -/
theorem bytes_mem_of_mem_acceptedScripts {payloads : List (List UInt8)} {s : Script}
    (h : s ∈ acceptedScripts payloads) : s.bytes ∈ payloads := by
  rcases List.mem_filterMap.mp h with ⟨payload, hpayload, hs⟩
  have hbytes := (Script.decode_eq_ok_iff.mp (Fallible.toOption_eq_some.mp hs)).2
  rw [← hbytes]
  exact hpayload

/-- Payloads all of which are scripts are the bytes of these scripts. -/
theorem map_bytes_acceptedScripts {payloads : List (List UInt8)}
    (h : ∀ payload ∈ payloads, ∃ s, Script.decode payload = .ok s) :
    (acceptedScripts payloads).map Script.bytes = payloads := by
  induction payloads with
  | nil => rfl
  | cons payload payloads ih =>
      rw [List.forall_mem_cons] at h
      rcases h with ⟨⟨s, hs⟩, hrest⟩
      have hbytes : payload = s.bytes := (Script.decode_eq_ok_iff.mp hs).2
      have hsome : (Script.decode payload).toOption = some s := Fallible.toOption_eq_some.mpr hs
      have hcons : acceptedScripts (payload :: payloads) = s :: acceptedScripts payloads :=
        List.filterMap_cons_some hsome
      rw [hcons, List.map_cons, ih hrest, ← hbytes]

namespace Document

variable {data : List UInt8} {loaded : Logged Document}

/-- The lines of a loaded document are those of its scripts, and its pool hands out ids
    from the first. -/
theorem lines_load (h : load data = .ok loaded) :
    loaded.value.lines = loaded.value.scripts.mapIdx LineReport.ofScript ∧
      loaded.value.ids.probe = 0 := by
  rcases load_eq_ok_iff.mp h with ⟨g, rest, -, -, rfl⟩
  rw [scripts_ofSections]
  exact ⟨rfl, rfl⟩

/-- A file that was loaded ends behind the tiles, or the rest of it is cut into slots from
    which the scripts and the warnings come. -/
theorem cases_of_load (h : load data = .ok loaded) :
    data = loaded.value.grid.bytes ∧ loaded.value.scripts = [] ∨
    ∃ (count : UInt8) (rest : List UInt8) (payloads : List (List UInt8)) (left : List UInt8)
      (behind conflicts : List LoadWarning),
      data = loaded.value.grid.bytes ++ count :: rest ∧
      SlotCut count.toNat rest payloads left ∧
      loaded.value.scripts = acceptedScripts payloads ∧
      loaded.value.warnings = rejections 0 payloads ++ behind ++ conflicts ∧
      TellsEnd count.toNat payloads left behind := by
  rcases load_eq_ok_iff.mp h with ⟨g, rest, hg, rfl, -⟩
  -- The count makes the difference: without it there is no section, and so no cut.
  cases rest with
  | nil =>
      rcases exists_load_bytes hg with ⟨loaded', hload, hgrid, hlines, -⟩
      rw [List.append_nil] at h ⊢
      have hsame : loaded' = loaded := Except.ok.inj (hload.symm.trans h)
      rw [hsame] at hgrid hlines
      exact Or.inl ⟨by rw [hgrid], by rw [scripts, hlines]; rfl⟩
  | cons count rest =>
      rcases exists_slotCut count.toNat rest with ⟨payloads, left, hcut⟩
      rcases exists_load_of_slotCut hg hcut with
        ⟨loaded', behind, hload, hgrid, hlines, hwarnings, hend⟩
      have hsame : loaded' = loaded := Except.ok.inj (hload.symm.trans h)
      rw [hsame] at hgrid hlines hwarnings
      refine Or.inr ⟨count, rest, payloads, left, behind, _, by rw [hgrid], hcut, ?_, hwarnings,
        hend⟩
      exact scripts_of_lines hlines

/-- What was loaded from a file fits into a file. -/
theorem fits_of_load (h : load data = .ok loaded) :
    loaded.value.scripts.length ≤ maxScripts ∧
      ∀ s ∈ loaded.value.scripts, s.bytes.length ≤ maxScriptLength := by
  rcases cases_of_load h with ⟨-, hnone⟩ | ⟨count, rest, payloads, left, -, -, -, hcut, hscripts, -⟩
  · rw [hnone]
    exact ⟨Nat.zero_le _, by simp⟩
  · rw [hscripts]
    constructor
    · -- There are no more scripts than slots, and these were counted by a byte.
      have haccepted : (acceptedScripts payloads).length ≤ payloads.length :=
        List.length_filterMap_le _ payloads
      have hcounted : payloads.length ≤ count.toNat := hcut.length_le
      have hbyte : count.toNat ≤ maxScripts := Nat.le_of_lt_succ count.toNat_lt
      omega
    · -- A script that was read is as long as its payload, which was in a slot.
      exact fun s hs => hcut.fits _ (bytes_mem_of_mem_acceptedScripts hs)

/-- A script section of which nothing was dropped is the one that is written for its
    scripts. -/
theorem eq_sectionBytes_of_lossless {count : UInt8} {rest left : List UInt8}
    {payloads : List (List UInt8)} {behind conflicts : List LoadWarning}
    (hcut : SlotCut count.toNat rest payloads left)
    (hend : TellsEnd count.toNat payloads left behind)
    (hlossless : Lossless (rejections 0 payloads ++ behind ++ conflicts)) :
    count :: rest = sectionBytes (acceptedScripts payloads) := by
  rcases hlossless with ⟨hcorrupt, htrailing⟩
  -- No payload was dropped, no slot was missing, and nothing was left behind the last.
  have hrejections : rejections 0 payloads = [] := by
    refine List.eq_nil_iff_forall_not_mem.mpr fun w hw => ?_
    rcases eq_corruptScript_of_mem_rejections hw with ⟨index, error, rfl⟩
    exact hcorrupt index error (List.mem_append_left _ (List.mem_append_left _ hw))
  have hcounted : payloads.length = count.toNat := by
    rcases Nat.lt_or_eq_of_le hcut.length_le with hlt | heq
    · rcases hend.short hlt with ⟨offset, rfl⟩
      exact absurd (by simp) (hcorrupt payloads.length (.unexpectedEnd offset))
    · exact heq
  have hleft : left = [] := by
    by_contra hne
    rw [hend.full hcounted, if_neg hne] at htrailing
    exact absurd (by simp) (htrailing left.length)
  -- Every payload is a script and so the bytes of one.
  have hbytes : (acceptedScripts payloads).map Script.bytes = payloads :=
    map_bytes_acceptedScripts ((rejections_eq_nil_iff 0).mp hrejections)
  have hlength : (acceptedScripts payloads).length = count.toNat := by
    rw [← hcounted, ← List.length_map (f := Script.bytes), hbytes]
  rw [sectionBytes, hlength, UInt8.ofNat_toNat, hbytes, hcut.eq_append, hleft, List.append_nil]

/-- A file that was loaded, however damaged, can be saved. The file that is written is
    loaded as the same grid, the same lines and the same pool, nothing of it is dropped,
    and saving once more writes it again. If nothing was dropped of the first file, the
    two are the same, but for a file that ends behind the tiles, which gets the count of
    its scripts. -/
theorem save_of_load (h : load data = .ok loaded) :
    ∃ saved again, loaded.value.save = .ok saved ∧ load saved.value = .ok again ∧
      again.value.grid = loaded.value.grid ∧ again.value.lines = loaded.value.lines ∧
      again.value.ids = loaded.value.ids ∧ Lossless again.value.warnings ∧
      again.value.save = .ok saved ∧
      (Lossless loaded.value.warnings →
        (data ≠ loaded.value.grid.bytes → saved.value = data) ∧
        (data = loaded.value.grid.bytes → saved.value = data ++ [0])) := by
  have hsound := sound_load h
  -- Saving cannot fail: what was in slots goes back into slots of the same size.
  rcases fits_of_load h with ⟨hcount, hlength⟩
  rcases load_saved hsound hcount hlength with ⟨again, hagain, hgrid, hlines, hused, hwarnings⟩
  rcases lines_load h with ⟨hloadedLines, hloadedProbe⟩
  have hscripts : again.value.scripts = loaded.value.scripts := by
    rw [scripts, hlines, filterMap_mapIdx_ofScript]
  refine ⟨_, again, (save_eq_ok_iff hsound).mpr ⟨hcount, hlength, rfl⟩, hagain, hgrid,
    hlines.trans hloadedLines.symm, ?_, ?_, ?_, fun hlossless => ?_⟩
  · -- A pool is its used ids and its probe, and a loaded one has its probe at the first id.
    have hprobe : again.value.ids.probe = loaded.value.ids.probe :=
      (lines_load hagain).2.trans hloadedProbe.symm
    exact (Pool.mk.injEq _ _ _ _).mpr ⟨hprobe, hused⟩
  · -- What is left to tell are shared ids, and they are no loss.
    rw [hwarnings]
    exact lossless_of_forall fun w hw => eq_spawnIdConflict_of_mem hw
  · -- What is saved depends on the grid and the scripts, and both are the same.
    refine (save_eq_ok_iff (sound_load hagain)).mpr ?_
    rw [hscripts, hgrid]
    exact ⟨hcount, hlength, rfl⟩
  · rcases cases_of_load h with ⟨hdata, hnone⟩ |
      ⟨count, rest, payloads, left, behind, conflicts, hdata, hcut, haccepted, htold, hend⟩
    · -- A file without a section has no scripts, so it gets the count of none.
      refine ⟨fun hne => absurd hdata hne, fun _ => ?_⟩
      rw [hnone, ← hdata]
      rfl
    · rw [htold] at hlossless
      -- With a section of which nothing was lost, the section is written as it was.
      have hsection := eq_sectionBytes_of_lossless hcut hend hlossless
      refine ⟨fun _ => ?_, fun hends => ?_⟩
      · rw [haccepted, ← hsection, ← hdata]
      · -- There is at least the count behind the tiles.
        rw [hdata] at hends
        exact absurd (List.append_right_eq_self.mp hends) (List.cons_ne_nil _ _)

/-- A map whose first script is none, with one more slot counted than there is, is loaded
    and saved. The script that is left is saved in the only slot. -/
theorem save_of_load_damaged :
    ∃ loaded saved again,
      load twoLossesFile = .ok loaded ∧
      ¬ Lossless loaded.value.warnings ∧ loaded.value.save = .ok saved ∧
      load saved.value = .ok again ∧ again.value.lines = loaded.value.lines ∧
      again.value.lines.length = 1 ∧ Lossless again.value.warnings := by
  have hload : load twoLossesFile = .ok _ := rfl
  rcases save_of_load hload with ⟨saved, again, hsave, hagain, -, hlines, -, hlossless, -⟩
  refine ⟨_, saved, again, hload, fun hloss => ?_, hsave, hagain, hlines, ?_, hlossless⟩
  · exact hloss.1 0 (.unknownOperator 255 0) (by decide +kernel)
  · rw [hlines]
    rfl

end Document

end TileTriggers
