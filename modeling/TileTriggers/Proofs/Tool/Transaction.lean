import TileTriggers.Tool.Commands
import TileTriggers.Proofs.Map.RoundTrip
import TileTriggers.Proofs.Tool.Workspace

/-!
# Storing Scripts as a Transaction

Replacing the scripts of a map either happens as a whole or not at all. All that can go
wrong is found out before the file is written: the map has to load, the listing has to be
text, and its scripts have to fit the counts and lengths of a file. Writing comes last and
cannot fail any more, for the file could be read.

What is written is the header and the tiles of the old file, byte for byte, and a new script
section. This holds however damaged the old section was. Loading reads the tiles strictly,
so they are the only tiles with these bytes, and saving writes the same bytes for them.

Nothing of the old section survives, so storing a listing a second time writes the same
file again. That needs the listing to be another file than the map. One file can be both,
its script section being lines of text that no slot is read from, and then the first run
replaces these lines by a section that is no listing any more.

## Main definitions

* `listedScripts`: The scripts of a listing.
* `FitFile`: Scripts that a map file has room for.
* `Storable`: A map file and a listing that can be stored in it.
* `storedBytes`: The file that is written.
* `ListsScripts`: A description of a map with certain scripts.

## Theorems

* `Document.save_setScriptText_eq_ok_iff`: When a map can be saved with a listing.
* `Command.storeScripts_of_storable`, `Command.storeScripts_of_not_storable`: The two
  outcomes.
* `Command.storeScripts_again`: Storing a listing a second time.
* `Command.listsScripts_dumpMap`: What describing a map tells about its scripts.
* `scripts_transaction`: The command as a transaction.
-/

namespace TileTriggers

/-- The scripts on the lines of a listing that compile, in order. -/
def listedScripts (text : String) : List Script :=
  (Text.lines text.toList).filterMap fun line => (Script.parse (String.ofList line)).toOption

/-- Scripts that a map file has room for: their number fits its byte, and each encodes to a
    payload whose length fits its two bytes. -/
structure FitFile (scripts : List Script) : Prop where
  count : scripts.length ≤ 255
  encodes : ∀ s ∈ scripts, ∃ payload, s.encode = .ok payload ∧ payload.length ≤ 65535

/-- A map file and a listing that can be stored in it: the map loads, the listing is text,
    and its scripts fit a file. -/
structure Storable (w : Workspace) (map listing : String) (data : List UInt8) (text : String) :
    Prop where
  map_read : w.read map = .ok data
  listing_read : w.readText listing = .ok text
  loads : ∃ loaded, Document.load data = .ok loaded
  fits : FitFile (listedScripts text)

/-- The file of a map with the scripts of a listing: the header and the tiles of the map,
    and a section of these scripts. -/
def storedBytes (d : Document) (text : String) : List UInt8 :=
  d.grid.bytes ++ sectionBytes (listedScripts text)

/-- Printed lines of which the part about scripts holds the canonical texts of these scripts,
    in order and no others. Four lines stand in front of it, and only warnings behind. -/
def ListsScripts (printed : List String) (scripts : List Script) : Prop :=
  ∃ warnings, printed.drop 4 = ("  Scripts (" ++ toString scripts.length ++ "):") ::
      scripts.map (fun s => "    " ++ s.text) ++ warnings ∧
    (warnings = [] ∨ warnings.head? = some "  Warnings:")

section Listed

variable {text : String}

theorem valid_of_mem_listedScripts {s : Script} (h : s ∈ listedScripts text) : s.Valid := by
  rcases List.mem_filterMap.mp h with ⟨line, -, hline⟩
  exact Script.valid_of_parse (Fallible.toOption_eq_some.mp hline)

theorem mapM_encode_listedScripts (text : String) :
    (listedScripts text).mapM Script.encode = .ok ((listedScripts text).map Script.bytes) :=
  Fallible.mapM_of_forall fun _ hs => Script.encode_of_valid (valid_of_mem_listedScripts hs)

/-- The payloads of a listing are the bytes of its scripts. -/
theorem fitFile_listedScripts_iff : FitFile (listedScripts text) ↔
    (listedScripts text).length ≤ maxScripts ∧
      ∀ s ∈ listedScripts text, s.bytes.length ≤ maxScriptLength := by
  -- A script of a listing is valid, so it encodes, and to its bytes.
  have hencode : ∀ s ∈ listedScripts text,
      (∃ payload, s.encode = .ok payload ∧ payload.length ≤ 65535) ↔
        s.bytes.length ≤ maxScriptLength := by
    intro s hs
    rw [Script.encode_of_valid (valid_of_mem_listedScripts hs)]
    simp only [Except.ok.injEq, exists_eq_left', maxScriptLength]
  constructor
  · rintro ⟨hcount, hencodes⟩
    exact ⟨hcount, fun s hs => (hencode s hs).mp (hencodes s hs)⟩
  · rintro ⟨hcount, hlength⟩
    exact ⟨hcount, fun s hs => (hencode s hs).mpr (hlength s hs)⟩

end Listed

namespace Document

variable {d : Document} {text : String}

theorem scripts_setScriptText : (d.setScriptText text).value.scripts = listedScripts text := by
  have hline : ∀ i line, (LineReport.ofLine i line).script? =
      (Script.parse (String.ofList line)).toOption := fun _ _ => rfl
  exact filterMap_mapIdx_of_forall hline (Text.lines text.toList)

/-- With a listing a map can be saved exactly when the scripts fit a file, and the tiles are
    saved as they are. -/
theorem save_setScriptText_eq_ok_iff (hd : d.Sound) {saved : Logged (List UInt8)} :
    (d.setScriptText text).value.save = .ok saved ↔ FitFile (listedScripts text) ∧
      saved = ⟨storedBytes d text, [.saved d.grid.width d.grid.height
        (listedScripts text).length (storedBytes d text).length]⟩ := by
  rw [save_eq_ok_iff (sound_setScriptText hd text), scripts_setScriptText,
    fitFile_listedScripts_iff, and_assoc]
  rfl

/-- A map that was saved with a listing is loaded with the same tiles and its scripts. -/
theorem exists_load_storedBytes (hd : d.Sound) (hfits : FitFile (listedScripts text)) :
    ∃ loaded, load (storedBytes d text) = .ok loaded ∧ loaded.value.grid = d.grid ∧
      loaded.value.scripts = listedScripts text := by
  rw [fitFile_listedScripts_iff, ← scripts_setScriptText (d := d)] at hfits
  rcases load_saved (sound_setScriptText hd text) hfits.1 hfits.2 with
    ⟨loaded, hload, hgrid, hlines, -⟩
  rw [scripts_setScriptText] at hload hlines
  exact ⟨loaded, hload, hgrid, scripts_of_lines hlines⟩

end Document

section Storable

variable {w : Workspace} {map listing text : String} {data : List UInt8}

theorem Storable.exists_place (h : Storable w map listing data text) :
    ∃ place loaded, w.resolve map = .ok place ∧ w.entry? place = some (.file data) ∧
      Document.load data = .ok loaded := by
  rcases Workspace.read_eq_ok_iff.mp h.map_read with ⟨place, hplace, hfile⟩
  rcases h.loads with ⟨loaded, hload⟩
  exact ⟨place, loaded, hplace, hfile, hload⟩

end Storable

namespace Command

variable {w : Workspace} {map listing text : String} {data : List UInt8} {place : Place}
  {loaded : Logged Document}

theorem loadMap_eq_ok_iff : w.loadMap map = .ok loaded ↔
    ∃ data, w.read map = .ok data ∧ Document.load data = .ok loaded := by
  rw [Workspace.loadMap]
  cases w.read map with
  | error error => simp only [reduceCtorEq, false_and, exists_false]
  | ok bytes =>
      simp only [Except.ok.injEq, exists_eq_left']
      cases Document.load bytes with
      | error error => simp only [Except.mapError, reduceCtorEq]
      | ok own => simp only [Except.mapError, Except.ok.injEq]

/-- What can be stored is stored, and in the file of the map only. -/
theorem storeScripts_of_storable (h : Storable w map listing data text)
    (hload : Document.load data = .ok loaded) (hplace : w.resolve map = .ok place) :
    (storeScripts w map listing).succeeded = true ∧
      (storeScripts w map listing).workspace = w.put place (storedBytes loaded.value text) := by
  rcases Workspace.read_eq_ok_iff.mp h.map_read with ⟨own, hown, hfile⟩
  -- The path leads to one place only, so this is where the file is.
  rw [hplace, Except.ok.injEq] at hown
  rw [← hown] at hfile
  have hmap : w.loadMap map = .ok loaded := loadMap_eq_ok_iff.mpr ⟨data, h.map_read, hload⟩
  have hsave := (Document.save_setScriptText_eq_ok_iff (Document.sound_load hload)).mpr
    ⟨h.fits, rfl⟩
  -- Nothing can fail any more: the map loads, it saves, and where it was read it can be written.
  rw [storeScripts, hmap]
  simp only [h.listing_read, Workspace.saveMap, hsave, Workspace.write_of_file hplace hfile,
    Except.mapError]
  exact ⟨rfl, rfl⟩

/-- What cannot be stored leaves everything as it was. -/
theorem storeScripts_of_not_storable (h : ¬ ∃ data text, Storable w map listing data text) :
    (storeScripts w map listing).succeeded = false ∧
      (storeScripts w map listing).workspace = w := by
  rw [storeScripts]
  -- The cases follow the command, which ends at the first thing that is missing.
  cases hmap : w.loadMap map with
  | error chain => exact ⟨rfl, rfl⟩
  | ok loaded =>
      cases htext : w.readText listing with
      | error error => exact ⟨rfl, rfl⟩
      | ok text =>
          rcases loadMap_eq_ok_iff.mp hmap with ⟨data, hread, hload⟩
          cases hsave : (loaded.value.setScriptText text).value.save with
          | error error =>
              simp only [Workspace.saveMap, hsave]
              exact ⟨rfl, rfl⟩
          | ok saved =>
              -- All that was asked for is there, so nothing is left that could fail.
              have hfits := ((Document.save_setScriptText_eq_ok_iff
                (Document.sound_load hload)).mp hsave).1
              exact absurd ⟨data, text, hread, htext, ⟨loaded, hload⟩, hfits⟩ h

/-- Storing the same listing again writes the same file. -/
theorem storeScripts_again (h : Storable w map listing data text)
    (hload : Document.load data = .ok loaded) (hplace : w.resolve map = .ok place)
    (hother : w.resolve listing ≠ .ok place) :
    (storeScripts (w.put place (storedBytes loaded.value text)) map listing).workspace =
      w.put place (storedBytes loaded.value text) := by
  rcases Workspace.read_eq_ok_iff.mp h.map_read with ⟨own, hown, hfile⟩
  rw [hplace, Except.ok.injEq] at hown
  rw [← hown] at hfile
  rcases Document.exists_load_storedBytes (Document.sound_load hload) h.fits with
    ⟨again, hagain, hgrid, -⟩
  -- Another file is not touched, so the listing is still there to be read.
  have hstorable : Storable (w.put place (storedBytes loaded.value text)) map listing
      (storedBytes loaded.value text) text := by
    refine ⟨Workspace.read_put hplace hfile, ?_, ⟨again, hagain⟩, h.fits⟩
    rw [Workspace.readText, Workspace.read_put_of_ne hother hfile]
    exact h.listing_read
  have hresolve : (w.put place (storedBytes loaded.value text)).resolve map = .ok place :=
    (Workspace.resolve_put hfile map).trans hplace
  -- The scripts come from the listing, so of the old map only the tiles are in the new file.
  have hbytes : storedBytes again.value text = storedBytes loaded.value text := by
    rw [storedBytes, hgrid, storedBytes]
  rw [(storeScripts_of_storable hstorable hagain hresolve).2, Workspace.put_put, hbytes]

/-- A map is described with the canonical texts of its scripts. -/
theorem listsScripts_dumpMap (hread : w.read map = .ok data)
    (hload : Document.load data = .ok loaded) :
    (dumpMap w map false).succeeded = true ∧
      ListsScripts (dumpMap w map false).printed loaded.value.scripts := by
  rw [dumpMap, loadMap_eq_ok_iff.mpr ⟨data, hread, hload⟩]
  refine ⟨rfl, _, rfl, ?_⟩
  -- Behind the scripts there is nothing, or the title of the warnings.
  split
  · exact Or.inl rfl
  · exact Or.inr rfl

end Command

namespace Invocation

variable {w : Workspace} {environment : List (String × String)} {i : Invocation}
  {settings : Settings}

/-- Apart from the log, a run with settings is its command. -/
theorem execute_of_load (h : Settings.load w i.settingsFile environment = some settings) :
    (i.execute w environment).succeeded = (i.command.execute w settings).succeeded ∧
      (i.execute w environment).workspace = (i.command.execute w settings).workspace ∧
      (i.execute w environment).printed = (i.command.execute w settings).printed := by
  rw [execute, h]
  exact ⟨rfl, rfl, rfl⟩

/-- A run leaves the workspace alone if its command does, with whatever settings. -/
theorem workspace_execute_eq (h : ∀ settings, (i.command.execute w settings).workspace = w) :
    (i.execute w environment).workspace = w := by
  cases hsettings : Settings.load w i.settingsFile environment with
  | none =>
      rw [execute, hsettings]
      rfl
  | some settings => exact (execute_of_load hsettings).2.1.trans (h settings)

end Invocation

section Transaction

variable {w : Workspace} {environment : List (String × String)}
  {settingsFile map listing : String} {settings : Settings}

/-- Storing the scripts of a listing in a map is a transaction. It succeeds exactly when
    there is something to store, and otherwise it changes nothing. When it succeeds, the
    header and the tiles of the map are followed by the scripts of the listing, all other
    files are as they were, and the map is described with these scripts. Doing it again
    changes nothing if the listing is not the map itself. -/
theorem scripts_transaction
    (hsettings : Settings.load w settingsFile environment = some settings) :
    let report := Invocation.execute w environment ⟨settingsFile, .scripts map listing⟩
    (report.succeeded = true ↔ ∃ data text, Storable w map listing data text) ∧
      (report.succeeded = false → report.workspace = w) ∧
      ∀ data text, Storable w map listing data text →
        (∃ loaded rest payloads, Document.load data = .ok loaded ∧
          data = loaded.value.grid.bytes ++ rest ∧
          (listedScripts text).mapM Script.encode = .ok payloads ∧
          report.workspace.read map = .ok (loaded.value.grid.bytes ++
            UInt8.ofNat payloads.length ::
              payloads.flatMap fun payload => bigEndian 2 payload.length ++ payload)) ∧
        (∀ place, w.resolve map ≠ .ok place →
          report.workspace.entry? place = w.entry? place) ∧
        (w.resolve listing ≠ w.resolve map → ∀ settingsFile environment,
          (Invocation.execute report.workspace environment
            ⟨settingsFile, .scripts map listing⟩).workspace = report.workspace) ∧
        ∀ settingsFile environment settings,
          Settings.load report.workspace settingsFile environment = some settings →
          let dumped := Invocation.execute report.workspace environment
            ⟨settingsFile, .dump map false⟩
          dumped.succeeded = true ∧ ListsScripts dumped.printed (listedScripts text) := by
  intro report
  rcases Invocation.execute_of_load (i := ⟨settingsFile, .scripts map listing⟩) hsettings with
    ⟨hsucceeded, hworkspace, -⟩
  refine ⟨⟨fun hsuccess => ?_, ?_⟩, fun hfailure => ?_, fun data text h => ?_⟩
  · -- A run that succeeds had something to store, since it fails on all else.
    by_contra hnot
    rw [hsucceeded] at hsuccess
    exact absurd ((Command.storeScripts_of_not_storable hnot).1.symm.trans hsuccess)
      (by simp only [reduceCtorEq, not_false_eq_true])
  · rintro ⟨data, text, h⟩
    rcases h.exists_place with ⟨place, loaded, hplace, -, hload⟩
    exact hsucceeded.trans (Command.storeScripts_of_storable h hload hplace).1
  · -- And one that fails had nothing to store, since it succeeds on all that is storable.
    have hnot : ¬ ∃ data text, Storable w map listing data text := by
      rintro ⟨data, text, h⟩
      rcases h.exists_place with ⟨place, loaded, hplace, -, hload⟩
      rw [hsucceeded] at hfailure
      exact absurd ((Command.storeScripts_of_storable h hload hplace).1.symm.trans hfailure)
        (by simp only [reduceCtorEq, not_false_eq_true])
    exact hworkspace.trans (Command.storeScripts_of_not_storable hnot).2
  · rcases h.exists_place with ⟨place, loaded, hplace, hfile, hload⟩
    -- Everything else is read off the one file that was put in place.
    have hput : report.workspace = w.put place (storedBytes loaded.value text) :=
      hworkspace.trans (Command.storeScripts_of_storable h hload hplace).2
    rw [hput]
    refine ⟨?_, fun other hother => ?_, fun hother settingsFile environment => ?_,
      fun settingsFile environment settings hsettings => ?_⟩
    · -- Loading reads the tiles strictly, so the tiles of the map are the front of the file.
      rcases Document.load_eq_ok_iff.mp hload with ⟨g, rest, -, hdata, rfl⟩
      exact ⟨_, rest, _, hload, hdata, mapM_encode_listedScripts text,
        (Workspace.read_put hplace hfile).trans (by rw [List.length_map]; rfl)⟩
    · exact Workspace.entry?_put_of_ne fun heq => hother (heq ▸ hplace)
    · -- Only here the listing must not be the map: its text has to be what it was.
      rw [hplace] at hother
      exact Invocation.workspace_execute_eq fun settings =>
        Command.storeScripts_again h hload hplace hother
    · -- What was written loads again, with the scripts of the listing.
      rcases Document.exists_load_storedBytes (Document.sound_load hload) h.fits with
        ⟨again, hagain, -, hscripts⟩
      rcases Invocation.execute_of_load (i := ⟨settingsFile, .dump map false⟩) hsettings with
        ⟨hdumped, -, hprinted⟩
      rcases Command.listsScripts_dumpMap (Workspace.read_put hplace hfile) hagain with
        ⟨hsuccess, hlists⟩
      rw [hscripts] at hlists
      exact ⟨hdumped.trans hsuccess, hprinted ▸ hlists⟩

/-- A map without scripts and a listing of three lines, of which the second is none. The
    others are stored, and doing it again changes nothing. -/
theorem scripts_transaction_of_two_lines :
    ∃ (w : Workspace) (report : Report),
      w = ⟨[(["a.map"], .file [1, 1, 0x21, 0]), (["a.txt"], .file
        ("IF TIME_ELAPSED(1) THEN WIN()\n# later\nIF TIME_ELAPSED(2) THEN WIN()\n".toList.map
          fun c => UInt8.ofNat c.toNat))]⟩ ∧
      (Settings.load w "raymap.toml" []).isSome ∧
      report = Invocation.execute w [] ⟨"raymap.toml", .scripts "a.map" "a.txt"⟩ ∧
      report.succeeded = true ∧
      report.workspace.read "a.map" =
        .ok [1, 1, 0x21, 0, 2, 0, 6, 6, 0, 0, 0, 1, 13, 0, 6, 6, 0, 0, 0, 2, 13] ∧
      (Invocation.execute report.workspace [] ⟨"raymap.toml", .scripts "a.map" "a.txt"⟩).workspace =
        report.workspace := by
  let w : Workspace := ⟨[(["a.map"], .file [1, 1, 0x21, 0]), (["a.txt"], .file
    ("IF TIME_ELAPSED(1) THEN WIN()\n# later\nIF TIME_ELAPSED(2) THEN WIN()\n".toList.map
      fun c => UInt8.ofNat c.toNat))]⟩
  have hload : (Settings.load w "raymap.toml" []).isSome := by decide +kernel
  rcases Option.isSome_iff_exists.mp hload with ⟨settings, hsettings⟩
  rcases @scripts_transaction w [] "raymap.toml" "a.map" "a.txt" settings hsettings with
    ⟨hsuccess, -, heffect⟩
  have hrun : (Invocation.execute w [] ⟨"raymap.toml", .scripts "a.map" "a.txt"⟩).succeeded = true ∧
      (Invocation.execute w [] ⟨"raymap.toml", .scripts "a.map" "a.txt"⟩).workspace.read "a.map" =
        .ok [1, 1, 0x21, 0, 2, 0, 6, 6, 0, 0, 0, 1, 13, 0, 6, 6, 0, 0, 0, 2, 13] := by
    decide +kernel
  -- What was stored is known from the run, without reading the listing by hand.
  rcases hsuccess.mp hrun.1 with ⟨data, listing, hstorable⟩
  rcases heffect data listing hstorable with ⟨-, -, hagain, -⟩
  exact ⟨w, _, rfl, hload, rfl, hrun.1, hrun.2, hagain (by decide +kernel) _ _⟩

/-- A map can be a listing at the same time. Storing its own scripts in it replaces the lines
    that hold them, so there are none the second time, and the map changes once more. -/
theorem scripts_not_stored_again :
    ∃ (w : Workspace) (first second : Report),
      w = ⟨[(["a.map"], .file ([1, 1, 0, 0, 10] ++
        "IF TIME_ELAPSED(1) THEN WIN()\n".toList.map fun c => UInt8.ofNat c.toNat))]⟩ ∧
      first = Invocation.execute w [] ⟨"raymap.toml", .scripts "a.map" "a.map"⟩ ∧
      second = Invocation.execute first.workspace [] ⟨"raymap.toml", .scripts "a.map" "a.map"⟩ ∧
      (Settings.load w "raymap.toml" []).isSome ∧
      first.succeeded = true ∧
      first.workspace.read "a.map" = .ok [1, 1, 0, 0, 1, 0, 6, 6, 0, 0, 0, 1, 13] ∧
      second.succeeded = true ∧
      second.workspace.read "a.map" = .ok [1, 1, 0, 0, 0] := by
  refine ⟨_, _, _, rfl, rfl, rfl, ?_⟩
  decide +kernel

end Transaction

end TileTriggers
