import TileTriggers.Proofs.Map.RoundTrip

/-!
# Ids Named Twice

An id should be named once on a map, by a tile or by a spawn entry. Two spawn entries with
the same id and an id on both sides are clashes. They are told when the scripts or the size
change and again when a map is loaded, and this is done in different ways: on an edit both
sorts are events in ascending order of the ids, while loading makes a warning of every
entry whose id is on a tile, in the order of the entries. Here it is shown that the same
ids are told in both ways, and that they are the ids that are named twice.

Entries with the same id are found by going through all entries with a set of the ids met
so far. What the set has to say at each point is settled by generalizing it: an id is
found if it was met before and comes again, or if it comes twice.

## Main definitions

* `Lists`: A list of the ids of some sort, ascending.
* `warned`: The events that ask for attention.
* `Document.ClashesLoaded`: What is told of clashes when a map is loaded.
* `Document.ClashesTold`: What is told of clashes by an edit, and later on.

## Theorems

* `IdSet.mem_repeats`: The ids that are found to come again.
* `Document.lists_repeatedSpawnIds`, `Document.lists_sharedIds`: The ids named twice.
* `Document.warned_reconcile`, `Document.warned_load`: The events about them.
* `Document.Reachable.clashes_told`: What is told of clashes on every map.
-/

namespace TileTriggers

/-- A list of the ids of some sort, each of them once and in ascending order. -/
structure Lists (ids : List UInt8) (P : UInt8 → Prop) : Prop where
  ascending : ids.Pairwise (· < ·)
  mem_iff : ∀ id, id ∈ ids ↔ P id

namespace IdSet

theorem pairwise_allIds : allIds.Pairwise (· < ·) := by
  rw [allIds, List.pairwise_map]
  refine List.pairwise_lt_range.imp_of_mem ?_
  intro i j hi hj hlt
  rw [List.mem_range] at hi hj
  rw [UInt8.lt_iff_toNat_lt, UInt8.toNat_ofNat', UInt8.toNat_ofNat', Nat.mod_eq_of_lt hi,
    Nat.mod_eq_of_lt hj]
  exact hlt

/-- The members of a set are listed in order. -/
theorem lists_toList (s : IdSet) : Lists s.toList fun id => s.contains id = true :=
  ⟨pairwise_allIds.filter _, s.mem_toList⟩

/-- An id is found if it was met before and comes again, or if it comes twice. -/
theorem mem_repeats {seen : IdSet} {ids : List UInt8} {id : UInt8} :
    id ∈ repeats seen ids ↔ (seen.contains id = true ∧ id ∈ ids) ∨ 2 ≤ ids.count id := by
  induction ids generalizing seen with
  | nil => simp [repeats]
  | cons a ids ih =>
      have hcount : id ∈ ids ↔ 1 ≤ ids.count id := List.one_le_count_iff.symm
      -- Behind the first id the set holds that one as well.
      have hbehind : id ∈ repeats (seen.insert a) ids ↔
          ((seen.contains id = true ∨ a = id) ∧ id ∈ ids) ∨ 2 ≤ ids.count id := by
        rw [ih, contains_insert, Bool.or_eq_true, beq_iff_eq]
      by_cases ha : a = id
      · -- From here on the id is met, so it is enough that it comes once more.
        subst ha
        have hrest : a ∈ repeats (seen.insert a) ids ↔ 1 ≤ ids.count a := by
          rw [hbehind, hcount]
          simp only [or_true, true_and]
          omega
        rw [List.count_cons_self]
        by_cases hseen : seen.contains a = true
        · simp [repeats, hseen]
        · simp only [repeats, hseen, Bool.false_eq_true, if_false, hrest, false_and, false_or]
          omega
      · -- Another id than the first one is found behind it or not at all.
        have hmem : id ∈ repeats seen (a :: ids) ↔ id ∈ repeats (seen.insert a) ids := by
          rw [repeats]
          split_ifs
          · rw [List.mem_cons, or_iff_right (Ne.symm ha)]
          · rfl
        rw [hmem, hbehind, List.count_cons_of_ne ha, List.mem_cons, or_iff_right (Ne.symm ha),
          or_iff_left ha]

end IdSet

/-- The events that ask for attention. -/
def warned (log : List Event) : List Event :=
  log.filter fun e => e.level = .warn

theorem warned_append (log log' : List Event) : warned (log ++ log') = warned log ++ warned log' :=
  List.filter_append log log'

/-- Events of one kind ask for attention all or none. -/
theorem warned_map_of_warn {α : Type} {event : α → Event} (h : ∀ a, (event a).level = .warn)
    (as : List α) : warned (as.map event) = as.map event := by
  rw [warned, List.filter_eq_self]
  intro e he
  rcases List.mem_map.mp he with ⟨a, -, rfl⟩
  rw [decide_eq_true_eq]
  exact h a

theorem warned_map_of_ne {α : Type} {event : α → Event} (h : ∀ a, (event a).level ≠ .warn)
    (as : List α) : warned (as.map event) = [] := by
  rw [warned, List.filter_eq_nil_iff]
  intro e he
  rcases List.mem_map.mp he with ⟨a, -, rfl⟩
  rw [decide_eq_true_eq]
  exact h a

namespace Document

variable {d : Document}

/-- The ids found to be spawned repeatedly are those that two entries name. -/
theorem lists_repeatedSpawnIds (d : Document) :
    Lists d.repeatedSpawnIds fun id => 2 ≤ d.spawnIds.count id := by
  have hlists := IdSet.lists_toList (IdSet.ofList (IdSet.repeats .empty d.spawnIds))
  refine ⟨hlists.ascending, fun id => ?_⟩
  rw [repeatedSpawnIds, hlists.mem_iff, IdSet.contains_ofList, List.contains_iff_mem,
    IdSet.mem_repeats, IdSet.contains_empty]
  simp only [Bool.false_eq_true, false_and, false_or]

/-- The ids found to be shared are those that a tile and an entry name. -/
theorem lists_sharedIds (d : Document) :
    Lists d.sharedIds fun id => id ∈ d.grid.objectIds ∧ id ∈ d.spawnIds := by
  have hlists := IdSet.lists_toList d.spawnSet
  refine ⟨hlists.ascending.filter _, fun id => ?_⟩
  simp only [sharedIds, List.mem_filter, IdSet.mem_toList, spawnSet, tileSet,
    IdSet.contains_ofList, List.contains_iff_mem]
  exact and_comm

/-- Reconciling tells all clashes, and that ids are given back does not ask for attention. -/
theorem warned_reconcile (d : Document) : warned d.reconcile.log =
    d.repeatedSpawnIds.map .spawnedRepeatedly ++ d.sharedIds.map .sharedWithSpawn := by
  change warned (d.clashes ++ List.map .released _) = _
  rw [warned_append, warned_map_of_ne fun _ => Level.noConfusion, List.append_nil, clashes,
    warned_append, warned_map_of_warn fun _ => rfl, warned_map_of_warn fun _ => rfl]

/-- Loading tells its warnings and the ids that are spawned repeatedly. -/
theorem warned_load {data : List UInt8} {loaded : Logged Document} (h : load data = .ok loaded) :
    warned loaded.log = loaded.value.warnings.map .recovered ++
      loaded.value.repeatedSpawnIds.map .spawnedRepeatedly := by
  rcases load_eq_ok_iff.mp h with ⟨g, rest, -, -, rfl⟩
  change warned (List.map .recovered _ ++
    ([.loaded _ _ _ _ _] ++ List.map .spawnedRepeatedly _)) = _
  rw [warned_append, warned_append, warned_map_of_warn fun _ => rfl,
    warned_map_of_warn fun _ => rfl]
  rfl

/-- What is told of clashes when a map is loaded, given the ids that are spawned repeatedly
    and those shared by tiles and spawn entries. -/
structure ClashesLoaded (scripts : List Script) (repeated shared : List UInt8)
    (loaded : Logged Document) : Prop where
  /-- Every entry with a shared id is warned of, and nothing else. -/
  warnings : loaded.value.warnings =
    (scripts.mapIdx fun i s => (s.spawnIds.filter shared.contains).map (.spawnIdConflict i)).flatten
  /-- An id is warned of exactly when it is shared. -/
  mem_iff : ∀ id, (∃ i, .spawnIdConflict i id ∈ loaded.value.warnings) ↔ id ∈ shared
  /-- The warnings are told, and behind them the ids that are spawned repeatedly. -/
  log : warned loaded.log =
    loaded.value.warnings.map .recovered ++ repeated.map .spawnedRepeatedly

/-- What is told of clashes by an edit, and by loading the map that it leaves behind, given
    the ids that are spawned repeatedly and those shared by tiles and spawn entries. -/
structure ClashesTold (edited : Logged Document) (repeated shared : List UInt8) : Prop where
  /-- The ids that two spawn entries of the scripts name, or more than two. -/
  lists_repeated : Lists repeated fun id => 2 ≤ edited.value.spawnIds.count id
  /-- The ids that are on a tile and in a spawn entry. -/
  lists_shared : Lists shared fun id =>
    id ∈ edited.value.grid.objectIds ∧ id ∈ edited.value.spawnIds
  /-- Each of them is told once, and no other event asks for attention. -/
  log : warned edited.log = repeated.map .spawnedRepeatedly ++ shared.map .sharedWithSpawn
  messages : (warned edited.log).map Event.message =
    repeated.map (fun id => s!"object id {id.toNat} is spawned by more than one script entry") ++
      shared.map fun id => s!"object id {id.toNat} is used by both a tile and a script spawn"
  /-- The same ids are told when the map is loaded from its file. -/
  loaded : ∀ saved, edited.value.save = .ok saved →
    ∃ loaded, load saved.value = .ok loaded ∧
      ClashesLoaded edited.value.scripts repeated shared loaded

/-- The entries with ids on tiles are those with ids that are shared. -/
theorem spawnConflicts_tileSet {s : Script} (h : s ∈ d.scripts) (i : Nat) :
    spawnConflicts d.tileSet i s =
      (s.spawnIds.filter d.sharedIds.contains).map (.spawnIdConflict i) := by
  rw [spawnConflicts]
  refine congrArg (List.map _) (List.filter_congr fun id hid => ?_)
  -- An entry names its id already, so being on a tile makes the id a shared one.
  have hspawn : id ∈ d.spawnIds := List.mem_flatMap.mpr ⟨s, h, hid⟩
  rw [Bool.eq_iff_iff, tileSet, IdSet.contains_ofList, List.contains_iff_mem,
    List.contains_iff_mem, d.lists_sharedIds.mem_iff, and_iff_left hspawn]

theorem mapIdx_spawnConflicts (d : Document) :
    d.scripts.mapIdx (spawnConflicts d.tileSet) = d.scripts.mapIdx fun i s =>
      (s.spawnIds.filter d.sharedIds.contains).map (.spawnIdConflict i) := by
  refine List.ext_getElem? fun i => ?_
  rw [List.getElem?_mapIdx, List.getElem?_mapIdx]
  exact Option.map_congr fun s hs => spawnConflicts_tileSet (List.mem_of_getElem? hs) i

/-- An id is warned of exactly when it is shared. -/
theorem exists_spawnIdConflict_iff {shared : List UInt8} (h : ∀ id ∈ shared, id ∈ d.spawnIds)
    {id : UInt8} :
    (∃ i, .spawnIdConflict i id ∈ (d.scripts.mapIdx fun i s =>
        (s.spawnIds.filter shared.contains).map (LoadWarning.spawnIdConflict i)).flatten) ↔
      id ∈ shared := by
  constructor
  · rintro ⟨i, hmem⟩
    -- A warning comes from an entry that was kept for its id.
    rcases List.mem_flatten.mp hmem with ⟨told, htold, hid⟩
    rcases List.mem_mapIdx.mp htold with ⟨j, hj, rfl⟩
    rcases List.mem_map.mp hid with ⟨other, hother, heq⟩
    rw [LoadWarning.spawnIdConflict.injEq] at heq
    rw [← heq.2]
    exact List.contains_iff_mem.mp (List.mem_filter.mp hother).2
  · intro hshared
    -- A shared id is in an entry, whose script stands at some position.
    rcases List.mem_flatMap.mp (h id hshared) with ⟨s, hs, hid⟩
    rcases List.mem_iff_getElem.mp hs with ⟨i, hi, rfl⟩
    refine ⟨i, List.mem_flatten.mpr ⟨_, List.mem_mapIdx.mpr ⟨i, hi, rfl⟩, ?_⟩⟩
    exact List.mem_map_of_mem (List.mem_filter.mpr ⟨hid, List.contains_iff_mem.mpr hshared⟩)

/-- What loading the file of a sound document tells of its clashes. -/
theorem clashesLoaded_of_save (hd : d.Sound) {saved : Logged (List UInt8)}
    (hsave : d.save = .ok saved) :
    ∃ loaded, load saved.value = .ok loaded ∧
      ClashesLoaded d.scripts d.repeatedSpawnIds d.sharedIds loaded := by
  rcases (save_eq_ok_iff hd).mp hsave with ⟨hcount, hlength, rfl⟩
  rcases load_saved hd hcount hlength with ⟨loaded, hload, -, hlines, -, hwarnings⟩
  have hscripts : loaded.value.scripts = d.scripts := scripts_of_lines hlines
  -- Which ids come again depends on the scripts only.
  have hrepeated : loaded.value.repeatedSpawnIds = d.repeatedSpawnIds := by
    rw [repeatedSpawnIds, repeatedSpawnIds, spawnIds, spawnIds, hscripts]
  have htold := hwarnings.trans (congrArg List.flatten d.mapIdx_spawnConflicts)
  refine ⟨loaded, hload, htold, fun id => ?_, ?_⟩
  · rw [htold]
    exact exists_spawnIdConflict_iff fun id hid => ((d.lists_sharedIds.mem_iff id).mp hid).2
  · rw [warned_load hload, hrepeated]

/-- Reconciling changes neither the grid nor the scripts, so what it tells is true of the
    document that it leaves behind. -/
theorem clashesTold_reconcile (hd : d.reconcile.value.Sound) :
    ClashesTold d.reconcile d.repeatedSpawnIds d.sharedIds where
  lists_repeated := d.lists_repeatedSpawnIds
  lists_shared := d.lists_sharedIds
  log := d.warned_reconcile
  messages := by
    rw [warned_reconcile, List.map_append, List.map_map, List.map_map]
    rfl
  loaded _ hsave := clashesLoaded_of_save hd hsave

/-- Clashes on every map whose scripts are replaced or whose size is changed. An event that
    asks for attention is told of each id that two spawn entries name, be it in one script
    or in two, and then of each id that is on a tile and in an entry, both ascending.
    If the map can be saved, then loading it warns of every entry with an id of the second
    sort, and tells the ids of the first sort again. -/
theorem Reachable.clashes_told (h : d.Reachable) :
    (∀ listing, ∃ repeated shared, ClashesTold (d.setScriptText listing) repeated shared) ∧
      ∀ width height resized, d.resize width height = .ok resized →
        ∃ repeated shared, ClashesTold resized repeated shared := by
  constructor
  · -- Both edits reconcile last, and what reconciling tells is known for every document.
    intro listing
    exact ⟨_, _, clashesTold_reconcile (sound_setScriptText h.sound listing)⟩
  · intro width height resized hresize
    have hsound := sound_resize h.sound hresize
    rcases resize_eq_ok_iff.mp hresize with ⟨-, rfl⟩
    exact ⟨_, _, clashesTold_reconcile hsound⟩

/-- A map of one tile with an object and with two scripts that both spawn the id of that
    object. The second one spawns another id as well, twice. -/
def twoSpawnersFile : List UInt8 :=
  [1, 1, 0, 0xa7, 0, 2, 0, 11, 6, 0, 0, 0, 1, 9, 1, 0xa7, 0, 0, 0,
    0, 19, 6, 0, 0, 0, 2, 9, 3, 0xa7, 7, 0, 0, 0xa7, 0, 0, 0, 0xa7, 7, 0, 0]

/-- A map is loaded on which two scripts spawn the id of an object and one of them spawns
    another id twice. It is made wider, saved and loaded again. -/
theorem clashes_told_of_two_scripts :
    ∃ d : Document, d.Reachable ∧ ∃ resized, d.resize 2 1 = .ok resized ∧
      ∃ repeated shared, ClashesTold resized repeated shared ∧ 7 ∈ repeated ∧ 0 ∈ shared ∧
        ∃ saved loaded, resized.value.save = .ok saved ∧ load saved.value = .ok loaded ∧
          .spawnedRepeatedly 7 ∈ warned loaded.log ∧
          ∃ i, .spawnIdConflict i 0 ∈ loaded.value.warnings := by
  have h := Reachable.load (show load twoSpawnersFile = .ok _ from rfl)
  rcases h.clashes_told.2 2 1 _ rfl with ⟨repeated, shared, htold⟩
  have hrepeated := (htold.lists_repeated.mem_iff 7).mpr (by decide +kernel)
  have hshared := (htold.lists_shared.mem_iff 0).mpr (by decide +kernel)
  rcases htold.loaded _ rfl with ⟨loaded, hload, hclashes⟩
  refine ⟨_, h, _, rfl, repeated, shared, htold, hrepeated, hshared, _, loaded, rfl, hload, ?_,
    (hclashes.mem_iff 0).mpr hshared⟩
  rw [hclashes.log]
  exact List.mem_append_right _ (List.mem_map_of_mem hrepeated)

end Document

end TileTriggers
