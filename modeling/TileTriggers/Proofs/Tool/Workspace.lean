import TileTriggers.Tool.Workspace
import TileTriggers.Proofs.Fallible
import TileTriggers.Proofs.Text.Trim
import Mathlib.Tactic.SplitIfs

/-!
# Writing over a File

Replacing the content of a file that exists changes nothing but that content. Which
places are directories stays the same, so every path leads where it led before, and
what is at any other place is untouched.

Writing needs a path that can only mean a file. A path that was read needs no second
look: had it ended in a slash, its last place would have been a directory, and reading
it would have failed.

## Theorems

* `Workspace.read_eq_ok_iff`: What is read is at the place that the path leads to.
* `Workspace.resolve_put`: Paths lead where they led before.
* `Workspace.read_put`, `Workspace.read_put_of_ne`: The file and all others.
* `Workspace.put_put`: The second of two writes is the one that counts.
* `Workspace.write_of_file`: A file that can be read can be written.
-/

namespace TileTriggers

namespace Workspace

variable {w : Workspace} {place : Place} {old content : List UInt8}

section Read

variable {path : String}

/-- A file is read exactly when the path leads to it. -/
theorem read_eq_ok_iff : w.read path = .ok content ↔
    ∃ place, w.resolve path = .ok place ∧ w.entry? place = some (.file content) := by
  rw [read, Fallible.bind_eq_ok]
  refine exists_congr fun place => and_congr_right fun _ => ?_
  cases w.entry? place with
  | none => simp [throw, throwThe, MonadExceptOf.throw]
  | some entry =>
      cases entry with
      | directory => simp [throw, throwThe, MonadExceptOf.throw]
      | file own => simp [pure, Except.pure]

end Read

section Put

theorem lookup_filter_of_ne {other : Place} (h : other ≠ place) (entries : List (Place × Entry)) :
    (entries.filter (·.1 != place)).lookup other = entries.lookup other := by
  induction entries with
  | nil => rfl
  | cons entry entries ih =>
      rw [List.filter_cons]
      split_ifs with hkept
      · rw [List.lookup_cons, List.lookup_cons, ih]
      · -- The entry was for the place, so it is not the one that is looked up.
        have hplace : entry.1 = place := by simpa using hkept
        have hother : (other == entry.1) = false := by
          rw [hplace]
          exact beq_eq_false_iff_ne.mpr h
        rw [ih, List.lookup_cons, hother]

theorem entry?_put_of_ne {other : Place} (h : other ≠ place) :
    entry? (w.put place content) other = w.entry? other := by
  unfold entry?
  rw [put, List.lookup_cons, beq_eq_false_iff_ne.mpr h]
  simp only [lookup_filter_of_ne h]

theorem entry?_put (h : w.entry? place = some (.file old)) :
    entry? (w.put place content) place = some (.file content) := by
  unfold entry? at h ⊢
  split_ifs at h ⊢ with htop
  · exact absurd h (by simp only [Option.some.injEq, reduceCtorEq, not_false_eq_true])
  · rw [put, List.lookup_cons, beq_self_eq_true]

theorem put_put (other : List UInt8) :
    (w.put place other).put place content = w.put place content := by
  rw [put, put, put, List.filter_cons_of_neg (by simp), List.filter_filter]
  simp only [Bool.and_self]

/-- Names lead where they led before, since no directory has changed. -/
theorem walk_put (h : w.entry? place = some (.file old)) (here : Place) (names : List String) :
    (w.put place content).walk here names = w.walk here names := by
  induction names generalizing here with
  | nil => rfl
  | cons name names ih =>
      rw [walk, walk]
      -- Whether something is a directory is all that a path asks on its way.
      by_cases hplace : here = place
      · rw [hplace, entry?_put h, h]
      · rw [entry?_put_of_ne hplace]
        simp only [ih]

theorem resolve_put (h : w.entry? place = some (.file old)) (path : String) :
    (w.put place content).resolve path = w.resolve path := by
  simp only [resolve, walk_put h]

variable {path : String}

/-- The file has the new content. -/
theorem read_put (hplace : w.resolve path = .ok place) (h : w.entry? place = some (.file old)) :
    (w.put place content).read path = .ok content := by
  rw [read_eq_ok_iff]
  exact ⟨place, (resolve_put h path).trans hplace, entry?_put h⟩

/-- What paths to other places lead to is as it was. -/
theorem read_put_of_ne (hplace : w.resolve path ≠ .ok place)
    (h : w.entry? place = some (.file old)) : (w.put place content).read path = w.read path := by
  rw [read, read, resolve_put h]
  -- The path still leads to the same place, and that place has its old entry.
  cases hresolve : w.resolve path with
  | error error => rfl
  | ok other =>
      rw [hresolve, ne_eq, Except.ok.injEq] at hplace
      rw [Fallible.ok_bind, Fallible.ok_bind, entry?_put_of_ne hplace]

end Put

section Write

/-- A path with a slash at its end leads to directories only. -/
theorem entry?_of_walk_concat {here : Place} {names : List String}
    (h : w.walk here (names ++ [""]) = .ok place) : w.entry? place = some .directory := by
  induction names generalizing here with
  | nil =>
      rw [List.nil_append, walk] at h
      -- The last name is empty, and only a directory is entered by it.
      split at h
      · exact absurd h (by simp only [reduceCtorEq, not_false_eq_true])
      · exact absurd h (by simp only [reduceCtorEq, not_false_eq_true])
      · rename_i hdirectory
        rw [if_pos (Or.inl rfl), walk, Except.ok.injEq] at h
        rw [← h]
        exact hdirectory
  | cons name names ih =>
      -- Every name in front of it may go on from somewhere else, so `here` is not fixed.
      rw [List.cons_append, walk] at h
      split at h
      · exact absurd h (by simp only [reduceCtorEq, not_false_eq_true])
      · exact absurd h (by simp only [reduceCtorEq, not_false_eq_true])
      · split_ifs at h
        · exact ih h
        · exact ih h
        · exact ih h

/-- The last name of a path with a slash at its end is empty. -/
theorem exists_names_of_slash {path : String} (h : path.toList.getLast? = some '/') :
    ∃ start leading, names path = (start, leading ++ [""]) := by
  rcases List.getLast?_eq_some_iff.mp h with ⟨cs, hcs⟩
  -- Behind the last slash one more piece is cut off, and it is empty.
  have hpieces : path.toList.splitOn '/' = cs.splitOn '/' ++ [[]] := by
    rw [hcs]
    exact List.splitOnP_append_cons cs [] (by decide)
  rcases List.exists_cons_of_ne_nil (List.splitOn_ne_nil '/' cs) with ⟨piece, pieces, hcons⟩
  rw [names, hpieces, hcons, List.map_append, List.map_cons, List.cons_append]
  -- An absolute path has an empty piece in front as well, which is no name.
  split
  · rename_i hnames
    rw [List.cons.injEq] at hnames
    exact ⟨_, pieces.map String.ofList, by rw [← hnames.2]; rfl⟩
  · exact ⟨_, String.ofList piece :: pieces.map String.ofList, rfl⟩

/-- A path to a file has no slash at its end. -/
theorem withoutSlashes_of_file {path : String} (hplace : w.resolve path = .ok place)
    (h : w.entry? place = some (.file old)) : withoutSlashes path = path := by
  have hlast : path.toList.getLast? ≠ some '/' := by
    -- With a slash at its end the path would lead to a directory, which is no file.
    intro hslash
    rcases exists_names_of_slash hslash with ⟨start, leading, hnames⟩
    rw [resolve, hnames] at hplace
    split_ifs at hplace
    rw [entry?_of_walk_concat hplace] at h
    exact absurd h (by simp only [Option.some.injEq, reduceCtorEq, not_false_eq_true])
  have hdrop : path.toList.reverse.dropWhile (· == '/') = path.toList.reverse := by
    rw [Text.dropWhile_eq_self_iff, List.head?_reverse]
    intro c hc
    rw [beq_eq_false_iff_ne]
    rintro rfl
    exact hlast hc
  rw [withoutSlashes, hdrop, List.reverse_reverse, String.ofList_toList]

/-- A file that a path leads to can be written. -/
theorem write_of_file {path : String} (hplace : w.resolve path = .ok place)
    (h : w.entry? place = some (.file old)) :
    w.write path content = .ok (w.put place content) := by
  -- Writing takes slashes off the path first, and here there are none.
  have hbare := withoutSlashes_of_file hplace h
  simp only [write, hbare, ite_self, hplace, Fallible.ok_bind, h]
  rw [if_neg (by simp)]
  rfl

end Write

end Workspace

end TileTriggers
