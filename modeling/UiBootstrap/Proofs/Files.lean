import UiBootstrap.File
import UiBootstrap.Proofs.KeyedWrites

/-!
# Rewriting a file

A path leads to a file by steps, each of which sets out from a directory (`Files.follow`). Other
bytes in one file turn no directory into anything else and no file into a directory, so every path
leads where it led before (`Files.follow_put`): what it finds has changed exactly if it is that
file. `Files.rewritten_set` says so of a file that is written through a path.
-/

namespace UiBootstrap

variable {files : Files} {place : Place} {path address : Text} {bytes after : List UInt8}

/-- The shortest path to a place, if it is an entry of a directory. -/
def Place.address? : Place → Option Text
  | .entry name directory => some (Place.address name directory)
  | _ => none

namespace Files

/-! ## What a path leads to -/

/-- A file stands at an address where there is one. -/
theorem exists_address_of_standing (h : files.standing place = .contents bytes) :
    ∃ address, place.address? = some address ∧
      Keyed.get? address (files ++ everywhere) = some (.contents bytes) := by
  cases place with
  | root => cases h
  | above levels => cases h
  | entry name directory =>
    refine ⟨_, rfl, ?_⟩
    simp only [standing] at h
    split at h
    · next file hfile => rw [hfile, h]
    · split at h <;> cases h

/-- A path that leads to a file leads to the place of that file. -/
theorem standing_of_follow {steps : List Text} (h : files.follow place steps = .contents bytes) :
    files.standing (steps.foldl Place.step place) = .contents bytes := by
  induction steps generalizing place with
  | nil => exact h
  | cons name steps ih =>
    rw [follow] at h
    split at h
    · split at h
      · cases h
      · exact ih h
    · cases h
    · next hother => exact absurd h (hother bytes)

/-- A path that leads to a file leads to its address. -/
theorem exists_address_of_look (h : files.look path = .contents bytes) :
    ∃ address, (Place.ofPath path).address? = some address ∧
      Keyed.get? address (files ++ everywhere) = some (.contents bytes) := by
  rw [look] at h
  split at h
  · cases h
  split at h
  · cases h
  · exact exists_address_of_standing (standing_of_follow h)

/-- A file that is not empty is one of the files: what stands everywhere is empty. -/
theorem get?_of_get?_append_everywhere
    (h : Keyed.get? address (files ++ everywhere) = some (.contents bytes)) (hne : bytes ≠ []) :
    files.get? address = some (.contents bytes) := by
  rw [Keyed.get?_append] at h
  cases hfile : files.get? address with
  | some file => rw [hfile, Option.some_or] at h; exact h
  | none =>
    rw [hfile, Option.none_or, everywhere, Keyed.get?] at h
    split at h
    · cases h
      exact absurd rfl hne
    · cases h

/-! ## Other bytes in a file -/

/-- Other bytes in a file change what stands at its address. -/
theorem standing_put (h : files.get? address = some (.contents bytes)) (place : Place) :
    Files.standing (files.put address (.contents after)) place =
      if place.address? = some address then .contents after else files.standing place := by
  cases place with
  | root => rfl
  | above levels => rfl
  | entry name directory =>
    have hkeys : Keyed.keys (files.put address (.contents after)) = Keyed.keys files :=
      Keyed.keys_put_of_mem (List.mem_map_of_mem (Keyed.mem_of_get? h))
    simp only [standing, Place.address?, Option.some.injEq]
    rw [Keyed.keys_append, hkeys, ← Keyed.keys_append]
    by_cases haddress : Place.address name directory = address
    · rw [if_pos haddress, haddress, Keyed.get?_append, Keyed.get?_put_self]
      rfl
    · rw [if_neg haddress, Keyed.get?_append, Keyed.get?_put_of_ne haddress, ← Keyed.get?_append]

/-- **Other bytes in a file lead no path astray.** It finds the other bytes where it found the file,
and what it found before anywhere else. -/
theorem follow_put (h : files.get? address = some (.contents bytes)) (place : Place)
    (steps : List Text) : Files.follow (files.put address (.contents after)) place steps =
      if (steps.foldl Place.step place).address? = some address ∧
        files.follow place steps = .contents bytes then .contents after
      else files.follow place steps := by
  have hself : ∀ place : Place, place.address? = some address →
      files.standing place = .contents bytes := by
    intro place hplace
    cases place with
    | root => cases hplace
    | above levels => cases hplace
    | entry name directory =>
      obtain rfl := Option.some.inj hplace
      simp only [standing]
      rw [Keyed.get?_append, h, Option.some_or]
  induction steps generalizing place with
  | nil =>
    rw [follow, standing_put h, List.foldl_nil, follow]
    by_cases hplace : place.address? = some address
    · rw [if_pos hplace, if_pos ⟨hplace, hself place hplace⟩]
    · rw [if_neg hplace, if_neg fun hand => hplace hand.1]
  | cons name steps ih =>
    rw [follow, standing_put h, List.foldl_cons, follow]
    by_cases hplace : place.address? = some address
    · -- A step from a file leads nowhere, whatever is in the file.
      rw [if_pos hplace, hself place hplace]
      exact (if_neg (by simp)).symm
    · rw [if_neg hplace]
      cases files.standing place with
      | directory =>
        by_cases hlong : Place.isLongName name = true
        · simp [hlong]
        · simpa [hlong] using ih (place.step name)
      | missing => simp
      | contents _ => simp
      | closed _ => simp
      | unreachable _ => simp

/-- Other bytes in a file change what is found under the paths that lead to it. -/
theorem look_put (h : files.get? address = some (.contents bytes)) (path : Text) :
    Files.look (files.put address (.contents after)) path =
      if (Place.ofPath path).address? = some address ∧ files.look path = .contents bytes then
        .contents after
      else files.look path := by
  rw [look, look]
  split
  · exact (if_neg (by simp)).symm
  split
  · exact (if_neg (by simp)).symm
  · exact follow_put h _ _

/-! ## Writing through a path -/

/-- After a path has been written through: it leads to other bytes than before, the other files have
the bytes that they had, there are no more files and no fewer, and no other path finds anything new,
unless it leads to the same file. -/
structure Rewritten (files : Files) (path : Text) (bytes : List UInt8) (after : Files) : Prop where
  look_self : after.look path = .contents bytes
  get?_other : ∀ address, some address ≠ (Place.ofPath path).address? →
    after.get? address = files.get? address
  keys : Keyed.keys after = Keyed.keys files
  look_other : ∀ other, (Place.ofPath other).address? ≠ (Place.ofPath path).address? →
    after.look other = files.look other

/-- **A file that is there is rewritten, and nothing else.** -/
theorem rewritten_set (h : files.look path = .contents bytes) (hne : bytes ≠ [])
    (after : List UInt8) : files.Rewritten path after (files.set path (.contents after)) := by
  obtain ⟨address, haddress, hknown⟩ := exists_address_of_look h
  have hfile := get?_of_get?_append_everywhere hknown hne
  have hset : files.set path (.contents after) = files.put address (.contents after) := by
    rw [set]
    cases hplace : Place.ofPath path with
    | root => rw [hplace] at haddress; cases haddress
    | above levels => rw [hplace] at haddress; cases haddress
    | entry name directory =>
      rw [hplace] at haddress
      obtain rfl := Option.some.inj haddress
      rfl
  rw [hset]
  refine ⟨?_, fun other hother => ?_, ?_, fun other hother => ?_⟩
  · rw [look_put hfile, if_pos ⟨haddress, h⟩]
  · refine Keyed.get?_put_of_ne fun heq => hother ?_
    rw [heq, haddress]
  · exact Keyed.keys_put_of_mem (List.mem_map_of_mem (Keyed.mem_of_get? hfile))
  · rw [look_put hfile, if_neg fun hand => hother (hand.1.trans haddress.symm)]

end Files

end UiBootstrap
