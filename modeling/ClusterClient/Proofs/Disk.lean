import ClusterClient.Disk
import Mathlib.Data.Bool.Basic
import Mathlib.Data.List.Infix
import Mathlib.Tactic.SplitIfs

/-! # Writing files

A file is made only where its directory exists, so that writing one makes no directory
(`ClusterClient.Disk.isDirectory_write?`) and every path names the same place behind it. What was
written once can be written again, and what was written last is read
(`ClusterClient.Disk.read?_write?`).
-/

namespace ClusterClient.Disk

variable {disk after : Disk} {path : String} {content : ByteArray} {place other : List String}

/-- A place is a directory if it is the root or a way up, a directory that is listed or one above
it, or one above a file. -/
theorem isDirectory_iff : disk.isDirectory place = true ↔
    place = [""] ∨ (∀ part ∈ place, part = "..") ∨
      (∃ directory ∈ disk.directories, place <+: directory) ∨
        ∃ file ∈ disk.files, place <+: file.1 ∧ place ≠ file.1 := by
  simp [isDirectory, or_assoc]

/-- What a directory is in is a directory. -/
theorem isDirectory_of_prefix (inside : place <+: other)
    (isDirectory : disk.isDirectory other = true) : disk.isDirectory place = true := by
  rw [isDirectory_iff] at isDirectory ⊢
  rcases isDirectory with rfl | up | ⟨directory, member, deeper⟩ | ⟨file, member, deeper, different⟩
  · rcases List.prefix_cons_iff.mp inside with rfl | ⟨rest, rfl, nothing⟩
    · exact .inr (.inl (List.forall_mem_nil _))
    · rw [List.prefix_nil.mp nothing]
      exact .inl rfl
  · exact .inr (.inl fun part member => up part (inside.subset member))
  · exact .inr (.inr (.inl ⟨directory, member, inside.trans deeper⟩))
  · refine .inr (.inr (.inr ⟨file, member, inside.trans deeper, ?_⟩))
    rintro rfl
    exact different (deeper.eq_of_length_le inside.length_le)

/-- What is on the way to a place and not the place itself is on the way to the directory it is in.
-/
theorem prefix_dropLast (inside : place <+: other) (different : place ≠ other) :
    place <+: other.dropLast := by
  obtain ⟨rest, rfl⟩ := inside
  have more : rest ≠ [] := by
    rintro rfl
    exact different (List.append_nil place).symm
  rw [List.dropLast_append_of_ne_nil more]
  exact List.prefix_append _ _

/-- What can be written: a file whose directory exists. -/
theorem write?_eq_some_iff : disk.write? path content = some after ↔
    ∃ place, disk.place? path = some place ∧ endsAsDirectory path = false ∧
      disk.isDirectory place = false ∧ disk.isDirectory place.dropLast = true ∧
        after = { disk with
          files := (place, content) :: disk.files.filter fun file => file.1 != place } := by
  unfold write?
  cases named : disk.place? path with
  | none => exact iff_of_false nofun (by rintro ⟨_, same, _⟩; cases same)
  | some place =>
      simp only [Option.bind_eq_bind, Option.bind_some, Option.some.injEq, exists_eq_left']
      split_ifs with unusable
      · refine iff_of_false nofun ?_
        rintro ⟨single, file, inside, _⟩
        simp [single, file, inside] at unusable
      · simp only [Bool.or_eq_true, Bool.not_eq_true', not_or, Bool.not_eq_true,
          Bool.not_eq_false] at unusable
        rw [Option.some.injEq, eq_comm]
        exact ⟨fun same => ⟨unusable.1.1, unusable.1.2, unusable.2, same⟩, fun all => all.2.2.2⟩

/-- **Writing a file makes no directory.** -/
theorem isDirectory_write? (written : disk.write? path content = some after) :
    after.isDirectory = disk.isDirectory := by
  obtain ⟨place, named, single, file, inside, rfl⟩ := write?_eq_some_iff.mp written
  funext other
  rw [Bool.eq_iff_iff]
  constructor
  · intro made
    rcases isDirectory_iff.mp made with root | up | listed | ⟨given, member, deeper, different⟩
    · exact isDirectory_iff.mpr (.inl root)
    · exact isDirectory_iff.mpr (.inr (.inl up))
    · exact isDirectory_iff.mpr (.inr (.inr (.inl listed)))
    · rcases List.mem_cons.mp member with rfl | old
      · -- What the file is in is its directory, or what this is in.
        exact isDirectory_of_prefix (prefix_dropLast deeper different) inside
      · exact isDirectory_iff.mpr
          (.inr (.inr (.inr ⟨given, List.mem_of_mem_filter old, deeper, different⟩)))
  · intro found
    rcases isDirectory_iff.mp found with root | up | listed | ⟨given, member, deeper, different⟩
    · exact isDirectory_iff.mpr (.inl root)
    · exact isDirectory_iff.mpr (.inr (.inl up))
    · exact isDirectory_iff.mpr (.inr (.inr (.inl listed)))
    · refine isDirectory_iff.mpr (.inr (.inr (.inr ?_)))
      by_cases same : given.1 = place
      · rw [same] at deeper different
        exact ⟨(place, content), List.mem_cons_self, deeper, different⟩
      · have kept : given ∈ disk.files.filter fun file => file.1 != place :=
          List.mem_filter.mpr ⟨member, bne_iff_ne.mpr same⟩
        exact ⟨given, List.mem_cons_of_mem _ kept, deeper, different⟩

/-- Writing a file leaves the working directory where it was. -/
theorem above?_write? (written : disk.write? path content = some after) :
    after.above? = disk.above? := by
  funext place
  rw [above?, above?, isDirectory_write? written]

/-- Every path names the same place behind a file that is written. -/
theorem place?_write? (written : disk.write? path content = some after) :
    after.place? = disk.place? := by
  funext other
  rw [place?, place?, above?_write? written]

/-- What was written once can be written again. -/
theorem write?_again (written : disk.write? path content = some after) (more : ByteArray) :
    ∃ last, after.write? path more = some last := by
  obtain ⟨place, named, single, file, inside, _⟩ := write?_eq_some_iff.mp written
  refine ⟨_, write?_eq_some_iff.mpr ⟨place, ?_, single, ?_, ?_, rfl⟩⟩
  · rw [place?_write? written, named]
  · rw [isDirectory_write? written, file]
  · rw [isDirectory_write? written, inside]

/-- **What was written last is read.** -/
theorem read?_write? (written : disk.write? path content = some after) :
    after.read? path = some content := by
  obtain ⟨place, named, single, _, _, same⟩ := write?_eq_some_iff.mp written
  rw [read?, place?_write? written, named, single, same]
  simp

/-- Files at other places stay as they are. -/
theorem read?_write?_other (written : disk.write? path content = some after) {other : String}
    (different : disk.place? other ≠ disk.place? path) : after.read? other = disk.read? other := by
  obtain ⟨place, named, _, _, _, same⟩ := write?_eq_some_iff.mp written
  rw [read?, read?, place?_write? written]
  cases found : disk.place? other with
  | none => rfl
  | some elsewhere =>
      have apart : elsewhere ≠ place := by
        rintro rfl
        exact different (found.trans named.symm)
      have first : (place == elsewhere) = false := beq_eq_false_iff_ne.mpr apart.symm
      have files : after.files.find? (fun file => file.1 == elsewhere) =
          disk.files.find? fun file => file.1 == elsewhere := by
        rw [same, List.find?_cons_of_neg (by rw [first]; exact Bool.false_ne_true),
          List.find?_filter]
        congr 1
        funext file
        by_cases own : file.1 = elsewhere
        · simp [own, apart]
        · simp [own]
      simp only [Option.bind_eq_bind, Option.bind_some, files]

end ClusterClient.Disk
