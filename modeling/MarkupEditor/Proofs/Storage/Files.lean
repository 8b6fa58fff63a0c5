import MarkupEditor.Storage.Disk

/-!
# Reading what was written

Where a path leads is decided by the directories alone.  So a file that is written is there
for the next to follow the same path, and where a file can be read, one can be written.
-/

namespace MarkupEditor

namespace Disk

variable {disk after : Disk} {path : String}

/-! ### The places of files -/

/-- A path leads to a place where there is a file or can be one. -/
structure LeadsTo (disk : Disk) (path : String) (location : Location) : Prop where
  target : ∃ directory name, disk.target path = .ok (.entry directory name false) ∧
    location = directory ++ [name] ∧ Path.size name ≤ Path.maxNameSize
  vacant : disk.hasDirectory location = false

theorem enter_of_directories_eq (h : after.directories = disk.directories) {location : Location}
    {name : String} {entered : Location} (hentered : disk.enter path location name = .ok entered) :
    after.enter path location name = .ok entered := by
  have hdirectory : after.hasDirectory (location ++ [name]) =
      disk.hasDirectory (location ++ [name]) := by
    rw [hasDirectory, hasDirectory, h]
  rw [enter] at hentered ⊢
  rw [hdirectory]
  split at hentered
  · next hname => rwa [if_pos hname]
  · next hname =>
    rw [if_neg hname]
    split at hentered
    · next hup => rwa [if_pos hup]
    · next hup =>
      rw [if_neg hup]
      split at hentered
      · cases hentered
      · next hsize =>
        rw [if_neg hsize]
        split at hentered
        · next hthere => rwa [if_pos hthere]
        · split at hentered
          · cases hentered
          · cases hentered

/-- The induction is on the names on the way. -/
theorem foldlM_enter_of_directories_eq (h : after.directories = disk.directories)
    {location reached : Location} {names : List String}
    (hreached : names.foldlM (disk.enter path) location = .ok reached) :
    names.foldlM (after.enter path) location = .ok reached := by
  induction names generalizing location with
  | nil => exact hreached
  | cons name rest ih =>
      rw [List.foldlM_cons] at hreached ⊢
      obtain ⟨entered, hentered, hrest⟩ := exists_of_bind_eq_ok hreached
      rw [bind_eq_of_eq_ok (enter_of_directories_eq h hentered)]
      exact ih hrest

theorem target_of_directories_eq (h : after.directories = disk.directories) {target : Target}
    (htarget : disk.target path = .ok target) : after.target path = .ok target := by
  obtain ⟨_, hcheck, hnames⟩ := exists_of_bind_eq_ok htarget
  obtain ⟨reached, hreached, hlast⟩ := exists_of_bind_eq_ok hnames
  rw [Disk.target, bind_eq_of_eq_ok hcheck,
    bind_eq_of_eq_ok (foldlM_enter_of_directories_eq h hreached)]
  exact hlast

/-- What is in the files does not matter to where they are. -/
theorem LeadsTo.of_directories_eq {location : Location} (hleads : disk.LeadsTo path location)
    (h : after.directories = disk.directories) : after.LeadsTo path location where
  target := by
    obtain ⟨directory, name, htarget, hplace⟩ := hleads.target
    exact ⟨directory, name, target_of_directories_eq h htarget, hplace⟩
  vacant := by
    have hvacant := hleads.vacant
    rw [hasDirectory] at hvacant ⊢
    rwa [h]

/-- A path of one name leads to what has this name where paths begin. -/
theorem target_of_names_singleton (disk : Disk) {name : String} (hcheck : Path.check path = .ok ())
    (hnames : Path.names path = [name]) (hplain : ¬ (name = "." ∨ name = "..")) :
    disk.target path = .ok (.entry (origin path) name (Path.endsInSlash path)) := by
  rw [Disk.target, bind_eq_of_eq_ok hcheck, hnames]
  change Except.ok (if name = "." ∨ name = ".." then Target.directory else _) = _
  rw [if_neg hplain]
  rfl

/-! ### Reading and writing -/

theorem read_eq_ok_iff {bytes : List UInt8} :
    disk.read path = .ok bytes ↔
      ∃ location file, disk.LeadsTo path location ∧ disk.files.lookup location = some file ∧
        bytes = file.data.toList := by
  constructor
  · intro h
    obtain ⟨target, htarget, hread⟩ := exists_of_bind_eq_ok h
    split at hread
    · cases hread
    · next directory name slash =>
      split at hread
      · cases hread
      · next hsize =>
        split at hread
        · cases hread
        · next hvacant =>
          split at hread
          · next file hfile =>
            split at hread
            · cases hread
            · next hslash =>
              have hplain : slash = false := Bool.eq_false_iff.2 hslash
              subst hplain
              exact ⟨directory ++ [name], file,
                ⟨⟨directory, name, htarget, rfl, Nat.le_of_not_lt hsize⟩,
                  Bool.eq_false_iff.2 hvacant⟩,
                hfile, (Except.ok.inj hread).symm⟩
          · cases hread
  · rintro ⟨location, file, ⟨⟨directory, name, htarget, rfl, hsize⟩, hvacant⟩, hfile, rfl⟩
    rw [read, bind_eq_of_eq_ok htarget]
    dsimp only
    rw [if_neg (Nat.not_lt.2 hsize), if_neg (Bool.eq_false_iff.1 hvacant), hfile]
    rfl

theorem write_eq_ok_iff {bytes : List UInt8} {written : Disk} :
    disk.write path bytes = .ok written ↔
      ∃ location, disk.LeadsTo path location ∧
        written = { disk with files := store location ⟨bytes.toArray⟩ disk.files } := by
  constructor
  · intro h
    obtain ⟨target, htarget, hwrite⟩ := exists_of_bind_eq_ok h
    split at hwrite
    · cases hwrite
    · cases hwrite
    · next directory name =>
      dsimp only at hwrite
      split at hwrite
      · cases hwrite
      · next hsize =>
        split at hwrite
        · cases hwrite
        · next hvacant =>
          exact ⟨directory ++ [name],
            ⟨⟨directory, name, htarget, rfl, Nat.le_of_not_lt hsize⟩,
              Bool.eq_false_iff.2 hvacant⟩, (Except.ok.inj hwrite).symm⟩
  · rintro ⟨location, ⟨⟨directory, name, htarget, rfl, hsize⟩, hvacant⟩, rfl⟩
    rw [write, update, bind_eq_of_eq_ok htarget]
    dsimp only
    rw [if_neg (Nat.not_lt.2 hsize), if_neg (Bool.eq_false_iff.1 hvacant)]

theorem lookup_store (location : Location) (bytes : ByteArray)
    (files : List (Location × ByteArray)) :
    (store location bytes files).lookup location = some bytes := by
  induction files with
  | nil => rw [store, List.lookup_cons_self]
  | cons file rest ih =>
      rw [store]
      split
      · rw [List.lookup_cons_self]
      · next hother =>
        have hne : (location == file.1) = false := beq_eq_false_iff_ne.2 (Ne.symm hother)
        rw [List.lookup_cons, hne]
        exact ih

/-- What was written to a path is read from it. -/
theorem read_of_write {bytes : List UInt8} {written : Disk}
    (h : disk.write path bytes = .ok written) : written.read path = .ok bytes := by
  obtain ⟨location, hleads, rfl⟩ := write_eq_ok_iff.1 h
  exact read_eq_ok_iff.2
    ⟨location, ⟨bytes.toArray⟩, hleads.of_directories_eq rfl, lookup_store _ _ _, rfl⟩

/-- The only file of a disk, under a name of one letter. -/
theorem read_only_file (bytes : ByteArray) :
    read ⟨[], [(["a"], bytes)]⟩ "a" = .ok bytes.data.toList := by
  have hsplit : "a".splitOn "/" = ["a"] := by
    rw [String.splitOn, if_neg (by decide), String.splitOnAux, if_neg (by decide),
      if_neg (by decide), String.splitOnAux, if_pos (by decide)]
    decide
  have hnames : Path.names "a" = ["a"] := by
    rw [Path.names, hsplit]
    decide
  have hrelative : Path.isAbsolute "a" = false := by decide +kernel
  have hopen : Path.endsInSlash "a" = false := by decide +kernel
  have htarget : target ⟨[], [(["a"], bytes)]⟩ "a" = .ok (.entry [] "a" false) := by
    rw [target_of_names_singleton _ rfl hnames (by decide), hopen, origin, hrelative]
    rfl
  exact read_eq_ok_iff.2 ⟨["a"], bytes, ⟨⟨[], "a", htarget, rfl, by decide⟩, rfl⟩, rfl, rfl⟩

/-- Where a file can be read, one can be written, as long as the directories are the same. -/
theorem exists_write_of_read {bytes : List UInt8} (h : disk.read path = .ok bytes)
    (hsame : after.directories = disk.directories) (other : List UInt8) :
    ∃ written, after.write path other = .ok written := by
  obtain ⟨location, file, hleads, -⟩ := read_eq_ok_iff.1 h
  exact ⟨_, write_eq_ok_iff.2 ⟨location, hleads.of_directories_eq hsame, rfl⟩⟩

end Disk

end MarkupEditor
