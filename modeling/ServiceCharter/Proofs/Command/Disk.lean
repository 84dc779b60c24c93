import ServiceCharter.Command.Disk

/-!
# Reading what was written

Where a file goes that is written at a path is its `destination`. All that a write does is to store
the file under it (`write_eq_ok_iff`), and what is read at a path is the file at its destination
(`read_eq_ok_iff`). The destination depends on the folders of the disk alone, and no write makes or
removes a folder (`sameFolders_of_write`). Hence a write neither opens nor closes the way to another
file: what could be written before can be written after, at the same destination
(`destination_eq_ok_iff`), and files with other destinations keep their content
(`keepsOthers_of_write`).
-/

namespace ServiceCharter.Command.Disk

/-- The path under which the file is kept that is written at a path. -/
def destination (d : Disk) (path : Text) : Except FileError String :=
  match d.locate path with
  | .error e => .error e
  | .ok t =>
    if t.isWithoutName || t.slash then .error .isFolder
    else
      match d.entry? t.folder t.name with
      | .error e => .error e
      | .ok (some .folder) => .error .isFolder
      | .ok _ => .ok (t.folder.child t.name).path

/-- A file can be written at the path. -/
def Writable (d : Disk) (path : Text) : Prop := ∃ content d', d.write path content = .ok d'

/-- What is written at one of the paths is in the file at the other. -/
def SameFile (d : Disk) (p q : Text) : Prop :=
  ∃ key, d.destination p = .ok key ∧ d.destination q = .ok key

/-- Every file is as it was, and there are no others, but for the one at the path. -/
def KeepsOthers (d d' : Disk) (path : Text) : Prop :=
  ∀ ⦃other content⦄, ¬d.SameFile path other →
    (d'.read other = .ok content ↔ d.read other = .ok content)

/-! ### Destinations -/

/-- A write stores the file under its destination, and does nothing else. -/
theorem write_eq (d : Disk) (path : Text) (content : ByteArray) :
    d.write path content =
      (d.destination path).map fun key => ⟨d.items.insert key (.file content)⟩ := by
  unfold write destination
  cases d.locate path with
  | error e => rfl
  | ok t =>
    simp only []
    split
    · rfl
    · split <;> simp_all [Except.map]

theorem write_eq_ok_iff {d d' : Disk} {path : Text} {content : ByteArray} :
    d.write path content = .ok d' ↔
      ∃ key, d.destination path = .ok key ∧ d' = ⟨d.items.insert key (.file content)⟩ := by
  rw [write_eq]
  cases d.destination path with
  | error e => simp [Except.map]
  | ok key => simp [Except.map, eq_comm]

theorem writable_iff {d : Disk} {path : Text} :
    d.Writable path ↔ ∃ key, d.destination path = .ok key := by
  constructor
  · rintro ⟨content, d', hwrite⟩
    obtain ⟨key, hkey, -⟩ := write_eq_ok_iff.1 hwrite
    exact ⟨key, hkey⟩
  · rintro ⟨key, hkey⟩
    exact ⟨ByteArray.empty, _, write_eq_ok_iff.2 ⟨key, hkey, rfl⟩⟩

theorem not_writable_of_write_eq_error {d : Disk} {path : Text} {content : ByteArray}
    {e : FileError} (h : d.write path content = .error e) : ¬d.Writable path := by
  rw [writable_iff]
  rintro ⟨key, hkey⟩
  rw [write_eq, hkey] at h
  cases h

theorem destination_eq_ok_iff {d : Disk} {path : Text} {key : String} :
    d.destination path = .ok key ↔ ∃ t, d.locate path = .ok t ∧
      (t.isWithoutName || t.slash) = false ∧ t.name.byteCount ≤ maxName ∧
      d.item? (t.folder.child t.name) ≠ some .folder ∧ (t.folder.child t.name).path = key := by
  unfold destination
  cases d.locate path with
  | error e => simp
  | ok t =>
    simp only [Except.ok.injEq, exists_eq_left']
    cases t.isWithoutName || t.slash with
    | true => simp
    | false =>
      by_cases hlong : maxName < t.name.byteCount
      · simp [ entry?, hlong, Nat.not_le.2 hlong]
      · have hshort : t.name.byteCount ≤ maxName := Nat.not_lt.1 hlong
        rcases hitem : d.item? (t.folder.child t.name) with _ | (content | _) <;>
          simp [ entry?, hitem, hlong, hshort]

/-- What is no folder has a place of its own on the disk. -/
private theorem item?_of_ne_folder {d : Disk} {p : Place} (h : d.item? p ≠ some .folder) :
    d.item? p = d.items.get? p.path := by
  unfold item? at h ⊢
  split at h
  · exact absurd rfl h
  · next hstanding => rw [if_neg hstanding]

private theorem get?_ne_folder_of_destination {d : Disk} {path : Text} {key : String}
    (h : d.destination path = .ok key) : d.items.get? key ≠ some .folder := by
  obtain ⟨t, -, -, -, hitem, rfl⟩ := destination_eq_ok_iff.1 h
  rwa [← item?_of_ne_folder hitem]

theorem entry?_eq_some_iff {d : Disk} {folder : Place} {name : Text} {item : Item} :
    d.entry? folder name = .ok (some item) ↔
      name.byteCount ≤ maxName ∧ d.item? (folder.child name) = some item := by
  unfold entry?
  split
  · next hlong => simp [Nat.not_le.2 hlong]
  · next hshort => simp [Nat.not_lt.1 hshort]

/-- **What is read at a path is the file at its destination.** -/
theorem read_eq_ok_iff {d : Disk} {path : Text} {content : ByteArray} :
    d.read path = .ok content ↔
      ∃ key, d.destination path = .ok key ∧ d.items.get? key = some (.file content) := by
  constructor
  · intro h
    unfold read at h
    cases hlocate : d.locate path with
    | error e => simp [hlocate] at h
    | ok t =>
      simp only [hlocate] at h
      split at h
      · cases h
      · next hwithout =>
        split at h
        · cases h
        · cases h
        · cases h
        · next hentry =>
          split at h
          · cases h
          · next hslash =>
            cases h
            obtain ⟨hshort, hitem⟩ := entry?_eq_some_iff.1 hentry
            have hfolder : d.item? (t.folder.child t.name) ≠ some .folder := by simp [hitem]
            have hkey := destination_eq_ok_iff.2
              ⟨t, hlocate, by simp [hwithout, hslash], hshort, hfolder, rfl⟩
            exact ⟨_, hkey, by rw [← item?_of_ne_folder hfolder, hitem]⟩
  · rintro ⟨key, hkey, hget⟩
    obtain ⟨t, hlocate, hname, hshort, hitem, rfl⟩ := destination_eq_ok_iff.1 hkey
    obtain ⟨hwithout, hslash⟩ := Bool.or_eq_false_iff.1 hname
    have hentry : d.entry? t.folder t.name = .ok (some (.file content)) :=
      entry?_eq_some_iff.2 ⟨hshort, by rw [item?_of_ne_folder hitem, hget]⟩
    simp [read, hlocate, hwithout, hslash, hentry]

/-! ### Folders -/

/-- The disks have the same folders. -/
def SameFolders (d d' : Disk) : Prop := ∀ p, d.item? p = some .folder ↔ d'.item? p = some .folder

theorem SameFolders.symm {d d' : Disk} (h : SameFolders d d') : SameFolders d' d :=
  fun p => (h p).symm

private theorem follow_of_sameFolders {d d' : Disk} (h : SameFolders d d') {here place : Place}
    {components : List Text} (hfollow : d.follow here components = .ok place) :
    d'.follow here components = .ok place := by
  induction components generalizing here with
  | nil => exact hfollow
  | cons c rest ih =>
    unfold follow at hfollow ⊢
    split at hfollow
    · next hskip =>
      rw [if_pos hskip]
      exact ih hfollow
    · next hskip =>
      rw [if_neg hskip]
      split at hfollow
      · next hup =>
        rw [if_pos hup]
        exact ih hfollow
      · next hup =>
        rw [if_neg hup]
        split at hfollow
        · cases hfollow
        · next hentry =>
          obtain ⟨hshort, hitem⟩ := entry?_eq_some_iff.1 hentry
          rw [entry?_eq_some_iff.2 ⟨hshort, (h _).1 hitem⟩]
          exact ih hfollow
        · cases hfollow
        · cases hfollow

private theorem locate_of_sameFolders {d d' : Disk} (h : SameFolders d d') {path : Text}
    {t : Target} (hlocate : d.locate path = .ok t) : d'.locate path = .ok t := by
  unfold locate at hlocate ⊢
  split at hlocate
  · cases hlocate
  · simp only [] at hlocate ⊢
    generalize (withoutSlashes path).splitOn '/' = components at hlocate ⊢
    cases hfollow : d.follow ⟨path.head? == some '/', []⟩ components.dropLast with
    | error e =>
      rw [hfollow] at hlocate
      cases hlocate
    | ok folder =>
      rw [hfollow] at hlocate
      rw [follow_of_sameFolders h hfollow]
      exact hlocate

private theorem destination_of_sameFolders {d d' : Disk} (h : SameFolders d d') {path : Text}
    {key : String} (hkey : d.destination path = .ok key) : d'.destination path = .ok key := by
  obtain ⟨t, hlocate, hname, hshort, hitem, rfl⟩ := destination_eq_ok_iff.1 hkey
  exact destination_eq_ok_iff.2
    ⟨t, locate_of_sameFolders h hlocate, hname, hshort, fun hf => hitem ((h _).2 hf), rfl⟩

/-! ### Writing -/

/-- Neither a folder is made by writing a file, nor one is removed. -/
theorem sameFolders_of_write {d d' : Disk} {path : Text} {content : ByteArray}
    (h : d.write path content = .ok d') : SameFolders d d' := by
  obtain ⟨key, hkey, rfl⟩ := write_eq_ok_iff.1 h
  intro p
  unfold item?
  split
  · rfl
  · rw [Table.get?_insert]
    split
    · next hpath =>
      rw [hpath]
      simp [get?_ne_folder_of_destination hkey]
    · rfl

private theorem destination_iff_of_write {d d' : Disk} {path : Text} {content : ByteArray}
    (h : d.write path content = .ok d') {other : Text} {key : String} :
    d'.destination other = .ok key ↔ d.destination other = .ok key :=
  ⟨destination_of_sameFolders (sameFolders_of_write h).symm,
    destination_of_sameFolders (sameFolders_of_write h)⟩

/-- **What was written is read back.** -/
theorem read_of_write {d d' : Disk} {path : Text} {content : ByteArray}
    (h : d.write path content = .ok d') : d'.read path = .ok content := by
  obtain ⟨key, hkey, hd'⟩ := write_eq_ok_iff.1 h
  refine read_eq_ok_iff.2 ⟨key, (destination_iff_of_write h).2 hkey, ?_⟩
  rw [hd', Table.get?_insert, if_pos rfl]

/-- Writing a file does not decide whether another can be written. -/
theorem writable_iff_of_write {d d' : Disk} {path : Text} {content : ByteArray}
    (h : d.write path content = .ok d') {other : Text} : d'.Writable other ↔ d.Writable other := by
  simp only [writable_iff, destination_iff_of_write h]

private theorem sameFile_iff_of_write {d d' : Disk} {path : Text} {content : ByteArray}
    (h : d.write path content = .ok d') {p q : Text} : d'.SameFile p q ↔ d.SameFile p q := by
  simp only [SameFile, destination_iff_of_write h]

/-- **Writing a file changes no other.** -/
theorem keepsOthers_of_write {d d' : Disk} {path : Text} {content : ByteArray}
    (h : d.write path content = .ok d') : d.KeepsOthers d' path := by
  intro other kept hne
  obtain ⟨key, hkey, rfl⟩ := write_eq_ok_iff.1 h
  simp only [read_eq_ok_iff, destination_iff_of_write h]
  refine exists_congr fun key' => and_congr_right fun hkey' => ?_
  have hkeys : key' ≠ key := by
    rintro rfl
    exact hne ⟨key', hkey, hkey'⟩
  rw [Table.get?_insert, if_neg hkeys]

/-- A file is as it was written after another has been written. -/
theorem read_of_write_of_write {d d₁ d₂ : Disk} {p q : Text} {a b : ByteArray}
    (hp : d.write p a = .ok d₁) (hq : d₁.write q b = .ok d₂) (hne : ¬d.SameFile p q) :
    d₂.read p = .ok a := by
  have hother : ¬d₁.SameFile q p := by
    rw [sameFile_iff_of_write hp]
    exact fun ⟨key, hkeyq, hkeyp⟩ => hne ⟨key, hkeyp, hkeyq⟩
  exact (keepsOthers_of_write hq hother).2 (read_of_write hp)

end ServiceCharter.Command.Disk
