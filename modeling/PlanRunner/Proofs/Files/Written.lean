import PlanRunner.Files.Tree
import PlanRunner.Proofs.Results

/-!
# Written files

A file that has been written is found under the path that it was written to, and its text is the one
that was written.
-/

namespace PlanRunner

/-! ## Texts -/

namespace FileTree

theorem toList_loop_eq (bytes : ByteArray) (start : Nat) (taken : List UInt8) :
    ByteArray.toList.loop bytes start taken = taken.reverse ++ bytes.data.toList.drop start := by
  fun_induction ByteArray.toList.loop bytes start taken with
  | case1 start taken inside ih =>
      have isIndex : start < bytes.data.toList.length := by simpa using inside
      rw [ih, List.drop_eq_getElem_cons isIndex]
      simp [ByteArray.get!, inside]
  | case2 start taken outside =>
      rw [List.drop_eq_nil_of_le (by simpa using Nat.le_of_not_lt outside)]
      simp

/-- The bytes of a text are read as the text. -/
theorem fromUTF8?_bytesOf (text : String) :
    String.fromUTF8? (ByteArray.mk (bytesOf text).toArray) = some text := by
  have bytes : ByteArray.mk (bytesOf text).toArray = text.toByteArray := by
    rw [bytesOf, ByteArray.toList, toList_loop_eq]
    rfl
  rw [bytes, String.fromUTF8?, dif_pos text.isValidUTF8]
  rfl

end FileTree

/-! ## Entries -/

namespace FileEntry

variable {names outer : List String} {name : String} {entry : FileEntry}
  {entries inner : List (String × FileEntry)}

/-- All names that lead to a directory lead through directories. -/
theorem find?_cons_eq_directory_iff {first : String} {rest : List String} :
    find? (first :: rest) entries = some (.directory inner) ↔
      ∃ next, entries.lookup first = some (.directory next) ∧
        find? rest next = some (.directory inner) := by
  rw [find?]
  cases entries.lookup first with
  | none => simp
  | some entry =>
      cases entry with
      | file bytes => by_cases atEnd : rest.isEmpty = true <;> simp [atEnd]
      | directory next => simp

/-- Names lead on from a directory. -/
theorem find?_append (isDirectory : find? names entries = some (.directory inner))
    (more : List String) : find? (names ++ more) entries = find? more inner := by
  induction names generalizing entries with
  | nil =>
      simp only [find?, Option.some.injEq, FileEntry.directory.injEq] at isDirectory
      rw [List.nil_append, isDirectory]
  | cons first rest ih =>
      obtain ⟨next, isNext, found⟩ := find?_cons_eq_directory_iff.1 isDirectory
      rw [List.cons_append, find?, isNext]
      exact ih found

theorem find?_singleton (name : String) (entries : List (String × FileEntry)) :
    find? [name] entries = entries.lookup name := by
  rw [find?]
  cases entries.lookup name with
  | none => rfl
  | some entry => cases entry <;> rfl

/-- What stands somewhere stands in a directory. -/
theorem exists_directory_of_find? (isThere : find? (names ++ [name]) entries = some entry) :
    ∃ inner, find? names entries = some (.directory inner) := by
  induction names generalizing entries with
  | nil => exact ⟨entries, rfl⟩
  | cons first rest ih =>
      rw [List.cons_append, find?] at isThere
      rw [find?]
      split at isThere
      · exact ih isThere
      · simp at isThere
      · simp at isThere

/-- A directory stays one if a name that is no directory gets an entry. -/
theorem exists_directory_within (isOuter : find? outer entries = some (.directory inner))
    (noDirectory : ∀ old, inner.lookup name ≠ some (.directory old)) (entry : FileEntry)
    (isDirectory : ∃ old, find? names entries = some (.directory old)) :
    ∃ new, find? names (within (Keyed.insert name entry) outer entries) =
      some (.directory new) := by
  obtain ⟨old, isDirectory⟩ := isDirectory
  induction outer generalizing names entries with
  | nil =>
      simp only [find?, Option.some.injEq, FileEntry.directory.injEq] at isOuter
      subst isOuter
      cases names with
      | nil => exact ⟨_, rfl⟩
      | cons first rest =>
          obtain ⟨next, isNext, found⟩ := find?_cons_eq_directory_iff.1 isDirectory
          have other : first ≠ name := by
            rintro rfl
            exact noDirectory next isNext
          refine ⟨old, find?_cons_eq_directory_iff.2 ⟨next, ?_, found⟩⟩
          rw [within, Keyed.lookup_insert, if_neg other, isNext]
  | cons second others ih =>
      obtain ⟨inside, isInside, foundOuter⟩ := find?_cons_eq_directory_iff.1 isOuter
      rw [within, isInside]
      cases names with
      | nil => exact ⟨_, rfl⟩
      | cons first rest =>
          obtain ⟨next, isNext, found⟩ := find?_cons_eq_directory_iff.1 isDirectory
          by_cases same : first = second
          · subst same
            obtain rfl : inside = next := by simpa [isInside] using isNext
            obtain ⟨new, isNew⟩ := ih foundOuter found
            refine ⟨new, find?_cons_eq_directory_iff.2 ⟨_, ?_, isNew⟩⟩
            rw [Keyed.lookup_insert, if_pos rfl]
          · refine ⟨old, find?_cons_eq_directory_iff.2 ⟨next, ?_, found⟩⟩
            rw [Keyed.lookup_insert, if_neg same, isNext]

end FileEntry

/-! ## Paths -/

namespace FileTree

variable {tree changed : FileTree} {place final : FilePlace} {names : List String}
  {entries : List (String × FileEntry)} {path text : String}

/-- Names lead to a directory. -/
def LeadsToDirectory (tree : FileTree) (names : List String) : Prop :=
  ∃ entries, (tree.placeOf names).entry = some (.directory entries)

/-- Names that lead to directories lead to directories in another tree. -/
def KeepsDirectories (tree changed : FileTree) : Prop :=
  ∀ names, tree.LeadsToDirectory names → changed.LeadsToDirectory names

/-- The names of the place that one more name leads to. -/
def onwards (names : List String) (name : String) : List String :=
  if FilePath.isIdle name then names else if name = ".." then names.drop 1 else name :: names

/-- A name that may stand in a path. -/
def Fits (name : String) : Prop :=
  FilePath.isIdle name ∨ name = ".." ∨ name.utf8ByteSize ≤ FilePath.nameLimit

theorem placeOf_cons (name : String)
    (isDirectory : (tree.placeOf names).entry = some (.directory entries)) :
    tree.placeOf (name :: names) = ⟨name :: names, entries.lookup name⟩ := by
  rw [placeOf, List.reverse_cons, FileEntry.find?_append isDirectory, FileEntry.find?_singleton]

/-- A name leads on from a directory only. -/
theorem follow_cons_eq_ok_iff {name : String} {rest : List String} :
    tree.follow (tree.placeOf names) (name :: rest) = .ok final ↔
      tree.LeadsToDirectory names ∧ Fits name ∧
        tree.follow (tree.placeOf (onwards names name)) rest = .ok final := by
  rw [follow, LeadsToDirectory, Fits, onwards]
  cases isEntry : (tree.placeOf names).entry with
  | none => simp
  | some entry =>
      cases entry with
      | file bytes => simp
      | directory entries =>
          have isPlace : (tree.placeOf names).names = names := rfl
          by_cases idle : FilePath.isIdle name = true
          · simp [idle]
          · by_cases upwards : name = ".."
            · subst upwards
              simp [idle, isPlace]
            · by_cases tooLong : FilePath.nameLimit < name.utf8ByteSize
              · simp [idle, upwards, tooLong, Nat.not_le.2 tooLong]
              · simp [idle, upwards, tooLong, Nat.not_lt.1 tooLong, placeOf_cons name isEntry,
                  isPlace]

/-- A directory stands in a directory. -/
theorem LeadsToDirectory.outer (isDirectory : tree.LeadsToDirectory names) :
    tree.LeadsToDirectory (names.drop 1) := by
  cases names with
  | nil => exact isDirectory
  | cons name outer =>
      obtain ⟨entries, isEntry⟩ := isDirectory
      rw [placeOf, List.reverse_cons] at isEntry
      exact FileEntry.exists_directory_of_find? isEntry

/-- Where a name leads on to stands in a directory. -/
theorem LeadsToDirectory.outer_onwards (isDirectory : tree.LeadsToDirectory names)
    (name : String) : tree.LeadsToDirectory ((onwards names name).drop 1) := by
  unfold onwards
  split
  · exact isDirectory.outer
  · split
    · exact isDirectory.outer.outer
    · exact isDirectory

/-- Names lead to a place in the tree that stands in a directory. -/
theorem stands_of_follow {way : List String} (nonempty : way ≠ [])
    (followed : tree.follow (tree.placeOf names) way = .ok final) :
    tree.placeOf final.names = final ∧ tree.LeadsToDirectory (final.names.drop 1) := by
  induction way generalizing names with
  | nil => contradiction
  | cons name rest ih =>
      obtain ⟨isDirectory, -, later⟩ := follow_cons_eq_ok_iff.1 followed
      cases rest with
      | nil =>
          rw [← Except.ok.inj later]
          exact ⟨rfl, isDirectory.outer_onwards name⟩
      | cons second others => exact ih (by simp) later

/-- Where directories are kept, names lead to the same place. -/
theorem follow_of_keepsDirectories (keeps : tree.KeepsDirectories changed) {way : List String}
    (followed : tree.follow (tree.placeOf names) way = .ok final) :
    changed.follow (changed.placeOf names) way = .ok (changed.placeOf final.names) := by
  induction way generalizing names with
  | nil =>
      rw [← Except.ok.inj followed]
      rfl
  | cons name rest ih =>
      obtain ⟨isDirectory, fits, later⟩ := follow_cons_eq_ok_iff.1 followed
      exact follow_cons_eq_ok_iff.2 ⟨keeps names isDirectory, fits, ih later⟩

/-- Putting a file where no directory is keeps the directories, and the file is found there. -/
theorem put_file (placed : tree.placeOf place.names = place)
    (isOuter : tree.LeadsToDirectory (place.names.drop 1))
    (noDirectory : ∀ inner, place.entry ≠ some (.directory inner)) (bytes : List UInt8) :
    tree.KeepsDirectories (tree.put place (.file bytes)) ∧
      ((tree.put place (.file bytes)).placeOf place.names).entry = some (.file bytes) := by
  obtain ⟨names, entry⟩ := place
  have isEntry : (tree.placeOf names).entry = entry := congrArg FilePlace.entry placed
  cases names with
  | nil => exact absurd isEntry.symm (noDirectory tree.entries)
  | cons name outer =>
      obtain ⟨inner, isOuter⟩ := isOuter
      rw [List.drop_one, List.tail_cons] at isOuter
      rw [placeOf_cons name isOuter] at isEntry
      subst isEntry
      constructor
      · intro names isDirectory
        exact FileEntry.exists_directory_within isOuter noDirectory _ isDirectory
      · have isNew : FileEntry.find? outer.reverse
            (FileEntry.within (Keyed.insert name (.file bytes)) outer.reverse tree.entries) =
              some (.directory (Keyed.insert name (.file bytes) inner)) :=
          FileEntry.find?_within isOuter
        rw [placeOf, put, List.reverse_cons, FileEntry.find?_append isNew,
          FileEntry.find?_singleton, Keyed.lookup_insert, if_pos rfl]

theorem names_ne_nil (path : String) : FilePath.names path ≠ [] := by
  have more (text separator : String) (start stop matched : String.Pos.Raw) (found : List String) :
      text.splitOnAux separator start stop matched found ≠ [] := by
    fun_induction String.splitOnAux text separator start stop matched found <;> simp_all
  rw [FilePath.names, String.splitOn]
  split
  · simp
  · exact more path "/" 0 0 0 []

theorem namesOf_ne_nil (isNames : namesOf path = .ok names) : names ≠ [] := by
  unfold namesOf at isNames
  split at isNames
  · contradiction
  · split at isNames
    · contradiction
    · split at isNames
      · contradiction
      · exact Except.ok.inj isNames ▸ names_ne_nil path

/-- A file is written into the place that its path leads to, which no directory stands in. -/
theorem exists_place_of_writeBytes {bytes : List UInt8}
    (written : tree.writeBytes path bytes = .ok changed) :
    ∃ names place, namesOf path = .ok names ∧ tree.follow (tree.origin path) names = .ok place ∧
      (∀ inner, place.entry ≠ some (.directory inner)) ∧
        tree.put place (.file bytes) = changed := by
  unfold writeBytes at written
  obtain ⟨names, isNames, written⟩ := exists_of_bind_eq_ok written
  split at written
  case isTrue =>
    obtain ⟨_, -, written⟩ := exists_of_bind_eq_ok written
    contradiction
  case isFalse =>
    obtain ⟨place, isPlace, written⟩ := exists_of_bind_eq_ok written
    split at written
    · contradiction
    · exact ⟨names, place, isNames, isPlace, by assumption, Except.ok.inj written⟩

@[simp] theorem start_put (tree : FileTree) (place : FilePlace) (entry : FileEntry) :
    (tree.put place entry).start = tree.start := by
  unfold put
  split <;> rfl

/-- What has been written under a path is read under it. -/
theorem readText_of_writeBytes (written : tree.writeBytes path (bytesOf text) = .ok changed) :
    changed.readText path = .ok text := by
  obtain ⟨names, place, isNames, isPlace, noDirectory, rfl⟩ := exists_place_of_writeBytes written
  obtain ⟨placed, isOuter⟩ := stands_of_follow (namesOf_ne_nil isNames) isPlace
  obtain ⟨keeps, isFile⟩ := put_file placed isOuter noDirectory (bytesOf text)
  have isOrigin : (tree.put place (.file (bytesOf text))).origin path =
      (tree.put place (.file (bytesOf text))).placeOf (tree.origin path).names := by
    rw [origin, start_put]
    rfl
  have located : (tree.put place (.file (bytesOf text))).locate path =
      .ok ((tree.put place (.file (bytesOf text))).placeOf place.names) := by
    rw [locate, isNames, isOrigin]
    exact follow_of_keepsDirectories keeps isPlace
  unfold readText
  rw [located]
  simp only [bind, Except.bind, isFile, fromUTF8?_bytesOf]

end FileTree

end PlanRunner
