import GeoUrn.Files.Tree
import GeoUrn.Proofs.Tables

/-!
What operations do to file trees. Making directories adds them where nothing was, putting a file
changes what lies in its place alone, and both leave every path leading where it led.
-/
namespace GeoUrn

namespace FileTree

variable {tree before after : FileTree} {place other : Location} {path : Path}

@[simp] theorem home_putAt (tree : FileTree) (place : Location) (entry : FileEntry) :
    (tree.putAt place entry).home = tree.home := rfl

/-- What is no directory is not among those above the working directory. -/
theorem isPrefixOf_home_eq_false (h : tree.entryAt? place ≠ some .directory) :
    place.isPrefixOf tree.home = false := by
  by_contra hp
  exact h (if_pos (by simpa using hp))

theorem entryAt?_putAt_self (h : tree.entryAt? place ≠ some .directory) (entry : FileEntry) :
    (tree.putAt place entry).entryAt? place = some entry := by
  have hp : place.isPrefixOf tree.home = false := isPrefixOf_home_eq_false h
  rw [entryAt?, home_putAt, hp]
  exact Table.get?_put_self place entry tree.entries

theorem entryAt?_putAt_of_ne (h : other ≠ place) (entry : FileEntry) :
    (tree.putAt place entry).entryAt? other = tree.entryAt? other := by
  rw [entryAt?, entryAt?, home_putAt, putAt, Table.get?_put_of_ne h]

theorem bytesAt_of_file {bytes : Bytes} (h : tree.entryAt? place = some (.file bytes)) :
    tree.bytesAt place = bytes := by
  rw [bytesAt, h]

def HoldsFile (tree : FileTree) (place : Location) : Prop :=
  tree.entryAt? place = some (.file (tree.bytesAt place))

instance (tree : FileTree) (place : Location) : Decidable (tree.HoldsFile place) :=
  inferInstanceAs (Decidable (_ = _))

theorem holdsFile_of_file {bytes : Bytes} (h : tree.entryAt? place = some (.file bytes)) :
    tree.HoldsFile place := by
  rw [HoldsFile, bytesAt_of_file h, h]

theorem HoldsFile.not_directory (h : tree.HoldsFile place) :
    tree.entryAt? place ≠ some .directory := by
  rw [h]
  simp

theorem bytesAt_putAt_of_ne (h : other ≠ place) (entry : FileEntry) :
    (tree.putAt place entry).bytesAt other = tree.bytesAt other := by
  rw [bytesAt, bytesAt, entryAt?_putAt_of_ne h]

theorem HoldsFile.putAt_file (h : tree.HoldsFile other)
    (hp : tree.entryAt? place ≠ some .directory) (bytes : Bytes) :
    (tree.putAt place (.file bytes)).HoldsFile other := by
  by_cases ho : other = place
  · rw [ho]
    exact holdsFile_of_file (entryAt?_putAt_self hp _)
  · exact holdsFile_of_file ((entryAt?_putAt_of_ne ho _).trans h)

theorem holdsFile_appendAt (h : tree.entryAt? place ≠ some .directory) (bytes : Bytes) :
    (tree.appendAt place bytes).HoldsFile place :=
  holdsFile_of_file (entryAt?_putAt_self h _)

/-- Adding bytes to a file adds them to this file only. -/
theorem bytesAt_appendAt (h : tree.entryAt? place ≠ some .directory) (bytes : Bytes)
    (other : Location) : (tree.appendAt place bytes).bytesAt other =
      tree.bytesAt other ++ if other = place then bytes else [] := by
  split_ifs with ho
  · rw [ho]
    exact bytesAt_of_file (entryAt?_putAt_self h _)
  · rw [List.append_nil]
    exact bytesAt_putAt_of_ne ho _

theorem appendAt_appendAt (h : tree.entryAt? place ≠ some .directory) (first second : Bytes) :
    (tree.appendAt place first).appendAt place second = tree.appendAt place (first ++ second) := by
  have hb : (tree.appendAt place first).bytesAt place = tree.bytesAt place ++ first := by
    rw [bytesAt_appendAt h, if_pos rfl]
  rw [FileTree.appendAt, hb, List.append_assoc, FileTree.appendAt, FileTree.appendAt, putAt, putAt,
    putAt, Table.put_put]

theorem appendAt_nil (h : tree.HoldsFile place) : tree.appendAt place [] = tree := by
  have hp : place.isPrefixOf tree.home = false := isPrefixOf_home_eq_false h.not_directory
  have hg : Table.get? place tree.entries = some (.file (tree.bytesAt place)) := by
    rw [HoldsFile, entryAt?, hp] at h
    exact h
  rw [FileTree.appendAt, List.append_nil, putAt, Table.put_of_get? hg]

def stepTo (place : Location) (name : Chars) : Location :=
  if name = ['.', '.'] then above place else place ++ [name]

/-- The location to which a path leads from the working directory if it leads anywhere. -/
def target (home : Location) (path : Path) : Location :=
  match path.names with
  | [] => home
  | name :: rest =>
    if Path.isAnchor name then rest.foldl stepTo [Path.rootName]
    else (name :: rest).foldl stepTo home

theorem enter_eq_ok {name : Chars} (h : tree.enter path place name = .ok other) :
    tree.entryAt? place = some .directory ∧ other = stepTo place name := by
  unfold enter at h
  split at h
  · rename_i hd
    refine ⟨hd, ?_⟩
    unfold stepTo
    split_ifs at h ⊢
    · exact (Except.ok.inj h).symm
    · exact (Except.ok.inj h).symm
  · cases h
  · cases h

theorem follow_eq_ok {names : List Chars} (h : tree.follow path place names = .ok other) :
    other = names.foldl stepTo place := by
  induction names generalizing place with
  | nil => exact (Except.ok.inj h).symm
  | cons name rest ih =>
    rw [follow] at h
    split at h
    · cases h
    · rename_i next hn
      rw [List.foldl_cons, ← (enter_eq_ok hn).2]
      exact ih h

theorem locate_eq_target (h : tree.locate path = .ok place) : place = target tree.home path := by
  unfold locate at h
  split_ifs at h
  unfold trace at h
  unfold target
  cases hn : path.names with
  | nil =>
    rw [hn] at h
    exact (Except.ok.inj h).symm
  | cons name rest =>
    rw [hn] at h
    simp only at h ⊢
    split_ifs at h ⊢
    · exact follow_eq_ok h
    · exact follow_eq_ok h

/-- Directories stay directories, and the working directory stays where it is. -/
structure KeepsDirectories (before after : FileTree) : Prop where
  home : after.home = before.home
  directory : ∀ place, before.entryAt? place = some .directory →
    after.entryAt? place = some .directory

theorem KeepsDirectories.trans {middle : FileTree} (h : KeepsDirectories before middle)
    (h' : KeepsDirectories middle after) : KeepsDirectories before after where
  home := h'.home.trans h.home
  directory place hd := h'.directory place (h.directory place hd)

theorem KeepsDirectories.enter (h : KeepsDirectories before after) {name : Chars}
    (he : before.enter path place name = .ok other) : after.enter path place name = .ok other := by
  have hd := (enter_eq_ok he).1
  rw [FileTree.enter, hd] at he
  rw [FileTree.enter, h.directory place hd]
  exact he

theorem KeepsDirectories.follow (h : KeepsDirectories before after) {names : List Chars}
    (hf : before.follow path place names = .ok other) :
    after.follow path place names = .ok other := by
  induction names generalizing place with
  | nil => exact hf
  | cons name rest ih =>
    rw [FileTree.follow] at hf ⊢
    split at hf
    · cases hf
    · rename_i next hn
      rw [h.enter hn]
      exact ih hf

/-- A path that leads somewhere goes on leading there. -/
theorem KeepsDirectories.locate (h : KeepsDirectories before after)
    (hl : before.locate path = .ok place) : after.locate path = .ok place := by
  unfold FileTree.locate at hl ⊢
  split_ifs at hl ⊢
  unfold trace at hl ⊢
  split at hl
  · rw [h.home]
    exact hl
  · rw [h.home]
    split_ifs at hl ⊢
    · exact h.follow hl
    · exact h.follow hl

theorem keepsDirectories_putAt (h : tree.entryAt? place ≠ some .directory) (entry : FileEntry) :
    KeepsDirectories tree (tree.putAt place entry) where
  home := rfl
  directory other ho := by
    have hne : other ≠ place := fun he => h (he ▸ ho)
    rw [entryAt?_putAt_of_ne hne, ho]

/-- Directories stay directories, and files stay files. -/
structure Grows (before after : FileTree) : Prop extends KeepsDirectories before after where
  holdsFile : ∀ place, before.HoldsFile place → after.HoldsFile place

theorem Grows.refl (tree : FileTree) : Grows tree tree := ⟨⟨rfl, fun _ h => h⟩, fun _ h => h⟩

theorem grows_putAt_file (h : tree.entryAt? place ≠ some .directory) (bytes : Bytes) :
    Grows tree (tree.putAt place (.file bytes)) :=
  ⟨keepsDirectories_putAt h _, fun _ ho => ho.putAt_file h bytes⟩

theorem grows_appendAt (h : tree.entryAt? place ≠ some .directory) (bytes : Bytes) :
    Grows tree (tree.appendAt place bytes) := grows_putAt_file h _

theorem Grows.trans {middle : FileTree} (h : Grows before middle) (h' : Grows middle after) :
    Grows before after :=
  ⟨h.toKeepsDirectories.trans h'.toKeepsDirectories,
    fun place hp => h'.holdsFile place (h.holdsFile place hp)⟩

theorem read_of_locate (h : tree.locate path = .ok place) (hf : tree.HoldsFile place) :
    tree.read path = .ok (tree.bytesAt place) := by
  rw [read, h]
  simp only
  rw [hf]

theorem read_eq_ok {bytes : Bytes} (h : tree.read path = .ok bytes) :
    tree.locate path = .ok (target tree.home path) ∧
      tree.entryAt? (target tree.home path) = some (.file bytes) := by
  unfold read at h
  split at h
  · cases h
  · rename_i place hl
    rw [← locate_eq_target hl]
    split at h
    · rename_i he
      cases h
      exact ⟨hl, he⟩
    · cases h
    · cases h

theorem lookup_of_read {bytes : Bytes} (h : tree.read path = .ok bytes) :
    tree.lookup path = .ok (some (.file bytes)) := by
  obtain ⟨hl, he⟩ := read_eq_ok h
  rw [lookup, hl]
  exact congrArg _ he

theorem read_of_isFile (h : tree.isFile path = true) :
    tree.read path = .ok (tree.bytesAt (target tree.home path)) := by
  unfold isFile entry? at h
  split at h
  · rename_i bytes he
    split at he
    · rename_i place hl
      rw [← locate_eq_target hl]
      exact read_of_locate hl (holdsFile_of_file he)
    · cases he
  · cases h

/-- A file with the same bytes is read as before. -/
theorem Grows.read (h : Grows before after) {bytes : Bytes} (hr : before.read path = .ok bytes)
    (hb : after.bytesAt (target before.home path) = bytes) : after.read path = .ok bytes := by
  obtain ⟨hl, he⟩ := read_eq_ok hr
  rw [read_of_locate (h.toKeepsDirectories.locate hl) (h.holdsFile _ (holdsFile_of_file he)), hb]

/-- Directories are added where nothing was, and all else stays. -/
structure AddsDirectories (before after : FileTree) : Prop where
  home : after.home = before.home
  entry : ∀ place, after.entryAt? place = before.entryAt? place ∨
    before.entryAt? place = none ∧ after.entryAt? place = some .directory

namespace AddsDirectories

theorem refl (tree : FileTree) : AddsDirectories tree tree := ⟨rfl, fun _ => .inl rfl⟩

theorem trans {middle : FileTree} (h : AddsDirectories before middle)
    (h' : AddsDirectories middle after) : AddsDirectories before after where
  home := h'.home.trans h.home
  entry place := by
    rcases h'.entry place with he' | ⟨hn', hd'⟩
    · rw [he']
      exact h.entry place
    · rcases h.entry place with he | ⟨hn, -⟩
      · exact .inr ⟨he ▸ hn', hd'⟩
      · exact .inr ⟨hn, hd'⟩

theorem keepsDirectories (h : AddsDirectories before after) : KeepsDirectories before after where
  home := h.home
  directory place hd := by
    rcases h.entry place with he | ⟨hn, -⟩
    · rw [he, hd]
    · rw [hd] at hn
      cases hn

theorem bytesAt (h : AddsDirectories before after) (place : Location) :
    after.bytesAt place = before.bytesAt place := by
  rcases h.entry place with he | ⟨hn, hd⟩
  · rw [FileTree.bytesAt, he, FileTree.bytesAt]
  · rw [FileTree.bytesAt, hd, FileTree.bytesAt, hn]

theorem entryAt? (h : AddsDirectories before after) {entry : FileEntry}
    (he : before.entryAt? place = some entry) : after.entryAt? place = some entry := by
  rcases h.entry place with hs | ⟨hn, -⟩
  · rw [hs, he]
  · rw [he] at hn
    cases hn

theorem grows (h : AddsDirectories before after) : Grows before after :=
  ⟨h.keepsDirectories, fun _ hf => holdsFile_of_file (h.entryAt? hf)⟩

end AddsDirectories

theorem makeDirectory_adds (h : tree.makeDirectory path = .ok after) :
    AddsDirectories tree after := by
  unfold makeDirectory at h
  split at h
  · cases h
  · rename_i place hl
    split_ifs at h with hs
    rw [Option.isSome_iff_ne_none, not_not] at hs
    cases h
    refine ⟨rfl, fun other => ?_⟩
    by_cases ho : other = place
    · rw [ho]
      exact .inr ⟨hs, entryAt?_putAt_self (by simp [hs]) _⟩
    · exact .inl (entryAt?_putAt_of_ne ho _)

theorem ensureDirectory_adds (tree : FileTree) (path : Path) :
    AddsDirectories tree (tree.ensureDirectory path).2 := by
  unfold ensureDirectory
  split
  · rename_i made hm
    exact makeDirectory_adds hm
  · exact .refl tree

theorem ensureChain_adds (tree : FileTree) (names : List Chars) :
    AddsDirectories tree (tree.ensureChain names).2 := by
  induction names with
  | nil => exact .refl tree
  | cons name up ih =>
    unfold ensureChain
    simp only
    split
    · split
      · rename_i made hm
        rw [hm] at ih
        exact ih.trans (ensureDirectory_adds made _)
      · exact ih
    · exact ensureDirectory_adds tree _

theorem makeDirectories_adds (tree : FileTree) (path : Path) :
    AddsDirectories tree (tree.makeDirectories path).2 :=
  ensureChain_adds tree path.names.reverse

/-- Makes the directories in which a file shall lie, and answers where it may be written. -/
def prepare (tree : FileTree) (path : Path) : Effect Location :=
  match tree.makeDirectories path.parent with
  | (.error fault, made) => (.error fault, made)
  | (.ok (), made) => (made.writable path, made)

/-- Whether a file may be written under the path. -/
def Accepts (tree : FileTree) (path : Path) : Prop :=
  ∃ place made, tree.prepare path = (.ok place, made)

theorem adds_of_prepare {result : Except Fault Location} {made : FileTree}
    (h : tree.prepare path = (result, made)) : AddsDirectories tree made := by
  have hm := makeDirectories_adds tree path.parent
  unfold prepare at h
  split at h
  · rename_i he
    cases h
    rwa [he] at hm
  · rename_i he
    cases h
    rwa [he] at hm

theorem writable_eq_ok (h : tree.writable path = .ok place) :
    tree.locate path = .ok place ∧ tree.entryAt? place ≠ some .directory := by
  unfold writable at h
  split at h
  · cases h
  · rename_i hl
    split_ifs at h with hd
    cases h
    exact ⟨hl, hd⟩

theorem prepare_eq_ok {made : FileTree} (h : tree.prepare path = (.ok place, made)) :
    made.locate path = .ok place ∧ made.entryAt? place ≠ some .directory := by
  unfold prepare at h
  split at h
  · cases h
  · obtain ⟨hw, rfl⟩ := Prod.mk.inj h
    exact writable_eq_ok hw

theorem place_of_prepare {made : FileTree} (h : tree.prepare path = (.ok place, made)) :
    place = target tree.home path := by
  rw [← (adds_of_prepare h).home]
  exact locate_eq_target (prepare_eq_ok h).1

theorem writeDeep_eq (tree : FileTree) (path : Path) (bytes : Bytes) :
    tree.writeDeep path bytes =
      match tree.prepare path with
      | (.ok place, made) => (.ok (), made.putAt place (.file bytes))
      | (.error fault, made) => (.error fault, made) := by
  unfold writeDeep prepare write
  cases tree.makeDirectories path.parent with
  | mk result made =>
    cases result with
    | error fault => rfl
    | ok =>
      simp only
      cases made.writable path <;> rfl

theorem writeDeep_cases (tree : FileTree) (path : Path) (bytes : Bytes) :
    (∃ place made, tree.prepare path = (.ok place, made) ∧
      tree.writeDeep path bytes = (.ok (), made.putAt place (.file bytes))) ∨
    ∃ fault made, tree.prepare path = (.error fault, made) ∧
      tree.writeDeep path bytes = (.error fault, made) := by
  rw [writeDeep_eq]
  cases hp : tree.prepare path with
  | mk result made =>
    cases result with
    | ok place => exact .inl ⟨place, made, rfl, rfl⟩
    | error fault => exact .inr ⟨fault, made, rfl, rfl⟩

theorem grows_writeDeep (tree : FileTree) (path : Path) (bytes : Bytes) :
    Grows tree (tree.writeDeep path bytes).2 := by
  obtain ⟨place, made, hp, hw⟩ | ⟨fault, made, hp, hw⟩ := tree.writeDeep_cases path bytes
  · rw [hw]
    exact (adds_of_prepare hp).grows.trans (grows_putAt_file (prepare_eq_ok hp).2 bytes)
  · rw [hw]
    exact (adds_of_prepare hp).grows

/-- Only the file under the path gets other bytes, also if the writing fails. -/
theorem bytesAt_writeDeep (h : other ≠ target tree.home path) (bytes : Bytes) :
    (tree.writeDeep path bytes).2.bytesAt other = tree.bytesAt other := by
  obtain ⟨place, made, hp, hw⟩ | ⟨fault, made, hp, hw⟩ := tree.writeDeep_cases path bytes
  · rw [← place_of_prepare hp] at h
    rw [hw]
    exact (bytesAt_putAt_of_ne h _).trans ((adds_of_prepare hp).bytesAt other)
  · rw [hw]
    exact (adds_of_prepare hp).bytesAt other

/-- A file that was written under a path is found there with its new bytes alone. -/
theorem read_of_writeDeep {made : FileTree} (h : tree.prepare path = (.ok place, made))
    (bytes : Bytes) : (tree.writeDeep path bytes).2.read path = .ok bytes := by
  obtain ⟨hl, hd⟩ := prepare_eq_ok h
  have hput := entryAt?_putAt_self hd (.file bytes)
  rw [writeDeep_eq, h, read_of_locate ((keepsDirectories_putAt hd _).locate hl)
    (holdsFile_of_file hput), bytesAt_of_file hput]

end FileTree

end GeoUrn
