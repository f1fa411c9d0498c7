import GeoUrn.Proofs.FileTrees

/-!
What stays as it is when files are changed: the files that are not touched, and the places at which
files may be written, which do not depend on what is in the files.
-/
namespace GeoUrn.FileTree

variable {tree before after : FileTree} {touched : Location → Prop} {place other : Location}
  {path : Path}

/-- Whatever becomes of the files at the `touched` locations, all others stay with their bytes, and
no other file is created. -/
structure KeepsFiles (touched : Location → Prop) (before after : FileTree) : Prop
    extends Grows before after where
  file : ∀ place, ¬ touched place → ∀ bytes,
    after.entryAt? place = some (.file bytes) ↔ before.entryAt? place = some (.file bytes)

theorem KeepsFiles.refl (touched : Location → Prop) (tree : FileTree) :
    KeepsFiles touched tree tree :=
  ⟨.refl tree, fun _ _ _ => Iff.rfl⟩

theorem KeepsFiles.trans {middle : FileTree} (h : KeepsFiles touched before middle)
    (h' : KeepsFiles touched middle after) : KeepsFiles touched before after :=
  ⟨h.toGrows.trans h'.toGrows,
    fun place hp bytes => (h'.file place hp bytes).trans (h.file place hp bytes)⟩

theorem AddsDirectories.keepsFiles (h : AddsDirectories before after) :
    KeepsFiles touched before after where
  toGrows := h.grows
  file place _ bytes := by
    rcases h.entry place with he | ⟨hn, hd⟩
    · rw [he]
    · simp [hn, hd]

theorem keepsFiles_putAt_file (h : tree.entryAt? place ≠ some .directory) (ht : touched place)
    (bytes : Bytes) : KeepsFiles touched tree (tree.putAt place (.file bytes)) where
  toGrows := grows_putAt_file h bytes
  file other ho _ := by
    have hne : other ≠ place := fun he => ho (he ▸ ht)
    rw [entryAt?_putAt_of_ne hne]

theorem KeepsFiles.read (h : KeepsFiles touched before after) {bytes : Bytes}
    (hr : before.read path = .ok bytes) (ht : ¬ touched (target before.home path)) :
    after.read path = .ok bytes :=
  h.toGrows.read hr (bytesAt_of_file ((h.file _ ht bytes).mpr (read_eq_ok hr).2))

theorem Grows.exists_read (h : Grows before after) {bytes : Bytes}
    (hr : before.read path = .ok bytes) : ∃ read, after.read path = .ok read := by
  obtain ⟨hl, he⟩ := read_eq_ok hr
  exact ⟨_, read_of_locate (h.toKeepsDirectories.locate hl)
    (h.holdsFile _ (holdsFile_of_file he))⟩

/-- Files lie where files lay and directories where directories lay; only the bytes of files may be
others. -/
structure SameShape (before after : FileTree) : Prop where
  home : after.home = before.home
  directory_iff : ∀ place,
    after.entryAt? place = some .directory ↔ before.entryAt? place = some .directory
  isSome_eq : ∀ place, (after.entryAt? place).isSome = (before.entryAt? place).isSome

theorem sameShape_appendAt (h : tree.HoldsFile place) (bytes : Bytes) :
    SameShape tree (tree.appendAt place bytes) := by
  have hput := holdsFile_appendAt h.not_directory bytes
  refine ⟨rfl, fun other => ?_, fun other => ?_⟩
  · by_cases ho : other = place
    · rw [ho, hput, h]
      simp
    · rw [FileTree.appendAt, entryAt?_putAt_of_ne ho]
  · by_cases ho : other = place
    · rw [ho, hput, h]
      rfl
    · rw [FileTree.appendAt, entryAt?_putAt_of_ne ho]

namespace SameShape

variable (h : SameShape before after)

include h

theorem enter (path : Path) (place : Location) (name : Chars) :
    after.enter path place name = before.enter path place name := by
  have hd := h.directory_iff place
  have hs := h.isSome_eq place
  unfold FileTree.enter
  cases ha : after.entryAt? place with
  | none =>
    have hb : before.entryAt? place = none := by simpa [ha] using hs.symm
    rw [hb]
  | some entry =>
    cases entry with
    | directory => rw [hd.mp ha]
    | file bytes =>
      cases hb : before.entryAt? place with
      | none => simp [ha, hb] at hs
      | some entry =>
        cases entry with
        | directory => simp [ha, hb] at hd
        | file => rfl

theorem follow (path : Path) (place : Location) (names : List Chars) :
    after.follow path place names = before.follow path place names := by
  induction names generalizing place with
  | nil => rfl
  | cons name rest ih =>
    rw [FileTree.follow, FileTree.follow, h.enter]
    cases before.enter path place name with
    | error fault => rfl
    | ok next => exact ih next

/-- A path leads to the same place in both. -/
theorem locate (path : Path) : after.locate path = before.locate path := by
  unfold FileTree.locate trace
  simp only [h.home, h.follow]

theorem isDirectory (path : Path) : after.isDirectory path = before.isDirectory path := by
  unfold FileTree.isDirectory entry?
  rw [h.locate]
  cases before.locate path with
  | error fault => rfl
  | ok place =>
    rw [Bool.eq_iff_iff]
    simpa using h.directory_iff place

theorem putAt (place : Location) (entry : FileEntry) :
    SameShape (before.putAt place entry) (after.putAt place entry) := by
  have hentry : ∀ tree : FileTree, tree.home = before.home →
      (tree.putAt place entry).entryAt? place =
        if place.isPrefixOf before.home then some .directory else some entry := by
    intro tree hhome
    rw [entryAt?, home_putAt, hhome]
    split_ifs
    · rfl
    · exact Table.get?_put_self place entry tree.entries
  refine ⟨h.home, fun other => ?_, fun other => ?_⟩
  · by_cases ho : other = place
    · rw [ho, hentry after h.home, hentry before rfl]
    · rw [entryAt?_putAt_of_ne ho, entryAt?_putAt_of_ne ho, h.directory_iff]
  · by_cases ho : other = place
    · rw [ho, hentry after h.home, hentry before rfl]
    · rw [entryAt?_putAt_of_ne ho, entryAt?_putAt_of_ne ho, h.isSome_eq]

/-- Making a directory fails with the same fault, or ends in trees of the same shape again. -/
theorem makeDirectory (path : Path) :
    (∃ made made', before.makeDirectory path = .ok made ∧ after.makeDirectory path = .ok made' ∧
      SameShape made made') ∨
    ∃ fault, before.makeDirectory path = .error fault ∧
      after.makeDirectory path = .error fault := by
  unfold FileTree.makeDirectory
  rw [h.locate]
  cases before.locate path with
  | error fault => exact .inr ⟨fault, rfl, rfl⟩
  | ok place =>
    simp only [h.isSome_eq]
    split_ifs
    · exact .inr ⟨_, rfl, rfl⟩
    · exact .inl ⟨_, _, rfl, rfl, h.putAt place .directory⟩

theorem ensureDirectory (path : Path) :
    ∃ result made made', before.ensureDirectory path = (result, made) ∧
      after.ensureDirectory path = (result, made') ∧ SameShape made made' := by
  unfold FileTree.ensureDirectory
  obtain ⟨made, made', hb, ha, hm⟩ | ⟨fault, hb, ha⟩ := h.makeDirectory path
  · rw [hb, ha]
    exact ⟨_, _, _, rfl, rfl, hm⟩
  · rw [hb, ha, h.isDirectory]
    exact ⟨_, _, _, rfl, rfl, h⟩

theorem ensureChain (names : List Chars) :
    ∃ result made made', before.ensureChain names = (result, made) ∧
      after.ensureChain names = (result, made') ∧ SameShape made made' := by
  induction names with
  | nil => exact ⟨_, _, _, rfl, rfl, h⟩
  | cons name up ih =>
    have hensure := h.ensureDirectory ⟨(name :: up).reverse⟩
    unfold FileTree.ensureChain
    obtain ⟨made, made', hb, ha, -⟩ | ⟨fault, hb, ha⟩ := h.makeDirectory ⟨(name :: up).reverse⟩
    · simp only [hb, ha]
      exact hensure
    · simp only [hb, ha]
      split
      · obtain ⟨result, made, made', hup, hup', hshape⟩ := ih
        rw [hup, hup']
        cases result with
        | error fault => exact ⟨_, _, _, rfl, rfl, hshape⟩
        | ok => exact hshape.ensureDirectory _
      · exact hensure

theorem prepare (path : Path) : (after.prepare path).1 = (before.prepare path).1 := by
  obtain ⟨result, made, made', hb, ha, hshape⟩ := h.ensureChain path.parent.names.reverse
  rw [FileTree.prepare, FileTree.prepare, makeDirectories, makeDirectories, hb, ha]
  cases result with
  | error fault => rfl
  | ok =>
    simp only [writable, hshape.locate]
    cases made.locate path with
    | error fault => rfl
    | ok place => simp only [hshape.directory_iff]

end SameShape

theorem accepts_iff (tree : FileTree) (path : Path) :
    tree.Accepts path ↔ ∃ place, (tree.prepare path).1 = .ok place :=
  ⟨fun ⟨place, made, hp⟩ => ⟨place, by rw [hp]⟩, fun ⟨place, hp⟩ => ⟨place, _, Prod.ext hp rfl⟩⟩

/-- Whether a file may be written does not depend on what is in the files. -/
theorem SameShape.accepts_iff (h : SameShape before after) (path : Path) :
    after.Accepts path ↔ before.Accepts path := by
  rw [FileTree.accepts_iff, FileTree.accepts_iff, h.prepare]

/-- Nothing is changed but the bytes of touched files. -/
structure Rewrites (touched : Location → Prop) (before after : FileTree) : Prop
    extends KeepsFiles touched before after, SameShape before after

theorem Rewrites.refl (touched : Location → Prop) (tree : FileTree) :
    Rewrites touched tree tree :=
  ⟨.refl touched tree, fun _ => Iff.rfl, fun _ => rfl⟩

theorem Rewrites.trans {middle : FileTree} (h : Rewrites touched before middle)
    (h' : Rewrites touched middle after) : Rewrites touched before after where
  toKeepsFiles := h.toKeepsFiles.trans h'.toKeepsFiles
  directory_iff place := (h'.directory_iff place).trans (h.directory_iff place)
  isSome_eq place := (h'.isSome_eq place).trans (h.isSome_eq place)

theorem rewrites_appendAt (h : tree.HoldsFile place) (ht : touched place) (bytes : Bytes) :
    Rewrites touched tree (tree.appendAt place bytes) where
  toKeepsFiles := keepsFiles_putAt_file h.not_directory ht _
  directory_iff := (sameShape_appendAt h bytes).directory_iff
  isSome_eq := (sameShape_appendAt h bytes).isSome_eq

theorem isDirectory_of_mem_childNames {name : Chars} (h : name ∈ tree.childNames path) :
    tree.isDirectory path = true := by
  unfold childNames readDirectory at h
  unfold isDirectory entry?
  cases hl : tree.locate path with
  | error fault => simp [hl] at h
  | ok place =>
    simp only [hl] at h ⊢
    cases he : tree.entryAt? place with
    | none => simp [he] at h
    | some entry =>
      cases entry with
      | file bytes => simp [he] at h
      | directory => rfl

theorem readDirectory_of_isDirectory (h : tree.isDirectory path = true) :
    tree.readDirectory path = .ok (tree.childNames path) := by
  unfold isDirectory entry? at h
  unfold childNames readDirectory
  cases hl : tree.locate path with
  | error fault => simp [hl] at h
  | ok place =>
    have he : tree.entryAt? place = some .directory := by simpa [hl] using h
    simp only [he]

theorem isPresent_of_isDirectory (h : tree.isDirectory path = true) :
    tree.isPresent path = true := by
  have he : tree.entry? path = some .directory := by simpa [isDirectory] using h
  rw [isPresent, he]
  rfl

theorem isPresent_of_read {bytes : Bytes} (h : tree.read path = .ok bytes) :
    tree.isPresent path = true := by
  obtain ⟨hl, he⟩ := read_eq_ok h
  simp only [isPresent, entry?, hl, he, Option.isSome_some]

theorem get?_filter {κ α : Type} [DecidableEq κ] (p : κ → Bool) (name : κ) (table : List (κ × α)) :
    Table.get? name (table.filter fun e => p e.1) =
      if p name then Table.get? name table else none := by
  induction table with
  | nil => simp [Table.get?]
  | cons e rest ih =>
    obtain ⟨other, value⟩ := e
    by_cases hp : p other
    · rw [List.filter_cons_of_pos (by exact hp), Table.get?_cons, Table.get?_cons, ih]
      by_cases ho : other = name
      · rw [if_pos ho, if_pos ho, if_pos (ho ▸ hp)]
      · rw [if_neg ho, if_neg ho]
    · rw [List.filter_cons_of_neg (by exact hp), Table.get?_cons, ih]
      by_cases ho : other = name
      · rw [if_neg (ho ▸ hp), if_neg (ho ▸ hp)]
      · rw [if_neg ho]

/-- What is still there after something was removed was there before. -/
theorem entryAt?_of_removeAt {entry : FileEntry}
    (h : (tree.removeAt place).entryAt? other = some entry) : tree.entryAt? other = some entry := by
  unfold entryAt? at h ⊢
  have hhome : (tree.removeAt place).home = tree.home := rfl
  rw [hhome] at h
  split_ifs at h ⊢ with hp
  · exact h
  · unfold removeAt at h
    rw [get?_filter fun location => !place.isPrefixOf location] at h
    split_ifs at h
    exact h

theorem keepsDirectories_of_removeAt (tree : FileTree) (place : Location) :
    KeepsDirectories (tree.removeAt place) tree where
  home := rfl
  directory _ h := entryAt?_of_removeAt h

theorem isFile_of_removeAt (h : (tree.removeAt place).isFile path = true) :
    tree.isFile path = true := by
  unfold isFile entry? at h ⊢
  cases hl : (tree.removeAt place).locate path with
  | error fault => simp [hl] at h
  | ok found =>
    rw [(keepsDirectories_of_removeAt tree place).locate hl]
    simp only [hl] at h ⊢
    cases he : (tree.removeAt place).entryAt? found with
    | none => simp [he] at h
    | some entry =>
      rw [entryAt?_of_removeAt he]
      rwa [he] at h

theorem isFile_remove_eq_false (h : tree.isFile path = false) (removed : Path) :
    (tree.remove removed).isFile path = false := by
  unfold remove
  cases tree.locate removed with
  | error fault => exact h
  | ok place =>
    rw [← Bool.not_eq_true] at h ⊢
    exact fun hr => h (isFile_of_removeAt hr)

theorem mem_entries_removeAt {e : Location × FileEntry} :
    e ∈ (tree.removeAt place).entries ↔ e ∈ tree.entries ∧ ¬ place <+: e.1 := by
  simp [removeAt, ← List.isPrefixOf_iff_prefix]

/-- What does not lie below a removed place stays. -/
theorem entryAt?_removeAt {removed : Location} (h : ¬ removed <+: place) :
    (tree.removeAt removed).entryAt? place = tree.entryAt? place := by
  have hhome : (tree.removeAt removed).home = tree.home := rfl
  have hkept : (!removed.isPrefixOf place) = true := by
    simpa [← List.isPrefixOf_iff_prefix] using h
  rw [entryAt?, entryAt?, hhome, removeAt,
    get?_filter fun location => !removed.isPrefixOf location, if_pos hkept]

theorem foldl_stepTo {names : List Chars} (h : ['.', '.'] ∉ names) (place : Location) :
    names.foldl stepTo place = place ++ names := by
  induction names generalizing place with
  | nil => simp
  | cons name rest ih =>
    obtain ⟨hname, hrest⟩ := not_or.mp (mt List.mem_cons.mpr h)
    rw [List.foldl_cons, stepTo, if_neg (Ne.symm hname), ih hrest, List.append_assoc,
      List.singleton_append]

/-- A way stays open if none of the directories on it lies below what is removed. -/
theorem follow_removeAt {removed : Location} {names : List Chars} (hdots : ['.', '.'] ∉ names)
    (hout : ¬ removed <+: (place ++ names).dropLast)
    (hf : tree.follow path place names = .ok other) :
    (tree.removeAt removed).follow path place names = .ok other := by
  induction names generalizing place with
  | nil => exact hf
  | cons name rest ih =>
    obtain ⟨hname, hrest⟩ := not_or.mp (mt List.mem_cons.mpr hdots)
    have hplace : ¬ removed <+: place := by
      rw [List.dropLast_append_of_ne_nil (List.cons_ne_nil name rest)] at hout
      exact fun hp => hout (hp.trans (List.prefix_append _ _))
    have henter : (tree.removeAt removed).enter path place name = tree.enter path place name := by
      rw [FileTree.enter, FileTree.enter, entryAt?_removeAt hplace]
    rw [FileTree.follow, henter]
    rw [FileTree.follow] at hf
    cases hn : tree.enter path place name with
    | error fault =>
      rw [hn] at hf
      cases hf
    | ok next =>
      have hnext : next = place ++ [name] := by
        rw [(enter_eq_ok hn).2, stepTo, if_neg (Ne.symm hname)]
      rw [hn] at hf
      subst hnext
      refine ih hrest ?_ hf
      rwa [List.append_assoc, List.singleton_append]

theorem locate_removeAt {removed : Location} (hdots : ['.', '.'] ∉ path.names)
    (hl : tree.locate path = .ok place) (hout : ¬ removed <+: place.dropLast) :
    (tree.removeAt removed).locate path = .ok place := by
  unfold FileTree.locate at hl ⊢
  split_ifs at hl ⊢
  unfold trace at hl ⊢
  split at hl
  · exact hl
  · rename_i name rest hnames
    rw [hnames] at hdots
    obtain ⟨-, hrest⟩ := not_or.mp (mt List.mem_cons.mpr hdots)
    split_ifs at hl ⊢
    · rw [follow_eq_ok hl, foldl_stepTo hrest] at hout
      exact follow_removeAt hrest hout hl
    · rw [follow_eq_ok hl, foldl_stepTo hdots] at hout
      exact follow_removeAt hdots hout hl

end GeoUrn.FileTree
