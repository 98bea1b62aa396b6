import AuditDesk.Proofs.Json.Printed
import AuditDesk.Storage.Site

/-! A storage that is kept in a file. What was written back to the file is what is found there when it is opened
again, and it can be opened again: its directories are still there, and so is the way to it, unless the way leads
through the file itself. -/
namespace AuditDesk

/-- No file stands without having been made. -/
theorem Place.standing?_ne_file {place : Place} {content : List UInt8} : place.standing? ≠ some (.file content) := by
  unfold standing?
  split
  · nofun
  · nofun
  · split <;> nofun
  · split <;> nofun

namespace FileTree

/-- Every directory is still one. -/
def Walkable (t later : FileTree) : Prop :=
  ∀ place, t.node? place = some .directory → later.node? place = some .directory

variable {t later : FileTree}

theorem lookup_filter_of_ne {place other : Place} (h : other ≠ place) (nodes : List (Place × FileNode)) :
    (nodes.filter fun entry => entry.1 ≠ place).lookup other = nodes.lookup other := by
  induction nodes with
  | nil => rfl
  | cons entry nodes ih =>
      obtain ⟨name, node⟩ := entry
      by_cases hName : name = place
      · subst hName
        rw [List.filter_cons_of_neg (by simp), ih, List.lookup_cons, beq_eq_false_iff_ne.mpr h]
      · rw [List.filter_cons_of_pos (by simpa using hName), List.lookup_cons, List.lookup_cons, ih]

theorem node?_put_of_ne {place other : Place} (h : other ≠ place) (node : FileNode) :
    (t.put place node).node? other = t.node? other := by
  rw [node?, node?, put, List.lookup_cons, beq_eq_false_iff_ne.mpr h, lookup_filter_of_ne h]

/-- A place that does not always stand holds what is put there. -/
theorem node?_put_self {place : Place} (h : place.standing? = none) (node : FileNode) :
    (t.put place node).node? place = some node := by
  rw [node?, put, List.lookup_cons, beq_self_eq_true, h]
  rfl

theorem standing?_of_node? {place : Place} (h : t.node? place = none) : place.standing? = none :=
  (Option.or_eq_none_iff.mp h).1

theorem walkable_put {place : Place} (h : t.node? place ≠ some .directory) (node : FileNode) :
    Walkable t (t.put place node) := by
  intro other hOther
  rw [node?_put_of_ne (by rintro rfl; exact h hOther), hOther]

theorem Walkable.follow (h : Walkable t later) {names : List String} {place last : Place}
    (hLast : t.follow place names = .ok last) : later.follow place names = .ok last := by
  induction names generalizing place with
  | nil => exact hLast
  | cons name names ih =>
      rw [FileTree.follow] at hLast ⊢
      by_cases hStays : (name = "" || name = ".") = true
      · rw [if_pos hStays] at hLast ⊢
        exact ih hLast
      by_cases hRises : name = ".."
      · rw [if_neg hStays, if_pos hRises] at hLast ⊢
        exact ih hLast
      by_cases hLong : name.utf8ByteSize > nameLimit
      · rw [if_neg hStays, if_neg hRises, if_pos hLong] at hLast
        cases hLast
      rw [if_neg hStays, if_neg hRises, if_neg hLong] at hLast ⊢
      split at hLast
      · rename_i hDirectory
        rw [h _ hDirectory]
        exact ih hLast
      · cases hLast
      · cases hLast

theorem resolve_eq (t : FileTree) (path : String) : t.resolve path =
    if path.toList.contains '\x00' then .error .nulByte
    else if path.utf8ByteSize > pathLimit then .error .nameTooLong
    else if path = "" then .error .notFound
    else
      match ((Path.parts path).filter (· ≠ "")).getLast? with
      | none => .ok ⟨if (Path.parts path).head? = some "" then Place.root else [], ".", true⟩
      | some name =>
          (t.follow (if (Path.parts path).head? = some "" then Place.root else [])
            ((Path.parts path).filter (· ≠ "")).dropLast).bind fun directory =>
              if name.utf8ByteSize > nameLimit then .error .nameTooLong
              else .ok ⟨directory, name, (Path.parts path).getLast? = some ""⟩ := rfl

theorem Walkable.resolve (h : Walkable t later) {path : String} {target : Target}
    (hTarget : t.resolve path = .ok target) : later.resolve path = .ok target := by
  rw [resolve_eq] at hTarget ⊢
  by_cases hNul : path.toList.contains '\x00' = true
  · rw [if_pos hNul] at hTarget
    cases hTarget
  by_cases hLong : path.utf8ByteSize > FileTree.pathLimit
  · rw [if_neg hNul, if_pos hLong] at hTarget
    cases hTarget
  by_cases hEmpty : path = ""
  · rw [if_neg hNul, if_neg hLong, if_pos hEmpty] at hTarget
    cases hTarget
  rw [if_neg hNul, if_neg hLong, if_neg hEmpty] at hTarget ⊢
  split at hTarget
  · exact hTarget
  · rename_i name hName
    cases hDirectory : t.follow (if (Path.parts path).head? = some "" then Place.root else [])
        ((Path.parts path).filter (· ≠ "")).dropLast with
    | error e =>
        rw [hDirectory] at hTarget
        cases hTarget
    | ok directory =>
        rw [hDirectory] at hTarget
        rw [h.follow hDirectory]
        exact hTarget

theorem isDirectory_iff {path : String} : t.isDirectory path = true ↔
    ∃ target, t.resolve path = .ok target ∧ t.node? target.place = some .directory := by
  rw [isDirectory, nodeAt]
  cases hTarget : t.resolve path with
  | error e => exact iff_of_false nofun nofun
  | ok target =>
      simp only [bind, Except.bind, Except.ok.injEq, exists_eq_left']
      generalize t.node? target.place = node
      generalize target.mustBeDirectory = slash
      match node, slash with
      | some .directory, _ => exact iff_of_true rfl rfl
      | none, _ => exact iff_of_false nofun nofun
      | some (.file _), true | some (.file _), false => exact iff_of_false nofun nofun
      | some .sink, true | some .sink, false => exact iff_of_false nofun nofun

theorem Walkable.isDirectory (h : Walkable t later) {path : String} (hDirectory : t.isDirectory path = true) :
    later.isDirectory path = true := by
  obtain ⟨target, hTarget, hNode⟩ := isDirectory_iff.mp hDirectory
  exact isDirectory_iff.mpr ⟨target, h.resolve hTarget, h _ hNode⟩

/-- What has been made is there. -/
theorem isDirectory_of_makeDirectory {path : String} (h : t.makeDirectory path = .ok later) :
    later.isDirectory path = true := by
  rw [makeDirectory] at h
  cases hTarget : t.resolve path with
  | error e =>
      rw [hTarget] at h
      cases h
  | ok target =>
      simp only [hTarget, bind, Except.bind] at h
      split at h
      · cases h
      · rename_i hFree
        obtain rfl := Except.ok.inj h
        have hWalkable : Walkable t (t.put target.place .directory) :=
          walkable_put (by rw [hFree]; exact Option.some_ne_none _ ∘ Eq.symm) _
        exact isDirectory_iff.mpr ⟨target, hWalkable.resolve hTarget, node?_put_self (standing?_of_node? hFree) _⟩

/-- What is there is not made again. -/
theorem makeDirectory_of_isDirectory {path : String} (h : t.isDirectory path = true) :
    t.makeDirectory path = .error .alreadyExists := by
  obtain ⟨target, hTarget, hNode⟩ := isDirectory_iff.mp h
  simp only [makeDirectory, hTarget, bind, Except.bind, hNode]
  rfl

theorem isDirectory_of_makeUnlessThere {path : String} (h : t.makeUnlessThere path = (.ok (), later)) :
    later.isDirectory path = true := by
  rw [makeUnlessThere] at h
  split at h
  · rename_i hMade
    obtain ⟨-, rfl⟩ := Prod.mk.inj h
    exact isDirectory_of_makeDirectory hMade
  · by_cases hThere : t.isDirectory path = true
    · obtain ⟨-, rfl⟩ := Prod.mk.inj h
      exact hThere
    · rw [if_neg hThere] at h
      cases h

theorem isDirectory_of_makeDirectories {path : String} (h : t.makeDirectories path = (.ok (), later)) :
    path = "" ∨ later.isDirectory path = true := by
  rw [makeDirectories, makeWithin] at h
  split at h
  · rename_i hEmpty
    exact .inl hEmpty
  · right
    split at h
    · split at h
      · exact isDirectory_of_makeUnlessThere h
      · rename_i hFailed
        exact absurd h (hFailed _)
    · exact isDirectory_of_makeUnlessThere h

/-- Directories that are there are not made again. -/
theorem makeDirectories_of_isDirectory {path : String} (h : path = "" ∨ t.isDirectory path = true) :
    t.makeDirectories path = (.ok (), t) := by
  rw [makeDirectories, makeWithin]
  by_cases hEmpty : path = ""
  · rw [if_pos hEmpty]
  · have hThere := h.resolve_left hEmpty
    have hMade := makeDirectory_of_isDirectory hThere
    rw [if_neg hEmpty, hMade]
    simp only [makeUnlessThere, hMade, if_pos hThere]

end FileTree

namespace Location

open FileTree

/-- Where a name leads from a place. -/
def into (t : FileTree) (place : Place) (name : String) : Option Place :=
  if name = "" || name = "." then some place
  else if name = ".." then some place.up
  else if name.utf8ByteSize > nameLimit then none
  else
    match t.node? place with
    | some .directory | none => some (place ++ [name])
    | some _ => none

/-- Where a name leads when nothing is in the way. -/
def led (place : Place) (name : String) : Place :=
  if name = "" || name = "." then place else if name = ".." then place.up else place ++ [name]

/-- Whether names never lead down from a place, on the way that begins at `place`. -/
def avoids (last : Place) : Place → List String → Bool
  | _, [] => true
  | place, name :: rest =>
      (name = "" || name = "." || name = ".." || place ≠ last) && avoids last (led place name) rest

/-- The place where a path begins. -/
def base (location : Location) : Place :=
  if (Path.parts location.path).head? = some "" then Place.root else []

/-- The way to the file does not lead through the file. -/
def Direct (location : Location) : Prop :=
  avoids ((Path.parts location.path).foldl led location.base) location.base (Path.parts location.path) = true

variable {t : FileTree} {place last : Place}

theorem place?_eq (location : Location) (t : FileTree) :
    location.place? t = ((Path.parts location.path).foldlM (into t) location.base).bind fun place =>
      if place.path.utf8ByteSize > pathLimit then none else some place := rfl

theorem eq_led {name : String} {next : Place} (h : into t place name = some next) : next = led place name := by
  rw [into] at h
  rw [led]
  split at h
  · rename_i hStay
    rw [if_pos hStay, Option.some.inj h]
  rename_i hGoes
  rw [if_neg hGoes]
  split at h
  · rename_i hUp
    rw [if_pos hUp, Option.some.inj h]
  rename_i hDown
  rw [if_neg hDown]
  split at h
  · cases h
  split at h
  · exact (Option.some.inj h).symm
  · exact (Option.some.inj h).symm
  · cases h

theorem eq_foldl_led {names : List String} (h : names.foldlM (into t) place = some last) :
    last = names.foldl led place := by
  induction names generalizing place with
  | nil => exact (Option.some.inj h).symm
  | cons name names ih =>
      obtain ⟨next, hNext, hRest⟩ := Option.bind_eq_some_iff.mp h
      rw [ih hRest, eq_led hNext, List.foldl_cons]

theorem into_put {name : String} (h : (name = "" || name = "." || name = ".." || place ≠ last) = true)
    (node : FileNode) : into (t.put last node) place name = into t place name := by
  by_cases hPlace : place = last
  · have hStays : name = "" ∨ name = "." ∨ name = ".." := by simpa [hPlace, or_assoc] using h
    rcases hStays with rfl | rfl | rfl <;> rfl
  · rw [into, into, node?_put_of_ne hPlace]

/-- What is put at the end of the way does not change the way. -/
theorem foldlM_into_put {names : List String} (h : avoids last place names = true) (node : FileNode) :
    names.foldlM (into (t.put last node)) place = names.foldlM (into t) place := by
  induction names generalizing place with
  | nil => rfl
  | cons name names ih =>
      obtain ⟨hName, hNames⟩ := Bool.and_eq_true_iff.mp h
      rw [List.foldlM_cons, List.foldlM_cons, into_put hName]
      cases hNext : into t place name with
      | none => rfl
      | some next =>
          obtain rfl := eq_led hNext
          exact ih hNames

/-- A path that nowhere leads back leads only to places below those it has come through. -/
theorem prefix_foldl_led {names : List String} (h : ".." ∉ names) (place : Place) :
    place <+: names.foldl led place := by
  induction names generalizing place with
  | nil => exact List.prefix_refl _
  | cons name names ih =>
      have hName : name ≠ ".." := (List.ne_of_not_mem_cons h).symm
      have hNames : ".." ∉ names := List.not_mem_of_not_mem_cons h
      refine List.IsPrefix.trans ?_ (ih hNames (led place name))
      rw [led, if_neg hName]
      split
      · exact List.prefix_refl _
      · exact List.prefix_append _ _

theorem avoids_of_not_mem {names : List String} (h : ".." ∉ names) (place : Place) :
    avoids (names.foldl led place) place names = true := by
  induction names generalizing place with
  | nil => rfl
  | cons name names ih =>
      have hName : name ≠ ".." := (List.ne_of_not_mem_cons h).symm
      have hNames : ".." ∉ names := List.not_mem_of_not_mem_cons h
      refine Bool.and_eq_true_iff.mpr ⟨?_, ih hNames (led place name)⟩
      by_cases hStays : (name = "" || name = ".") = true
      · rw [hStays]
        rfl
      · have hBelow := prefix_foldl_led hNames (led place name)
        rw [led, if_neg hStays, if_neg hName] at hBelow
        have hOther : place ≠ names.foldl led (place ++ [name]) := by
          intro hSame
          have hLength := hBelow.length_le
          rw [← hSame, List.length_append, List.length_singleton] at hLength
          omega
        simp [List.foldl_cons, led, hStays, hName, hOther]

/-- A path without two dots in it never leads through its own file. -/
theorem direct_of_not_mem {location : Location} (h : ".." ∉ Path.parts location.path) : location.Direct :=
  avoids_of_not_mem h _

theorem place?_put {location : Location} (h : location.Direct) (hPlace : location.place? t = some place)
    (node : FileNode) : location.place? (t.put place node) = some place := by
  rw [place?_eq] at hPlace ⊢
  obtain ⟨last, hLast, hShort⟩ := Option.bind_eq_some_iff.mp hPlace
  have hSame : last = place := by
    split at hShort
    · cases hShort
    · exact Option.some.inj hShort
  rw [Direct, ← eq_foldl_led hLast, hSame] at h
  rw [foldlM_into_put h, hLast]
  exact hShort

end Location

namespace StorageSite

open Json

theorem mapM_texts (entries : List (String × String)) :
    (entries.map fun entry => (entry.1, Value.string entry.2)).mapM (fun
      | (key, .string text) => some (key, text)
      | _ => none) = some entries := by
  induction entries with
  | nil => rfl
  | cons entry entries ih =>
      rw [List.map_cons, List.mapM_cons, ih]
      rfl

/-- The entries of a file are read back. -/
theorem decode?_encode (entries : List (String × String)) : decode? (encode entries) = some entries := by
  let members : List (String × Value) := entries.map fun entry => (entry.1, .string entry.2)
  have hLong : ¬ (encode entries).length < 2 := by
    have hHeader : fileHeader.length = 18 := by decide
    rw [encode, List.length_append, hHeader]
    omega
  have hText : Value.ofText (Value.object members).compact = .ok (.object members) := by
    refine Value.ofText_compact (.object fun m hMember => ?_) (.object fun m hMember => ?_)
    · obtain ⟨entry, -, rfl⟩ := List.mem_map.mp hMember
      exact .string entry.2
    · obtain ⟨entry, -, rfl⟩ := List.mem_map.mp hMember
      exact .string entry.2
  have hRead : Reader.whole (Reader.value Reader.nestingLimit) (Text.bytes (Value.object members).compact) =
      .ok (.object members) := hText
  have hPrefix : fileHeader.isPrefixOf (encode entries) = true := List.isPrefixOf_iff_prefix.mpr (List.prefix_append _ _)
  have hRest : (encode entries).drop fileHeader.length = Text.bytes (Value.object members).compact :=
    List.drop_left
  rw [decode?, if_neg hLong, if_pos hPrefix, hRest, hRead]
  exact mapM_texts entries

section Opening

variable {files made : FileTree} {path : String} {location : Location} {place : Place}

/-- A file in which entries can be recorded is as good for any others. -/
theorem of_record {found entries : List (String × String)} (h : record location place found files = .ok (entries, made)) :
    found = entries ∧ made = files.put place (.file (encode entries)) ∧
      ∀ others later, record location place others later = .ok (others, later.put place (.file (encode others))) := by
  rw [record] at h
  by_cases hRead : location.access = .read
  · rw [if_pos hRead] at h
    cases h
  by_cases hLong : (place.getLastD "").utf8ByteSize > nameLimit
  · rw [if_neg hRead, if_pos hLong] at h
    cases h
  · rw [if_neg hRead, if_neg hLong] at h
    obtain ⟨rfl, rfl⟩ := Prod.mk.inj (Except.ok.inj h)
    refine ⟨rfl, rfl, fun others later => ?_⟩
    rw [record, if_neg hRead, if_neg hLong]
    rfl

/-- A file that has been opened has a place, at which there was no directory, and then holds these entries.
Others can be recorded in it as well. -/
structure Held (location : Location) (place : Place) (files : FileTree) (entries : List (String × String))
    (made : FileTree) : Prop where
  found : location.place? files = some place
  free : files.node? place ≠ some .directory
  standing : place.standing? = none
  written : made = files.put place (.file (encode entries))
  others : ∀ others later,
    record location place others later = .ok (others, later.put place (.file (encode others)))

theorem exists_held {entries : List (String × String)} (h : openFile location path files = .ok (entries, made)) :
    ∃ place, Held location place files entries made := by
  rw [openFile] at h
  cases hPlace : location.place? files with
  | none =>
      rw [hPlace] at h
      cases h
  | some place =>
      simp only [hPlace] at h
      refine ⟨place, ?_⟩
      split at h
      · rename_i content hFile
        split at h
        · obtain ⟨rfl, hMade, hRecord⟩ := of_record h
          refine ⟨hPlace, by rw [hFile]; nofun, ?_, hMade, hRecord⟩
          cases hStanding : place.standing? with
          | none => rfl
          | some node =>
              rw [FileTree.node?, hStanding, Option.some_or] at hFile
              exact absurd (Option.some.inj hFile ▸ hStanding) Place.standing?_ne_file
        · cases h
      · rename_i hFree _
        split at h
        · obtain ⟨rfl, hMade, hRecord⟩ := of_record h
          exact ⟨hPlace, by rw [hFree]; nofun, FileTree.standing?_of_node? hFree, hMade, hRecord⟩
        · cases h
      · cases h

/-- A file is opened with the entries that it holds. -/
theorem Held.openFile_again {entries others : List (String × String)} (h : Held location place files entries made)
    {later : FileTree} (hPlace : location.place? later = some place)
    (hNode : later.node? place = some (.file (encode others))) :
    openFile location path later = .ok (others, later.put place (.file (encode others))) := by
  simp only [openFile, hPlace, hNode, decode?_encode]
  exact h.others others later

/-- A storage that has been opened holds what its file holds. -/
theorem openStorage_cases {storage : Storage} (h : (StorageSite.file path).openStorage files = .ok (storage, made)) :
    ∃ above location, files.makeDirectories ((Path.parent? path).getD "") = (.ok (), above) ∧
      Location.ofPath path = .ok location ∧
      ((location.isDetached = true ∧ storage = .empty) ∨
        location.isDetached = false ∧ ∃ entries, openFile location path above = .ok (entries, made) ∧
          storage = ⟨entries, []⟩) := by
  simp only [openStorage] at h
  split at h
  · rename_i above hAbove
    cases hLocation : Location.ofPath path with
    | error fault =>
        rw [hLocation] at h
        cases h
    | ok location =>
        refine ⟨above, location, hAbove, rfl, ?_⟩
        rw [hLocation] at h
        change (if location.isDetached = true then _ else _) = _ at h
        by_cases hDetached : location.isDetached = true
        · rw [if_pos hDetached] at h
          by_cases hRead : location.access = .read
          · rw [if_pos hRead] at h
            cases h
          · rw [if_neg hRead] at h
            obtain ⟨rfl, -⟩ := Prod.mk.inj (Except.ok.inj h)
            exact .inl ⟨hDetached, rfl⟩
        · rw [if_neg hDetached] at h
          refine .inr ⟨Bool.eq_false_iff.mpr hDetached, ?_⟩
          cases hOpened : openFile location path above with
          | error fault =>
              rw [hOpened] at h
              cases h
          | ok opened =>
              rw [hOpened] at h
              obtain ⟨rfl, rfl⟩ := Prod.mk.inj (Except.ok.inj h)
              exact ⟨_, rfl, rfl⟩
  · cases h

theorem openStorage_of_openFile {above : FileTree} {entries : List (String × String)}
    (hAbove : files.makeDirectories ((Path.parent? path).getD "") = (.ok (), above))
    (hLocation : Location.ofPath path = .ok location) (hAttached : location.isDetached = false)
    (hOpened : openFile location path above = .ok (entries, made)) :
    (StorageSite.file path).openStorage files = .ok (⟨entries, []⟩, made) := by
  simp only [openStorage, hAbove, hLocation]
  change (if location.isDetached = true then _ else _) = _
  rw [hAttached, hOpened]
  rfl

/-- A storage that has been opened can be read. -/
theorem get_of_openStorage {site : StorageSite} {storage : Storage} (h : site.openStorage files = .ok (storage, made))
    (key : String) : storage.get key = .ok (storage.kept key) := by
  have hReads : storage.failing = [] := by
    cases site with
    | memory =>
        obtain ⟨rfl, rfl⟩ := Prod.mk.inj (Except.ok.inj h)
        rfl
    | file path =>
        obtain ⟨above, location, -, -, ⟨-, rfl⟩ | ⟨-, entries, -, rfl⟩⟩ := openStorage_cases h
        · rfl
        · rfl
  simp [Storage.get, Storage.fails, hReads]

theorem writeBack_of_place (hLocation : Location.ofPath path = .ok location) (hAttached : location.isDetached = false)
    (hPlace : location.place? files = some place) (s : Storage) :
    (StorageSite.file path).writeBack s files = files.put place (.file (encode s.entries)) := by
  simp only [writeBack, hLocation, hAttached, hPlace]

/-- The storage is kept in a file, and the way to the file does not lead through it. -/
def Lasts : StorageSite → Prop
  | .memory => False
  | .file path => ∀ location, Location.ofPath path = .ok location → location.isDetached = false ∧ location.Direct

/-- A storage that has been opened can be written back and opened again, with what it held last. -/
theorem openStorage_writeBack {site : StorageSite} (hLasts : site.Lasts) {first : Storage}
    (hFirst : site.openStorage files = .ok (first, made)) (last : Storage) :
    ∃ remade, site.openStorage (site.writeBack last made) = .ok (⟨last.entries, []⟩, remade) := by
  cases site with
  | memory => exact hLasts.elim
  | file path =>
      obtain ⟨above, location, hAbove, hLocation, hOpened⟩ := openStorage_cases hFirst
      obtain ⟨hAttached, hDirect⟩ := hLasts location hLocation
      simp only [hAttached, Bool.false_eq_true, false_and, false_or, true_and] at hOpened
      obtain ⟨entries, hFile, -⟩ := hOpened
      obtain ⟨place, hHeld⟩ := exists_held hFile
      obtain rfl := hHeld.written
      have hMade : location.place? (above.put place (.file (encode entries))) = some place :=
        Location.place?_put hDirect hHeld.found _
      rw [writeBack_of_place hLocation hAttached hMade]
      have hNode : ∀ t : FileTree, ∀ content, (t.put place (.file content)).node? place = some (.file content) :=
        fun _ _ => FileTree.node?_put_self hHeld.standing _
      have hLater := Location.place?_put hDirect hMade (.file (encode last.entries))
      refine ⟨_, openStorage_of_openFile ?_ hLocation hAttached (hHeld.openFile_again hLater (hNode _ _))⟩
      -- Nothing has been put where a directory was, so the directories above the file are still there.
      refine FileTree.makeDirectories_of_isDirectory
        ((FileTree.isDirectory_of_makeDirectories hAbove).imp_right fun hThere => ?_)
      exact (FileTree.walkable_put (by rw [hNode]; nofun) _).isDirectory
        ((FileTree.walkable_put hHeld.free _).isDirectory hThere)

end Opening

instance : LawfulStorageHost StorageSite where
  Lasts := Lasts
  get_opened h key := get_of_openStorage h key
  reopened hLasts hFirst last := by
    obtain ⟨remade, hAgain⟩ := openStorage_writeBack hLasts hFirst last
    exact ⟨_, remade, hAgain, fun _ => rfl⟩

end StorageSite

end AuditDesk
