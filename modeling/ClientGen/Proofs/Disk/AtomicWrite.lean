import ClientGen.Disk.AtomicWrite
import Mathlib.Data.List.Nodup
import Mathlib.Data.List.Perm.Subperm

/-!
What a write of a whole file does to the disk. A write that fails changes nothing that is there and makes no file;
all it leaves are directories on the way to its target (`atomicWrite_kept`). After a write that succeeds the target
holds the data (`atomicWrite_received`).
-/

namespace ClientGen.Disk

/-- Every place where something stands is inside a directory, and so is the working directory. -/
structure IsTree (disk : Disk) : Prop where
  here : disk.at? disk.here = some .directory
  above (place : Place) (part : String) (entry : DiskEntry) (found : disk.at? (place ++ [part]) = some entry) :
    disk.at? place = some .directory

/-- What a write to a path leaves as it was although it fails. What the path leads to stays the same. Where it leads
to nothing, this stays so as well, as long as the path does not go back up through directories that are yet to be made.
What stands anywhere stays there, and there are no new files, unless cleaning up fails too. -/
structure Kept (failures : WriteFailures) (path : Path) (before later : Disk) : Prop where
  present (entry : DiskEntry) (found : before.find? path = some entry) : later.find? path = some entry
  absent (direct : ".." ∉ path.parts ∨ before.find? path.parent = some .directory)
    (nothing : before.find? path = none) : later.find? path = none
  others (place : Place) (entry : DiskEntry) (found : before.at? place = some entry) : later.at? place = some entry
  files (place : Place) (bytes : List UInt8) (found : later.at? place = some (.file bytes)) :
    before.at? place = some (.file bytes) ∨ (failures .closeAgain).isSome ∨ (failures .unlink).isSome

section

variable {disk before between later : Disk} {place other there : Place} {entry : DiskEntry} {path : Path}

/-! ### Single entries -/

theorem at?_of_ne_nil (inside : place ≠ []) :
    disk.at? place = (disk.entries.find? fun entry => entry.1 = place).map (·.2) := if_neg (by simpa using inside)

private theorem find?_without (entries : List (Place × DiskEntry)) (other place : Place) :
    (entries.filter fun entry => entry.1 ≠ place).find? (fun entry => entry.1 = other) =
      if other = place then none else entries.find? fun entry => entry.1 = other := by
  rw [List.find?_filter]
  split
  · rename_i same
    simp [same]
  · rename_i apart
    refine congrArg (List.find? · entries) (funext fun entry => ?_)
    by_cases isOther : entry.1 = other
    · simp [isOther, apart]
    · simp [isOther]

theorem at?_put_of_ne (apart : other ≠ place) : (disk.put place entry).at? other = disk.at? other := by
  by_cases inside : other = []
  · rw [inside]
    rfl
  · rw [at?_of_ne_nil inside, at?_of_ne_nil inside, put, List.find?_append, find?_without, if_neg apart]
    simp [Ne.symm apart]

theorem at?_put_self (inside : place ≠ []) : (disk.put place entry).at? place = some entry := by
  rw [at?_of_ne_nil inside, put, List.find?_append, find?_without, if_pos rfl]
  simp

theorem at?_remove_of_ne (apart : other ≠ place) : (disk.remove place).at? other = disk.at? other := by
  by_cases inside : other = []
  · rw [inside]
    rfl
  · rw [at?_of_ne_nil inside, at?_of_ne_nil inside, remove, find?_without, if_neg apart]

theorem at?_remove_self (inside : place ≠ []) : (disk.remove place).at? place = none := by
  rw [at?_of_ne_nil inside, remove, find?_without, if_pos rfl]
  rfl

/-! ### Where paths lead -/

/-- The place that a path starts from. -/
def startOf (disk : Disk) (path : Path) : Place :=
  match path.anchor with
  | .here => disk.here
  | _ => []

theorem locate_ok : disk.locate path = .ok place ↔ path.isUsable = true ∧
    (disk.pathText path).utf8ByteSize ≤ pathLimit ∧ path.anchor ≠ .outside ∧
      disk.descend (disk.startOf path) path.parts = .ok place := by
  unfold locate startOf
  cases path.anchor <;> by_cases usable : path.isUsable = true <;>
    by_cases long : pathLimit < (disk.pathText path).utf8ByteSize <;>
    simp [usable, long, Nat.not_le.mpr, Nat.le_of_not_lt]

theorem find?_eq_some : disk.find? path = some entry ↔
    ∃ place, disk.locate path = .ok place ∧ disk.at? place = some entry := by
  unfold find?
  cases disk.locate path with
  | ok place => simp
  | error problem => simp

/-- A way goes on from a directory by one part. -/
theorem descend_cons {part : String} {rest : List String} :
    disk.descend place (part :: rest) = .ok there ↔ disk.at? place = some .directory ∧
      ((part = ".." ∧ disk.descend place.dropLast rest = .ok there) ∨
        (part ≠ ".." ∧ part.utf8ByteSize ≤ 255 ∧ disk.descend (place ++ [part]) rest = .ok there)) := by
  rw [descend]
  split
  · rename_i stands
    simp [stands]
  · rename_i stands
    simp [stands]
  · rename_i stands
    by_cases up : part = ".."
    · simp [stands, up]
    · by_cases long : 255 < part.utf8ByteSize
      · simp [stands, up, long, Nat.not_le.mpr long]
      · simp [stands, up, long, Nat.le_of_not_lt long]

theorem descend_append {parts more : List String} :
    disk.descend place (parts ++ more) = .ok there ↔
      ∃ halfway, disk.descend place parts = .ok halfway ∧ disk.descend halfway more = .ok there := by
  induction parts generalizing place with
  | nil => simp [descend]
  | cons part rest ih =>
    rw [List.cons_append]
    simp only [descend_cons, ih]
    constructor
    · rintro ⟨stands, ⟨up, halfway, first, second⟩ | ⟨down, short, halfway, first, second⟩⟩
      · exact ⟨halfway, ⟨stands, .inl ⟨up, first⟩⟩, second⟩
      · exact ⟨halfway, ⟨stands, .inr ⟨down, short, first⟩⟩, second⟩
    · rintro ⟨halfway, ⟨stands, ⟨up, first⟩ | ⟨down, short, first⟩⟩, second⟩
      · exact ⟨stands, .inl ⟨up, halfway, first, second⟩⟩
      · exact ⟨stands, .inr ⟨down, short, halfway, first, second⟩⟩

/-- A way that can be gone can be gone where there are more directories. -/
theorem descend_mono (more : ∀ place, before.at? place = some .directory → later.at? place = some .directory)
    {parts : List String} (leads : before.descend place parts = .ok there) :
    later.descend place parts = .ok there := by
  induction parts generalizing place with
  | nil => exact leads
  | cons part rest ih =>
    obtain ⟨stands, ⟨up, leads⟩ | ⟨down, short, leads⟩⟩ := descend_cons.mp leads
    · exact descend_cons.mpr ⟨more place stands, .inl ⟨up, ih leads⟩⟩
    · exact descend_cons.mpr ⟨more place stands, .inr ⟨down, short, ih leads⟩⟩

/-- A way that never goes up goes down by its parts. -/
theorem descend_direct {parts : List String} (direct : ".." ∉ parts)
    (leads : disk.descend place parts = .ok there) : there = place ++ parts := by
  induction parts generalizing place with
  | nil =>
    cases leads
    exact (List.append_nil _).symm
  | cons part rest ih =>
    obtain ⟨-, ⟨rfl, -⟩ | ⟨-, -, leads⟩⟩ := descend_cons.mp leads
    · exact absurd List.mem_cons_self direct
    · rw [ih (fun member => direct (List.mem_cons_of_mem _ member)) leads, List.append_assoc, List.singleton_append]

theorem IsTree.prefix (tree : disk.IsTree) {parts : List String} (below : parts ≠ [])
    (found : disk.at? (place ++ parts) = some entry) : disk.at? place = some .directory := by
  induction parts generalizing place with
  | nil => exact absurd rfl below
  | cons part rest ih =>
    rw [← List.singleton_append, ← List.append_assoc] at found
    cases rest with
    | nil =>
      rw [List.append_nil] at found
      exact tree.above place part entry found
    | cons next rest => exact tree.above place part .directory (ih (List.cons_ne_nil _ _) found)

/-- Where a direct way leads to something, it could be gone at the time that this was there. -/
theorem IsTree.descend_back (tree : before.IsTree) {parts : List String} (direct : ".." ∉ parts)
    (leads : later.descend place parts = .ok there) (found : before.at? there = some entry) :
    before.descend place parts = .ok there := by
  induction parts generalizing place with
  | nil => exact leads
  | cons part rest ih =>
    have isThere := descend_direct direct leads
    obtain ⟨-, ⟨rfl, -⟩ | ⟨down, short, leads⟩⟩ := descend_cons.mp leads
    · exact absurd List.mem_cons_self direct
    · have stands := tree.prefix (List.cons_ne_nil part rest) (isThere ▸ found)
      have behind := ih (fun member => direct (List.mem_cons_of_mem _ member)) leads
      exact descend_cons.mpr ⟨stands, .inr ⟨down, short, behind⟩⟩

/-- A path that could be followed can be followed where there are more directories. -/
theorem locate_mono (leads : before.locate path = .ok place) (here : later.here = before.here)
    (rootText : later.rootText = before.rootText)
    (more : ∀ place, before.at? place = some .directory → later.at? place = some .directory) :
    later.locate path = .ok place := by
  obtain ⟨usable, short, inside, descends⟩ := locate_ok.mp leads
  have text : later.pathText path = before.pathText path := by rw [pathText, pathText, rootText]
  have start : later.startOf path = before.startOf path := by rw [startOf, startOf, here]
  exact locate_ok.mpr ⟨usable, text ▸ short, inside, start ▸ descend_mono more descends⟩

/-! ### Directories that are made -/

/-- A disk goes on from another one with more directories, all of them at places of some kind. -/
structure Grown (made : Place → Prop) (before later : Disk) : Prop where
  here : later.here = before.here
  rootText : later.rootText = before.rootText
  places (place : Place) : later.at? place = before.at? place ∨
    made place ∧ before.at? place = none ∧ later.at? place = some .directory

namespace Grown

variable {made more : Place → Prop}

theorem refl (made : Place → Prop) (disk : Disk) : Grown made disk disk := ⟨rfl, rfl, fun _ => .inl rfl⟩

theorem present (grown : Grown made before later) (found : before.at? place = some entry) :
    later.at? place = some entry := by
  rcases grown.places place with same | ⟨-, none, -⟩
  · rw [same, found]
  · rw [none] at found
    cases found

theorem trans (first : Grown made before between) (second : Grown made between later) : Grown made before later := by
  refine ⟨second.here.trans first.here, second.rootText.trans first.rootText, fun place => ?_⟩
  rcases second.places place with same | ⟨isMade, none, directory⟩
  · rw [same]
    exact first.places place
  · rcases first.places place with same | ⟨-, -, directory'⟩
    · exact .inr ⟨isMade, same ▸ none, directory⟩
    · rw [none] at directory'
      cases directory'

theorem mono (grown : Grown made before later) (weaker : ∀ place, made place → more place) : Grown more before later :=
  ⟨grown.here, grown.rootText, fun place =>
    (grown.places place).imp_right fun ⟨isMade, rest⟩ => ⟨weaker place isMade, rest⟩⟩

theorem startOf (grown : Grown made before later) (path : Path) : later.startOf path = before.startOf path := by
  unfold Disk.startOf
  rw [grown.here]

end Grown

/-- A place that a path leads to, or some of its first parts. -/
def OnPath (disk : Disk) (path : Path) (place : Place) : Prop :=
  ∃ parts, parts <+: path.parts ∧ disk.locate { path with parts } = .ok place

theorem OnPath.mono (onPath : before.OnPath path place) (here : later.here = before.here)
    (rootText : later.rootText = before.rootText)
    (more : ∀ place, before.at? place = some .directory → later.at? place = some .directory) :
    later.OnPath path place := by
  obtain ⟨parts, isPrefix, leads⟩ := onPath
  exact ⟨parts, isPrefix, locate_mono leads here rootText more⟩

theorem onPath_of_parent (onPath : disk.OnPath path.parent place) : disk.OnPath path place := by
  obtain ⟨parts, isPrefix, leads⟩ := onPath
  exact ⟨parts, isPrefix.trans (List.dropLast_prefix path.parts), leads⟩

theorem makeOne_grown (made : disk.makeOne path = .ok later) : Grown (later.OnPath path) disk later := by
  unfold makeOne at made
  split at made
  · cases made
  · rename_i place located
    split at made
    · cases made
    · rename_i nothing
      cases made
      have kept : ∀ other, disk.at? other = some .directory →
          (disk.put place .directory).at? other = some .directory := by
        intro other stands
        rw [at?_put_of_ne, stands]
        rintro rfl
        rw [nothing] at stands
        cases stands
      refine ⟨rfl, rfl, fun other => ?_⟩
      by_cases isOther : other = place
      · subst isOther
        have inside : other ≠ [] := by
          rintro rfl
          cases nothing
        exact .inr ⟨⟨path.parts, List.prefix_rfl, locate_mono located rfl rfl kept⟩, nothing, at?_put_self inside⟩
      · exact .inl (at?_put_of_ne isOther)

theorem ensureOne_grown (path : Path) (disk : Disk) :
    Grown ((disk.ensureOne path).2.OnPath path) disk (disk.ensureOne path).2 := by
  unfold ensureOne
  split
  · rename_i made
    exact makeOne_grown made
  · exact .refl _ disk

theorem ensureAll_grown (depth : Nat) (path : Path) (disk : Disk) :
    Grown ((ensureAll depth path disk).2.OnPath path) disk (ensureAll depth path disk).2 := by
  induction depth generalizing path disk with
  | zero => exact ensureOne_grown path disk
  | succ depth ih =>
    rw [ensureAll]
    split
    · rename_i made
      exact makeOne_grown made
    · split
      · have above := (ih path.parent disk).mono fun _ => onPath_of_parent
        split
        · rename_i result
          rwa [result] at above
        · rename_i between result
          rw [result] at above
          have last := ensureOne_grown path between
          exact (above.mono fun _ onPath => onPath.mono last.here last.rootText fun _ => last.present).trans last
      · exact ensureOne_grown path disk

/-- A place that is no deeper than a path leads, if the path goes straight down. -/
def OnTheWay (disk : Disk) (path : Path) (place : Place) : Prop :=
  ".." ∉ path.parts → place.length ≤ (disk.startOf path).length + path.parts.length

theorem onTheWay_of_onPath (same : later.startOf path = disk.startOf path) (onPath : later.OnPath path place) :
    disk.OnTheWay path place := by
  intro direct
  obtain ⟨parts, isPrefix, leads⟩ := onPath
  obtain ⟨-, -, -, descends⟩ := locate_ok.mp leads
  have down := descend_direct (fun member => direct (isPrefix.subset member)) descends
  have start : later.startOf { path with parts } = disk.startOf path := same
  rw [down, start, List.length_append]
  exact Nat.add_le_add_left isPrefix.length_le _

/-- Nothing is made of a directory that is there. -/
theorem makeDirectories_of_directory (found : disk.find? path = some .directory) :
    disk.makeDirectories path = (none, disk) := by
  obtain ⟨place, located, stands⟩ := find?_eq_some.mp found
  have taken : disk.makeOne path = .error ⟨.taken, disk.pathText path, none⟩ := by
    simp only [makeOne, located, stands]
  have ensured : disk.ensureOne path = (none, disk) := by
    simp only [ensureOne, taken, isDirectory, found, decide_true, if_true]
  unfold makeDirectories
  cases path.parts.length with
  | zero => exact ensured
  | succ depth =>
    simp only [ensureAll, taken, reduceCtorEq, if_false]
    exact ensured

/-! ### The temporary file -/

/-- The place of the temporary file for a path. -/
def temporaryOf (disk : Disk) (path : Path) : Place :=
  flatten disk.here path.parent ++ [temporaryName (disk.unusedToken path) path]

theorem temporaryOf_ne_nil (disk : Disk) (path : Path) : disk.temporaryOf path ≠ [] :=
  List.append_ne_nil_of_right_ne_nil _ (List.cons_ne_nil _ _)

theorem temporaryName_length (token : String) (path : Path) :
    (temporaryName token path).length = path.name.length + token.length + 6 := by
  simp only [temporaryName, String.length_append]
  have one : ".".length = 1 := rfl
  have four : ".tmp".length = 4 := rfl
  omega

theorem temporaryName_ne (token : String) (path : Path) : temporaryName token path ≠ path.name := by
  intro same
  have lengths := congrArg String.length same
  rw [temporaryName_length] at lengths
  omega

private theorem temporaryName_injective {token : String} {m n : Nat}
    (same : temporaryName (lengthened token m) path = temporaryName (lengthened token n) path) : m = n := by
  have lengths := congrArg String.length same
  simp only [temporaryName_length, lengthened, String.length_append, String.length_ofList, List.length_replicate]
    at lengths
  omega

theorem isSome_at? (inside : place ≠ []) (stands : (disk.at? place).isSome = true) :
    place ∈ disk.entries.map (·.1) := by
  rw [at?_of_ne_nil inside, Option.isSome_map, List.find?_isSome] at stands
  obtain ⟨entry, listed, isPlace⟩ := stands
  exact List.mem_map.mpr ⟨entry, listed, by simpa using isPlace⟩

/-- Nothing stands in the place of a temporary file: there are more names to try than there are entries. -/
theorem at?_temporaryOf (disk : Disk) (path : Path) : disk.at? (disk.temporaryOf path) = none := by
  let candidate (n : Nat) : Place :=
    flatten disk.here path.parent ++ [temporaryName (lengthened disk.token n) path]
  unfold temporaryOf unusedToken
  dsimp only
  cases tried : ((List.range (disk.entries.length + 1)).map (lengthened disk.token)).find? fun token =>
    (disk.at? (flatten disk.here path.parent ++ [temporaryName token path])).isNone with
  | some token => simpa using List.find?_some tried
  | none =>
    exfalso
    have taken : ∀ n < disk.entries.length + 1, candidate n ∈ disk.entries.map (·.1) := by
      intro n bound
      refine isSome_at? (List.append_ne_nil_of_right_ne_nil _ (List.cons_ne_nil _ _)) ?_
      have stands := List.find?_eq_none.mp tried _ (List.mem_map_of_mem (List.mem_range.mpr bound))
      simpa [Option.isSome_iff_ne_none, candidate] using stands
    have distinct : ((List.range (disk.entries.length + 1)).map candidate).Nodup := by
      refine List.nodup_range.map fun m n same => ?_
      exact temporaryName_injective (List.singleton_injective (List.append_cancel_left same))
    have within : (List.range (disk.entries.length + 1)).map candidate ⊆ disk.entries.map (·.1) := by
      intro place member
      obtain ⟨n, bound, rfl⟩ := List.mem_map.mp member
      exact taken n (List.mem_range.mp bound)
    have lengths := (List.subperm_of_subset distinct within).length_le
    simp only [List.length_map, List.length_range] at lengths
    omega

/-- A disk differs from another one at most in what stands at one place. -/
structure SameBut (place : Place) (before later : Disk) : Prop where
  here : later.here = before.here
  rootText : later.rootText = before.rootText
  others (other : Place) (apart : other ≠ place) : later.at? other = before.at? other

namespace SameBut

theorem refl (place : Place) (disk : Disk) : SameBut place disk disk := ⟨rfl, rfl, fun _ _ => rfl⟩

theorem put (same : SameBut place before later) (entry : DiskEntry) : SameBut place before (later.put place entry) :=
  ⟨same.here, same.rootText, fun other apart => (at?_put_of_ne apart).trans (same.others other apart)⟩

theorem remove (same : SameBut place before later) : SameBut place before (later.remove place) :=
  ⟨same.here, same.rootText, fun other apart => (at?_remove_of_ne apart).trans (same.others other apart)⟩

end SameBut

/-- What a failed write leaves of its temporary file: nothing, unless cleaning up fails. -/
structure LeftOver (failures : WriteFailures) (temporary : Place) (before later : Disk) : Prop
    extends SameBut temporary before later where
  temporary : later.at? temporary = before.at? temporary ∨
    (∃ bytes, later.at? temporary = some (.file bytes)) ∧
      ((failures .closeAgain).isSome ∨ (failures .unlink).isSome)

theorem leftOver_refl (failures : WriteFailures) (place : Place) (disk : Disk) : LeftOver failures place disk disk :=
  ⟨.refl place disk, .inl rfl⟩

variable {failures : WriteFailures}

/-- What making the directories above a target leaves. -/
def madeParents (failures : WriteFailures) (path : Path) (disk : Disk) : Option DiskFault × Disk :=
  (failures .makeParents).elim (disk.makeDirectories path.parent) fun fault => (some fault, disk)

theorem madeParents_onPath (failures : WriteFailures) (path : Path) (disk : Disk) :
    Grown ((disk.madeParents failures path).2.OnPath path.parent) disk (disk.madeParents failures path).2 := by
  unfold madeParents
  cases failures .makeParents with
  | none => exact ensureAll_grown _ path.parent disk
  | some fault => exact .refl _ disk

theorem madeParents_grown (failures : WriteFailures) (path : Path) (disk : Disk) :
    Grown (disk.OnTheWay path.parent) disk (disk.madeParents failures path).2 := by
  have grown := madeParents_onPath failures path disk
  exact grown.mono fun _ => onTheWay_of_onPath (grown.startOf path.parent)

theorem madeParents_of_directory (failures : WriteFailures) (found : disk.find? path.parent = some .directory) :
    (disk.madeParents failures path).2 = disk := by
  unfold madeParents
  cases failures .makeParents with
  | none => exact congrArg Prod.snd (makeDirectories_of_directory found)
  | some fault => rfl

/-- The disk with the data in the temporary file. -/
def withTemporary (disk : Disk) (path : Path) (data : String) : Disk :=
  (disk.put (disk.temporaryOf path) (.file [])).put (disk.temporaryOf path) (.file (Text.encode data))

theorem withTemporary_same (disk : Disk) (path : Path) (data : String) :
    SameBut (disk.temporaryOf path) disk (disk.withTemporary path data) := ((SameBut.refl _ disk).put _).put _

theorem IsTree.start (tree : disk.IsTree) (path : Path) : disk.at? (disk.startOf path) = some .directory := by
  unfold startOf
  cases path.anchor with
  | here => exact tree.here
  | root => rfl
  | outside => rfl

/-- A path that leads to something does not lead to the temporary file. -/
theorem locate_ne_temporaryOf (tree : disk.IsTree) (unused : disk.at? (between.temporaryOf path) = none)
    (same : later.startOf path = disk.startOf path)
    (noMore : ".." ∈ path.parts → ∀ place, later.at? place = some .directory → disk.at? place = some .directory)
    (leads : later.locate path = .ok place) : place ≠ between.temporaryOf path := by
  rintro rfl
  obtain ⟨-, -, -, descends⟩ := locate_ok.mp leads
  rcases List.eq_nil_or_concat path.parts with none | ⟨init, last, parts⟩
  · rw [none, same] at descends
    have isStart : disk.startOf path = between.temporaryOf path := Except.ok.inj descends
    rw [← isStart, tree.start path] at unused
    cases unused
  · have name : path.name = last := by simp [Path.name, parts]
    rw [parts, List.concat_eq_append, descend_append] at descends
    obtain ⟨above, -, descends⟩ := descends
    obtain ⟨stands, ⟨up, descends⟩ | ⟨-, -, descends⟩⟩ := descend_cons.mp descends
    · -- the parent of a directory is one as well, but nothing stands in the place of the temporary file
      have directory := noMore (by simp [parts, up]) above stands
      have isParent : above.dropLast = between.temporaryOf path := Except.ok.inj descends
      rcases List.eq_nil_or_concat above with rfl | ⟨parent, part, rfl⟩
      · exact temporaryOf_ne_nil between path isParent.symm
      · rw [List.concat_eq_append] at directory
        rw [List.concat_eq_append, List.dropLast_concat] at isParent
        rw [← isParent, tree.above parent part _ directory] at unused
        cases unused
    · have isLast : above ++ [last] = between.temporaryOf path := Except.ok.inj descends
      have names := List.singleton_injective (List.append_inj_right' isLast rfl)
      exact temporaryName_ne _ path (names.symm.trans name.symm)

/-- Between a disk and what a failed write leaves of it. -/
structure Failed (failures : WriteFailures) (path : Path) (disk made later : Disk) : Prop where
  grown : Grown (disk.OnTheWay path.parent) disk made
  alike : disk.find? path.parent = some .directory → made = disk
  left : LeftOver failures (made.temporaryOf path) made later

namespace Failed

variable {made : Disk} (failed : Failed failures path disk made later)

include failed

theorem unused : disk.at? (made.temporaryOf path) = none := by
  rcases failed.grown.places (made.temporaryOf path) with same | ⟨-, none, -⟩
  · rw [← same, at?_temporaryOf]
  · exact none

theorem others (found : disk.at? place = some entry) : later.at? place = some entry := by
  have apart : place ≠ made.temporaryOf path := by
    rintro rfl
    rw [failed.unused] at found
    cases found
  rw [failed.left.others place apart, failed.grown.present found]

theorem directory (stands : later.at? place = some .directory) : made.at? place = some .directory := by
  by_cases isTemporary : place = made.temporaryOf path
  · rw [isTemporary] at stands ⊢
    rcases failed.left.temporary with same | ⟨⟨bytes, file⟩, -⟩
    · rw [← same, stands]
    · rw [file] at stands
      cases stands
  · rwa [failed.left.others place isTemporary] at stands

theorem file {bytes : List UInt8} (stands : later.at? place = some (.file bytes)) :
    disk.at? place = some (.file bytes) ∨ (failures .closeAgain).isSome ∨ (failures .unlink).isSome := by
  by_cases isTemporary : place = made.temporaryOf path
  · rw [isTemporary] at stands
    rcases failed.left.temporary with same | ⟨-, fails⟩
    · rw [same, at?_temporaryOf] at stands
      cases stands
    · exact .inr fails
  · rw [failed.left.others place isTemporary] at stands
    rcases failed.grown.places place with same | ⟨-, -, directory⟩
    · exact .inl (same ▸ stands)
    · rw [stands] at directory
      cases directory

theorem here : later.here = disk.here := failed.left.here.trans failed.grown.here

theorem rootText : later.rootText = disk.rootText := failed.left.rootText.trans failed.grown.rootText

theorem start : later.startOf path = disk.startOf path := by rw [startOf, startOf, failed.here]

/-- Where a direct path leads to something afterwards, it led to it before. -/
theorem find?_of_direct (tree : disk.IsTree) (direct : ".." ∉ path.parts) (found : later.find? path = some entry) :
    disk.find? path = some entry := by
  obtain ⟨place, leads, stands⟩ := find?_eq_some.mp found
  have apart := locate_ne_temporaryOf tree failed.unused failed.start (fun up => absurd up direct) leads
  obtain ⟨usable, short, inside, descends⟩ := locate_ok.mp leads
  have isPlace := descend_direct direct descends
  rw [failed.start] at descends isPlace
  rw [failed.left.others place apart] at stands
  rcases failed.grown.places place with same | ⟨onTheWay, none, -⟩
  · rw [same] at stands
    have text : later.pathText path = disk.pathText path := by rw [pathText, pathText, failed.rootText]
    exact find?_eq_some.mpr
      ⟨place, locate_ok.mpr ⟨usable, text ▸ short, inside, tree.descend_back direct descends stands⟩, stands⟩
  · -- what is made on the way is less deep than the target
    exfalso
    have isPrefix : path.parent.parts <+: path.parts := List.dropLast_prefix path.parts
    have bound := onTheWay fun member => direct (isPrefix.subset member)
    have parent : path.parent.parts.length = path.parts.length - 1 := List.length_dropLast
    have start : disk.startOf path.parent = disk.startOf path := rfl
    rw [isPlace, List.length_append, start] at bound
    have empty : path.parts = [] := List.eq_nil_of_length_eq_zero (by omega)
    rw [isPlace, empty, List.append_nil, tree.start path] at none
    cases none

/-- Where the parent of a path was there before, and the path leads to something afterwards, it led to it before. -/
theorem find?_of_parent (tree : disk.IsTree) (parent : disk.find? path.parent = some .directory)
    (found : later.find? path = some entry) : disk.find? path = some entry := by
  obtain ⟨place, leads, stands⟩ := find?_eq_some.mp found
  have directories : ∀ place, later.at? place = some .directory → disk.at? place = some .directory :=
    fun place stands => failed.alike parent ▸ failed.directory stands
  have apart := locate_ne_temporaryOf tree failed.unused failed.start (fun _ => directories) leads
  rw [failed.left.others place apart, failed.alike parent] at stands
  exact find?_eq_some.mpr ⟨place, locate_mono leads failed.here.symm failed.rootText.symm directories, stands⟩

theorem kept (tree : disk.IsTree) : Kept failures path disk later where
  present entry found := by
    obtain ⟨place, leads, stands⟩ := find?_eq_some.mp found
    exact find?_eq_some.mpr
      ⟨place, locate_mono leads failed.here failed.rootText fun _ => failed.others, failed.others stands⟩
  absent direct nothing := by
    cases found : later.find? path with
    | none => rfl
    | some entry =>
      have before : disk.find? path = some entry :=
        direct.elim (fun direct => failed.find?_of_direct tree direct found)
          fun parent => failed.find?_of_parent tree parent found
      rw [nothing] at before
      cases before
  others _ _ := failed.others
  files _ _ := failed.file

end Failed

theorem moveTo_ok {temporary : Place} {bytes : List UInt8}
    (moved : disk.moveTo temporary bytes path = .ok later) :
    ∃ place, disk.locate path = .ok place ∧ disk.at? place ≠ some .directory ∧
      later = (disk.remove temporary).put place (.file bytes) := by
  unfold moveTo at moved
  dsimp only at moved
  split at moved
  · cases moved
  · split at moved
    · cases moved
    · rename_i place leads
      split at moved
      · cases moved
      · rename_i noDirectory
        exact ⟨place, leads, noDirectory, (Except.ok.inj moved).symm⟩

/-- After a move the path leads where it led before. -/
theorem locate_moved {temporary : Place} {bytes data : List UInt8} (stands : disk.at? temporary = some (.file data))
    (moved : disk.moveTo temporary bytes path = .ok later) :
    ∃ place, place ≠ [] ∧ later.locate path = .ok place ∧ disk.at? place ≠ some .directory ∧
      later = (disk.remove temporary).put place (.file bytes) := by
  obtain ⟨place, leads, noDirectory, rfl⟩ := moveTo_ok moved
  have inside : place ≠ [] := by
    rintro rfl
    exact noDirectory rfl
  have more : ∀ other, disk.at? other = some .directory →
      ((disk.remove temporary).put place (.file bytes)).at? other = some .directory := by
    intro other directory
    have notPlace : other ≠ place := by
      rintro rfl
      exact noDirectory directory
    have notTemporary : other ≠ temporary := by
      rintro rfl
      rw [stands] at directory
      cases directory
    rw [at?_put_of_ne notPlace, at?_remove_of_ne notTemporary, directory]
  exact ⟨place, inside, locate_mono leads rfl rfl more, noDirectory, rfl⟩

/-- After a move the target holds the data. -/
theorem find?_moved {temporary : Place} {bytes data : List UInt8} (stands : disk.at? temporary = some (.file data))
    (moved : disk.moveTo temporary bytes path = .ok later) : later.find? path = some (.file bytes) := by
  obtain ⟨place, inside, leads, -, rfl⟩ := locate_moved stands moved
  exact find?_eq_some.mpr ⟨place, leads, at?_put_self inside⟩

end

end ClientGen.Disk
