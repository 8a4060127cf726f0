import ClientGen.Proofs.Disk.AtomicWrite

/-!
What a write promises whichever steps fail: it is done as a whole, or else nothing is left of it but directories above
its target (`Promised`). As long as the last step of cleaning up works, the promise is broken in two cases and in no
other (`promised_iff`). Where closing the temporary file fails for a second time, the file is not removed
(`LeftOpen`). And where the path goes back up through a directory that has to be made first, it leads to something
as soon as this is made, even if the write then fails.
-/

namespace ClientGen.Disk

/-- A directory above the target of a path that has been made. -/
structure IsNewParent (path : Path) (before later : Disk) (place : Place) : Prop where
  nothing : before.at? place = none
  directory : later.at? place = some .directory
  onPath : later.OnPath path.parent place

/-- What a write of data to a path promises. If it succeeds, the path leads to a file with the data; if it fails, it
leads to what it led to before. All other places are as they were, except for new directories above the target. -/
structure Promised (path : Path) (data : String) (before : Disk) (result : Option DiskFault × Disk) : Prop where
  received (done : result.1 = none) : result.2.find? path = some (.file (Text.encode data))
  kept (fails : result.1 ≠ none) : result.2.find? path = before.find? path
  others (place : Place) (isOther : result.1 = none → result.2.locate path ≠ .ok place) :
    result.2.at? place = before.at? place ∨ IsNewParent path before result.2 place

/-- Why the temporary file for a path cannot be created, if it cannot. -/
def creationFault? (failures : WriteFailures) (path : Path) (disk : Disk) : Option DiskFault :=
  let token := disk.unusedToken path
  let temporaryText := disk.pathText ⟨.root, disk.temporaryOf path⟩
  let size (text : String) := text.utf8ByteSize + tokenLength - token.utf8ByteSize
  match failures .createTemporary with
  | some fault => some fault
  | none =>
    if !path.isUsable then some ⟨.notPath, temporaryText, none⟩
    else if 255 < size (temporaryName token path) ∨ pathLimit < size temporaryText then
      some ⟨.nameTooLong, temporaryText, none⟩
    else none

/-- The temporary file has been created, one of the steps fails while it is open, and so does closing it again. -/
structure LeftOpen (failures : WriteFailures) (path : Path) (disk : Disk) : Prop where
  parents : (disk.madeParents failures path).1 = none
  created : creationFault? failures path (disk.madeParents failures path).2 = none
  fails : openSteps.findSome? failures ≠ none
  closeAgain : failures .closeAgain ≠ none

section

variable {failures : WriteFailures} {path : Path} {data : String} {disk before later : Disk} {place : Place}

/-! ### The stages of a write -/

/-- The end of a write whose temporary file is complete. -/
def renamed (failures : WriteFailures) (path : Path) (data : String) (disk : Disk) : Option DiskFault × Disk :=
  let written := disk.withTemporary path data
  match (failures .rename).elim (written.moveTo (disk.temporaryOf path) (Text.encode data) path) .error with
  | .error fault => (some fault, written.discard failures (disk.temporaryOf path))
  | .ok moved => (none, moved)

/-- Checks that fail one by one may as well be made together. -/
private theorem stop_of_checks {first second : Prop} [Decidable first] [Decidable second] {x y : DiskFault}
    {rest : Option DiskFault × Disk} :
    (if first then (some x, disk) else if second then (some y, disk) else rest) =
      match if first then some x else if second then some y else none with
      | some fault => (some fault, disk)
      | none => rest := by
  by_cases isFirst : first
  · simp only [if_pos isFirst]
  · by_cases isSecond : second
    · simp only [if_neg isFirst, if_pos isSecond]
    · simp only [if_neg isFirst, if_neg isSecond]

theorem atomicWrite_eq (failures : WriteFailures) (path : Path) (data : String) (disk : Disk) :
    atomicWrite failures path data disk =
      let made := (disk.madeParents failures path).2
      match (disk.madeParents failures path).1.or (creationFault? failures path made) with
      | some fault => (some fault, made)
      | none =>
        match openSteps.findSome? failures with
        | some fault => (made.put (made.temporaryOf path) (.file [])).abandonOpen failures (made.temporaryOf path) fault
        | none => renamed failures path data made := by
  unfold atomicWrite
  rw [← madeParents]
  rcases disk.madeParents failures path with ⟨_ | fault, made⟩
  · unfold creationFault?
    cases failures .createTemporary with
    | some fault => rfl
    | none => exact stop_of_checks
  · rfl

/-! ### Writes that clean up -/

/-- On two disks the same stands everywhere. -/
structure Alike (before later : Disk) : Prop where
  here : later.here = before.here
  rootText : later.rootText = before.rootText
  places (place : Place) : later.at? place = before.at? place

namespace Alike

theorem symm (alike : Alike before later) : Alike later before :=
  ⟨alike.here.symm, alike.rootText.symm, fun place => (alike.places place).symm⟩

theorem locate (alike : Alike before later) (leads : before.locate path = .ok place) :
    later.locate path = .ok place :=
  locate_mono leads alike.here alike.rootText fun other stands => (alike.places other).trans stands

/-- On disks that are alike a path leads to the same. -/
theorem find? (alike : Alike before later) (path : Path) : later.find? path = before.find? path := by
  refine Option.ext fun entry => ?_
  rw [find?_eq_some, find?_eq_some]
  constructor
  · rintro ⟨place, leads, stands⟩
    exact ⟨place, alike.symm.locate leads, (alike.places place).symm.trans stands⟩
  · rintro ⟨place, leads, stands⟩
    exact ⟨place, alike.locate leads, (alike.places place).trans stands⟩

end Alike

theorem alike_discard (unlinks : failures .unlink = none) (inside : place ≠ []) (unused : before.at? place = none)
    (same : SameBut place before later) : Alike before (later.discard failures place) := by
  have removed : later.discard failures place = later.remove place := by
    rw [discard, unlinks]
    rfl
  rw [removed]
  refine ⟨same.remove.here, same.remove.rootText, fun other => ?_⟩
  by_cases isPlace : other = place
  · rw [isPlace, at?_remove_self inside, unused]
  · exact same.remove.others other isPlace

/-- Once its temporary file is complete, a write that fails leaves nothing of it. -/
theorem renamed_cases (unlinks : failures .unlink = none) (path : Path) (data : String) (disk : Disk) :
    ((renamed failures path data disk).1 ≠ none ∧ Alike disk (renamed failures path data disk).2) ∨
      (renamed failures path data disk).1 = none ∧
        (disk.withTemporary path data).moveTo (disk.temporaryOf path) (Text.encode data) path =
          .ok (renamed failures path data disk).2 := by
  have cleared := alike_discard unlinks (temporaryOf_ne_nil disk path) (at?_temporaryOf disk path)
    (withTemporary_same disk path data)
  unfold renamed
  dsimp only
  cases fails : failures .rename with
  | some fault => exact .inl ⟨nofun, cleared⟩
  | none =>
    dsimp only [Option.elim_none]
    split
    · exact .inl ⟨nofun, cleared⟩
    · rename_i moved isMoved
      exact .inr ⟨rfl, isMoved⟩

/-- A write whose temporary file is not left open either fails, with nothing more than directories made, or moves its
temporary file to the target. -/
theorem atomicWrite_clean (unlinks : failures .unlink = none) (closed : ¬ LeftOpen failures path disk)
    (data : String) :
    let made := (disk.madeParents failures path).2
    let result := atomicWrite failures path data disk
    (result.1 ≠ none ∧ Alike made result.2) ∨
      result.1 = none ∧ (made.withTemporary path data).moveTo (made.temporaryOf path) (Text.encode data) path =
        .ok result.2 := by
  intro made result
  have result_eq : result = _ := atomicWrite_eq failures path data disk
  have unchanged : Alike made made := ⟨rfl, rfl, fun _ => rfl⟩
  dsimp only at result_eq
  split at result_eq
  · rw [result_eq]
    exact .inl ⟨nofun, unchanged⟩
  · rename_i started
    obtain ⟨parents, created⟩ := Option.or_eq_none_iff.mp started
    split at result_eq
    · rename_i fault broken
      have again : failures .closeAgain = none := by
        by_contra fails
        exact closed ⟨parents, created, by rw [broken]; exact nofun, fails⟩
      rw [abandonOpen, again] at result_eq
      rw [result_eq]
      exact .inl ⟨nofun, alike_discard unlinks (temporaryOf_ne_nil made path) (at?_temporaryOf made path)
        ((SameBut.refl _ made).put _)⟩
    · rw [result_eq]
      exact renamed_cases unlinks path data made

/-- A write whose temporary file is left open fails as closing it again does, and the file stays. -/
theorem atomicWrite_leftOpen (left : LeftOpen failures path disk) (data : String) :
    let made := (disk.madeParents failures path).2
    atomicWrite failures path data disk = (failures .closeAgain, made.put (made.temporaryOf path) (.file [])) := by
  intro made
  obtain ⟨fault, fails⟩ := Option.ne_none_iff_exists'.mp left.fails
  obtain ⟨second, again⟩ := Option.ne_none_iff_exists'.mp left.closeAgain
  simp only [atomicWrite_eq, left.parents, left.created, Option.none_or, fails, abandonOpen, again, made]

/-! ### The promise -/

variable {made : Disk} (grown : Grown (made.OnPath path.parent) disk made)

include grown

/-- A place that stays as it is once the directories above the target are made is one of these or was so before. -/
theorem isNewParent_of_grown (here : later.here = made.here) (rootText : later.rootText = made.rootText)
    (more : ∀ place, made.at? place = some .directory → later.at? place = some .directory)
    (stays : later.at? place = made.at? place) :
    later.at? place = disk.at? place ∨ IsNewParent path disk later place := by
  rcases grown.places place with same | ⟨onPath, nothing, directory⟩
  · exact .inl (stays.trans same)
  · exact .inr ⟨nothing, stays.trans directory, onPath.mono here rootText more⟩

theorem promised_of_alike {result : Option DiskFault × Disk} (fails : result.1 ≠ none) (alike : Alike made result.2)
    (kept : made.find? path = disk.find? path) : Promised path data disk result where
  received done := absurd done fails
  kept _ := (alike.find? path).trans kept
  others place _ := isNewParent_of_grown grown alike.here alike.rootText
    (fun other stands => (alike.places other).trans stands) (alike.places place)

theorem promised_of_moved {result : Option DiskFault × Disk} (done : result.1 = none)
    (moved : (made.withTemporary path data).moveTo (made.temporaryOf path) (Text.encode data) path = .ok result.2) :
    Promised path data disk result := by
  have complete : (made.withTemporary path data).at? (made.temporaryOf path) = some (.file (Text.encode data)) :=
    at?_put_self (temporaryOf_ne_nil made path)
  obtain ⟨place, inside, leads, noDirectory, later_eq⟩ := locate_moved complete moved
  have stays : ∀ other, other ≠ place → result.2.at? other = made.at? other := by
    intro other apart
    rw [later_eq, at?_put_of_ne apart]
    by_cases isTemporary : other = made.temporaryOf path
    · rw [isTemporary, at?_remove_self (temporaryOf_ne_nil made path), at?_temporaryOf]
    · rw [at?_remove_of_ne isTemporary, (withTemporary_same made path data).others other isTemporary]
  have more : ∀ other, made.at? other = some .directory → result.2.at? other = some .directory := by
    intro other directory
    have notTemporary : other ≠ made.temporaryOf path := by
      rintro rfl
      rw [at?_temporaryOf] at directory
      cases directory
    have notPlace : other ≠ place := by
      rintro rfl
      exact noDirectory (((withTemporary_same made path data).others other notTemporary).trans directory)
    rw [stays other notPlace, directory]
  refine ⟨fun _ => find?_moved complete moved, fun fails => absurd done fails, fun other isOther => ?_⟩
  have apart : other ≠ place := by
    rintro rfl
    exact isOther done leads
  exact isNewParent_of_grown grown (by rw [later_eq]; rfl) (by rw [later_eq]; rfl) more (stays other apart)

omit grown in
/-- A path that goes straight down, or whose parent is there, leads where it led before when its parents are made. -/
theorem find?_madeParents (tree : disk.IsTree) (failures : WriteFailures)
    (direct : ".." ∉ path.parts ∨ disk.find? path.parent = some .directory) :
    (disk.madeParents failures path).2.find? path = disk.find? path := by
  have kept : Kept failures path disk (disk.madeParents failures path).2 := Failed.kept
    ⟨madeParents_grown failures path disk, madeParents_of_directory failures, leftOver_refl _ _ _⟩ tree
  cases found : disk.find? path with
  | none => exact kept.absent direct found
  | some entry => exact kept.present entry found

omit grown in
/-- As long as removing a file works, a write keeps its promise exactly if its temporary file is not left open and, in
case that it fails, its path leads where it led before once the directories above its target are made. The latter is
so for every path that goes straight down and for every path whose parent is there. A temporary file that is left open
stays, and the write then fails as closing the file again does. -/
theorem promised_iff (tree : disk.IsTree) (unlinks : failures .unlink = none) (path : Path) (data : String) :
    let made := (disk.madeParents failures path).2
    let result := atomicWrite failures path data disk
    (Promised path data disk result ↔
      ¬ LeftOpen failures path disk ∧ (result.1 ≠ none → made.find? path = disk.find? path)) ∧
    ((".." ∉ path.parts ∨ disk.find? path.parent = some .directory) → made.find? path = disk.find? path) ∧
    (LeftOpen failures path disk → result.1 = failures .closeAgain ∧
      disk.at? (made.temporaryOf path) = none ∧ result.2.at? (made.temporaryOf path) = some (.file [])) := by
  intro made result
  have grown := madeParents_onPath failures path disk
  have left (leftOpen : LeftOpen failures path disk) : result.1 = failures .closeAgain ∧
      disk.at? (made.temporaryOf path) = none ∧ result.2.at? (made.temporaryOf path) = some (.file []) := by
    have result_eq : result = _ := atomicWrite_leftOpen leftOpen data
    rw [result_eq]
    refine ⟨rfl, ?_, at?_put_self (temporaryOf_ne_nil made path)⟩
    rcases grown.places (made.temporaryOf path) with same | ⟨-, nothing, -⟩
    · exact same.symm.trans (at?_temporaryOf made path)
    · exact nothing
  refine ⟨⟨fun promised => ?_, ?_⟩, find?_madeParents tree failures, left⟩
  · have closed : ¬ LeftOpen failures path disk := by
      intro leftOpen
      obtain ⟨again, nothing, file⟩ := left leftOpen
      have failed : result.1 ≠ none := again ▸ leftOpen.closeAgain
      rcases promised.others (made.temporaryOf path) fun done => absurd done failed with same | new
      · rw [file, nothing] at same
        cases same
      · have directory := new.directory
        rw [file] at directory
        cases directory
    refine ⟨closed, fun failed => ?_⟩
    rcases atomicWrite_clean unlinks closed data with ⟨-, alike⟩ | ⟨done, -⟩
    · exact (alike.find? path).symm.trans (promised.kept failed)
    · exact absurd done failed
  · rintro ⟨closed, kept⟩
    rcases atomicWrite_clean unlinks closed data with ⟨failed, alike⟩ | ⟨done, moved⟩
    · exact promised_of_alike grown failed alike (kept failed)
    · exact promised_of_moved grown done moved

end

theorem isTree_empty : ({} : Disk).IsTree where
  here := rfl
  above place part entry found := by
    rw [at?_of_ne_nil (List.append_ne_nil_of_right_ne_nil _ (List.cons_ne_nil _ _))] at found
    cases found

/-- A step that fails because there is no space left. -/
private def noSpace : DiskFault := ⟨.other 28 "No space left on device", "api.py", none⟩

/-- A write whose last step fails leaves a new directory and nothing else. -/
theorem promised_rename :
    let failures : WriteFailures := fun step => if step = .rename then some noSpace else none
    ({} : Disk).IsTree ∧ failures .unlink = none ∧
      Promised ⟨.here, ["out", "api.py"]⟩ "pass" {} (atomicWrite failures ⟨.here, ["out", "api.py"]⟩ "pass" {}) := by
  intro failures
  obtain ⟨promised, kept, -⟩ := promised_iff isTree_empty (rfl : failures .unlink = none) ⟨.here, ["out", "api.py"]⟩ "pass"
  refine ⟨isTree_empty, rfl, promised.mpr ⟨fun leftOpen => leftOpen.closeAgain rfl, fun _ => kept (.inl ?_)⟩⟩
  decide

/-- On a full disk the temporary file cannot be written out, neither at first nor when it is closed again: it stays. A
path that goes up through a directory which is not there leads to the directory that has been made for it. -/
theorem promise_broken :
    let full : WriteFailures := fun step => if step = .flush ∨ step = .closeAgain then some noSpace else none
    ({} : Disk).IsTree ∧ full .unlink = none ∧
      ¬ Promised ⟨.here, ["api.py"]⟩ "pass" {} (atomicWrite full ⟨.here, ["api.py"]⟩ "pass" {}) ∧
      ¬ Promised ⟨.here, ["a", "..", "a"]⟩ "pass" {} (atomicWrite noFailures ⟨.here, ["a", "..", "a"]⟩ "pass" {}) := by
  intro full
  refine ⟨isTree_empty, rfl, fun promised => ?_, fun promised => ?_⟩
  · have failed : (atomicWrite full ⟨.here, ["api.py"]⟩ "pass" {}).1 ≠ none := by decide +kernel
    have stays : (atomicWrite full ⟨.here, ["api.py"]⟩ "pass" {}).2.at? [".api.py.x.tmp"] = some (.file []) := by
      decide +kernel
    rcases promised.others [".api.py.x.tmp"] fun done => absurd done failed with same | new
    · cases stays.symm.trans same
    · cases stays.symm.trans new.directory
  · have failed : (atomicWrite noFailures ⟨.here, ["a", "..", "a"]⟩ "pass" {}).1 ≠ none := by decide +kernel
    have leads : (atomicWrite noFailures ⟨.here, ["a", "..", "a"]⟩ "pass" {}).2.find? ⟨.here, ["a", "..", "a"]⟩ =
        some .directory := by decide +kernel
    cases leads.symm.trans (promised.kept failed)

end ClientGen.Disk
