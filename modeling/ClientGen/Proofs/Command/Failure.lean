import ClientGen.Command.Run
import ClientGen.Proofs.Reading
import ClientGen.Proofs.Terminal.Verbatim

/-!
How a command ends that fails with a failure of the program's own. The exit code is that of the failure and the
message is shown word for word, as long as the talk is plain or markup reads nothing in the message
(`failure_reported`). Otherwise markup has a say in it: a message whose marks cannot be obeyed turns the failure
into one that the program does not know.
-/

namespace ClientGen

/-! ### Complaints about markup -/

/-- A result that is no failure of the program's own. -/
def IsForeign {α : Type} (result : Except Fault α) : Prop := ∀ bad, result = .error bad → bad.kind.isOwn = false

namespace IsForeign

variable {α β : Type}

theorem of_ok (a : α) : IsForeign (.ok a : Except Fault α) := nofun

theorem of_error {bad : Fault} (foreign : bad.kind.isOwn = false) : IsForeign (.error bad : Except Fault α) := by
  rintro _ ⟨⟩
  exact foreign

theorem bind {first : Except Fault α} {next : α → Except Fault β} (foreign : IsForeign first)
    (rest : ∀ a, IsForeign (next a)) : IsForeign (first >>= next) := by
  cases first with
  | ok a => exact rest a
  | error bad => exact of_error (foreign bad rfl)

theorem mapM {step : α → Except Fault β} (foreign : ∀ a, IsForeign (step a)) (items : List α) :
    IsForeign (items.mapM step) := by
  induction items with
  | nil => exact of_ok []
  | cons a rest ih =>
    rw [List.mapM_cons]
    exact bind (foreign a) fun b => bind ih fun bs => of_ok (b :: bs)

end IsForeign

namespace Terminal.Style

theorem component_foreign (cs : List Char) : IsForeign (component cs) := by
  unfold component
  split
  · exact .of_ok _
  · exact .of_error rfl

theorem isColour_foreign (cs : List Char) : IsForeign (isColour cs) := by
  unfold isColour
  split
  · exact .of_ok _
  · split
    · exact .of_ok _
    · split
      · exact .bind (component_foreign _) fun _ => .of_ok _
      · exact .of_ok _
    · split
      · unfold areComponents
        split
        · exact .of_ok _
        · exact .bind (.mapM component_foreign _) fun _ => .of_ok _
      · exact .of_ok _
    · exact .of_ok _

theorem colour?_foreign (word : List Char) : IsForeign (colour? word) :=
  .bind (isColour_foreign _) fun _ => .of_ok _

/-- By the number of words, since some of them take the next one along. -/
theorem readWords_foreign (style : Style) (words : List (List Char)) : IsForeign (readWords style words) := by
  induction count : words.length using Nat.strong_induction_on generalizing style words with
  | _ n shorter =>
    cases words with
    | nil =>
      rw [readWords]
      exact .of_ok _
    | cons word rest =>
      subst count
      have two (next : List Char) (rest : List (List Char)) : rest.length < (word :: next :: rest).length :=
        Nat.lt_add_of_pos_right (Nat.succ_pos 1)
      rw [readWords.eq_def]
      dsimp only
      split
      · exact .of_ok _
      · refine .bind (colour?_foreign _) fun found => ?_
        cases found with
        | none => exact .of_ok _
        | some background => exact shorter _ (two _ _) _ _ rfl
      · exact .of_ok _
      · split
        · exact shorter _ (two _ _) _ _ rfl
        · exact .of_ok _
      · exact .of_ok _
      · exact shorter _ (two _ _) _ _ rfl
      · split
        · exact shorter _ (Nat.lt_succ_self _) _ _ rfl
        · refine .bind (colour?_foreign _) fun found => ?_
          cases found with
          | none => exact .of_ok _
          | some colour => exact shorter _ (Nat.lt_succ_self _) _ _ rfl

theorem normal_foreign (description : List Char) : IsForeign (normal description) := by
  unfold normal
  dsimp only
  split
  · exact .of_ok _
  · refine .bind (readWords_foreign _ _) fun style => ?_
    cases style <;> exact .of_ok _

end Terminal.Style

namespace Markup

theorem obey_foreign (styles : List String) (mark : List Char) : IsForeign (obey styles mark) := by
  unfold obey
  split
  · split
    · split
      · exact .of_error rfl
      · exact .of_ok _
    · refine .bind (Terminal.Style.normal_foreign _) fun style => ?_
      split
      · exact .of_ok _
      · exact .of_error rfl
  · exact .bind (Terminal.Style.normal_foreign _) fun _ => .of_ok _

theorem textOf_foreign (styles : List String) (parts : List Piece) : IsForeign (textOf styles parts) := by
  induction parts generalizing styles with
  | nil => exact .of_ok _
  | cons part rest ih =>
    cases part with
    | text cs => exact .bind (ih styles) fun _ => .of_ok _
    | mark name => exact .bind (obey_foreign styles name) ih

/-- A complaint about markup is no failure of the program's own. -/
theorem plain_foreign (message : String) : IsForeign (plain message) := textOf_foreign [] _

end Markup

/-! ### Commands -/

namespace Command

/-- How a command talks. -/
def Scene.output (scene : Scene) (manner : Manner) : Output :=
  Output.make scene.environment manner.isPlain manner.isQuiet manner.isVerbose

/-- How the work of a command ends that is asked for, before anything is said about it. -/
def attempt? (scene : Scene) (s : Session) (args : List String) : Option (Manner × Except Fault String × Session) :=
  match Request.ofArguments args with
  | .ok (.generate manner wishes) => some (manner, (generate scene (scene.output manner) wishes).run s)
  | .ok (.listPlugins manner paths) => some (manner, (listPlugins (scene.output manner) paths).run s)
  | _ => none

/-- A command line asks for a command, and its work fails with a failure of the program's own. -/
structure Fails (scene : Scene) (s : Session) (args : List String) (manner : Manner) (fault : Fault)
    (after : Session) : Prop where
  own : fault.kind.isOwn = true
  failed : attempt? scene s args = some (manner, .error fault, after)

/-- What is promised of a command that fails with a failure of the program's own. No crash log is written: all is
left as the work has left it. -/
structure Promised (scene : Scene) (s : Session) (args : List String) (fault : Fault) (after : Session) : Prop where
  exitCode : (run scene s args).1.exitCode = fault.exitCode
  noCrashLog : (run scene s args).2 = after
  message : ∃ before behind,
    (run scene s args).1.err = before ++ (Output.errorLabel ++ fault.message) ++ behind

variable {scene : Scene} {s : Session} {args : List String} {manner : Manner} {fault : Fault} {after : Session}

theorem reportCrash_disk (scene : Scene) (o : Output) (fault : Fault) (disk : Disk) :
    (reportCrash scene o fault disk).2 = (writeCrashLog scene fault disk).2 := by
  unfold reportCrash
  split
  · rename_i failed
    rw [failed]
  · rename_i written
    rw [written]
    split <;> rfl

private theorem Fails.executed (failing : Fails scene s args manner fault after) :
    ∃ task, run scene s args = execute scene manner task s ∧
      (task (scene.output manner)).run s = (.error fault, after) := by
  have failed := failing.failed
  unfold attempt? at failed
  split at failed
  · rename_i wishes asked
    obtain ⟨rfl, outcome⟩ := Prod.mk.inj (Option.some.inj failed)
    exact ⟨fun o => generate scene o wishes, by rw [run, asked]; rfl, outcome⟩
  · rename_i paths asked
    obtain ⟨rfl, outcome⟩ := Prod.mk.inj (Option.some.inj failed)
    exact ⟨fun o => listPlugins o paths, by rw [run, asked]; rfl, outcome⟩
  · cases failed

/-- A failure that can be shown decides how the command ends. -/
theorem Fails.run_of_shown (failing : Fails scene s args manner fault after) {text : String}
    (shown : (scene.output manner).error fault.message = .ok text) :
    run scene s args = (⟨fault.exitCode, String.join after.world.printed,
      (scene.output manner).log after.world.log ++ text⟩, after) := by
  obtain ⟨task, executed, failed⟩ := failing.executed
  rw [executed, execute, ← Scene.output, failed]
  dsimp only [ending]
  rw [failing.own, shown]
  rfl

/-- A failure that cannot be shown gives way to a crash. -/
theorem Fails.run_of_refused (failing : Fails scene s args manner fault after) {bad : Fault}
    (refused : (scene.output manner).error fault.message = .error bad) :
    run scene s args =
      let crash := reportCrash scene (scene.output manner) bad after.world.disk
      (⟨1, String.join after.world.printed, (scene.output manner).log after.world.log ++ crash.1⟩,
        { after with world := { after.world with disk := crash.2 } }) := by
  obtain ⟨task, executed, failed⟩ := failing.executed
  rw [executed, execute, ← Scene.output, failed]
  dsimp only [ending]
  rw [failing.own, refused]
  rfl

/-- A command that fails with a failure of the program's own keeps its promise where the talk shows the message as
it is. Where markup is obeyed, the exit code is still the one of the failure, and there is no crash log, but what
is shown is what markup makes of the message. Where it cannot be obeyed, the failure is lost: the exit code is
one, and a crash log is written about the complaint of markup, which the program does not know as its own. -/
theorem failure_reported (failing : Fails scene s args manner fault after) :
    let o := scene.output manner
    let shown := Markup.plain (Output.errorLabel ++ fault.message)
    (o.isPlain = true ∨ o.ShowsAsIs (Output.errorLabel ++ fault.message).toList →
      Promised scene s args fault after) ∧
    (∀ text, o.isPlain = false → shown = .ok text →
      (run scene s args).1.exitCode = fault.exitCode ∧ (run scene s args).2 = after ∧
        (run scene s args).1.err = o.log after.world.log ++ o.wrapped (Terminal.printable text)) ∧
    (∀ bad, o.isPlain = false → shown = .error bad →
      bad.kind.isOwn = false ∧ (run scene s args).1.exitCode = 1 ∧
        (run scene s args).1.err = o.log after.world.log ++ (reportCrash scene o bad after.world.disk).1 ∧
        (run scene s args).2.world.disk = (writeCrashLog scene bad after.world.disk).2) := by
  refine ⟨fun asIs => ?_, fun text marked shown => ?_, fun bad marked shown => ?_⟩
  · have ending := failing.run_of_shown (Output.error_eq asIs)
    constructor
    · rw [ending]
    · rw [ending]
    · exact ⟨_, "\n", by rw [ending, ← String.append_assoc]⟩
  · have spoken : (scene.output manner).error fault.message =
        .ok ((scene.output manner).wrapped (Terminal.printable text)) := by
      rw [Output.error_of_marked marked, shown]
      rfl
    rw [failing.run_of_shown spoken]
    exact ⟨rfl, rfl, rfl⟩
  · have refused : (scene.output manner).error fault.message = .error bad := by
      rw [Output.error_of_marked marked, shown]
      rfl
    rw [failing.run_of_refused refused, ← reportCrash_disk scene (scene.output manner)]
    exact ⟨Markup.plain_foreign _ bad shown, rfl, rfl, rfl⟩

/-- A command fails if its work is seen to fail. -/
theorem exists_fails (own : fault.kind.isOwn = true)
    (outcome : (attempt? scene s args).map (fun a => (a.1, a.2.1)) = some (manner, .error fault)) :
    ∃ after, Fails scene s args manner fault after := by
  obtain ⟨⟨_, _, after⟩, failed, same⟩ := Option.map_eq_some_iff.mp outcome
  obtain ⟨rfl, rfl⟩ := Prod.mk.inj same
  exact ⟨after, own, failed⟩

/-- The file that is missing has a mark in its name. -/
private theorem exists_fails_marked :
    ∃ after, Fails {} {} ["generate", "miss[/x].json"] {} (.load (.notFound "miss[/x].json")) after :=
  exists_fails rfl (by decide +kernel)

/-- A missing file is reported as promised; with a mark in its name, under another name; and with a mark that
switches off what is not on, not at all. -/
theorem failure_reported_missing_files :
    (∃ after, Fails {} {} ["generate", "miss.json"] {} (.load (.notFound "miss.json")) after ∧
      Promised {} {} ["generate", "miss.json"] (.load (.notFound "miss.json")) after) ∧
    ((run {} {} ["generate", "miss[x].json"]).1.exitCode = 7 ∧
      (run {} {} ["generate", "miss[x].json"]).1.err = "Error: Spec file not found: miss.json\n") ∧
    (run {} {} ["generate", "miss[/x].json"]).1.exitCode = 1 := by
  refine ⟨?_, ?_, ?_⟩
  · obtain ⟨after, failing⟩ :
        ∃ after, Fails {} {} ["generate", "miss.json"] {} (.load (.notFound "miss.json")) after :=
      exists_fails rfl (by decide +kernel)
    have asIs : (Scene.output {} {}).ShowsAsIs "Error: Spec file not found: miss.json".toList :=
      ⟨by decide +kernel, by decide +kernel, by decide +kernel⟩
    exact ⟨after, failing, (failure_reported failing).1 (.inr asIs)⟩
  · obtain ⟨after, failing⟩ :
        ∃ after, Fails {} {} ["generate", "miss[x].json"] {} (.load (.notFound "miss[x].json")) after :=
      exists_fails rfl (by decide +kernel)
    have eaten :=
      (failure_reported failing).2.1 "Error: Spec file not found: miss.json".toList rfl (by decide +kernel)
    exact ⟨eaten.1, by decide +kernel⟩
  · obtain ⟨after, failing⟩ := exists_fails_marked
    exact ((failure_reported failing).2.2 Markup.unopened rfl (by decide +kernel)).2.1

/-- Not every failure is reported as promised: a mark in the name of a missing file makes a crash of it. -/
theorem marks_break_promise :
    ¬ ∀ (scene : Scene) (s : Session) (args : List String) (manner : Manner) (fault : Fault) (after : Session),
      Fails scene s args manner fault after → Promised scene s args fault after := by
  intro promised
  obtain ⟨after, failing⟩ := exists_fails_marked
  have refused :
      (Scene.output {} {}).error (LoadFault.notFound "miss[/x].json").message = .error Markup.unopened := by
    decide +kernel
  have exitCode := (promised _ _ _ _ _ _ failing).exitCode
  rw [failing.run_of_refused refused] at exitCode
  exact absurd (show (1 : Int) = 7 from exitCode) (by decide)

end Command

end ClientGen
