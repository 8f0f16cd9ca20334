import TutorialKit.Proofs.Storage.Replacement

/-!
# What saving does to files

A tutorial is saved as a document or exported as a script.  Whatever fails on the way, and wherever
it is interrupted, its target is as it was or holds the whole text, and which of the two is told by
the result.  Other files are left alone, but for the temporary one: a file that happens to have its
name is lost.

A target may also lie on the way to itself, as `d` does for `d/../d`; then it is made a directory
before it can be found that it cannot be replaced.
-/

namespace TutorialKit

open Text

/-!
# The target

Whatever happens to the target happens at once, when the temporary file is renamed.
-/

/--
The target is as it was, unless it was not there and has become a directory on the way to itself;
what could be read from it is read.
-/
structure HoldsAsBefore (target : Path) (before later : Files) : Prop where
  held : later.held target = before.held target ∨
    before.held target = none ∧ later.held target = some .directory ∧
      before.whereabouts target ∈ before.wayTo target
  read : forall bytes, before.read target = .ok bytes -> later.read target = .ok bytes

structure HoldsWhole (target : Path) (bytes : Bytes) (later : Files) : Prop where
  held : later.held target = some (.file bytes)
  read : later.read target = .ok bytes

/-- At every stage the target is as it was or holds all of the bytes; the result tells which. -/
def AllOrNothing {α : Type} (fails : FileRequest -> Prop) (target : Path) (bytes : Bytes)
    (before : Files) (task : StorageTask α) (value : α) : Prop :=
  forall (later : Files) (rest : StorageTask α), Reaches fails before task later rest ->
    (HoldsAsBefore target before later ∨ HoldsWhole target bytes later) ∧
    (forall result, rest = .done (.ok result) ->
      result = value ∧ HoldsWhole target bytes later) ∧
    forall error, rest = .done (.error error) -> HoldsAsBefore target before later

/-!
# Other files

Other files are read as before, whatever their paths are.
-/

/--
In the end, nothing is disturbed but the target and the place of its temporary file, where nothing
is left unless it could not be completed or removed.
-/
def SparesOthers {α : Type} (fails : FileRequest -> Prop) (target : Path) (before : Files)
    (task : StorageTask α) : Prop :=
  forall later result, Reaches fails before task later (.done result) ->
    (forall location, location ≠ before.whereabouts target ->
      before.temporaryPlace? target ≠ some location -> Undisturbed target before later location) ∧
    forall name, target.name? = some name ->
      match result with
      | .ok _ => later.held (temporaryPath target name) = none
      | .error error => Cleaned fails target (temporaryPath target name) before later error

/-!
# Tasks that replace their target

Saving and exporting differ in their bytes and in the value that they return.
-/

/-- The task replaces the target by the bytes, with a value that is known beforehand. -/
def Replaces {α : Type} (fails : FileRequest -> Prop) (target : Path) (bytes : Bytes)
    (before : Files) (task : StorageTask α) (value : α) : Prop :=
  FileTask.Ensures fails (Underway target before)
    (StorageTask.Ends (fun result later => result = value ∧ Replaced target bytes before later)
      (GaveUp fails target before)) task before

section

variable {α : Type} {fails : FileRequest -> Prop} {target : Path} {bytes : Bytes} {before : Files}
variable {task : StorageTask α} {value : α}

theorem Underway.holdsAsBefore {later : Files} (h : Underway target before later)
    (hkeeps : Files.KeepsDirectories before later) : HoldsAsBefore target before later := by
  have htarget := h.elsewhere _ (Files.temporaryPlace?_ne_target target before)
  have hwhere : later.whereabouts target = before.whereabouts target :=
    Files.whereabouts_congr h.here_eq target
  refine ⟨?_, fun bytes hread => ?_⟩
  · rw [Files.held, Files.held, hwhere]
    exact htarget
  · rcases Files.read_ok hread with ⟨hnameable, hentry⟩
    apply Files.read_of_nameable (hnameable.of_keepsDirectories hkeeps)
    rcases htarget with heq | ⟨hnone, -⟩
    · rw [hwhere, heq, hentry]
    · rw [hnone] at hentry
      cases hentry

theorem Replaces.allOrNothing (h : Replaces fails target bytes before task value) :
    AllOrNothing fails target bytes before task value := by
  intro later rest hreach
  have hkeeps := hreach.keepsDirectories
  have hrest := FileTask.Ensures.of_reaches h hreach
  refine ⟨?_, ?_, ?_⟩
  · rcases hrest.always_or_finally with hunderway | ⟨result, hend⟩
    · exact Or.inl (hunderway.holdsAsBefore hkeeps)
    · cases result with
      | ok result =>
          have hreplaced : Replaced target bytes before later := hend.2
          exact Or.inr ⟨hreplaced.whole, hreplaced.read⟩
      | error error =>
          have hgaveUp : GaveUp fails target before error later := hend
          exact Or.inl (hgaveUp.holdsAsBefore hkeeps)
  · rintro result rfl
    have hend : result = value ∧ Replaced target bytes before later := hrest
    exact ⟨hend.1, hend.2.whole, hend.2.read⟩
  · rintro error rfl
    have hgaveUp : GaveUp fails target before error later := hrest
    exact hgaveUp.holdsAsBefore hkeeps

theorem Replaces.sparesOthers (h : Replaces fails target bytes before task value) :
    SparesOthers fails target before task := by
  intro later result hreach
  have hend := FileTask.Ensures.of_reaches h hreach
  cases result with
  | ok result =>
      have hreplaced : Replaced target bytes before later := hend.2
      refine ⟨hreplaced.elsewhere, fun name hname => ?_⟩
      rw [Files.held, Files.whereabouts_congr hreplaced.here_eq]
      apply hreplaced.temporary
      rw [Files.temporaryPlace?, hname, Option.map_some]
  | error error =>
      have hgaveUp : GaveUp fails target before error later := hend
      exact ⟨fun location _ => hgaveUp.elsewhere location, hgaveUp.cleaned⟩

end

theorem Tutorial.replaces_save (fails : FileRequest -> Prop) (target : Path) (tutorial : Tutorial)
    (before : Files) :
    Replaces fails target (Utf8.encodeText tutorial.toXml) before (tutorial.save target) () := by
  refine StorageTask.ensures_bind.mpr (StorageTask.ensures_log.mpr ?_)
  refine StorageTask.ensures_then (ensures_replaceFile fails target _ before) ?_
  intro _ later hlater
  exact StorageTask.ensures_log.mpr ⟨rfl, hlater⟩

theorem Tutorial.replaces_saveScript (fails : FileRequest -> Prop) (target : Path)
    (format : Script.Format) (tutorial : Tutorial) (before : Files) :
    Replaces fails target (Utf8.encodeText (format.render tutorial)) before
      (tutorial.saveScript format target) (format.render tutorial) := by
  refine StorageTask.ensures_bind.mpr ?_
  refine StorageTask.ensures_bind.mpr (StorageTask.ensures_log.mpr ?_)
  refine StorageTask.ensures_then (ensures_replaceFile fails target _ before) ?_
  intro _ later hlater
  refine StorageTask.ensures_bind.mpr (StorageTask.ensures_log.mpr ?_)
  exact ⟨rfl, hlater⟩

theorem Tutorial.saving_all_or_nothing (fails : FileRequest -> Prop) (target : Path)
    (format : Script.Format) (tutorial : Tutorial) (before : Files) :
    AllOrNothing fails target (Utf8.encodeText tutorial.toXml) before (tutorial.save target) () ∧
      AllOrNothing fails target (Utf8.encodeText (format.render tutorial)) before
        (tutorial.saveScript format target) (format.render tutorial) :=
  ⟨(tutorial.replaces_save fails target before).allOrNothing,
    (tutorial.replaces_saveScript fails target format before).allOrNothing⟩

/-- The device is full after three bytes: the temporary file has them, the target is as it was. -/
theorem Tutorial.save_cut_short_keeps_target :
    let before := (Files.empty []).put ["a.xml"] (.file [111, 108, 100])
    let full := SystemError.other 28 "No space left on device"
    exists later,
      Reaches (fun _ => True) before (({} : Tutorial).save ⟨"a.xml"⟩) later
        (.done (.error (.file "write" ⟨"a.xml.tmp"⟩ full))) ∧
      later.held ⟨"a.xml.tmp"⟩ = some (.file [60, 63, 120]) ∧
      HoldsAsBefore ⟨"a.xml"⟩ before later := by
  intro before full
  have hreach : Reaches (fun _ => True) before (({} : Tutorial).save ⟨"a.xml"⟩)
      ((before.put ["a.xml.tmp"] (.file [])).put ["a.xml.tmp"] (.file [60, 63, 120]))
      (.done (.error (.file "write" ⟨"a.xml.tmp"⟩ full))) :=
    .emit (.ask (.served (.create ⟨"a.xml.tmp"⟩))
      (.ask (.partly ⟨"a.xml.tmp"⟩ _ 3 full _ trivial rfl) (.here _ _)))
  refine ⟨_, hreach, by decide +kernel, ?_⟩
  exact ((Tutorial.saving_all_or_nothing _ _ .javascript {} before).1 _ _ hreach).2.2 _ rfl

/-- An error although the target is not as it was: it was not there, and is a directory. -/
theorem Tutorial.save_makes_directory_of_target :
    let before := Files.empty []
    let finished := FileTask.run before (({} : Tutorial).save ⟨"d/../d"⟩)
    finished.value = .error (.unfinished ⟨"d/../d.tmp"⟩ ⟨"d/../d"⟩ .isDirectory) ∧
      before.held ⟨"d/../d"⟩ = none ∧ finished.files.held ⟨"d/../d"⟩ = some .directory := by
  decide +kernel

theorem Tutorial.saving_spares_others (fails : FileRequest -> Prop) (target : Path)
    (format : Script.Format) (tutorial : Tutorial) (before : Files) :
    SparesOthers fails target before (tutorial.save target) ∧
      SparesOthers fails target before (tutorial.saveScript format target) :=
  ⟨(tutorial.replaces_save fails target before).sparesOthers,
    (tutorial.replaces_saveScript fails target format before).sparesOthers⟩

/-- A directory cannot be replaced: nothing is left of the attempt, other files are as they were. -/
theorem Tutorial.save_over_directory_leaves_nothing :
    let before := ((Files.empty []).put ["d"] .directory).put ["b"] (.file [98])
    let finished := FileTask.run before (({} : Tutorial).save ⟨"d"⟩)
    let error := StorageError.unfinished ⟨"d.tmp"⟩ ⟨"d"⟩ .isDirectory
    finished.value = .error error ∧
      Undisturbed ⟨"d"⟩ before finished.files ["b"] ∧
      Cleaned (fun _ => False) ⟨"d"⟩ ⟨"d.tmp"⟩ before finished.files error := by
  intro before finished error
  have hvalue : finished.value = .error error := by
    decide +kernel
  have hreach := FileTask.reaches_run (fun _ => False) (({} : Tutorial).save ⟨"d"⟩) before
  have hspared := (Tutorial.saving_spares_others _ ⟨"d"⟩ .javascript {} before).1 _ _ hreach
  have hcleaned := hspared.2 "d" (by decide +kernel)
  rw [show (FileTask.run before (({} : Tutorial).save ⟨"d"⟩)).value = .error error from hvalue]
    at hcleaned
  exact ⟨hvalue, hspared.1 ["b"] (by decide +kernel) (by decide +kernel), hcleaned⟩

/-- A file with the name of the temporary one is gone after a tutorial has been saved beside it. -/
theorem Tutorial.save_loses_file_with_temporary_name :
    let before := (Files.empty []).put ["a.xml.tmp"] (.file [107, 101, 101, 112])
    let finished := FileTask.run before (({} : Tutorial).save ⟨"a.xml"⟩)
    finished.value = .ok () ∧
      before.held ⟨"a.xml.tmp"⟩ = some (.file [107, 101, 101, 112]) ∧
      finished.files.held ⟨"a.xml.tmp"⟩ = none := by
  decide +kernel

end TutorialKit
