import TutorialKit.Proofs.Storage.Failures

/-!
# Replacing a file as a whole

The bytes go to a temporary file that stands beside the target and is then renamed.  Until then
nothing has changed but the temporary file and, where directories were lacking on the way to the
target, those directories; the renaming puts all bytes in place at once.
-/

namespace TutorialKit

open Text

/-!
# Places

Directories may be lacking on the way to the target.  The temporary file stands beside it.
-/

namespace Files

/-- What there is where a path ends. -/
def held (path : Path) (files : Files) : Option Entry :=
  files.entry? (files.whereabouts path)

/-- The places that have to be directories before the target can be made. -/
def wayTo (target : Path) (files : Files) : List Location :=
  match target.parent? with
  | none => []
  | some parent => parent.ancestors.map fun path => files.whereabouts path

/-- The place of the temporary file, if the target ends in a name. -/
def temporaryPlace? (target : Path) (files : Files) : Option Location :=
  target.name?.map fun name => files.whereabouts (temporaryPath target name)

theorem temporaryPlace?_ne_target (target : Path) (files : Files) :
    files.temporaryPlace? target ≠ some (files.whereabouts target) := by
  rw [temporaryPlace?]
  cases hname : target.name? with
  | none => simp
  | some name =>
      rcases Path.whereabouts_withName hname with ⟨hold, parent, htarget, hwith⟩
      have htmp : Path.IsName (name ++ ".tmp") :=
        hold.append (by decide) (Path.whole_of_all (by decide))
      rw [Option.map_some, temporaryPath, hwith _ htmp, htarget]
      intro heq
      simp at heq

end Files

/-!
# What is left alone

What holds at every stage of a replacement, and what holds at its end.
-/

/-- What was there is there, unless a directory was lacking there on the way to the target. -/
def Undisturbed (target : Path) (before later : Files) (location : Location) : Prop :=
  later.entry? location = before.entry? location ∨
    before.entry? location = none ∧ later.entry? location = some .directory ∧
      location ∈ before.wayTo target

/-- Nothing is disturbed so far, except perhaps the place of the temporary file. -/
structure Underway (target : Path) (before later : Files) : Prop where
  here_eq : later.here = before.here
  elsewhere : forall location, before.temporaryPlace? target ≠ some location ->
    Undisturbed target before later location

/-- The target has the bytes, and there is no temporary file. -/
structure Replaced (target : Path) (bytes : Bytes) (before later : Files) : Prop where
  here_eq : later.here = before.here
  whole : later.held target = some (.file bytes)
  read : later.read target = .ok bytes
  temporary : forall location, before.temporaryPlace? target = some location ->
    later.entry? location = none
  elsewhere : forall location, location ≠ before.whereabouts target ->
    before.temporaryPlace? target ≠ some location -> Undisturbed target before later location

/--
What is at the place of the temporary file after an error.  If the renaming failed, nothing is left
there unless the removal failed too; nothing is said about files that could not be completed.
-/
def Cleaned (fails : FileRequest -> Prop) (target temporary : Path) (before later : Files)
    (error : StorageError) : Prop :=
  Undisturbed target before later (before.whereabouts temporary) ∨
    ((exists cause, error = .unfinished temporary target cause) ∧
      (later.entry? (before.whereabouts temporary) = none ∨ fails (.remove temporary))) ∨
    exists operation cause, (operation = "write" ∨ operation = "sync") ∧
      error = .file operation temporary cause

/-- The target is as it was. -/
structure GaveUp (fails : FileRequest -> Prop) (target : Path) (before : Files)
    (error : StorageError) (later : Files) : Prop extends Underway target before later where
  cleaned : forall name, target.name? = some name ->
    Cleaned fails target (temporaryPath target name) before later error

theorem Undisturbed.refl (target : Path) (files : Files) (location : Location) :
    Undisturbed target files files location :=
  Or.inl rfl

theorem Undisturbed.of_eq {target : Path} {before later changed : Files} {location : Location}
    (h : Undisturbed target before later location)
    (heq : changed.entry? location = later.entry? location) :
    Undisturbed target before changed location := by
  rw [Undisturbed, heq]
  exact h

/-!
# Making the directories

Directories are made above the one that is asked for where they are lacking, and then that one.
-/

theorem ensures_makeDirectories {ε : Type} {fails : FileRequest -> Prop} {kept : Files -> Prop}
    {paths : List Path}
    (hkept : forall path, path ∈ paths -> forall files changed, kept files ->
      files.makeDirectory path = .ok changed -> kept changed) :
    forall files, kept files ->
      (makeDirectories paths : FileTask ε _).Ensures fails kept (fun _ => kept) files := by
  induction paths with
  | nil =>
      intro files h
      exact h
  | cons path above ih =>
      rw [List.forall_mem_cons] at hkept
      have hmade : forall files changed answer, kept files ->
          Answers fails files (.makeDirectory path) changed answer -> kept changed := by
        intro files changed answer h hanswer
        exact Outcome.keeps hanswer.effect h fun changed => hkept.1 files changed h
      have hunless : forall error files, kept files ->
          (unlessDirectory path error : FileTask ε _).Ensures fails kept (fun _ => kept) files := by
        intro error files h
        refine FileTask.ensures_bind.mpr ⟨h, fun changed answer hanswer => ?_⟩
        have heffect : changed = files := hanswer.effect
        subst heffect
        cases answer <;> exact h
      intro files h
      rw [makeDirectories]
      split
      · exact h
      · refine FileTask.ensures_bind.mpr
          (FileTask.ensures_request.mpr ⟨h, fun changed answer hanswer => ?_⟩)
        have hchanged := hmade files changed answer h hanswer
        split
        · exact hchanged
        · refine FileTask.ensures_bind.mpr ((ih hkept.2 changed hchanged).mono (fun _ h => h) ?_)
          intro result later hlater
          split
          · exact hlater
          · refine FileTask.ensures_bind.mpr
              (FileTask.ensures_request.mpr ⟨hlater, fun changed answer hanswer => ?_⟩)
            have hchanged := hmade later changed answer hlater hanswer
            split
            · exact hchanged
            · exact hunless _ changed hchanged
        · exact hunless _ changed hchanged

/-- Directories may have been made on the way to the target, and nothing else has changed. -/
structure Prepared (target : Path) (before later : Files) : Prop where
  here_eq : later.here = before.here
  undisturbed : forall location, Undisturbed target before later location

theorem Prepared.underway {target : Path} {before later : Files}
    (h : Prepared target before later) : Underway target before later :=
  ⟨h.here_eq, fun location _ => h.undisturbed location⟩

theorem Prepared.makeDirectory {target parent path : Path} {before later changed : Files}
    (h : Prepared target before later) (hparent : target.parent? = some parent)
    (hpath : path ∈ parent.ancestors) (hmade : later.makeDirectory path = .ok changed) :
    Prepared target before changed := by
  rcases Files.makeDirectory_ok hmade with ⟨habsent, hsets⟩
  rw [Files.whereabouts_congr h.here_eq] at habsent hsets
  refine ⟨hsets.here_eq.trans h.here_eq, fun location => ?_⟩
  by_cases hlocation : location = before.whereabouts path
  · -- Nothing is there now, so nothing was there before: directories are all that has been added.
    have hbefore : before.entry? location = none := by
      rw [← hlocation] at habsent
      rcases h.undisturbed location with heq | ⟨hnone, -⟩
      · rw [← heq, habsent]
      · exact hnone
    refine Or.inr ⟨hbefore, by rw [hlocation, hsets.at_place], ?_⟩
    rw [Files.wayTo, hparent, hlocation]
    exact List.mem_map_of_mem hpath
  · exact (h.undisturbed location).of_eq (hsets.elsewhere hlocation)

theorem ensures_makeParent (fails : FileRequest -> Prop) (target : Path) (before : Files) :
    FileTask.Ensures fails (Prepared target before)
      (StorageTask.Ends (fun _ => Prepared target before) (fun _ => Prepared target before))
      (makeParent target) before := by
  have hbefore : Prepared target before before := ⟨rfl, Undisturbed.refl target before⟩
  rw [makeParent]
  cases hparent : target.parent? with
  | none => exact hbefore
  | some parent =>
      refine StorageTask.ensures_demand.mpr ((ensures_makeDirectories ?_ before hbefore).mono
        (fun _ h => h) ?_)
      · intro path hpath files changed h hmade
        exact h.makeDirectory hparent hpath hmade
      · intro answer later h
        cases answer <;> exact h

/-!
# Writing the temporary file and renaming it

Each request of the replacement takes the files from one of the states above to the next.
-/

section

variable {fails : FileRequest -> Prop} {target : Path} {name : String} {bytes : Bytes}
variable {before later : Files}

theorem Underway.sets (h : Underway target before later) (hname : target.name? = some name)
    {entry : Option Entry} {changed : Files}
    (hsets : Files.Sets (later.whereabouts (temporaryPath target name)) entry later changed) :
    Underway target before changed := by
  refine ⟨hsets.here_eq.trans h.here_eq, fun location hlocation => ?_⟩
  refine (h.elsewhere location hlocation).of_eq (hsets.elsewhere ?_)
  rw [Files.whereabouts_congr h.here_eq]
  intro heq
  rw [Files.temporaryPlace?, hname, heq] at hlocation
  exact hlocation rfl

structure Written (target temporary : Path) (bytes : Bytes) (before later : Files) : Prop
    extends Underway target before later where
  nameable : Files.Nameable temporary later
  written : later.held temporary = some (.file bytes)

/-- The renaming puts all bytes in place and leaves no temporary file. -/
theorem Written.replaced (hname : target.name? = some name)
    (h : Written target (temporaryPath target name) bytes before later) {changed : Files}
    (hrename : later.rename (temporaryPath target name) target = .ok changed) :
    Replaced target bytes before changed := by
  have hwritten := h.written
  rw [Files.held] at hwritten
  rcases Files.rename_ok hrename with ⟨hhere, -, -, moved, hmoved, hentries⟩
  rw [hwritten] at hmoved
  cases hmoved
  have hplace : before.temporaryPlace? target =
      some (later.whereabouts (temporaryPath target name)) := by
    rw [Files.temporaryPlace?, hname, Option.map_some, Files.whereabouts_congr h.here_eq]
  have htarget : later.whereabouts target = before.whereabouts target :=
    Files.whereabouts_congr h.here_eq target
  refine ⟨hhere.trans h.here_eq, ?_, Files.read_of_rename hrename hwritten, ?_, ?_⟩
  · rw [Files.held, Files.whereabouts_congr hhere, hentries, if_pos rfl]
  · intro location hlocation
    have hne := Files.temporaryPlace?_ne_target target before
    rw [hplace, Option.some.injEq] at hlocation
    rw [hplace] at hne
    rw [← hlocation, hentries, if_neg, if_pos rfl]
    intro heq
    rw [heq, htarget] at hne
    exact hne rfl
  · intro location hother htemporary
    refine (h.elsewhere location htemporary).of_eq ?_
    rw [hentries, if_neg, if_neg]
    · intro heq
      rw [hplace, heq] at htemporary
      exact htemporary rfl
    · rwa [htarget]

theorem GaveUp.of_cleaned (hname : target.name? = some name) (h : Underway target before later)
    {error : StorageError}
    (hcleaned : Cleaned fails target (temporaryPath target name) before later error) :
    GaveUp fails target before error later := by
  refine ⟨h, fun other hother => ?_⟩
  rw [hname] at hother
  cases hother
  exact hcleaned

theorem ensures_create (hname : target.name? = some name) (h : Prepared target before later) :
    FileTask.Ensures fails (Underway target before)
      (StorageTask.Ends (fun _ => Underway target before) (GaveUp fails target before))
      (StorageTask.demand (.file "create" (temporaryPath target name))
        (FileTask.request (.create (temporaryPath target name)))) later := by
  refine StorageTask.ensures_demand.mpr
    (FileTask.ensures_request.mpr ⟨h.underway, fun changed answer hanswer => ?_⟩)
  have heffect : Outcome _ _ _ _ _ := hanswer.effect
  cases heffect with
  | done changed served => exact h.underway.sets hname (Files.create_ok served).2.2
  | failed error reason => exact ⟨h.underway, fun name _ => Or.inl (h.undisturbed _)⟩

theorem ensures_write (hname : target.name? = some name) (h : Underway target before later) :
    FileTask.Ensures fails (Underway target before)
      (StorageTask.Ends (fun _ => Written target (temporaryPath target name) bytes before)
        (GaveUp fails target before))
      (StorageTask.demand (.file "write" (temporaryPath target name))
        (FileTask.request (.write (temporaryPath target name) bytes))) later := by
  refine StorageTask.ensures_demand.mpr
    (FileTask.ensures_request.mpr ⟨h, fun changed answer hanswer => ?_⟩)
  have hfailed : forall error changed, Underway target before changed ->
      GaveUp fails target before (.file "write" (temporaryPath target name) error) changed := by
    intro error changed hchanged
    exact .of_cleaned hname hchanged (Or.inr (Or.inr ⟨"write", error, Or.inl rfl, rfl⟩))
  have heffect : Outcome _ _ _ _ _ ∨ _ := hanswer.effect
  rcases heffect with houtcome | ⟨count, error, hpart, rfl⟩
  · cases houtcome with
    | done changed served =>
        rcases Files.write_ok served with ⟨hnameable, hfile, hsets⟩
        have hkeeps := hsets.keepsDirectories hfile
        refine ⟨h.sets hname hsets, hnameable.of_keepsDirectories hkeeps, ?_⟩
        rw [Files.held, Files.whereabouts_congr hsets.here_eq, hsets.at_place]
    | failed error reason => exact hfailed error later h
  · exact hfailed error changed (h.sets hname (Files.write_ok hpart).2.2)

theorem ensures_sync (hname : target.name? = some name)
    (h : Written target (temporaryPath target name) bytes before later) :
    FileTask.Ensures fails (Underway target before)
      (StorageTask.Ends (fun _ => Written target (temporaryPath target name) bytes before)
        (GaveUp fails target before))
      (StorageTask.demand (.file "sync" (temporaryPath target name))
        (FileTask.request (.sync (temporaryPath target name)))) later := by
  refine StorageTask.ensures_demand.mpr
    (FileTask.ensures_request.mpr ⟨h.toUnderway, fun changed answer hanswer => ?_⟩)
  have heffect : changed = later := hanswer.effect
  subst heffect
  cases answer with
  | ok done => exact h
  | error error =>
      exact .of_cleaned hname h.toUnderway (Or.inr (Or.inr ⟨"sync", error, Or.inr rfl, rfl⟩))

theorem ensures_finish (hname : target.name? = some name)
    (h : Written target (temporaryPath target name) bytes before later) :
    FileTask.Ensures fails (Underway target before)
      (StorageTask.Ends (fun _ => Replaced target bytes before) (GaveUp fails target before))
      (finish (temporaryPath target name) target) later := by
  rw [finish]
  refine StorageTask.ensures_bind.mpr (StorageTask.ensures_lift.mpr
    (FileTask.ensures_request.mpr ⟨h.toUnderway, fun changed answer hanswer => ?_⟩))
  have heffect : Outcome _ _ _ _ _ := hanswer.effect
  cases heffect with
  | done changed served => exact h.replaced hname served
  | failed error reason =>
      refine StorageTask.ensures_bind.mpr (StorageTask.ensures_lift.mpr
        (FileTask.ensures_request.mpr ⟨h.toUnderway, fun changed answer hanswer => ?_⟩))
      have heffect : Outcome _ _ _ _ _ := hanswer.effect
      cases heffect with
      | done changed served =>
          have hsets := (Files.remove_ok served).2
          refine .of_cleaned hname (h.toUnderway.sets hname hsets)
            (Or.inr (Or.inl ⟨⟨error, rfl⟩, Or.inl ?_⟩))
          rw [← Files.whereabouts_congr h.here_eq, hsets.at_place]
      | failed kept reason =>
          refine .of_cleaned hname h.toUnderway (Or.inr (Or.inl ⟨⟨error, rfl⟩, Or.inr ?_⟩))
          rcases reason with may | hremove
          · exact may
          · -- The file that was written is still there, so the files themselves do not refuse.
            rcases Files.remove_of_nameable h.nameable h.written with ⟨gone, hgone⟩
            rw [hgone] at hremove
            cases hremove

end

/-- What replacing a file comes to, whatever fails. -/
theorem ensures_replaceFile (fails : FileRequest -> Prop) (target : Path) (bytes : Bytes)
    (before : Files) :
    FileTask.Ensures fails (Underway target before)
      (StorageTask.Ends (fun _ => Replaced target bytes before) (GaveUp fails target before))
      (replaceFile target bytes) before := by
  rw [replaceFile]
  cases hname : target.name? with
  | none =>
      refine ⟨⟨rfl, fun location _ => Undisturbed.refl target before location⟩, fun name h => ?_⟩
      rw [hname] at h
      cases h
  | some name =>
      have hparent : FileTask.Ensures fails (Underway target before)
          (StorageTask.Ends (fun _ => Prepared target before) (GaveUp fails target before))
          (makeParent target) before := by
        refine (ensures_makeParent fails target before).mono (fun later h => h.underway) ?_
        intro result later h
        cases result with
        | ok done => exact h
        | error error => exact ⟨h.underway, fun name _ => Or.inl (h.undisturbed _)⟩
      refine StorageTask.ensures_then hparent fun _ prepared hprepared => ?_
      refine StorageTask.ensures_then (ensures_create hname hprepared) fun _ created hcreated => ?_
      refine StorageTask.ensures_then (ensures_write hname hcreated) fun _ written hwritten => ?_
      refine StorageTask.ensures_then (ensures_sync hname hwritten) fun _ synced hsynced => ?_
      refine StorageTask.ensures_then (ensures_finish hname hsynced) fun _ renamed hrenamed => ?_
      exact StorageTask.ensures_log.mpr hrenamed

end TutorialKit
