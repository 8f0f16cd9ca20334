import TutorialKit.Proofs.Storage.Changes
import TutorialKit.Storage.Keeping

/-!
# Requests that fail, tasks that are interrupted

Beside what the files themselves refuse, any request may fail: without effect, or, if it writes,
after part of the bytes.  A task that is interrupted leaves the files as they are at one of the
stages that it goes through; an interruption within a writing is one that fails there.

What a task ensures at all its stages and at its end is put together from what its requests can do.
-/

namespace TutorialKit

/-!
# One request

A request is answered as the files have it, or fails although they would have served it.
-/

namespace FileRequest

def refusal (error : SystemError) : (request : FileRequest) -> request.Answer
  | isDirectory _ => false
  | read _ => .error error
  | makeDirectory _ => .error error
  | create _ => .error error
  | write _ _ => .error error
  | sync _ => .error error
  | rename _ _ => .error error
  | remove _ => .error error
  | openLog _ => .error error
  | appendToLog _ => .error error

end FileRequest

/-- The files after a request and the answer to it, where `fails` says which requests may fail. -/
inductive Answers (fails : FileRequest -> Prop) (files : Files) :
    (request : FileRequest) -> Files -> request.Answer -> Prop where
  | served (request : FileRequest) :
      Answers fails files request (files.answer request).1 (files.answer request).2
  | refused (request : FileRequest) (error : SystemError) (may : fails request) :
      Answers fails files request files (request.refusal error)
  | partly (path : Path) (bytes : Text.Bytes) (count : Nat) (error : SystemError) (changed : Files)
      (may : fails (.write path bytes))
      (written : files.write path (bytes.take count) = .ok changed) :
      Answers fails files (.write path bytes) changed (.error error)

inductive Outcome (mayFail : Prop) (files : Files) (result : Except SystemError Files) :
    Files -> Except SystemError Unit -> Prop where
  | done (changed : Files) (served : result = .ok changed) :
      Outcome mayFail files result changed (.ok ())
  | failed (error : SystemError) (reason : mayFail ∨ result = .error error) :
      Outcome mayFail files result files (.error error)

theorem Outcome.keeps {mayFail : Prop} {files changed : Files} {result : Except SystemError Files}
    {answer : Except SystemError Unit} {kept : Files -> Prop}
    (h : Outcome mayFail files result changed answer) (hfiles : kept files)
    (hserved : forall changed, result = .ok changed -> kept changed) : kept changed := by
  cases h with
  | done changed served => exact hserved changed served
  | failed error reason => exact hfiles

theorem outcome_settle (mayFail : Prop) (files : Files) (result : Except SystemError Files) :
    Outcome mayFail files result (files.settle result).1 (files.settle result).2 := by
  cases result with
  | ok changed => exact .done changed rfl
  | error error => exact .failed error (Or.inr rfl)

/-- All that a request can do. -/
def Effect (fails : FileRequest -> Prop) (files : Files) :
    (request : FileRequest) -> Files -> request.Answer -> Prop
  | .makeDirectory path, changed, answer =>
      Outcome (fails (.makeDirectory path)) files (files.makeDirectory path) changed answer
  | .create path, changed, answer =>
      Outcome (fails (.create path)) files (files.create path) changed answer
  | .write path bytes, changed, answer =>
      Outcome (fails (.write path bytes)) files (files.write path bytes) changed answer ∨
        exists count error, files.write path (bytes.take count) = .ok changed ∧
          answer = .error error
  | .rename source target, changed, answer =>
      Outcome (fails (.rename source target)) files (files.rename source target) changed answer
  | .remove path, changed, answer =>
      Outcome (fails (.remove path)) files (files.remove path) changed answer
  | .openLog path, changed, answer =>
      Outcome (fails (.openLog path)) files (files.openLog path) changed answer
  | .appendToLog bytes, changed, _ => changed = files ∨ changed = files.appendToLog bytes
  | .isDirectory _, changed, _ => changed = files
  | .read _, changed, _ => changed = files
  | .sync _, changed, _ => changed = files

theorem Answers.effect {fails : FileRequest -> Prop} {files changed : Files}
    {request : FileRequest} {answer : request.Answer}
    (h : Answers fails files request changed answer) :
    Effect fails files request changed answer := by
  cases h with
  | served request =>
      cases request with
      | makeDirectory path => exact outcome_settle _ _ _
      | create path => exact outcome_settle _ _ _
      | write path bytes => exact Or.inl (outcome_settle _ _ _)
      | rename source target => exact outcome_settle _ _ _
      | remove path => exact outcome_settle _ _ _
      | openLog path => exact outcome_settle _ _ _
      | appendToLog bytes => exact Or.inr rfl
      | isDirectory path => rfl
      | read path => rfl
      | sync path => rfl
  | refused request error may =>
      cases request with
      | makeDirectory path => exact .failed error (Or.inl may)
      | create path => exact .failed error (Or.inl may)
      | write path bytes => exact Or.inl (.failed error (Or.inl may))
      | rename source target => exact .failed error (Or.inl may)
      | remove path => exact .failed error (Or.inl may)
      | openLog path => exact .failed error (Or.inl may)
      | appendToLog bytes => exact Or.inl rfl
      | isDirectory path => rfl
      | read path => rfl
      | sync path => rfl
  | partly path bytes count error changed may written =>
      exact Or.inr ⟨count, error, written, rfl⟩

theorem Answers.keepsDirectories {fails : FileRequest -> Prop} {files changed : Files}
    {request : FileRequest} {answer : request.Answer}
    (h : Answers fails files request changed answer) : Files.KeepsDirectories files changed := by
  have hsame := Files.KeepsDirectories.refl files
  have heffect := h.effect
  cases request with
  | makeDirectory path =>
      refine Outcome.keeps heffect hsame fun changed served => ?_
      rcases Files.makeDirectory_ok served with ⟨habsent, hsets⟩
      exact hsets.keepsDirectories (by simp [habsent])
  | create path =>
      refine Outcome.keeps heffect hsame fun changed served => ?_
      rcases Files.create_ok served with ⟨-, hfile, hsets⟩
      exact hsets.keepsDirectories hfile
  | write path bytes =>
      have hwrite : forall bytes changed, files.write path bytes = .ok changed ->
          Files.KeepsDirectories files changed := by
        intro bytes changed served
        rcases Files.write_ok served with ⟨-, hfile, hsets⟩
        exact hsets.keepsDirectories hfile
      rcases heffect with heffect | ⟨count, error, hpart, -⟩
      · exact heffect.keeps hsame (hwrite bytes)
      · exact hwrite _ changed hpart
  | rename source target =>
      exact Outcome.keeps heffect hsame fun changed served =>
        Files.keepsDirectories_of_rename served
  | remove path =>
      refine Outcome.keeps heffect hsame fun changed served => ?_
      rcases Files.remove_ok served with ⟨hfile, hsets⟩
      exact hsets.keepsDirectories hfile
  | openLog path =>
      exact Outcome.keeps heffect hsame fun changed served =>
        Files.keepsDirectories_of_openLog served
  | appendToLog bytes =>
      rcases heffect with rfl | rfl
      · exact hsame
      · exact Files.keepsDirectories_appendToLog bytes files
  | isDirectory path =>
      cases heffect
      exact hsame
  | read path =>
      cases heffect
      exact hsame
  | sync path =>
      cases heffect
      exact hsame

/-!
# The stages of a task

The stages are those at which a request has been made and not been answered yet, and the end.
-/

/-- The files at a stage of a task, and what is left of the task then. -/
inductive Reaches {ε α : Type} (fails : FileRequest -> Prop) :
    Files -> FileTask ε α -> Files -> FileTask ε α -> Prop where
  | here (files : Files) (task : FileTask ε α) : Reaches fails files task files task
  | emit {files later : Files} {event : ε} {next rest : FileTask ε α}
      (following : Reaches fails files next later rest) :
      Reaches fails files (.emit event next) later rest
  | ask {files changed later : Files} {request : FileRequest}
      {next : request.Answer -> FileTask ε α} {rest : FileTask ε α} {answer : request.Answer}
      (answered : Answers fails files request changed answer)
      (following : Reaches fails changed (next answer) later rest) :
      Reaches fails files (.ask request next) later rest

theorem Reaches.keepsDirectories {ε α : Type} {fails : FileRequest -> Prop}
    {files later : Files} {task rest : FileTask ε α} (h : Reaches fails files task later rest) :
    Files.KeepsDirectories files later := by
  induction h with
  | here files task => exact .refl files
  | emit following ih => exact ih
  | ask answered following ih => exact answered.keepsDirectories.trans ih

namespace FileTask

variable {ε α β : Type}

theorem reaches_run (fails : FileRequest -> Prop) (task : FileTask ε α) (files : Files) :
    Reaches fails files task (task.run files).files (.done (task.run files).value) := by
  induction task generalizing files with
  | done value => exact .here files _
  | emit event next ih => exact .emit (ih files)
  | ask request next ih => exact .ask (.served request) (ih _ _)

/-!
# What a task ensures

The property of the stages has to hold whenever a request is made, and so it holds wherever a task
stops.
-/

/--
Whenever the task makes a request, the files have a property, and the result and the files at the
end have another.
-/
def Ensures (fails : FileRequest -> Prop) (always : Files -> Prop) (finally_ : α -> Files -> Prop) :
    FileTask ε α -> Files -> Prop
  | done value, files => finally_ value files
  | emit _ next, files => Ensures fails always finally_ next files
  | ask request next, files =>
      always files ∧
        forall changed answer, Answers fails files request changed answer ->
          Ensures fails always finally_ (next answer) changed

section

variable {fails : FileRequest -> Prop} {always : Files -> Prop} {finally_ : α -> Files -> Prop}

theorem ensures_request {request : FileRequest} {finally_ : request.Answer -> Files -> Prop}
    {files : Files} :
    (FileTask.request request : FileTask ε _).Ensures fails always finally_ files ↔
      always files ∧ forall changed answer, Answers fails files request changed answer ->
        finally_ answer changed :=
  Iff.rfl

theorem ensures_bind {f : β -> FileTask ε α} {task : FileTask ε β} {files : Files} :
    (bind f task).Ensures fails always finally_ files ↔
      task.Ensures fails always (fun value => (f value).Ensures fails always finally_) files := by
  induction task generalizing files with
  | done value => rfl
  | emit event next ih => exact ih
  | ask request next ih => simp only [bind, Ensures, ih]

theorem Ensures.mono {weaker : Files -> Prop} {after : α -> Files -> Prop} {task : FileTask ε α}
    {files : Files} (h : task.Ensures fails always finally_ files)
    (halways : forall files, always files -> weaker files)
    (hfinally : forall value files, finally_ value files -> after value files) :
    task.Ensures fails weaker after files := by
  induction task generalizing files with
  | done value => exact hfinally value files h
  | emit event next ih => exact ih h
  | ask request next ih =>
      refine ⟨halways files h.1, fun changed answer hanswer => ?_⟩
      exact ih answer (h.2 changed answer hanswer)

theorem Ensures.always_or_finally {task : FileTask ε α} {files : Files}
    (h : task.Ensures fails always finally_ files) :
    always files ∨ exists value, finally_ value files := by
  induction task generalizing files with
  | done value => exact Or.inr ⟨value, h⟩
  | emit event next ih => exact ih h
  | ask request next ih => exact Or.inl h.1

/-- What a task ensures, what is left of it ensures at every stage. -/
theorem Ensures.of_reaches {task rest : FileTask ε α} {files later : Files}
    (h : task.Ensures fails always finally_ files) (hreach : Reaches fails files task later rest) :
    rest.Ensures fails always finally_ later := by
  induction hreach with
  | here files task => exact h
  | emit following ih => exact ih h
  | ask answered following ih => exact ih (h.2 _ _ answered)

end

end FileTask

/-!
# Storage tasks

A storage task ends with a value or an error, and each has a property of its own.
-/

namespace StorageTask

variable {α β : Type} {fails : FileRequest -> Prop} {always : Files -> Prop}

/-- The end of a storage task, with one property for values and one for errors. -/
def Ends (good : α -> Files -> Prop) (bad : StorageError -> Files -> Prop) :
    Except StorageError α -> Files -> Prop
  | .ok value => good value
  | .error error => bad error

variable {good : α -> Files -> Prop} {bad : StorageError -> Files -> Prop} {files : Files}

theorem ensures_bind {task : StorageTask β} {f : β -> StorageTask α} :
    FileTask.Ensures fails always (Ends good bad) (task >>= f : StorageTask α) files ↔
      FileTask.Ensures fails always
        (Ends (fun value => FileTask.Ensures fails always (Ends good bad) (f value)) bad)
        task files := by
  have hends : (fun result => FileTask.Ensures fails always (Ends good bad)
        (ExceptT.bindCont f result)) =
      Ends (fun value => FileTask.Ensures fails always (Ends good bad) (f value)) bad := by
    funext result
    cases result <;> rfl
  rw [← hends]
  exact FileTask.ensures_bind

theorem ensures_then {task : StorageTask β} {f : β -> StorageTask α} {mid : β -> Files -> Prop}
    (htask : FileTask.Ensures fails always (Ends mid bad) task files)
    (hthen : forall value later, mid value later ->
      FileTask.Ensures fails always (Ends good bad) (f value) later) :
    FileTask.Ensures fails always (Ends good bad) (task >>= f : StorageTask α) files := by
  refine ensures_bind.mpr (htask.mono (fun _ h => h) ?_)
  intro result later h
  cases result with
  | ok value => exact hthen value later h
  | error error => exact h

theorem ensures_demand {refused : SystemError -> StorageError}
    {task : FileTask Log.Event (Except SystemError α)} :
    FileTask.Ensures fails always (Ends good bad) (demand refused task) files ↔
      task.Ensures fails always (fun answer => Ends good bad (answer.mapError refused)) files :=
  FileTask.ensures_bind

theorem ensures_log {event : Log.Event} {good : Unit -> Files -> Prop} :
    FileTask.Ensures fails always (Ends good bad) (log event) files ↔ good () files :=
  Iff.rfl

theorem ensures_lift {task : FileTask Log.Event α} :
    FileTask.Ensures fails always (Ends good bad) (ExceptT.lift task : StorageTask α) files ↔
      task.Ensures fails always good files :=
  FileTask.ensures_bind

end StorageTask

end TutorialKit
