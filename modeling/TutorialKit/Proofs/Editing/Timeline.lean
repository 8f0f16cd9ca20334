import TutorialKit.Editing.History
import TutorialKit.Proofs.Editing.Reversal

/-!
# Histories as timelines

A history holds commands, each of which keeps half of what it exchanges.  A timeline holds whole
documents instead, and a place among them.  As long as a tutorial is changed through its history
alone, the history cannot be told from the timeline of the documents that it has led through.
-/

namespace TutorialKit

/-!
# Sessions

A session is a tutorial that is changed through its history alone.
-/

inductive HistoryRequest where
  | push (command : Command)
  | commit (label : String) (members : List Command)
  | undo
  | redo
  | setClean
  | clear

namespace HistoryRequest

def commands : HistoryRequest -> List Command
  | push command => [command]
  | commit _ members => members
  | _ => []

end HistoryRequest

structure Session where
  tutorial : LiveTutorial
  history : History := {}

namespace Session

def serve (session : Session) : HistoryRequest -> Edited
  | .push command => session.history.push command session.tutorial
  | .commit label members => session.history.commit label members session.tutorial
  | .undo => session.history.undo session.tutorial
  | .redo => session.history.redo session.tutorial
  | .setClean => ⟨session.tutorial, session.history.setClean, [], .ok true⟩
  | .clear => ⟨session.tutorial, session.history.clear, [], .ok true⟩

def after (session : Session) (request : HistoryRequest) : Session where
  tutorial := (session.serve request).tutorial
  history := (session.serve request).history

def run (session : Session) (requests : List HistoryRequest) : Session :=
  requests.foldl after session

end Session

/-!
# Timelines

A timeline keeps all documents that can be reached, and goes back and forth among them.
-/

/-- The documents before the present one begin with the latest, those after it with the next. -/
structure Timeline where
  past : List LiveTutorial := []
  present : LiveTutorial
  future : List LiveTutorial := []

namespace Timeline

def snapshots (timeline : Timeline) : List LiveTutorial :=
  timeline.past.reverse ++ timeline.present :: timeline.future

def cursor (timeline : Timeline) : Nat :=
  timeline.past.length

def extend (timeline : Timeline) (tutorial : LiveTutorial) : Timeline where
  past := timeline.present :: timeline.past
  present := tutorial

def apply (timeline : Timeline) (command : Command) : Timeline × Except Fault Bool :=
  let attempt := command.run .redo timeline.present
  match attempt.fault with
  | none => (timeline.extend attempt.tutorial, .ok true)
  | some fault => (timeline, .error fault)

def back (timeline : Timeline) : Timeline × Except Fault Bool :=
  match timeline.past with
  | [] => (timeline, .ok false)
  | previous :: past =>
      (⟨past, previous, timeline.present :: timeline.future⟩, .ok true)

def forward (timeline : Timeline) : Timeline × Except Fault Bool :=
  match timeline.future with
  | [] => (timeline, .ok false)
  | next :: future => (⟨timeline.present :: timeline.past, next, future⟩, .ok true)

def serve (timeline : Timeline) : HistoryRequest -> Timeline × Except Fault Bool
  | .push command => timeline.apply command
  | .commit label members =>
      match Command.finish? label members with
      | some command => timeline.apply command
      | none => (timeline, .ok false)
  | .undo => timeline.back
  | .redo => timeline.forward
  | .setClean => (timeline, .ok true)
  | .clear => ({ present := timeline.present }, .ok true)

def run (timeline : Timeline) (requests : List HistoryRequest) : Timeline :=
  requests.foldl (fun timeline request => (timeline.serve request).1) timeline

/-!
## Snapshots and cursor

Going back and forth leaves the snapshots as they are; a new document takes the place of those after
the cursor.
-/

theorem snapshots_extend (timeline : Timeline) (tutorial : LiveTutorial) :
    (timeline.extend tutorial).snapshots =
      timeline.snapshots.take (timeline.cursor + 1) ++ [tutorial] := by
  have htake : timeline.past.reverse.take (timeline.past.length + 1) = timeline.past.reverse := by
    apply List.take_of_length_le
    simp
  simp [snapshots, extend, cursor, List.take_append, htake]

theorem snapshots_back (timeline : Timeline) :
    timeline.back.1.snapshots = timeline.snapshots := by
  cases timeline with
  | mk past present future => cases past <;> simp [back, snapshots]

theorem snapshots_forward (timeline : Timeline) :
    timeline.forward.1.snapshots = timeline.snapshots := by
  cases timeline with
  | mk past present future => cases future <;> simp [forward, snapshots]

end Timeline

/-!
# The commands between snapshots

The invariant of a session: every command in the history leads back and forth between two
neighbouring snapshots, and what waits to be handed over is owned beside each of them.
-/

open Command

inductive Behind : LiveTutorial -> List LiveTutorial -> List Command -> Prop where
  | nil (tutorial : LiveTutorial) : Behind tutorial [] []
  | cons {tutorial previous : LiveTutorial} {undone applied : Command}
      {past : List LiveTutorial} {rest : List Command} :
      Swings undone applied previous tutorial -> Behind previous past rest ->
      Behind tutorial (previous :: past) (applied :: rest)

inductive Ahead : LiveTutorial -> List LiveTutorial -> List Command -> Prop where
  | nil (tutorial : LiveTutorial) : Ahead tutorial [] []
  | cons {tutorial next : LiveTutorial} {undone applied : Command}
      {future : List LiveTutorial} {rest : List Command} :
      Swings undone applied tutorial next -> Ahead next future rest ->
      Ahead tutorial (next :: future) (undone :: rest)

theorem Behind.length {tutorial : LiveTutorial} {past : List LiveTutorial}
    {applied : List Command} (h : Behind tutorial past applied) :
    applied.length = past.length := by
  induction h with
  | nil tutorial => rfl
  | cons hswings hbehind ih => simp [ih]

theorem Ahead.length {tutorial : LiveTutorial} {future : List LiveTutorial}
    {undone : List Command} (h : Ahead tutorial future undone) :
    undone.length = future.length := by
  induction h with
  | nil tutorial => rfl
  | cons hswings hahead ih => simp [ih]

/-- The session stands where the timeline does, and `pending` is still to be handed over. -/
structure Tracks (session : Session) (timeline : Timeline) (pending : List Command) : Prop where
  present : session.tutorial = timeline.present
  behind : Behind timeline.present timeline.past session.history.applied
  ahead : Ahead timeline.present timeline.future session.history.undone
  owned : forall snapshot, snapshot ∈ timeline.snapshots -> Owned snapshot pending

structure Shows (timeline : Timeline) (session : Session) : Prop where
  present : session.tutorial = timeline.present
  index : session.history.index = timeline.cursor
  length : session.history.length + 1 = timeline.snapshots.length

/-- A request is served alike by both; where it fails, nothing at all has changed. -/
structure ServesAlike (session : Session) (timeline : Timeline) (request : HistoryRequest) :
    Prop where
  answer : (session.serve request).answer = (timeline.serve request).2
  failure : forall fault, (session.serve request).answer = .error fault ->
    session.after request = session

namespace Tracks

variable {session : Session} {timeline : Timeline} {pending : List Command}

theorem shows (h : Tracks session timeline pending) : Shows timeline session where
  present := h.present
  index := h.behind.length
  length := by
    simp only [History.length, h.behind.length, h.ahead.length, Timeline.snapshots,
      List.length_append, List.length_reverse, List.length_cons]
    omega

theorem start {tutorial : LiveTutorial} (h : Owned tutorial pending) :
    Tracks ⟨tutorial, {}⟩ { present := tutorial } pending where
  present := rfl
  behind := .nil tutorial
  ahead := .nil tutorial
  owned := by
    intro snapshot hsnapshot
    rw [List.mem_singleton.mp hsnapshot]
    exact h

/-!
# One request

Each request leads the session and the timeline on alike.
-/

theorem push {command : Command} (h : Tracks session timeline (command :: pending)) :
    ServesAlike session timeline (.push command) ∧
      Tracks (session.after (.push command)) (timeline.serve (.push command)).1 pending := by
  have howned : Owned timeline.present (command :: pending) :=
    h.owned timeline.present (by simp [Timeline.snapshots])
  have hpending : forall snapshot, snapshot ∈ timeline.snapshots -> Owned snapshot pending :=
    fun snapshot hsnapshot => (h.owned snapshot hsnapshot).tail
  have hgives := gives_run .redo command timeline.present
  cases hfault : (command.run .redo timeline.present).fault with
  | none =>
      rw [hfault] at hgives
      rcases (reversible howned.head).swings hgives with ⟨undone, hswings⟩
      refine ⟨⟨?_, ?_⟩, ⟨?_, ?_, ?_, ?_⟩⟩
      · simp [Session.serve, History.push, Timeline.serve, Timeline.apply, h.present, hfault]
      · simp [Session.serve, History.push, h.present, hfault]
      · simp [Session.after, Session.serve, History.push, Timeline.serve, Timeline.apply,
          Timeline.extend, h.present, hfault]
      · simp only [Session.after, Session.serve, History.push, Timeline.serve, Timeline.apply,
          Timeline.extend, History.record, h.present, hfault]
        exact .cons hswings h.behind
      · simp only [Session.after, Session.serve, History.push, Timeline.serve, Timeline.apply,
          Timeline.extend, History.record, h.present, hfault]
        exact .nil _
      · intro snapshot hsnapshot
        simp only [Timeline.serve, Timeline.apply, hfault, Timeline.snapshots_extend] at hsnapshot
        rcases List.mem_append.mp hsnapshot with hsnapshot | hsnapshot
        · exact hpending snapshot (List.mem_of_mem_take hsnapshot)
        · rw [List.mem_singleton.mp hsnapshot]
          exact (howned.gives hgives).tail
  | some fault =>
      rw [hfault] at hgives
      have hatomic := (reversible howned.head).atomic hgives
      have hafter : session.after (.push command) = session := by
        simp only [Session.after, Session.serve, History.push, h.present, hfault, hatomic]
        rw [← h.present]
      refine ⟨⟨?_, fun _ _ => hafter⟩, ?_⟩
      · simp [Session.serve, History.push, Timeline.serve, Timeline.apply, h.present, hfault]
      · simp only [hafter, Timeline.serve, Timeline.apply, hfault]
        exact ⟨h.present, h.behind, h.ahead, hpending⟩

theorem owned_finish? {label : String} {members : List Command} {command : Command}
    {tutorial : LiveTutorial} (hfinish : finish? label members = some command)
    (h : Owned tutorial (members ++ pending)) : Owned tutorial (command :: pending) := by
  have hcommand : exists label, command = group label members := by
    cases members with
    | nil => cases hfinish
    | cons first rest =>
        cases rest with
        | nil => exact ⟨_, (Option.some.inj hfinish).symm⟩
        | cons second rest => exact ⟨_, (Option.some.inj hfinish).symm⟩
  rcases hcommand with ⟨label, rfl⟩
  refine ⟨?_, by simpa using h.unique⟩
  intro other hother
  rcases List.mem_cons.mp hother with rfl | hother
  · rw [keyed_group]
    exact fun member hmember => h.keyed member (List.mem_append_left pending hmember)
  · exact h.keyed other (List.mem_append_right members hother)

theorem commit {label : String} {members : List Command}
    (h : Tracks session timeline (members ++ pending)) :
    ServesAlike session timeline (.commit label members) ∧
      Tracks (session.after (.commit label members))
        (timeline.serve (.commit label members)).1 pending := by
  cases hfinish : finish? label members with
  | none =>
      have hmembers : members = [] := by
        cases members with
        | nil => rfl
        | cons first rest => cases rest <;> cases hfinish
      subst hmembers
      exact ⟨⟨rfl, fun fault hfault => by cases hfault⟩, h⟩
  | some command =>
      have htracked : Tracks session timeline (command :: pending) :=
        ⟨h.present, h.behind, h.ahead,
          fun snapshot hsnapshot => owned_finish? hfinish (h.owned snapshot hsnapshot)⟩
      have hsession : session.serve (.commit label members) = session.serve (.push command) := by
        simp only [Session.serve, History.commit, hfinish]
      have htimeline : timeline.serve (.commit label members) =
          timeline.serve (.push command) := by
        simp only [Timeline.serve, hfinish]
      rcases htracked.push with ⟨⟨hanswer, hfailure⟩, htracks⟩
      simp only [Session.after, ← hsession, ← htimeline] at hanswer hfailure htracks
      exact ⟨⟨hanswer, hfailure⟩, htracks⟩

theorem undo (h : Tracks session timeline pending) :
    ServesAlike session timeline .undo ∧
      Tracks (session.after .undo) (timeline.serve .undo).1 pending := by
  rcases session with ⟨tutorial, history⟩
  rcases timeline with ⟨past, present, future⟩
  rcases h with ⟨hpresent, hbehind, hahead, howned⟩
  simp only at hpresent hbehind hahead
  subst hpresent
  have hsnapshots := Timeline.snapshots_back ⟨past, tutorial, future⟩
  rcases history with ⟨applied, undone, mark⟩
  cases hbehind with
  | nil => exact ⟨⟨rfl, fun fault hfault => by cases hfault⟩, rfl, .nil _, hahead, howned⟩
  | cons hswings hrest =>
      rcases hswings.2.run with ⟨hfault, hcommand, htutorial⟩
      refine ⟨⟨?_, ?_⟩, ⟨?_, ?_, ?_, ?_⟩⟩
      · simp [Session.serve, History.undo, hfault, Timeline.serve, Timeline.back]
      · simp [Session.serve, History.undo, hfault]
      · simp [Session.after, Session.serve, History.undo, hfault, htutorial, Timeline.serve,
          Timeline.back]
      · simpa [Session.after, Session.serve, History.undo, hfault, Timeline.serve,
          Timeline.back] using hrest
      · simp only [Session.after, Session.serve, History.undo, hfault, hcommand, Timeline.serve,
          Timeline.back]
        exact .cons hswings hahead
      · intro snapshot hsnapshot
        rw [Timeline.serve, hsnapshots] at hsnapshot
        exact howned snapshot hsnapshot

theorem redo (h : Tracks session timeline pending) :
    ServesAlike session timeline .redo ∧
      Tracks (session.after .redo) (timeline.serve .redo).1 pending := by
  rcases session with ⟨tutorial, history⟩
  rcases timeline with ⟨past, present, future⟩
  rcases h with ⟨hpresent, hbehind, hahead, howned⟩
  simp only at hpresent hbehind hahead
  subst hpresent
  have hsnapshots := Timeline.snapshots_forward ⟨past, tutorial, future⟩
  rcases history with ⟨applied, undone, mark⟩
  cases hahead with
  | nil => exact ⟨⟨rfl, fun fault hfault => by cases hfault⟩, rfl, hbehind, .nil _, howned⟩
  | cons hswings hrest =>
      rcases hswings.1.run with ⟨hfault, hcommand, htutorial⟩
      refine ⟨⟨?_, ?_⟩, ⟨?_, ?_, ?_, ?_⟩⟩
      · simp [Session.serve, History.redo, hfault, Timeline.serve, Timeline.forward]
      · simp [Session.serve, History.redo, hfault]
      · simp [Session.after, Session.serve, History.redo, hfault, htutorial, Timeline.serve,
          Timeline.forward]
      · simp only [Session.after, Session.serve, History.redo, hfault, hcommand, Timeline.serve,
          Timeline.forward]
        exact .cons hswings hbehind
      · simpa [Session.after, Session.serve, History.redo, hfault, Timeline.serve,
          Timeline.forward] using hrest
      · intro snapshot hsnapshot
        rw [Timeline.serve, hsnapshots] at hsnapshot
        exact howned snapshot hsnapshot

theorem clear (h : Tracks session timeline pending) :
    ServesAlike session timeline .clear ∧
      Tracks (session.after .clear) (timeline.serve .clear).1 pending := by
  refine ⟨⟨rfl, fun fault hfault => by cases hfault⟩, h.present, .nil _, .nil _, ?_⟩
  intro snapshot hsnapshot
  rw [List.mem_singleton.mp hsnapshot]
  exact h.owned timeline.present (by simp [Timeline.snapshots])

theorem serve {request : HistoryRequest}
    (h : Tracks session timeline (request.commands ++ pending)) :
    ServesAlike session timeline request ∧
      Tracks (session.after request) (timeline.serve request).1 pending := by
  cases request with
  | push command => exact push h
  | commit label members => exact commit h
  | undo => exact undo h
  | redo => exact redo h
  | setClean =>
      exact ⟨⟨rfl, fun fault hfault => by cases hfault⟩, h.present, h.behind, h.ahead, h.owned⟩
  | clear => exact clear h

/-!
# Runs of requests

The invariant is carried along a run from one request to the next.
-/

theorem run {requests : List HistoryRequest}
    (h : Tracks session timeline (requests.flatMap HistoryRequest.commands ++ pending)) :
    Tracks (session.run requests) (timeline.run requests) pending := by
  induction requests generalizing session timeline with
  | nil => exact h
  | cons request rest ih =>
      rw [List.flatMap_cons, List.append_assoc] at h
      exact ih h.serve.2

end Tracks

namespace Timeline

/-!
# From end to end

Taking back everything and applying it again goes through all snapshots.
-/

theorem run_append (timeline : Timeline) (first rest : List HistoryRequest) :
    timeline.run (first ++ rest) = (timeline.run first).run rest := by
  rw [run, List.foldl_append]
  rfl

theorem run_undos (timeline : Timeline) :
    exists first rest, timeline.snapshots = first :: rest ∧
      timeline.run (List.replicate timeline.cursor .undo) = ⟨[], first, rest⟩ := by
  rcases timeline with ⟨past, present, future⟩
  induction past generalizing present future with
  | nil => exact ⟨present, future, rfl, rfl⟩
  | cons previous past ih =>
      rcases ih previous (present :: future) with ⟨first, rest, hsnapshots, hrun⟩
      refine ⟨first, rest, ?_, hrun⟩
      rw [← hsnapshots]
      simp [snapshots]

theorem run_redos (past : List LiveTutorial) (present : LiveTutorial)
    (future : List LiveTutorial) :
    some ((⟨past, present, future⟩ : Timeline).run
      (List.replicate future.length .redo)).present = (present :: future).getLast? := by
  induction future generalizing past present with
  | nil => rfl
  | cons next future ih =>
      rw [List.getLast?_cons_cons]
      exact ih (present :: past) next

theorem head?_snapshots_apply (timeline : Timeline) (command : Command) :
    (timeline.apply command).1.snapshots.head? = timeline.snapshots.head? := by
  cases hfault : (command.run .redo timeline.present).fault with
  | none => simp [apply, hfault, extend, snapshots]
  | some fault => simp only [apply, hfault]

theorem head?_snapshots_serve (timeline : Timeline) {request : HistoryRequest}
    (h : request ≠ .clear) :
    (timeline.serve request).1.snapshots.head? = timeline.snapshots.head? := by
  cases request with
  | push command => exact head?_snapshots_apply timeline command
  | commit label members =>
      cases hfinish : Command.finish? label members with
      | none => simp only [serve, hfinish]
      | some command =>
          simp only [serve, hfinish]
          exact head?_snapshots_apply timeline command
  | undo => rw [serve, snapshots_back]
  | redo => rw [serve, snapshots_forward]
  | setClean => rfl
  | clear => exact absurd rfl h

theorem head?_snapshots_run (timeline : Timeline) {requests : List HistoryRequest}
    (h : .clear ∉ requests) :
    (timeline.run requests).snapshots.head? = timeline.snapshots.head? := by
  induction requests generalizing timeline with
  | nil => rfl
  | cons request rest ih =>
      have hrequest : request ≠ .clear := fun heq => h (heq ▸ List.mem_cons_self)
      have hrest : HistoryRequest.clear ∉ rest :=
        fun hmem => h (List.mem_cons_of_mem request hmem)
      exact (ih (timeline.serve request).1 hrest).trans
        (head?_snapshots_serve timeline hrequest)

end Timeline

/-!
# Sessions and timelines

What is shown and answered is compared at every point of a run.
-/

/-- At every point of a run the timeline shows what the session does and answers alike. -/
def Follows : List HistoryRequest -> Session -> Timeline -> Prop
  | [], session, timeline => Shows timeline session
  | request :: rest, session, timeline =>
      Shows timeline session ∧ ServesAlike session timeline request ∧
        Follows rest (session.after request) (timeline.serve request).1

theorem Tracks.follows {session : Session} {timeline : Timeline}
    {requests : List HistoryRequest}
    (h : Tracks session timeline (requests.flatMap HistoryRequest.commands)) :
    Follows requests session timeline := by
  induction requests generalizing session timeline with
  | nil => exact h.shows
  | cons request rest ih =>
      rw [List.flatMap_cons] at h
      exact ⟨h.shows, h.serve.1, ih h.serve.2⟩

theorem flatMap_commands_replicate (n : Nat) {request : HistoryRequest}
    (h : request.commands = []) :
    (List.replicate n request).flatMap HistoryRequest.commands = [] := by
  rw [List.flatMap_eq_nil_iff]
  intro other hother
  rw [(List.mem_replicate.mp hother).2]
  exact h

theorem Tracks.end_to_end {session : Session} {timeline : Timeline}
    (h : Tracks session timeline []) :
    some (session.run (List.replicate session.history.index .undo)).tutorial =
        timeline.snapshots.head? ∧
      some (session.run (List.replicate session.history.index HistoryRequest.undo ++
        List.replicate session.history.length HistoryRequest.redo)).tutorial =
        timeline.snapshots.getLast? := by
  have hfree {requests : List HistoryRequest}
      (hrequests : requests.flatMap HistoryRequest.commands = []) :
      Tracks (session.run requests) (timeline.run requests) [] := by
    apply Tracks.run
    rw [hrequests]
    exact h
  have hundos := hfree (flatMap_commands_replicate session.history.index
    (show HistoryRequest.undo.commands = [] from rfl))
  have hredos : Tracks
      (session.run (List.replicate session.history.index HistoryRequest.undo ++
        List.replicate session.history.length HistoryRequest.redo))
      (timeline.run (List.replicate session.history.index HistoryRequest.undo ++
        List.replicate session.history.length HistoryRequest.redo)) [] := by
    apply hfree
    rw [List.flatMap_append, flatMap_commands_replicate _ rfl, flatMap_commands_replicate _ rfl]
    rfl
  rcases timeline.run_undos with ⟨first, rest, hsnapshots, hrun⟩
  have hlength : session.history.length = rest.length := by
    have hshows := h.shows.length
    rw [hsnapshots] at hshows
    simpa using hshows
  rw [hundos.present, hredos.present, Timeline.run_append, h.shows.index, hrun, hlength,
    Timeline.run_redos, hsnapshots]
  exact ⟨rfl, rfl⟩

/--
However a tutorial is changed through its history, with commands that own what they hold, the
history is a timeline: it shows the document at the cursor, answers as the timeline does, and a
failure changes nothing.  Everything can be taken back and applied again.
-/
theorem history_follows_timeline {tutorial : LiveTutorial} {requests : List HistoryRequest}
    (howned : Owned tutorial (requests.flatMap HistoryRequest.commands)) :
    Follows requests ⟨tutorial, {}⟩ { present := tutorial } ∧
      let reached := Session.run ⟨tutorial, {}⟩ requests
      let timeline := Timeline.run { present := tutorial } requests
      let undos := List.replicate reached.history.index HistoryRequest.undo
      let redos := List.replicate reached.history.length HistoryRequest.redo
      some (reached.run undos).tutorial = timeline.snapshots.head? ∧
        some (reached.run (undos ++ redos)).tutorial = timeline.snapshots.getLast? ∧
        (HistoryRequest.clear ∉ requests -> (reached.run undos).tutorial = tutorial) := by
  have htracks := Tracks.start howned
  have hreached : Tracks (Session.run ⟨tutorial, {}⟩ requests)
      (Timeline.run { present := tutorial } requests) [] :=
    Tracks.run (by rwa [List.append_nil])
  have hends := hreached.end_to_end
  refine ⟨htracks.follows, hends.1, hends.2, ?_⟩
  intro hclear
  have hfirst := Timeline.head?_snapshots_run { present := tutorial } hclear
  rw [← hends.1] at hfirst
  exact Option.some.inj hfirst

/-- Two steps are put in, one within a group that also takes the other out; a command for the step
that is gone fails, and only then is the group taken back. -/
theorem history_follows_timeline_through_failure :
    let tutorial : LiveTutorial := ⟨"t", "", "", "", "", []⟩
    let opening : LiveStep := ⟨⟨"s"⟩, "a", "", "", "", []⟩
    let closing : LiveStep := ⟨⟨"u"⟩, "b", "", "", "", []⟩
    let requests : List HistoryRequest :=
      [.push (.action (.addStep ⟨"s"⟩ none (some opening))),
        .commit "swap"
          [.action (.removeStep ⟨"s"⟩ 0 none),
            .action (.addStep ⟨"u"⟩ (some 0) (some closing))],
        .push (.group "" [.action (.setTutorial .name "n"), .action (.setStep ⟨"s"⟩ .id "c")]),
        .undo]
    Owned tutorial (requests.flatMap HistoryRequest.commands) ∧
      Follows requests ⟨tutorial, {}⟩ { present := tutorial } ∧
      let reached := Session.run ⟨tutorial, {}⟩ requests
      (reached.run (List.replicate reached.history.index .undo)).tutorial = tutorial := by
  intro tutorial opening closing requests
  have howned : Owned tutorial (requests.flatMap HistoryRequest.commands) := by
    refine ⟨?_, by decide⟩
    simp [requests, HistoryRequest.commands, Action.Keyed, opening, closing]
  have hfollows := history_follows_timeline howned
  exact ⟨howned, hfollows.1, hfollows.2.2.2 (by simp [requests])⟩

end TutorialKit
