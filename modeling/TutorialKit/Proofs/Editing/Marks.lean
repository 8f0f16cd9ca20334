import Mathlib.Data.List.DropRight
import TutorialKit.Proofs.Editing.Timeline

/-!
# Marks

The mark of a history is a number.  It is compared with an index that moves both ways over a list of
commands, and that list is cut off and grown again.  A ledger tells the commands apart: each one
that is recorded gets a number of its own.  Whatever befalls a session, its history is clean exactly
when the entries applied now are those that were applied when it was last marked.
-/

namespace TutorialKit

/-!
# Ledgers

Requests are served on numbered entries just as they are on commands.
-/

structure HistoryEntry where
  number : Nat
  command : Command

/-- `applied` begins with the latest entry, `undone` with the next one; `recorded` counts the
entries that there have ever been. -/
structure Ledger where
  tutorial : LiveTutorial
  applied : List HistoryEntry := []
  undone : List HistoryEntry := []
  recorded : Nat := 0

/-- What befalls a session: a request to its history, or its tutorial is changed past it. -/
inductive SessionEvent where
  | request (request : HistoryRequest)
  | edit (tutorial : LiveTutorial)

namespace SessionEvent

def marks : SessionEvent -> Bool
  | .request .setClean => true
  | .request .clear => true
  | _ => false

/-- The events up to the latest one that marks; none, where only the creation did. -/
def untilMark (events : List SessionEvent) : List SessionEvent :=
  events.rdropWhile fun event => !event.marks

theorem untilMark_concat (events : List SessionEvent) (event : SessionEvent) :
    untilMark (events ++ [event]) =
      if event.marks then events ++ [event] else untilMark events := by
  cases hmarks : event.marks <;> simp [untilMark, hmarks]

end SessionEvent

namespace Session

def meet (session : Session) : SessionEvent -> Session
  | .request request => session.after request
  | .edit tutorial => { session with tutorial }

def live (session : Session) (events : List SessionEvent) : Session :=
  events.foldl meet session

theorem live_concat (session : Session) (events : List SessionEvent) (event : SessionEvent) :
    session.live (events ++ [event]) = (session.live events).meet event := by
  simp [live]

end Session

namespace Ledger

def push (command : Command) (ledger : Ledger) : Ledger :=
  let attempt := command.run .redo ledger.tutorial
  match attempt.fault with
  | none =>
      ⟨attempt.tutorial, ⟨ledger.recorded, attempt.command⟩ :: ledger.applied, [],
        ledger.recorded + 1⟩
  | some _ => { ledger with tutorial := attempt.tutorial }

def undo (ledger : Ledger) : Ledger :=
  match ledger.applied with
  | [] => ledger
  | entry :: rest =>
      let attempt := entry.command.run .undo ledger.tutorial
      let kept : HistoryEntry := ⟨entry.number, attempt.command⟩
      match attempt.fault with
      | none =>
          { ledger with
            tutorial := attempt.tutorial, applied := rest, undone := kept :: ledger.undone }
      | some _ => { ledger with tutorial := attempt.tutorial, applied := kept :: rest }

def redo (ledger : Ledger) : Ledger :=
  match ledger.undone with
  | [] => ledger
  | entry :: rest =>
      let attempt := entry.command.run .redo ledger.tutorial
      let kept : HistoryEntry := ⟨entry.number, attempt.command⟩
      match attempt.fault with
      | none =>
          { ledger with
            tutorial := attempt.tutorial, applied := kept :: ledger.applied, undone := rest }
      | some _ => { ledger with tutorial := attempt.tutorial, undone := kept :: rest }

def serve (ledger : Ledger) : HistoryRequest -> Ledger
  | .push command => ledger.push command
  | .commit label members =>
      match Command.finish? label members with
      | some command => ledger.push command
      | none => ledger
  | .undo => ledger.undo
  | .redo => ledger.redo
  | .setClean => ledger
  | .clear => { ledger with applied := [], undone := [] }

def meet (ledger : Ledger) : SessionEvent -> Ledger
  | .request request => ledger.serve request
  | .edit tutorial => { ledger with tutorial }

def live (ledger : Ledger) (events : List SessionEvent) : Ledger :=
  events.foldl meet ledger

theorem live_concat (ledger : Ledger) (events : List SessionEvent) (event : SessionEvent) :
    ledger.live (events ++ [event]) = (ledger.live events).meet event := by
  simp [live]

def numbers (ledger : Ledger) : List Nat :=
  ledger.applied.map HistoryEntry.number

def line (ledger : Ledger) : List Nat :=
  ledger.numbers.reverse ++ ledger.undone.map HistoryEntry.number

theorem length_numbers (ledger : Ledger) : ledger.numbers.length = ledger.applied.length := by
  simp [numbers]

theorem take_line (ledger : Ledger) :
    ledger.line.take ledger.applied.length = ledger.numbers.reverse := by
  simp [line, ← length_numbers]

theorem length_le_line (ledger : Ledger) : ledger.applied.length <= ledger.line.length := by
  simp [line, ← length_numbers]

/-- The session holds the tutorial and the commands of the ledger. -/
structure Describes (ledger : Ledger) (session : Session) : Prop where
  tutorial : session.tutorial = ledger.tutorial
  applied : session.history.applied = ledger.applied.map HistoryEntry.command
  undone : session.history.undone = ledger.undone.map HistoryEntry.command

theorem Describes.index_eq {ledger : Ledger} {session : Session} (h : ledger.Describes session) :
    session.history.index = ledger.applied.length := by
  simp [History.index, h.applied]

/-!
# One event

An event leaves the line of entries as it is, records one more behind those that are applied, or
marks; it does nothing else to the numbers, whatever its commands do to the tutorial.
-/

inductive Turn (ledger next : Ledger) (mark : Option Nat) : Option Nat -> Bool -> Prop where
  | stay : next.line = ledger.line -> next.recorded = ledger.recorded ->
      Turn ledger next mark mark false
  | record : next.line = ledger.numbers.reverse ++ [ledger.recorded] ->
      next.recorded = ledger.recorded + 1 ->
      Turn ledger next mark (History.markWithin ledger.applied.length mark) false
  | mark : next.line = ledger.line ∨ next.line = [] -> next.recorded = ledger.recorded ->
      Turn ledger next mark (some next.applied.length) true

theorem Turn.eq_none {ledger next : Ledger} {mark : Option Nat}
    (h : Turn ledger next none mark false) : mark = none := by
  cases h with
  | stay hline hrecorded => rfl
  | record hline hrecorded => rfl

structure Meets (ledger : Ledger) (session : Session) (event : SessionEvent) : Prop where
  describes : (ledger.meet event).Describes (session.meet event)
  turn : Turn ledger (ledger.meet event) session.history.mark
    (session.meet event).history.mark event.marks

theorem Meets.of_eq {ledger nextLedger : Ledger} {session next : Session} {event : SessionEvent}
    (hsession : session.meet event = next) (hledger : ledger.meet event = nextLedger)
    (hdescribes : nextLedger.Describes next)
    (hturn : Turn ledger nextLedger session.history.mark next.history.mark event.marks) :
    ledger.Meets session event where
  describes := by rwa [hsession, hledger]
  turn := by rwa [hsession, hledger]

namespace Describes

variable {ledger : Ledger} {session : Session}

theorem push (h : ledger.Describes session) (command : Command) :
    ledger.Meets session (.request (.push command)) := by
  cases hfault : (command.run .redo ledger.tutorial).fault with
  | none =>
      apply Meets.of_eq
      · simp only [Session.meet, Session.after, Session.serve, History.push, h.tutorial, hfault]
        rfl
      · simp only [Ledger.meet, Ledger.serve, Ledger.push, hfault]
        rfl
      · exact ⟨rfl, by simp [History.record, h.applied], by simp [History.record]⟩
      · simp only [History.record, h.index_eq]
        exact .record (by simp [line, numbers]) rfl
  | some fault =>
      apply Meets.of_eq
      · simp only [Session.meet, Session.after, Session.serve, History.push, h.tutorial, hfault]
        rfl
      · simp only [Ledger.meet, Ledger.serve, Ledger.push, hfault]
        rfl
      · exact ⟨rfl, h.applied, h.undone⟩
      · exact .stay rfl rfl

theorem commit (h : ledger.Describes session) (label : String) (members : List Command) :
    ledger.Meets session (.request (.commit label members)) := by
  cases hfinish : Command.finish? label members with
  | none =>
      apply Meets.of_eq
      · simp only [Session.meet, Session.after, Session.serve, History.commit, hfinish]
        rfl
      · simp only [Ledger.meet, Ledger.serve, hfinish]
        rfl
      · exact h
      · exact .stay rfl rfl
  | some command =>
      apply Meets.of_eq
      · simp only [Session.meet, Session.after, Session.serve, History.commit, hfinish]
        rfl
      · simp only [Ledger.meet, Ledger.serve, hfinish]
        rfl
      · exact (h.push command).describes
      · exact (h.push command).turn

theorem undo (h : ledger.Describes session) : ledger.Meets session (.request .undo) := by
  cases happlied : ledger.applied with
  | nil =>
      have hnone : session.history.applied = [] := by rw [h.applied, happlied, List.map_nil]
      apply Meets.of_eq
      · simp only [Session.meet, Session.after, Session.serve, History.undo, hnone]
        rfl
      · simp only [Ledger.meet, Ledger.serve, Ledger.undo, happlied]
        rfl
      · exact h
      · exact .stay rfl rfl
  | cons entry rest =>
      have hlatest : session.history.applied = entry.command :: rest.map HistoryEntry.command := by
        rw [h.applied, happlied, List.map_cons]
      cases hfault : (entry.command.run .undo ledger.tutorial).fault with
      | none =>
          apply Meets.of_eq
          · simp only [Session.meet, Session.after, Session.serve, History.undo, hlatest,
              h.tutorial, hfault]
            rfl
          · simp only [Ledger.meet, Ledger.serve, Ledger.undo, happlied, hfault]
            rfl
          · exact ⟨rfl, rfl, by simp [h.undone]⟩
          · exact .stay (by simp [line, numbers, happlied]) rfl
      | some fault =>
          apply Meets.of_eq
          · simp only [Session.meet, Session.after, Session.serve, History.undo, hlatest,
              h.tutorial, hfault]
            rfl
          · simp only [Ledger.meet, Ledger.serve, Ledger.undo, happlied, hfault]
            rfl
          · exact ⟨rfl, rfl, h.undone⟩
          · exact .stay (by simp [line, numbers, happlied]) rfl

theorem redo (h : ledger.Describes session) : ledger.Meets session (.request .redo) := by
  cases hundone : ledger.undone with
  | nil =>
      have hnone : session.history.undone = [] := by rw [h.undone, hundone, List.map_nil]
      apply Meets.of_eq
      · simp only [Session.meet, Session.after, Session.serve, History.redo, hnone]
        rfl
      · simp only [Ledger.meet, Ledger.serve, Ledger.redo, hundone]
        rfl
      · exact h
      · exact .stay rfl rfl
  | cons entry rest =>
      have hnext : session.history.undone = entry.command :: rest.map HistoryEntry.command := by
        rw [h.undone, hundone, List.map_cons]
      cases hfault : (entry.command.run .redo ledger.tutorial).fault with
      | none =>
          apply Meets.of_eq
          · simp only [Session.meet, Session.after, Session.serve, History.redo, hnext,
              h.tutorial, hfault]
            rfl
          · simp only [Ledger.meet, Ledger.serve, Ledger.redo, hundone, hfault]
            rfl
          · exact ⟨rfl, by simp [h.applied], rfl⟩
          · exact .stay (by simp [line, numbers, hundone]) rfl
      | some fault =>
          apply Meets.of_eq
          · simp only [Session.meet, Session.after, Session.serve, History.redo, hnext,
              h.tutorial, hfault]
            rfl
          · simp only [Ledger.meet, Ledger.serve, Ledger.redo, hundone, hfault]
            rfl
          · exact ⟨rfl, h.applied, rfl⟩
          · exact .stay (by simp [line, numbers, hundone]) rfl

theorem meets (h : ledger.Describes session) (event : SessionEvent) :
    ledger.Meets session event := by
  cases event with
  | edit tutorial => exact ⟨⟨rfl, h.applied, h.undone⟩, .stay rfl rfl⟩
  | request request =>
      cases request with
      | push command => exact h.push command
      | commit label members => exact h.commit label members
      | undo => exact h.undo
      | redo => exact h.redo
      | setClean =>
          refine ⟨⟨h.tutorial, h.applied, h.undone⟩, ?_⟩
          simp only [Session.meet, Session.after, Session.serve, History.setClean, h.index_eq]
          exact .mark (.inl rfl) rfl
      | clear => exact ⟨⟨h.tutorial, rfl, rfl⟩, .mark (.inr rfl) rfl⟩

end Describes

/-!
# Where the mark stands

The invariant: as long as there is a mark, the entries before it are the marked ones; and when it
is lost, one of the marked entries has left the line, into which no old number comes back.
-/

/-- The numbers in `marked` are those of the entries that were applied at the latest mark. -/
structure Keeps (ledger : Ledger) (mark : Option Nat) (marked : List Nat) : Prop where
  distinct : ledger.line.Nodup
  recorded : forall number, number ∈ ledger.line -> number < ledger.recorded
  placed : forall place, mark = some place ->
    place <= ledger.line.length ∧ marked.reverse = ledger.line.take place
  lost : mark = none -> exists number, number ∈ marked ∧ number < ledger.recorded ∧
    number ∉ ledger.line

namespace Keeps

variable {ledger next : Ledger} {mark mark' : Option Nat} {marked : List Nat}

theorem marked_now (ledger : Ledger) (hdistinct : ledger.line.Nodup)
    (hrecorded : forall number, number ∈ ledger.line -> number < ledger.recorded) :
    Keeps ledger (some ledger.applied.length) ledger.numbers where
  distinct := hdistinct
  recorded := hrecorded
  placed := by
    intro place hplace
    cases hplace
    exact ⟨ledger.length_le_line, ledger.take_line.symm⟩
  lost := by simp

theorem old_of_applied {number : Nat} (h : Keeps ledger mark marked)
    (hnumber : number ∈ ledger.numbers.reverse) : number < ledger.recorded :=
  h.recorded number (List.mem_append.mpr (.inl hnumber))

theorem placed_record {place : Nat} (h : Keeps ledger mark marked)
    (hline : next.line = ledger.numbers.reverse ++ [ledger.recorded])
    (hplace : History.markWithin ledger.applied.length mark = some place) :
    place <= next.line.length ∧ marked.reverse = next.line.take place := by
  rcases Option.filter_eq_some_iff.mp hplace with ⟨hmark, hwithin⟩
  rw [decide_eq_true_eq, ← length_numbers, ← List.length_reverse] at hwithin
  have hmarked := (h.placed place hmark).2
  rw [line, List.take_append_of_le_length hwithin] at hmarked
  rw [hline, List.take_append_of_le_length hwithin, List.length_append]
  exact ⟨Nat.le_add_right_of_le hwithin, hmarked⟩

theorem lost_record (h : Keeps ledger mark marked)
    (hline : next.line = ledger.numbers.reverse ++ [ledger.recorded])
    (hplace : History.markWithin ledger.applied.length mark = none) :
    exists number, number ∈ marked ∧ number < ledger.recorded ∧ number ∉ next.line := by
  have hgone : forall number, number < ledger.recorded -> number ∉ ledger.numbers.reverse ->
      number ∉ next.line := by
    intro number hold hnumber hnext
    rw [hline, List.mem_append, List.mem_singleton] at hnext
    rcases hnext with hnext | hnext
    · exact hnumber hnext
    · omega
  cases hmark : mark with
  | none =>
      rcases h.lost hmark with ⟨number, hmarked, hold, hnumber⟩
      exact ⟨number, hmarked, hold, hgone number hold
        fun happlied => hnumber (List.mem_append.mpr (.inl happlied))⟩
  | some place =>
      have hbeyond : ledger.numbers.reverse.length < place := by
        simpa [History.markWithin, hmark, ← length_numbers] using hplace
      rcases h.placed place hmark with ⟨hreached, hmarked⟩
      cases hundone : ledger.undone.map HistoryEntry.number with
      | nil =>
          rw [line, hundone, List.append_nil] at hreached
          omega
      | cons number rest =>
          have hsplit : ledger.line = ledger.numbers.reverse ++ number :: rest := by
            rw [line, hundone]
          have hdistinct := h.distinct
          rw [hsplit, List.nodup_append] at hdistinct
          have hold : number < ledger.recorded := h.recorded number (by simp [hsplit])
          refine ⟨number, ?_, hold, hgone number hold ?_⟩
          · rw [← List.mem_reverse, hmarked, hsplit, List.take_append]
            apply List.mem_append_right
            rw [show place - ledger.numbers.reverse.length =
              place - ledger.numbers.reverse.length - 1 + 1 by omega, List.take_succ_cons]
            exact List.mem_cons_self
          · intro happlied
            exact hdistinct.2.2 number happlied number List.mem_cons_self rfl

theorem record (h : Keeps ledger mark marked)
    (hline : next.line = ledger.numbers.reverse ++ [ledger.recorded])
    (hrecorded : next.recorded = ledger.recorded + 1) :
    Keeps next (History.markWithin ledger.applied.length mark) marked where
  distinct := by
    have happlied : ledger.numbers.reverse.Nodup := (List.nodup_append.mp h.distinct).1
    rw [hline, List.nodup_append]
    refine ⟨happlied, List.pairwise_singleton _ _, ?_⟩
    intro number hnumber other hother
    have hold := h.old_of_applied hnumber
    rw [List.mem_singleton.mp hother]
    exact Nat.ne_of_lt hold
  recorded := by
    intro number hnumber
    rw [hline, List.mem_append, List.mem_singleton] at hnumber
    rw [hrecorded]
    rcases hnumber with hnumber | hnumber
    · exact Nat.lt_succ_of_lt (h.old_of_applied hnumber)
    · omega
  placed := fun _ hplace => h.placed_record hline hplace
  lost := by
    intro hplace
    rcases h.lost_record hline hplace with ⟨number, hmarked, hold, hgone⟩
    exact ⟨number, hmarked, by omega, hgone⟩

theorem turn {marks : Bool} (h : Keeps ledger mark marked)
    (hturn : Turn ledger next mark mark' marks) :
    Keeps next mark' (if marks then next.numbers else marked) := by
  cases hturn with
  | stay hline hrecorded =>
      refine ⟨?_, ?_, ?_, ?_⟩
      · rw [hline]
        exact h.distinct
      · rw [hline, hrecorded]
        exact h.recorded
      · rw [hline]
        exact h.placed
      · rw [hline, hrecorded]
        exact h.lost
  | record hline hrecorded => exact h.record hline hrecorded
  | mark hline hrecorded =>
      apply marked_now next
      · rcases hline with hline | hline
        · rw [hline]
          exact h.distinct
        · rw [hline]
          exact List.nodup_nil
      · intro number hnumber
        rw [hrecorded]
        rcases hline with hline | hline
        · exact h.recorded number (hline ▸ hnumber)
        · simp [hline] at hnumber

theorem mark_eq_iff (h : Keeps ledger mark marked) :
    mark = some ledger.applied.length <-> ledger.numbers = marked := by
  constructor
  · intro hmark
    have hmarked := (h.placed _ hmark).2
    rw [take_line] at hmarked
    exact (List.reverse_injective hmarked).symm
  · intro hnumbers
    cases hmark : mark with
    | none =>
        rcases h.lost hmark with ⟨number, hmarked, hold, hgone⟩
        rw [← hnumbers] at hmarked
        exact absurd (List.mem_append_left _ (List.mem_reverse.mpr hmarked)) hgone
    | some place =>
        rcases h.placed place hmark with ⟨hreached, hmarked⟩
        have hlength := congrArg List.length hmarked
        rw [← hnumbers, List.length_reverse, length_numbers, List.length_take,
          Nat.min_eq_left hreached] at hlength
        rw [hlength]

theorem mark_eq_none {number : Nat} (h : Keeps ledger mark marked) (hmarked : number ∈ marked)
    (hgone : number ∉ ledger.line) : mark = none := by
  cases hmark : mark with
  | none => rfl
  | some place =>
      have hplaced := (h.placed place hmark).2
      rw [← List.mem_reverse, hplaced] at hmarked
      exact absurd (List.mem_of_mem_take hmarked) hgone

end Keeps

/-!
# Whole runs

The induction is on the events: each takes one of the turns, and every turn keeps what is said of
the mark.
-/

structure Runs (tutorial : LiveTutorial) (events : List SessionEvent) : Prop where
  describes : (live { tutorial } events).Describes (Session.live ⟨tutorial, {}⟩ events)
  keeps : Keeps (live { tutorial } events) (Session.live ⟨tutorial, {}⟩ events).history.mark
    (live { tutorial } (SessionEvent.untilMark events)).numbers

theorem runs (tutorial : LiveTutorial) (events : List SessionEvent) : Runs tutorial events := by
  induction events using List.reverseRecOn with
  | nil =>
      refine ⟨⟨rfl, rfl, rfl⟩, ?_⟩
      exact Keeps.marked_now { tutorial } List.nodup_nil (by simp [line, numbers])
  | append_singleton events event ih =>
      have hmeets := ih.describes.meets event
      refine ⟨?_, ?_⟩
      · rw [live_concat, Session.live_concat]
        exact hmeets.describes
      · have hkeeps := ih.keeps.turn hmeets.turn
        rw [live_concat, Session.live_concat, SessionEvent.untilMark_concat]
        cases hmarks : event.marks with
        | false => simpa [hmarks] using hkeeps
        | true => simpa [hmarks, live_concat] using hkeeps

theorem Describes.mark_live_eq_none {ledger : Ledger} {session : Session}
    {events : List SessionEvent} (h : ledger.Describes session)
    (hmark : session.history.mark = none)
    (hevents : forall event, event ∈ events -> event.marks = false) :
    (session.live events).history.mark = none := by
  induction events generalizing ledger session with
  | nil => exact hmark
  | cons event events ih =>
      have hmeets := h.meets event
      have hturn := hmeets.turn
      rw [hmark, hevents event List.mem_cons_self] at hturn
      exact ih hmeets.describes hturn.eq_none
        fun other hother => hevents other (List.mem_cons_of_mem event hother)

end Ledger

/--
Whatever befalls a session, its history is clean exactly when the entries applied now are the
very ones that were applied at the latest mark; the numbers tell entries apart that hold equal
commands.  Once a marked entry has been given up, the history is not clean before it is marked
again.
-/
theorem isClean_iff_entries_marked (tutorial : LiveTutorial) (events : List SessionEvent) :
    let session := Session.live ⟨tutorial, {}⟩ events
    let ledger := Ledger.live { tutorial } events
    let marked := Ledger.live { tutorial } (SessionEvent.untilMark events)
    ledger.Describes session ∧ ledger.line.Nodup ∧
      (session.history.isClean = true <-> ledger.numbers = marked.numbers) ∧
      (forall number, number ∈ marked.numbers -> number ∉ ledger.line ->
        forall later, (forall event, event ∈ later -> event.marks = false) ->
          (session.live later).history.isClean = false) ∧
      session.history.index <= session.history.length := by
  intro session ledger marked
  have hruns := Ledger.runs tutorial events
  refine ⟨hruns.describes, hruns.keeps.distinct, ?_, ?_, session.history.index_le_length⟩
  · rw [History.isClean, beq_iff_eq, hruns.describes.index_eq]
    exact hruns.keeps.mark_eq_iff
  · intro number hmarked hgone later hlater
    have hlost := hruns.keeps.mark_eq_none hmarked hgone
    have hmark : (session.live later).history.mark = none :=
      hruns.describes.mark_live_eq_none hlost hlater
    simp only [History.isClean, hmark]
    rfl

/-- The marked entry is taken back and given up for one that holds an equal command.  As many
commands are applied as when they were marked, but they are not the marked ones, and a failure in
between or going back and forth does not change that. -/
theorem isClean_iff_entries_marked_after_displacement :
    let tutorial : LiveTutorial := ⟨"t", "", "", "", "", []⟩
    let command : Command := .action (.setTutorial .name "n")
    let failing : Command := .action (.setStep ⟨"s"⟩ .id "a")
    let events : List SessionEvent :=
      [.request (.push command), .request .setClean, .request .undo,
        .request (.push failing), .request (.push command)]
    let later : List SessionEvent := [.edit tutorial, .request .undo, .request .redo]
    let session := Session.live ⟨tutorial, {}⟩ events
    0 ∈ (Ledger.live { tutorial } (SessionEvent.untilMark events)).numbers ∧
      0 ∉ (Ledger.live { tutorial } events).line ∧
      (forall event, event ∈ later -> event.marks = false) ∧
      session.history.index = 1 ∧ session.history.isClean = false ∧
      (session.live later).history.isClean = false := by
  intro tutorial command failing events later session
  have hmarked : 0 ∈ (Ledger.live { tutorial } (SessionEvent.untilMark events)).numbers := by decide
  have hgone : 0 ∉ (Ledger.live { tutorial } events).line := by decide
  have hlater : forall event, event ∈ later -> event.marks = false := by
    simp [later, SessionEvent.marks]
  have hmarks := isClean_iff_entries_marked tutorial events
  exact ⟨hmarked, hgone, hlater, by decide, by decide, hmarks.2.2.2.1 0 hmarked hgone later hlater⟩

end TutorialKit
