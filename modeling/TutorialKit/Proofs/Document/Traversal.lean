import TutorialKit.Proofs.Document.Frames
import TutorialKit.Proofs.Outcomes

/-!
# Traversal

Reading the events of nodes changes nothing but what is right around them.  Inside the root element
the events of any nodes are read exactly if no condition among them is nested too deep, and then
what is around them has gathered what they say.
-/

namespace TutorialKit

open Xml Xml.Node

/-!
# Runs over events

To read events one after the other is to read the first ones and then the others.
-/

namespace ReadState

def takeAll (state : ReadState) : List Event -> Except ReadFault ReadState
  | [] => .ok state
  | event :: rest => state.take event >>= fun state => takeAll state rest

theorem takeAll_append (state : ReadState) (events others : List Event) :
    state.takeAll (events ++ others) =
      state.takeAll events >>= fun state => state.takeAll others := by
  induction events generalizing state with
  | nil => rfl
  | cons event rest ih =>
      rw [List.cons_append, takeAll, takeAll]
      cases state.take event with
      | error fault => rfl
      | ok state => exact ih state

theorem takeAll_append_eq_ok_iff {state later : ReadState} {events others : List Event} :
    state.takeAll (events ++ others) = .ok later ↔
      exists between, state.takeAll events = .ok between ∧ between.takeAll others = .ok later := by
  rw [takeAll_append, bind_eq_ok_iff]

theorem takeAll_cons_eq_ok_iff {state later : ReadState} {event : Event} {rest : List Event} :
    state.takeAll (event :: rest) = .ok later ↔
      exists between, state.take event = .ok between ∧ between.takeAll rest = .ok later := by
  rw [takeAll, bind_eq_ok_iff]

theorem takeAll_singleton (state : ReadState) (event : Event) :
    state.takeAll [event] = state.take event := by
  rw [takeAll]
  cases state.take event with
  | error fault => rfl
  | ok state => rfl

end ReadState

/-!
# Nodes inside the root element

The frames around some nodes gather what these say, provided that no condition is nested too deep.
-/

namespace ReadState

def Admits (nodes : List Node) : List Frame -> Prop
  | [] => forall step, step ∈ named "step" nodes ->
      forall reaction, reaction ∈ named "reaction" step.children ->
        forall node, node ∈ reaction.children -> node.conditionChain <= maxConditionDepth
  | top :: below => top.Admits (conditionLevel (top :: below)) nodes

def received (nodes : List Node) (tutorial : Tutorial) : List Frame -> ReadState
  | [] => inside (tutorial.receive nodes) []
  | top :: below => inside tutorial (top.receive nodes :: below)

/-- The events of the nodes are read wherever their conditions are not nested too deep. -/
def Absorbs (nodes : List Node) : Prop :=
  forall (tutorial : Tutorial) (frames : List Frame) (state : ReadState),
    conditionLevel frames <= maxConditionDepth ->
    ((inside tutorial frames).takeAll (eventsAll nodes) = .ok state ↔
      Admits nodes frames ∧ state = received nodes tutorial frames)

theorem push_eq_ok_iff {tutorial : Tutorial} {frames : List Frame} {above : Frame}
    {state : ReadState} (hlevel : conditionLevel frames <= maxConditionDepth) :
    push tutorial frames above = .ok state ↔
      conditionLevel frames + above.weight <= maxConditionDepth ∧
        state = inside tutorial (above :: frames) := by
  rw [push, ← conditionLevel, Frame.weight]
  cases hcondition : above.isCondition with
  | false => simp [hlevel, eq_comm]
  | true =>
      by_cases hfull : conditionLevel frames = maxConditionDepth
      · have hnot : ¬ conditionLevel frames + 1 <= maxConditionDepth := by omega
        rw [if_pos (by simpa using hfull), if_pos rfl]
        constructor
        · intro h
          cases h
        · intro h
          exact absurd h.1 hnot
      · have hlt : conditionLevel frames + 1 <= maxConditionDepth := by omega
        rw [if_neg (by simpa using hfull), if_pos rfl, Except.ok.injEq, eq_comm]
        exact (and_iff_right hlt).symm

def handOver (tutorial : Tutorial) (part : Part) : List Frame -> ReadState
  | [] => inside (tutorial.addPart part) []
  | around :: rest => inside tutorial (around.addPart part :: rest)

theorem closeElement_eq_handOver {top : Frame} (h : top.leave? = none) (tutorial : Tutorial)
    (frames : List Frame) :
    closeElement tutorial (top :: frames) = handOver tutorial top.part frames := by
  cases frames with
  | nil => simp only [closeElement, h, handOver]
  | cons around rest => simp only [closeElement, h, handOver]

section Children

variable {nodes : List Node} {tutorial : Tutorial} {frames : List Frame} {state : ReadState}

theorem takeAll_closed_iff (hnodes : Absorbs nodes)
    (hlevel : conditionLevel frames <= maxConditionDepth) {after : ReadState}
    (hclose : (received nodes tutorial frames).take .close = .ok after) :
    (inside tutorial frames).takeAll (eventsAll nodes ++ [Event.close]) = .ok state ↔
      Admits nodes frames ∧ state = after := by
  rw [← takeAll_singleton] at hclose
  rw [takeAll_append_eq_ok_iff]
  constructor
  · intro h
    rcases h with ⟨between, hbetween, hlast⟩
    rcases (hnodes tutorial frames between hlevel).mp hbetween with ⟨hadmits, rfl⟩
    rw [hclose] at hlast
    cases hlast
    exact ⟨hadmits, rfl⟩
  · intro h
    rcases h with ⟨hadmits, rfl⟩
    exact ⟨_, (hnodes tutorial frames _ hlevel).mpr ⟨hadmits, rfl⟩, hclose⟩

theorem takeAll_pushed_iff (hnodes : Absorbs nodes)
    (hlevel : conditionLevel frames <= maxConditionDepth) {above : Frame}
    (habove : above.leave? = none) :
    (push tutorial frames above >>= fun state => state.takeAll (eventsAll nodes ++ [Event.close])) =
        .ok state ↔
      above.Fits (conditionLevel frames) nodes ∧
        state = handOver tutorial (above.receive nodes).part frames := by
  have hclose : (received nodes tutorial (above :: frames)).take .close =
      .ok (handOver tutorial (above.receive nodes).part frames) := by
    rw [← closeElement_eq_handOver (Frame.leave?_receive habove nodes)]
    rfl
  rw [bind_eq_ok_iff, Frame.Fits, ← Frame.conditionLevel_cons_eq above, and_assoc]
  constructor
  · intro h
    rcases h with ⟨opened, hpush, htake⟩
    rcases (push_eq_ok_iff hlevel).mp hpush with ⟨hfits, rfl⟩
    rw [← Frame.conditionLevel_cons_eq above] at hfits
    exact ⟨hfits, (takeAll_closed_iff hnodes hfits hclose).mp htake⟩
  · intro h
    rcases h with ⟨hfits, htake⟩
    refine ⟨inside tutorial (above :: frames), ?_, ?_⟩
    · rw [push_eq_ok_iff hlevel, ← Frame.conditionLevel_cons_eq above]
      exact ⟨hfits, rfl⟩
    · exact (takeAll_closed_iff hnodes hfits hclose).mpr htake

end Children

theorem conditionLevel_of_enter {top entered : Frame} {next : Option Frame} {name : String}
    {attributes : List Attribute} (h : top.enter name attributes = (entered, next))
    (below : List Frame) : conditionLevel (entered :: below) = conditionLevel (top :: below) := by
  rw [Frame.conditionLevel_cons_eq, Frame.conditionLevel_cons_eq, Frame.weight_of_enter h]

section Element

variable {tag : Tag} {tutorial : Tutorial} {frames : List Frame} {state : ReadState}

theorem takeAll_element_iff (node : Node) (htag : node.tag? = some tag)
    (hnodes : Absorbs node.children) (hlevel : conditionLevel frames <= maxConditionDepth) :
    (inside tutorial frames).takeAll
        (.start tag.name tag.attributes :: (eventsAll node.children ++ [Event.close])) =
      .ok state ↔
      Admits [node] frames ∧ state = received [node] tutorial frames := by
  cases frames with
  | nil =>
      change (push tutorial [] (Frame.inTutorial tag.name tag.attributes) >>= _) = _ ↔ _
      rw [takeAll_pushed_iff hnodes hlevel (Frame.leave?_inTutorial _ _), handOver,
        ← Frame.tutorial_receive htag]
      exact and_congr_left' (Frame.fits_inTutorial_iff htag)
  | cons top below =>
      rw [takeAll, take, inRoot, openElement]
      rcases henter : top.enter tag.name tag.attributes with ⟨entered, next⟩
      have hsame := conditionLevel_of_enter henter below
      cases next with
      | none =>
          rcases Frame.admits_of_enter_none node (conditionLevel (top :: below)) henter with
            ⟨hadmits, hinner⟩
          have hclose : (received node.children tutorial (entered :: below)).take .close =
              .ok (received [node] tutorial (top :: below)) := by
            have hleave := Frame.leave?_of_enter_none htag henter
            simp [received, take, inRoot, closeElement, hleave]
          change (inside tutorial (entered :: below)).takeAll _ = _ ↔ _
          rw [takeAll_closed_iff hnodes (hsame.trans_le hlevel) hclose, Admits, hsame]
          exact and_congr_left' (iff_of_true hinner hadmits)
      | some above =>
          change (push tutorial (entered :: below) above >>= _) = _ ↔ _
          rw [takeAll_pushed_iff hnodes (hsame.trans_le hlevel) (Frame.leave?_of_enter henter),
            hsame, handOver, ← Frame.receive_of_enter htag henter,
            ← Frame.admits_of_enter htag hlevel henter]
          rfl

end Element

/-!
# Any nodes

The induction is on the nodes: an element is read inside the frame that it opens, and handed over
when it ends.
-/

theorem admits_nil (frames : List Frame) : Admits [] frames := by
  cases frames with
  | nil => simp [Admits, named]
  | cons top below => cases top <;> simp [Admits, Frame.Admits, named]

theorem received_nil (tutorial : Tutorial) (frames : List Frame) :
    received [] tutorial frames = inside tutorial frames := by
  cases frames with
  | nil => simp [received, Tutorial.receive, lastText?, named]
  | cons top below =>
      cases top with
      | step s => simp [received, Frame.receive, Step.receive, lastText?, named]
      | reaction r =>
          simp [received, Frame.receive, Reaction.receive, lastText?, lastAttribute?, named,
            Condition.ofNodes]
      | composed composition children => simp [received, Frame.receive, Condition.ofNodes]
      | negation child => simp [received, Frame.receive, Condition.ofNodes]
      | leaf l nested => rfl
      | text field content nested => simp [received, Frame.receive, textAll]
      | ignored nested => rfl

theorem absorbs_nil : Absorbs [] := by
  intro tutorial frames state hlevel
  rw [received_nil, eventsAll, takeAll, Except.ok.injEq, eq_comm]
  exact (and_iff_right (admits_nil frames)).symm

section Single

variable {event : Event} (h : event.isTag = false)

theorem named_single (name : String) : named name [.single event h] = [] := rfl

theorem ofNodes_single : Condition.ofNodes [.single event h] = [] := rfl

theorem admits_single (frames : List Frame) (hlevel : conditionLevel frames <= maxConditionDepth) :
    Admits [.single event h] frames := by
  cases frames with
  | nil => simp [Admits, named_single]
  | cons top below =>
      cases top <;> simp [Admits, Frame.Admits, named_single, conditionChain, hlevel]

theorem received_single (tutorial : Tutorial) (frames : List Frame) :
    received [.single event h] tutorial frames =
      inside tutorial (addText event.content frames) := by
  cases frames with
  | nil => simp [received, Tutorial.receive, lastText?, named_single, addText]
  | cons top below =>
      cases top with
      | step s =>
          simp [received, Frame.receive, Step.receive, lastText?, named_single, addText,
            Frame.addText]
      | reaction r =>
          simp [received, Frame.receive, Reaction.receive, lastText?, lastAttribute?, named_single,
            ofNodes_single, addText, Frame.addText]
      | composed composition children =>
          simp [received, Frame.receive, ofNodes_single, addText, Frame.addText]
      | negation child => simp [received, Frame.receive, ofNodes_single, addText, Frame.addText]
      | leaf l nested => rfl
      | text field content nested =>
          simp [received, Frame.receive, textAll, text, addText, Frame.addText]
      | ignored nested => rfl

include h in
theorem take_single (tutorial : Tutorial) (frames : List Frame) :
    (inside tutorial frames).take event = .ok (inside tutorial (addText event.content frames)) := by
  cases event with
  | start name attributes => cases h
  | empty name attributes => cases h
  | close => cases h
  | text content => rfl
  | characterData content => rfl
  | reference character => rfl
  | comment => simp [take, inRoot, Event.content, addText_nothing]
  | instruction => simp [take, inRoot, Event.content, addText_nothing]
  | declaration => simp [take, inRoot, Event.content, addText_nothing]
  | doctype => simp [take, inRoot, Event.content, addText_nothing]

theorem absorbs_single : Absorbs [.single event h] := by
  intro tutorial frames state hlevel
  change (inside tutorial frames).takeAll [event] = _ ↔ _
  rw [takeAll_singleton, take_single h, received_single, Except.ok.injEq, eq_comm]
  exact (and_iff_right (admits_single h frames hlevel)).symm

end Single

theorem exists_frames_of_openElement {tutorial : Tutorial} {frames : List Frame} {name : String}
    {attributes : List Attribute} {state : ReadState}
    (hlevel : conditionLevel frames <= maxConditionDepth)
    (h : openElement tutorial frames name attributes = .ok state) :
    exists frames', conditionLevel frames' <= maxConditionDepth ∧
      state = inside tutorial frames' := by
  cases frames with
  | nil =>
      rcases (push_eq_ok_iff hlevel).mp h with ⟨hfits, rfl⟩
      rw [← Frame.conditionLevel_cons_eq] at hfits
      exact ⟨_, hfits, rfl⟩
  | cons top below =>
      rw [openElement] at h
      rcases henter : top.enter name attributes with ⟨entered, next⟩
      have hsame := conditionLevel_of_enter henter below
      rw [henter] at h
      cases next with
      | none =>
          cases h
          exact ⟨_, hsame.trans_le hlevel, rfl⟩
      | some above =>
          rcases (push_eq_ok_iff (hsame.trans_le hlevel)).mp h with ⟨hfits, rfl⟩
          rw [← Frame.conditionLevel_cons_eq] at hfits
          exact ⟨_, hfits, rfl⟩

theorem take_empty {tutorial : Tutorial} {frames : List Frame}
    (hlevel : conditionLevel frames <= maxConditionDepth) (name : String)
    (attributes : List Attribute) :
    (inside tutorial frames).take (.empty name attributes) =
      (inside tutorial frames).takeAll [.start name attributes, .close] := by
  rw [takeAll]
  simp only [takeAll_singleton, take, inRoot]
  cases hopen : openElement tutorial frames name attributes with
  | error fault => rfl
  | ok state =>
      rcases exists_frames_of_openElement hlevel hopen with ⟨frames', _, rfl⟩
      rfl

theorem absorbs_empty (tag : Tag) : Absorbs [.empty tag] := by
  intro tutorial frames state hlevel
  change (inside tutorial frames).takeAll [.empty tag.name tag.attributes] = _ ↔ _
  rw [takeAll_singleton, take_empty hlevel]
  exact takeAll_element_iff (.empty tag) rfl absorbs_nil hlevel

theorem absorbs_paired (tag : Tag) {children : List Node} (h : Absorbs children) :
    Absorbs [.paired tag children] := by
  intro tutorial frames state hlevel
  have hevents : eventsAll [.paired tag children] =
      .start tag.name tag.attributes :: (eventsAll children ++ [Event.close]) := by
    rw [eventsAll, eventsAll, List.append_nil, events]
  rw [hevents]
  exact takeAll_element_iff (.paired tag children) rfl h hlevel

theorem exists_received (nodes : List Node) (tutorial : Tutorial) (frames : List Frame) :
    exists tutorial' frames', received nodes tutorial frames = inside tutorial' frames' ∧
      conditionLevel frames' = conditionLevel frames ∧
      forall others, (Admits (nodes ++ others) frames ↔
          Admits nodes frames ∧ Admits others frames') ∧
        received (nodes ++ others) tutorial frames = received others tutorial' frames' := by
  cases frames with
  | nil =>
      refine ⟨tutorial.receive nodes, [], rfl, rfl, ?_⟩
      intro others
      constructor
      · simp only [Admits, named_append, List.forall_mem_append]
      · rw [received, Tutorial.receive_append, received]
  | cons top below =>
      have hlevel :
          conditionLevel (top.receive nodes :: below) = conditionLevel (top :: below) := by
        rw [Frame.conditionLevel_cons_eq, Frame.conditionLevel_cons_eq, Frame.weight,
          Frame.weight, Frame.isCondition_receive]
      refine ⟨tutorial, top.receive nodes :: below, rfl, hlevel, ?_⟩
      intro others
      constructor
      · rw [Admits, Admits, Admits, hlevel]
        exact Frame.admits_append_iff
      · rw [received, Frame.receive_append, received]

theorem absorbs_append {nodes others : List Node} (hnodes : Absorbs nodes)
    (hothers : Absorbs others) : Absorbs (nodes ++ others) := by
  intro tutorial frames state hlevel
  rcases exists_received nodes tutorial frames with ⟨tutorial', frames', hreceived, hsame, happend⟩
  have hlater := hothers tutorial' frames' state (hsame.trans_le hlevel)
  rw [eventsAll_append, takeAll_append_eq_ok_iff, (happend others).1, (happend others).2,
    and_assoc, ← hlater]
  constructor
  · intro h
    rcases h with ⟨between, hbetween, htake⟩
    rcases (hnodes tutorial frames between hlevel).mp hbetween with ⟨hadmits, rfl⟩
    rw [hreceived] at htake
    exact ⟨hadmits, htake⟩
  · intro h
    rcases h with ⟨hadmits, htake⟩
    rw [← hreceived] at htake
    exact ⟨_, (hnodes tutorial frames _ hlevel).mpr ⟨hadmits, rfl⟩, htake⟩

mutual

theorem absorbs_node : (node : Node) -> Absorbs [node]
  | .paired tag children => absorbs_paired tag (absorbs children)
  | .empty tag => absorbs_empty tag
  | .single _ h => absorbs_single h

/-- Any nodes are read as a whole, except for conditions nested too deep. -/
theorem absorbs : (nodes : List Node) -> Absorbs nodes
  | [] => absorbs_nil
  | node :: rest => absorbs_append (absorbs_node node) (absorbs rest)

end

end ReadState

end TutorialKit
