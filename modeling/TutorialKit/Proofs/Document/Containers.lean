import TutorialKit.Proofs.Document.Acceptance
import TutorialKit.Proofs.Xml.Scanning

/-!
# Containers

What is known inside an element depends on what it is read as, and that depends on the elements
around it.  The elements that are open tell what reading is inside of, and nodes whose names are not
known there leave everything as it is.
-/

namespace TutorialKit

open Xml Xml.Node

/-- What an element may be read as.  A collected one is part of some text, and so is all in it. -/
inductive Container where
  | tutorial
  | step
  | reaction
  | condition
  | skipped
  | collected
  deriving DecidableEq

namespace Container

def known : Container -> List String
  | tutorial => ["description", "license", "setup", "tearDown", "step"]
  | step => ["text", "setup", "tearDown", "reaction"]
  | reaction => "option" :: "customCode" :: "nextStep" :: Condition.elementNames
  | condition => Condition.elementNames
  | skipped => []
  | collected => []

def ofCondition (name : String) : Container :=
  if holdsConditions name then condition else skipped

def enter (name : String) : Container -> Container
  | tutorial =>
      if name ∈ ["description", "license", "setup", "tearDown"] then collected
      else if name = "step" then step
      else skipped
  | step =>
      if name ∈ ["text", "setup", "tearDown"] then collected
      else if name = "reaction" then reaction
      else skipped
  | reaction => if name = "customCode" then collected else ofCondition name
  | condition => ofCondition name
  | skipped => skipped
  | collected => collected

def along : List (List Char) -> List Container
  | [] => []
  | name :: outer =>
      match along outer with
      | [] => [tutorial]
      | container :: others => container.enter (String.ofList name) :: container :: others

end Container

/-!
# Containers of frames

A frame stands for the elements that it has taken in, those without a frame of their own included.
-/

namespace Frame

def container : Frame -> Container
  | step _ => .step
  | reaction _ => .reaction
  | composed .. => .condition
  | negation _ => .condition
  | leaf .. => .skipped
  | text .. => .collected
  | ignored _ => .skipped

def nested : Frame -> Nat
  | leaf _ nested => nested
  | text _ _ nested => nested
  | ignored nested => nested
  | _ => 0

def containers (frame : Frame) : List Container :=
  List.replicate (frame.nested + 1) frame.container

variable {frame entered above left : Frame} {name : String} {attributes : List Attribute}

theorem containers_eq_cons (frame : Frame) :
    frame.containers = frame.container :: List.replicate frame.nested frame.container :=
  List.replicate_succ

theorem containers_addPart (frame : Frame) (part : Part) :
    (frame.addPart part).containers = frame.containers := by
  cases frame <;> cases part <;> rfl

theorem containers_addText (content : String) (frame : Frame) :
    (frame.addText content).containers = frame.containers := by
  cases frame <;> rfl

theorem weight_addPart (frame : Frame) (part : Part) :
    (frame.addPart part).weight = frame.weight := by
  cases frame <;> cases part <;> rfl

theorem weight_addText (content : String) (frame : Frame) :
    (frame.addText content).weight = frame.weight := by
  cases frame <;> rfl

theorem containers_of_leave? (h : frame.leave? = some left) :
    frame.containers = frame.container :: left.containers ∧ left.weight = frame.weight := by
  cases frame with
  | leaf l nested =>
      cases nested with
      | zero => cases h
      | succ nested =>
          cases h
          exact ⟨rfl, rfl⟩
  | text field content nested =>
      cases nested with
      | zero => cases h
      | succ nested =>
          cases h
          exact ⟨rfl, rfl⟩
  | ignored nested =>
      cases nested with
      | zero => cases h
      | succ nested =>
          cases h
          exact ⟨rfl, rfl⟩
  | _ => cases h

theorem containers_of_leave?_none (h : frame.leave? = none) :
    frame.containers = [frame.container] := by
  cases frame with
  | leaf l nested =>
      cases nested with
      | zero => rfl
      | succ nested => cases h
  | text field content nested =>
      cases nested with
      | zero => rfl
      | succ nested => cases h
  | ignored nested =>
      cases nested with
      | zero => rfl
      | succ nested => cases h
  | _ => rfl

theorem container_inTutorial (name : String) (attributes : List Attribute) :
    (inTutorial name attributes).container = Container.tutorial.enter name := by
  rw [inTutorial, Container.enter]
  split_ifs <;> simp_all [container]

theorem container_inStep (name : String) (attributes : List Attribute) :
    (inStep name attributes).container = Container.step.enter name := by
  rw [inStep, Container.enter]
  split_ifs <;> simp_all [container]

theorem container_inCondition (name : String) (attributes : List Attribute) :
    (inCondition name attributes).container = Container.ofCondition name := by
  unfold inCondition Container.ofCondition holdsConditions
  by_cases hcomposed : name = "waitForComposed"
  · simp [hcomposed, container]
  by_cases hnot : name = "waitForNot"
  · simp [hnot, container]
  · simp only [hcomposed, hnot, decide_false, Bool.or_self, Bool.false_eq_true, if_false]
    cases Leaf.ofElement? name attributes with
    | none => rfl
    | some l => rfl

theorem container_inReaction (name : String) (attributes : List Attribute) :
    (inReaction name attributes).container = Container.reaction.enter name := by
  rw [inReaction, Container.enter]
  split_ifs with hcode
  · rfl
  · exact container_inCondition name attributes

theorem container_of_enter (h : frame.enter name attributes = (entered, some above)) :
    entered.containers = frame.containers ∧ above.container = frame.container.enter name := by
  cases frame with
  | step s =>
      cases h
      exact ⟨rfl, container_inStep name attributes⟩
  | reaction r =>
      cases h
      exact ⟨rfl, container_inReaction name attributes⟩
  | composed composition children =>
      cases h
      exact ⟨rfl, container_inCondition name attributes⟩
  | negation child =>
      cases h
      exact ⟨rfl, container_inCondition name attributes⟩
  | leaf l nested => cases h
  | text field content nested => cases h
  | ignored nested => cases h

theorem containers_of_enter_none (h : frame.enter name attributes = (entered, none)) :
    entered.containers = frame.container.enter name :: frame.containers := by
  cases frame with
  | leaf l nested =>
      cases h
      rfl
  | text field content nested =>
      cases h
      rfl
  | ignored nested =>
      cases h
      rfl
  | _ => cases h

end Frame

/-!
# Open elements

The names of the open elements alone tell what reading is inside of.
-/

namespace ReadState

def containers : List Frame -> List Container
  | [] => [.tutorial]
  | frame :: below => frame.containers ++ containers below

/-- These elements are open. -/
def Agrees (opened : List (List Char)) : ReadState -> Prop
  | prolog => opened = []
  | inside _ frames =>
      containers frames = Container.along opened ∧ conditionLevel frames <= maxConditionDepth
  | epilog _ => opened = []

variable {opened : List (List Char)} {tutorial : Tutorial} {frames : List Frame}
  {state : ReadState}

theorem along_cons {container : Container} {others : List Container}
    (h : Container.along opened = container :: others) (name : List Char) :
    Container.along (name :: opened) =
      container.enter (String.ofList name) :: container :: others := by
  rw [Container.along, h]

theorem agrees_openElement {name : List Char} {attributes : List Attribute}
    (hagrees : Agrees opened (inside tutorial frames))
    (h : openElement tutorial frames (String.ofList name) attributes = .ok state) :
    Agrees (name :: opened) state := by
  rcases hagrees with ⟨hcontainers, hlevel⟩
  cases frames with
  | nil =>
      rcases (push_eq_ok_iff hlevel).mp h with ⟨hfits, rfl⟩
      rw [← Frame.conditionLevel_cons_eq] at hfits
      refine ⟨?_, hfits⟩
      rw [along_cons hcontainers.symm, containers, containers,
        Frame.containers_of_leave?_none (Frame.leave?_inTutorial _ _), Frame.container_inTutorial]
      rfl
  | cons top below =>
      rw [openElement] at h
      rcases henter : top.enter (String.ofList name) attributes with ⟨entered, next⟩
      have hsame := conditionLevel_of_enter henter below
      rw [henter] at h
      rw [containers, Frame.containers_eq_cons] at hcontainers
      cases next with
      | none =>
          cases h
          refine ⟨?_, hsame.trans_le hlevel⟩
          rw [along_cons hcontainers.symm, containers, Frame.containers_of_enter_none henter,
            Frame.containers_eq_cons]
          rfl
      | some above =>
          rcases (push_eq_ok_iff (hsame.trans_le hlevel)).mp h with ⟨hfits, rfl⟩
          rw [← Frame.conditionLevel_cons_eq] at hfits
          rcases Frame.container_of_enter henter with ⟨hentered, habove⟩
          refine ⟨?_, hfits⟩
          rw [along_cons hcontainers.symm, containers, containers, hentered,
            Frame.containers_of_leave?_none (Frame.leave?_of_enter henter), habove,
            Frame.containers_eq_cons]
          rfl

theorem along_tail (opened : List (List Char)) :
    Container.along opened.tail = (Container.along opened).tail := by
  cases opened with
  | nil => rfl
  | cons name outer =>
      rw [List.tail_cons, Container.along]
      cases Container.along outer with
      | nil => rfl
      | cons container others => rfl

theorem along_eq_nil (h : Container.along opened = []) : opened = [] := by
  cases opened with
  | nil => rfl
  | cons name outer =>
      rw [Container.along] at h
      split at h
      · cases h
      · cases h

theorem agrees_closeElement (hagrees : Agrees opened (inside tutorial frames)) :
    Agrees opened.tail (closeElement tutorial frames) := by
  rcases hagrees with ⟨hcontainers, hlevel⟩
  have htail : Container.along opened.tail = (containers frames).tail := by
    rw [hcontainers, along_tail]
  cases frames with
  | nil => exact along_eq_nil htail
  | cons top below =>
      rw [containers] at htail
      rw [Frame.conditionLevel_cons_eq] at hlevel
      cases hleave : top.leave? with
      | some left =>
          rcases Frame.containers_of_leave? hleave with ⟨hleft, hweight⟩
          have hclose : closeElement tutorial (top :: below) = inside tutorial (left :: below) := by
            simp only [closeElement, hleave]
          rw [hclose]
          refine ⟨?_, ?_⟩
          · rw [htail, hleft]
            rfl
          · rw [Frame.conditionLevel_cons_eq, hweight]
            exact hlevel
      | none =>
          rw [Frame.containers_of_leave?_none hleave] at htail
          rw [closeElement_eq_handOver hleave]
          cases below with
          | nil => exact ⟨htail.symm, Nat.zero_le _⟩
          | cons around rest =>
              rw [Frame.conditionLevel_cons_eq] at hlevel
              refine ⟨?_, ?_⟩
              · rw [htail, containers, Frame.containers_addPart]
                rfl
              · rw [Frame.conditionLevel_cons_eq, Frame.weight_addPart]
                omega

theorem agrees_addText (hagrees : Agrees opened (inside tutorial frames)) (content : String) :
    Agrees opened (inside tutorial (addText content frames)) := by
  rcases hagrees with ⟨hcontainers, hlevel⟩
  cases frames with
  | nil => exact ⟨hcontainers, hlevel⟩
  | cons top below =>
      rw [containers] at hcontainers
      rw [Frame.conditionLevel_cons_eq] at hlevel
      refine ⟨?_, ?_⟩
      · rw [addText, containers, Frame.containers_addText, hcontainers]
      · rw [addText, Frame.conditionLevel_cons_eq, Frame.weight_addText]
        exact hlevel

theorem agrees_element {name : List Char} {attributes : List Attribute} {opening : ReadState}
    (hagrees : Agrees opened (inside tutorial frames))
    (hopen : openElement tutorial frames (String.ofList name) attributes = .ok opening)
    (hclose : opening.take .close = .ok state) : Agrees opened state := by
  have hopening := agrees_openElement hagrees hopen
  rcases exists_frames_of_openElement hagrees.2 hopen with ⟨frames', _, rfl⟩
  cases hclose
  exact agrees_closeElement hopening

theorem agrees_takeToken {token : Token} {later : ReadState} (hagrees : Agrees opened state)
    (h : state.takeToken token = .ok later) : Agrees (token.opened opened) later := by
  rcases takeToken_eq_ok_iff.mp h with ⟨event, hmeans, htake⟩
  cases state with
  | prolog =>
      cases hagrees
      cases hmeans with
      | start hholds =>
          rcases openRoot_eq_ok_iff.mp htake with ⟨_, rfl⟩
          exact ⟨rfl, Nat.zero_le _⟩
      | empty hholds =>
          change prolog.take _ = _ at htake
          rw [take_emptyRoot] at htake
          rcases takeAll_cons_eq_ok_iff.mp htake with ⟨opening, hopen, hclose⟩
          rcases openRoot_eq_ok_iff.mp hopen with ⟨_, rfl⟩
          cases hclose
          rfl
      | close => cases htake
      | _ =>
          rcases (take_prolog_eq_ok_iff rfl).mp htake with ⟨_, rfl⟩
          rfl
  | inside tutorial frames =>
      cases hmeans with
      | start hholds => exact agrees_openElement hagrees htake
      | empty hholds =>
          rw [take_empty hagrees.2] at htake
          rcases takeAll_cons_eq_ok_iff.mp htake with ⟨opening, hopen, hclose⟩
          rw [takeAll_singleton] at hclose
          exact agrees_element hagrees hopen hclose
      | close =>
          cases htake
          exact agrees_closeElement hagrees
      | text =>
          cases htake
          exact agrees_addText hagrees _
      | characterData =>
          cases htake
          exact agrees_addText hagrees _
      | reference hstands =>
          cases htake
          exact agrees_addText hagrees _
      | _ =>
          cases htake
          exact hagrees
  | epilog tutorial =>
      cases hagrees
      rcases take_epilog_eq_ok_iff.mp htake with ⟨hfollows, rfl⟩
      cases hmeans <;> first | rfl | cases hfollows

end ReadState

/-!
# Nodes that are not known

A node whose name is not known is passed over with all that is in it.
-/

namespace Container

/-- None of the nodes is an element that means something right inside the container. -/
def Ignores (container : Container) (nodes : List Node) : Prop :=
  forall node, node ∈ nodes -> forall tag, node.tag? = some tag -> tag.name ∉ container.known

instance (container : Container) (nodes : List Node) : Decidable (container.Ignores nodes) :=
  inferInstanceAs (Decidable (forall node, node ∈ nodes ->
    forall tag, tag ∈ node.tag? -> tag.name ∉ container.known))

variable {container : Container} {nodes : List Node}

theorem Ignores.named (h : container.Ignores nodes) {name : String}
    (hname : name ∈ container.known) : named name nodes = [] := by
  rw [Node.named, List.filter_eq_nil_iff]
  intro node hnode hhas
  cases htag : node.tag? with
  | none => simp [hasName, htag] at hhas
  | some tag =>
      have heq : tag.name = name := by simpa [hasName, htag] using hhas
      exact h node hnode tag htag (heq ▸ hname)

theorem Ignores.lastText? (h : container.Ignores nodes) {name : String}
    (hname : name ∈ container.known) : lastText? name nodes = none := by
  rw [Node.lastText?, h.named hname]
  rfl

theorem Ignores.lastAttribute? (h : container.Ignores nodes) {name : String}
    (hname : name ∈ container.known) (key : String) : lastAttribute? name key nodes = none := by
  rw [Node.lastAttribute?, h.named hname]
  rfl

section

variable (h : container.Ignores nodes)
  (hconditions : forall name, name ∈ Condition.elementNames -> name ∈ container.known)

include h hconditions

theorem Ignores.ofNode? {node : Node} (hnode : node ∈ nodes) : Condition.ofNode? node = none := by
  cases htag : node.tag? with
  | none =>
      cases node with
      | paired tag children => cases htag
      | empty tag => cases htag
      | single event hevent => rfl
  | some tag =>
      rw [ofNode?_of_tag? htag]
      exact Condition.ofTag?_of_notMem (fun hmem => h node hnode tag htag (hconditions _ hmem)) _

theorem Ignores.ofNodes : Condition.ofNodes nodes = [] := by
  rw [Condition.ofNodes_eq_filterMap, List.filterMap_eq_nil_iff]
  exact fun node hnode => h.ofNode? hconditions hnode

theorem Ignores.conditionChain {node : Node} (hnode : node ∈ nodes) : node.conditionChain = 0 := by
  cases htag : node.tag? with
  | none =>
      cases node with
      | paired tag children => cases htag
      | empty tag => cases htag
      | single event hevent => rfl
  | some tag =>
      have hname : tag.name ∉ Condition.elementNames :=
        fun hmem => h node hnode tag htag (hconditions _ hmem)
      have hholds : holdsConditions tag.name = false := by
        simp only [Condition.elementNames, List.mem_cons, List.not_mem_nil, or_false, not_or]
          at hname
        simp [holdsConditions, hname]
      rw [conditionChain_of_tag? htag, chainFrom, hholds, if_neg hname]
      rfl

end

end Container

section

open Container

variable {nodes : List Node}

theorem Tutorial.receive_of_ignores (h : Container.tutorial.Ignores nodes) (tutorial : Tutorial) :
    tutorial.receive nodes = tutorial := by
  simp only [receive, h.lastText? (show "description" ∈ Container.tutorial.known by decide),
    h.lastText? (show "license" ∈ Container.tutorial.known by decide),
    h.lastText? (show "setup" ∈ Container.tutorial.known by decide),
    h.lastText? (show "tearDown" ∈ Container.tutorial.known by decide),
    h.named (show "step" ∈ Container.tutorial.known by decide), List.map_nil, List.append_nil,
    Option.getD_none]

theorem Step.receive_of_ignores (h : Container.step.Ignores nodes) (step : Step) :
    step.receive nodes = step := by
  simp only [receive, h.lastText? (show "text" ∈ Container.step.known by decide),
    h.lastText? (show "setup" ∈ Container.step.known by decide),
    h.lastText? (show "tearDown" ∈ Container.step.known by decide),
    h.named (show "reaction" ∈ Container.step.known by decide), List.map_nil, List.append_nil,
    Option.getD_none]

theorem conditions_known (name : String) (h : name ∈ Condition.elementNames) :
    name ∈ Container.reaction.known := by
  simp [known, h]

theorem Reaction.receive_of_ignores (h : Container.reaction.Ignores nodes) (reaction : Reaction) :
    reaction.receive nodes = reaction := by
  simp only [receive, h.ofNodes conditions_known,
    h.lastAttribute? (show "option" ∈ Container.reaction.known by decide),
    h.lastAttribute? (show "nextStep" ∈ Container.reaction.known by decide),
    h.lastText? (show "customCode" ∈ Container.reaction.known by decide), List.getLast?_nil,
    Option.none_or, Option.getD_none]

end

namespace Frame

variable {nodes : List Node} {frame : Frame}

theorem receive_of_ignores (h : frame.container.Ignores nodes)
    (hcollected : frame.container ≠ .collected) : frame.receive nodes = frame := by
  cases frame with
  | step s => exact congrArg step (s.receive_of_ignores h)
  | reaction r => exact congrArg reaction (r.receive_of_ignores h)
  | composed composition children => simp [receive, h.ofNodes fun _ hname => hname]
  | negation child => simp [receive, h.ofNodes fun _ hname => hname]
  | leaf l nested => rfl
  | text field content nested => exact absurd rfl hcollected
  | ignored nested => rfl

theorem admits_of_ignores (h : frame.container.Ignores nodes) {level : Nat}
    (hlevel : level <= maxConditionDepth) : frame.Admits level nodes := by
  have hchain {container : Container} (h : container.Ignores nodes)
      (hconditions : forall name, name ∈ Condition.elementNames -> name ∈ container.known) :
      forall node, node ∈ nodes -> level + node.conditionChain <= maxConditionDepth := by
    intro node hnode
    rw [h.conditionChain hconditions hnode]
    exact hlevel
  cases frame with
  | step s =>
      rw [Admits, h.named (show "reaction" ∈ Container.step.known by decide)]
      exact List.forall_mem_nil _
  | reaction r => exact hchain h conditions_known
  | composed composition children => exact hchain h fun _ hname => hname
  | negation child => exact hchain h fun _ hname => hname
  | _ => trivial

end Frame

namespace ReadState

/-- Nodes that are not known are passed over, unless all text is collected. -/
theorem takeAll_of_ignores {tutorial : Tutorial} {frames : List Frame} {nodes : List Node}
    {container : Container} {others : List Container}
    (hcontainers : containers frames = container :: others)
    (hlevel : conditionLevel frames <= maxConditionDepth) (hcollected : container ≠ .collected)
    (hignores : container.Ignores nodes) :
    (inside tutorial frames).takeAll (eventsAll nodes) = .ok (inside tutorial frames) := by
  rw [absorbs nodes tutorial frames _ hlevel]
  cases frames with
  | nil =>
      cases hcontainers
      constructor
      · rw [Admits, hignores.named (show "step" ∈ Container.tutorial.known by decide)]
        exact List.forall_mem_nil _
      · rw [received, tutorial.receive_of_ignores hignores]
  | cons top below =>
      rw [containers, Frame.containers_eq_cons] at hcontainers
      cases hcontainers
      constructor
      · exact Frame.admits_of_ignores hignores hlevel
      · rw [received, Frame.receive_of_ignores hignores hcollected]

theorem addText_of_not_collected {frames : List Frame} {container : Container}
    {others : List Container} (hcontainers : containers frames = container :: others)
    (hcollected : container ≠ .collected) (content : String) : addText content frames = frames := by
  cases frames with
  | nil => rfl
  | cons top below =>
      rw [containers, Frame.containers_eq_cons] at hcontainers
      cases hcontainers
      cases top with
      | text field held nested => exact absurd rfl hcollected
      | _ => rfl

end ReadState

end TutorialKit
