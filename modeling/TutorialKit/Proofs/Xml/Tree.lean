import Mathlib.Data.List.Basic
import TutorialKit.Xml.Event

/-!
# Trees

The events between two matching tags are those of a list of nodes, and a document is one element
with little around it.  Events have one tree at most, and events that are not closed within a list
of nodes leave an element open.
-/

namespace TutorialKit
namespace Xml

/-- What the tag of an element says. -/
structure Tag where
  name : String
  attributes : List Attribute

namespace Event

def isTag : Event -> Bool
  | start .. => true
  | empty .. => true
  | close => true
  | _ => false

/-- The text that an event stands for by itself. -/
def content : Event -> String
  | text content => content
  | characterData content => content
  | reference character => String.ofList [character]
  | _ => ""

/-- May stand in front of the root element. -/
def MayPrecede : Event -> Prop
  | text content => isBlank content.toList = true
  | comment => True
  | instruction => True
  | declaration => True
  | doctype => True
  | _ => False

/-- May stand behind the root element. -/
def MayFollow : Event -> Prop
  | text content => isBlank content.toList = true
  | comment => True
  | instruction => True
  | _ => False

theorem MayPrecede.not_isTag {event : Event} (h : event.MayPrecede) : event.isTag = false := by
  cases event with
  | start => cases h
  | empty => cases h
  | close => cases h
  | _ => rfl

end Event

/-- An element, written as a pair of tags or as an empty tag, or something else than an element. -/
inductive Node where
  | paired (tag : Tag) (children : List Node)
  | empty (tag : Tag)
  | single (event : Event) (h : event.isTag = false)

namespace Node

/-!
# Parts of a node

Nodes are looked up by their names and attributes.
-/

def tag? : Node -> Option Tag
  | paired tag _ => some tag
  | empty tag => some tag
  | single .. => none

def children : Node -> List Node
  | paired _ children => children
  | empty _ => []
  | single .. => []

def attribute? (key : String) (node : Node) : Option String :=
  node.tag?.bind fun tag => Attribute.lookup? key tag.attributes

def hasName (name : String) (node : Node) : Bool :=
  node.tag?.any fun tag => tag.name == name

/-- The elements with a name among some nodes. -/
def named (name : String) (nodes : List Node) : List Node :=
  nodes.filter (hasName name)

mutual

/-- All the text in a node, in order, however deep it stands. -/
def text : Node -> String
  | paired _ children => textAll children
  | empty _ => ""
  | single event _ => event.content

def textAll : List Node -> String
  | [] => ""
  | node :: rest => text node ++ textAll rest

end

/-!
# Events of a node

A tree is written down as its events, in order.
-/

mutual

def events : Node -> List Event
  | paired tag children => .start tag.name tag.attributes :: (eventsAll children ++ [Event.close])
  | empty tag => [.empty tag.name tag.attributes]
  | single event _ => [event]

def eventsAll : List Node -> List Event
  | [] => []
  | node :: rest => events node ++ eventsAll rest

end

theorem named_append (name : String) (nodes others : List Node) :
    named name (nodes ++ others) = named name nodes ++ named name others := by
  rw [named, List.filter_append]
  rfl

theorem textAll_append (nodes others : List Node) :
    textAll (nodes ++ others) = textAll nodes ++ textAll others := by
  induction nodes with
  | nil => simp [textAll]
  | cons node rest ih => simp [textAll, ih, String.append_assoc]

theorem eventsAll_append (nodes others : List Node) :
    eventsAll (nodes ++ others) = eventsAll nodes ++ eventsAll others := by
  induction nodes with
  | nil => rfl
  | cons node rest ih => simp [eventsAll, ih]

/-!
# One tree for the same events

The next event decides what the next node is, so a tree is read off its events from the left.
-/

theorem ne_of_isTag {event other : Event} (h : event.isTag = false) (hother : other.isTag = true) :
    event ≠ other := by
  intro heq
  rw [heq, hother] at h
  cases h

theorem events_append_ne_close (node : Node) (others rest : List Event) :
    node.events ++ others ≠ .close :: rest := by
  intro h
  cases node with
  | paired tag children => cases h
  | empty tag => cases h
  | single event hevent =>
      injection h with hhead _
      exact ne_of_isTag hevent rfl hhead

mutual

theorem events_append_inj {others rest : List Event} : (node other : Node) ->
    node.events ++ others = other.events ++ rest -> node = other ∧ others = rest
  | paired tag children, other, h => by
      cases other with
      | paired tag' children' =>
          simp only [events, List.cons_append, List.append_assoc, List.cons.injEq,
            Event.start.injEq, List.nil_append] at h
          rcases h with ⟨⟨hname, hattributes⟩, h⟩
          rcases eventsAll_close_inj children children' h with ⟨hchildren, hrest⟩
          have htag : tag = tag' := by
            cases tag
            cases tag'
            rw [Tag.mk.injEq]
            exact ⟨hname, hattributes⟩
          exact ⟨by rw [htag, hchildren], hrest⟩
      | empty tag' => cases h
      | single event hevent =>
          injection h with hhead _
          exact absurd hhead.symm (ne_of_isTag hevent rfl)
  | empty tag, other, h => by
      cases other with
      | paired tag' children' => cases h
      | empty tag' =>
          cases tag
          cases tag'
          cases h
          exact ⟨rfl, rfl⟩
      | single event hevent =>
          injection h with hhead _
          exact absurd hhead.symm (ne_of_isTag hevent rfl)
  | single event hevent, other, h => by
      cases other with
      | paired tag' children' =>
          injection h with hhead _
          exact absurd hhead (ne_of_isTag hevent rfl)
      | empty tag' =>
          injection h with hhead _
          exact absurd hhead (ne_of_isTag hevent rfl)
      | single event' hevent' =>
          cases h
          exact ⟨rfl, rfl⟩

/-- The end tag that closes a list of nodes tells where the list ends. -/
theorem eventsAll_close_inj {others rest : List Event} : (nodes nodes' : List Node) ->
    eventsAll nodes ++ .close :: others = eventsAll nodes' ++ .close :: rest ->
    nodes = nodes' ∧ others = rest
  | [], nodes', h => by
      cases nodes' with
      | nil =>
          cases h
          exact ⟨rfl, rfl⟩
      | cons node' rest' =>
          rw [eventsAll, eventsAll, List.append_assoc, List.nil_append] at h
          exact absurd h.symm (events_append_ne_close node' _ _)
  | node :: more, nodes', h => by
      cases nodes' with
      | nil =>
          rw [eventsAll, eventsAll, List.append_assoc, List.nil_append] at h
          exact absurd h (events_append_ne_close node _ _)
      | cons node' more' =>
          rw [eventsAll, eventsAll, List.append_assoc, List.append_assoc] at h
          rcases events_append_inj node node' h with ⟨rfl, hmore⟩
          rcases eventsAll_close_inj more more' hmore with ⟨rfl, hrest⟩
          exact ⟨rfl, hrest⟩

end

end Node

/-!
# Events without an end

Events either close what is open around them or leave some element open themselves.
-/

open Node

/-- However long the events go on, they do not close what is open around them. -/
inductive Unclosed : List Event -> Prop where
  | nodes (nodes : List Node) : Unclosed (eventsAll nodes)
  | inner (nodes : List Node) (tag : Tag) {events : List Event} : Unclosed events ->
      Unclosed (eventsAll nodes ++ .start tag.name tag.attributes :: events)

theorem Unclosed.cons {events : List Event} (h : Unclosed events) (node : Node) :
    Unclosed (node.events ++ events) := by
  cases h with
  | nodes nodes => exact .nodes (node :: nodes)
  | inner nodes tag hevents =>
      have hinner := Unclosed.inner (node :: nodes) tag hevents
      rw [eventsAll, List.append_assoc] at hinner
      exact hinner

/-- Some end tag closes what is open around the events, with only nodes before it. -/
def Closes (events : List Event) : Prop :=
  exists nodes rest, events = eventsAll nodes ++ .close :: rest

theorem closes_cons {events : List Event} (h : Closes events ∨ Unclosed events) (node : Node) :
    Closes (node.events ++ events) ∨ Unclosed (node.events ++ events) := by
  rcases h with ⟨nodes, rest, rfl⟩ | h
  · apply Or.inl
    refine ⟨node :: nodes, rest, ?_⟩
    rw [eventsAll, List.append_assoc]
  · exact Or.inr (h.cons node)

theorem closes_or_unclosed (events : List Event) : Closes events ∨ Unclosed events := by
  -- What comes after a whole element is shorter than the events that begin with it.
  induction hlength : events.length using Nat.strongRecOn generalizing events with
  | ind n ih =>
      subst hlength
      cases events with
      | nil => exact Or.inr (.nodes [])
      | cons event rest =>
          have hrest := ih _ (Nat.lt_succ_self _) rest rfl
          cases htag : event.isTag with
          | false => exact closes_cons hrest (.single event htag)
          | true =>
              cases event with
              | close => exact Or.inl ⟨[], rest, rfl⟩
              | empty name attributes => exact closes_cons hrest (.empty ⟨name, attributes⟩)
              | start name attributes =>
                  rcases hrest with ⟨nodes, later, rfl⟩ | hopen
                  · have hlater := ih later.length (by simp; omega) later rfl
                    have hcons := closes_cons hlater (.paired ⟨name, attributes⟩ nodes)
                    simpa [Node.events] using hcons
                  · exact Or.inr (.inner [] ⟨name, attributes⟩ hopen)
              | _ => cases htag

/-!
# Documents

There is one root, and around it only what means nothing.
-/

/-- One element, and what may stand around it. -/
structure Document where
  before : List Event
  root : Node
  after : List Event
  precedes : forall event, event ∈ before -> event.MayPrecede
  isElement : root.tag?.isSome = true
  follows : forall event, event ∈ after -> event.MayFollow

namespace Document

def events (document : Document) : List Event :=
  document.before ++ document.root.events ++ document.after

theorem before_inj {before before' : List Event} {root root' : Node} {after after' : List Event}
    (hbefore : forall event, event ∈ before -> event.MayPrecede)
    (hbefore' : forall event, event ∈ before' -> event.MayPrecede)
    (hroot : root.tag?.isSome = true) (hroot' : root'.tag?.isSome = true)
    (h : before ++ (root.events ++ after) = before' ++ (root'.events ++ after')) :
    before = before' ∧ root = root' ∧ after = after' := by
  have hhead : forall {node : Node}, node.tag?.isSome = true -> forall (events rest : List Event)
      (event : Event), event.MayPrecede -> event :: rest ≠ node.events ++ events := by
    intro node hnode events rest event hevent heq
    cases node with
    | paired tag children =>
        cases heq
        cases hevent
    | empty tag =>
        cases heq
        cases hevent
    | single => cases hnode
  induction before generalizing before' with
  | nil =>
      cases before' with
      | nil =>
          rcases events_append_inj root root' h with ⟨rfl, rfl⟩
          exact ⟨rfl, rfl, rfl⟩
      | cons event rest =>
          exact absurd h.symm (hhead hroot _ _ _ (hbefore' event List.mem_cons_self))
  | cons event rest ih =>
      rw [List.forall_mem_cons] at hbefore
      cases before' with
      | nil => exact absurd h (hhead hroot' _ _ _ hbefore.1)
      | cons event' rest' =>
          rw [List.forall_mem_cons] at hbefore'
          rw [List.cons_append, List.cons_append, List.cons.injEq] at h
          rcases ih hbefore.2 hbefore'.2 h.2 with ⟨hrest, hroots, hafter⟩
          exact ⟨by rw [h.1, hrest], hroots, hafter⟩

/-- A document can be told from its events. -/
theorem events_injective {document other : Document} (h : document.events = other.events) :
    document = other := by
  rw [events, events, List.append_assoc, List.append_assoc] at h
  rcases before_inj document.precedes other.precedes document.isElement other.isElement h with
    ⟨hbefore, hroot, hafter⟩
  cases document
  cases other
  rw [mk.injEq]
  exact ⟨hbefore, hroot, hafter⟩

end Document

end Xml
end TutorialKit
