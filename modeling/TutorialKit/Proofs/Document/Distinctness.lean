import TutorialKit.Document.Written
import TutorialKit.Editing.Equality
import TutorialKit.Proofs.Document.Frames
import TutorialKit.Proofs.Xml.Writing

/-!
# Documents of different tutorials

A document says all there is in a tutorial, however deep its conditions are nested.  Two open
tutorials are equal exactly if the same text is written for both.
-/

namespace TutorialKit

open Xml Xml.Node

/-!
# Elements as nodes

A written element is a node, and what is looked up among such nodes is what was written.
-/

namespace Xml
namespace Element

mutual

def toNode : Element -> Node
  | empty name attributes => .empty ⟨name, attributes⟩
  | text name content => .paired ⟨name, []⟩ [.single (.text content) rfl]
  | parent name attributes children => .paired ⟨name, attributes⟩ (toNodes children)

def toNodes : List Element -> List Node
  | [] => []
  | element :: rest => toNode element :: toNodes rest

end

theorem toNodes_append (elements others : List Element) :
    toNodes (elements ++ others) = toNodes elements ++ toNodes others := by
  induction elements with
  | nil => rfl
  | cons element rest ih => rw [List.cons_append, toNodes, toNodes, ih, List.cons_append]

theorem tag?_toNode (element : Element) :
    element.toNode.tag? = some ⟨element.name, element.attributes⟩ := by
  cases element <;> rfl

theorem named_toNodes {name : String} {elements : List Element}
    (h : forall element, element ∈ elements -> element.name = name) (other : String) :
    named other (toNodes elements) = if name = other then toNodes elements else [] := by
  induction elements with
  | nil => simp [toNodes, named]
  | cons element rest ih =>
      rw [List.forall_mem_cons] at h
      rw [toNodes, ← List.singleton_append, named_append, named_of_tag? element.tag?_toNode,
        ih h.2, h.1]
      split <;> rfl

end Element

namespace Node

theorem lastText?_of_named {name : String} {nodes : List Node} (h : named name nodes = []) :
    lastText? name nodes = none := by
  rw [lastText?, h]
  rfl

theorem lastAttribute?_of_named {name : String} {nodes : List Node} (h : named name nodes = [])
    (key : String) : lastAttribute? name key nodes = none := by
  rw [lastAttribute?, h]
  rfl

end Node

namespace Element

theorem lastText?_optionalText (name other content : String) :
    lastText? name (toNodes (optionalText other content)) =
      if other = name ∧ content ≠ "" then some content else none := by
  unfold optionalText
  split_ifs with hempty hboth hboth
  · exact absurd hempty hboth.2
  · rfl
  · rw [toNodes, toNodes, lastText?_of_tag? (tag?_toNode _)]
    simp [Element.name, hboth.1, toNode, Node.children, textAll, Node.text, Event.content]
  · rw [toNodes, toNodes, lastText?_of_tag? (tag?_toNode _), if_neg]
    exact fun hname => hboth ⟨hname, hempty⟩

theorem named_of_ne {name : String} {elements : List Element}
    (h : forall element, element ∈ elements -> element.name ≠ name) :
    named name (toNodes elements) = [] := by
  induction elements with
  | nil => rfl
  | cons element rest ih =>
      rw [List.forall_mem_cons] at h
      rw [toNodes, ← List.singleton_append, named_append, named_of_tag? element.tag?_toNode,
        if_neg h.1, ih h.2]
      rfl

theorem name_of_mem_optionalText {name content : String} {element : Element}
    (h : element ∈ optionalText name content) : element.name = name := by
  unfold optionalText at h
  split at h
  · cases h
  · rw [List.mem_singleton.mp h]
    rfl

theorem named_optionalText {name other : String} (h : other ≠ name) (content : String) :
    named name (toNodes (optionalText other content)) = [] :=
  named_of_ne fun _ helement => name_of_mem_optionalText helement ▸ h

theorem lastAttribute?_of_empty (name key value : String) :
    lastAttribute? name key (toNodes (if value = "" then [] else [.empty name [⟨key, value⟩]])) =
      if value = "" then none else some value := by
  split_ifs with h
  · rfl
  · rw [toNodes, toNodes, lastAttribute?_of_tag? (tag?_toNode _)]
    simp [Element.name, Element.attributes, Attribute.lookup?]

theorem name_of_mem_empty {name key value : String} {element : Element}
    (h : element ∈ if value = "" then [] else [.empty name [⟨key, value⟩]]) :
    element.name = name := by
  split at h
  · cases h
  · rw [List.mem_singleton.mp h]
    rfl

theorem ofNodes_of_names {elements : List Element}
    (h : forall element, element ∈ elements -> element.name ∉ Condition.elementNames) :
    Condition.ofNodes (toNodes elements) = [] := by
  induction elements with
  | nil => rfl
  | cons element rest ih =>
      rw [List.forall_mem_cons] at h
      rw [toNodes, Condition.ofNodes, ih h.2, ofNode?_of_tag? element.tag?_toNode,
        Condition.ofTag?_of_notMem h.1]
      rfl

theorem getD_of_empty (content : String) :
    (if content = "" then none else some content).getD "" = content := by
  split_ifs with h
  · exact h.symm
  · rfl

theorem map_toNodes {α : Type} {toElement : α -> Element} {ofNode : Node -> α}
    (h : forall a, ofNode (toElement a).toNode = a) (items : List α) :
    (toNodes (items.map toElement)).map ofNode = items := by
  induction items with
  | nil => rfl
  | cons first rest ih => rw [List.map_cons, toNodes, List.map_cons, h, ih]

end Element
end Xml

open Xml.Element

/-!
# What the element of a part says

The tree of a written element says the part that the element was written for.
-/

namespace Condition

theorem ofNodes_toElements {conditions : List Condition}
    (h : forall condition, condition ∈ conditions ->
      ofNode? condition.toElement.toNode = some condition) :
    ofNodes (toNodes (toElements conditions)) = conditions := by
  induction conditions with
  | nil => rfl
  | cons first rest ih =>
      rw [List.forall_mem_cons] at h
      rw [toElements, toNodes, ofNodes, h.1, ih h.2]
      rfl

theorem ofNode?_toElement (condition : Condition) :
    ofNode? condition.toElement.toNode = some condition := by
  induction condition with
  | leaf l =>
      have hleaf := ofElement?_attributes l
      rw [toElement, toNode, ofNode?, ofTag?]
      simp only [hleaf]
      cases l <;> rfl
  | composed composition children ih =>
      have hchildren := ofNodes_toElements ih
      have htag (nested : List Condition) : ofTag?
          ⟨"waitForComposed", [⟨"compositionType", composition.literal⟩]⟩ nested =
            some (.composed composition nested) := by
        simp [ofTag?, Attribute.lookup?, Composition.ofLiteralOrDefault_literal]
      cases children with
      | nil => exact htag []
      | cons first rest =>
          rw [toElement, toNode, ofNode?]
          rw [toElements] at hchildren
          rw [hchildren, htag]
  | unset => rfl
  | negation child ih =>
      rw [toElement, toNode, ofNode?, toNodes, toNodes, ofNodes, ih]
      rfl

end Condition

namespace Condition

theorem name_toElement (condition : Condition) : condition.toElement.name ∈ elementNames := by
  cases condition with
  | leaf l => cases l <;> simp [toElement, Element.name, Leaf.kindName, elementNames]
  | composed composition children =>
      cases children <;> simp [toElement, Element.name, elementNames]
  | negation child => cases child <;> simp [toElement, Element.name, elementNames]

end Condition

namespace Reaction

theorem ofNode_toElement (reaction : Reaction) : ofNode reaction.toElement.toNode = reaction := by
  rcases reaction with ⟨trigger, option, condition, response, nextStep, code⟩
  have hcondition (name : String) (hname : name ∉ Condition.elementNames) :
      named name (toNodes (condition.toList.map Condition.toElement)) = [] := by
    apply named_of_ne
    intro element helement heq
    rcases List.mem_map.mp helement with ⟨c, _, rfl⟩
    exact hname (heq ▸ c.name_toElement)
  have hempty (name key value other : String) (h : name ≠ other) :
      named other (toNodes (if value = "" then [] else [.empty name [⟨key, value⟩]])) = [] :=
    named_of_ne fun _ helement => name_of_mem_empty helement ▸ h
  have hnone (name key value : String) (h : name ∉ Condition.elementNames) : Condition.ofNodes
      (toNodes (if value = "" then [] else [.empty name [⟨key, value⟩]])) = [] :=
    ofNodes_of_names fun _ helement => name_of_mem_empty helement ▸ h
  have hcode : Condition.ofNodes (toNodes (optionalText "customCode" code)) = [] :=
    ofNodes_of_names fun _ helement => by rw [name_of_mem_optionalText helement]; decide
  have hconditions : Condition.ofNodes (toNodes (condition.toList.map Condition.toElement)) =
      condition.toList := by
    cases condition with
    | none => rfl
    | some c =>
        rw [Option.toList_some, List.map_singleton, toNodes, toNodes, Condition.ofNodes,
          c.ofNode?_toElement]
        rfl
  have htrigger : ((⟨trigger, option, condition, response, nextStep, code⟩ :
      Reaction).toElement.toNode.attribute? "triggerType").map Trigger.ofLiteralOrDefault =
        some trigger := by
    simp [toElement, toNode, attribute?, tag?, Attribute.lookup?,
      Trigger.ofLiteralOrDefault_literal]
  have hresponse : ((⟨trigger, option, condition, response, nextStep, code⟩ :
      Reaction).toElement.toNode.attribute? "responseType").map Response.ofLiteralOrDefault =
        some response := by
    simp [toElement, toNode, attribute?, tag?, Attribute.lookup?,
      Response.ofLiteralOrDefault_literal]
  rw [ofNode, htrigger, hresponse]
  simp [toElement, toNode, Node.children, toNodes_append, lastText?_append, lastText?_optionalText,
    lastAttribute?_append, Condition.ofNodes_append, hempty, hcode, hconditions, hnone, hcondition,
    named_optionalText, lastText?_of_named, lastAttribute?_of_named, lastAttribute?_of_empty,
    getD_of_empty, Condition.elementNames]
  cases condition <;> rfl

end Reaction

namespace Step

theorem ofNode_toElement (step : Step) : ofNode step.toElement.toNode = step := by
  rcases step with ⟨id, text, setup, tearDown, reactions⟩
  have hreactions (name : String) :
      named name (toNodes (reactions.map Reaction.toElement)) =
        if "reaction" = name then toNodes (reactions.map Reaction.toElement) else [] :=
    named_toNodes (by simp [Reaction.toElement, Element.name]) name
  have hid : ((toElement ⟨id, text, setup, tearDown, reactions⟩).toNode.attribute? "id").getD "" =
      id := lookup?_optional "id" id
  rw [ofNode, hid]
  simp [toElement, toNode, Node.children, toNodes_append, lastText?_append, lastText?_optionalText,
    named_append, named_optionalText, hreactions, lastText?_of_named, getD_of_empty,
    map_toNodes Reaction.ofNode_toElement]

end Step

namespace Tutorial

theorem ofNode_toElement (tutorial : Tutorial) : ofNode tutorial.toElement.toNode = tutorial := by
  rcases tutorial with ⟨name, description, license, setup, tearDown, steps⟩
  have hsteps (name : String) :
      named name (toNodes (steps.map Step.toElement)) =
        if "step" = name then toNodes (steps.map Step.toElement) else [] :=
    named_toNodes (by simp [Step.toElement, Element.name]) name
  have hname : ((toElement ⟨name, description, license, setup, tearDown, steps⟩).toNode.attribute?
      "name").getD "" = name := lookup?_optional "name" name
  rw [ofNode, hname]
  simp [toElement, textElements, toNode, Node.children, toNodes_append, lastText?_append,
    lastText?_optionalText, named_append, named_optionalText, hsteps, lastText?_of_named,
    getD_of_empty, map_toNodes Step.ofNode_toElement]

end Tutorial

/-!
# Elements of documents are sound

No element of a document is at fault: names are names, attributes are given once, and text stands in
elements for text only.
-/

/-- The names of the elements that are written with text in them. -/
def textNames : List String :=
  ["description", "license", "setup", "tearDown", "text", "customCode"]

namespace Xml
namespace Element

theorem soundAll_iff {texts : List String} {elements : List Element} :
    SoundAll texts elements ↔ forall element, element ∈ elements -> element.Sound texts := by
  induction elements with
  | nil => simp [SoundAll]
  | cons element rest ih => rw [SoundAll, ih, List.forall_mem_cons]

theorem soundAll_append_iff {texts : List String} {elements others : List Element} :
    SoundAll texts (elements ++ others) ↔ SoundAll texts elements ∧ SoundAll texts others := by
  simp only [soundAll_iff, List.forall_mem_append]

theorem soundAll_map {α : Type} {texts : List String} {toElement : α -> Element} {items : List α}
    (h : forall a, a ∈ items -> (toElement a).Sound texts) :
    SoundAll texts (items.map toElement) := by
  rw [soundAll_iff]
  intro element helement
  rcases List.mem_map.mp helement with ⟨a, ha, rfl⟩
  exact h a ha

theorem soundAll_optionalText {texts : List String} {name : String} (hname : IsName name.toList)
    (htexts : name ∈ texts) (content : String) : SoundAll texts (optionalText name content) := by
  unfold optionalText
  split
  · trivial
  · exact ⟨⟨⟨hname, by simp⟩, htexts⟩, trivial⟩

theorem soundAll_empty {texts : List String} {name key : String} (hname : IsName name.toList)
    (hkey : IsName key.toList) (value : String) :
    SoundAll texts (if value = "" then [] else [.empty name [⟨key, value⟩]]) := by
  split
  · trivial
  · exact ⟨⟨hname, (legible_singleton hkey value).names⟩, trivial⟩

end Element
end Xml

theorem Condition.sound_toElement (condition : Condition) :
    condition.toElement.Sound textNames := by
  induction condition with
  | leaf l =>
      have hname : IsName l.kindName.toList := by
        cases l <;> simp only [Leaf.kindName] <;> decide
      exact ⟨hname, (legible_attributes l).names⟩
  | composed composition children ih =>
      have htag : IsTag "waitForComposed" [⟨"compositionType", composition.literal⟩] :=
        ⟨by decide, (legible_singleton (by decide) composition.literal).names⟩
      have hchildren : SoundAll textNames (toElements children) := by
        induction children with
        | nil => trivial
        | cons first rest hrest =>
            rw [List.forall_mem_cons] at ih
            exact ⟨ih.1, hrest ih.2⟩
      cases children with
      | nil => exact htag
      | cons first rest => exact ⟨htag, by decide, hchildren⟩
  | unset => exact ⟨by decide, by simp⟩
  | negation child ih => exact ⟨⟨by decide, by simp⟩, by decide, ih, trivial⟩

theorem Reaction.sound_toElement (reaction : Reaction) :
    reaction.toElement.Sound textNames := by
  refine ⟨⟨by decide, ?attributes⟩, by decide, ?children⟩
  case attributes =>
    rw [List.forall_mem_cons, List.forall_mem_singleton]
    have htrigger : IsName "triggerType".toList := by decide
    have hresponse : IsName "responseType".toList := by decide
    exact ⟨htrigger, hresponse⟩
  case children =>
    simp only [soundAll_append_iff]
    exact ⟨⟨⟨soundAll_empty (by decide) (by decide) _,
      soundAll_map fun condition _ => condition.sound_toElement⟩,
      soundAll_optionalText (by decide) (by decide) _⟩, soundAll_empty (by decide) (by decide) _⟩

theorem Step.sound_toElement (step : Step) : step.toElement.Sound textNames := by
  refine ⟨⟨by decide, (legible_optional (by decide) step.id).names⟩, by decide, ?_⟩
  simp only [soundAll_append_iff]
  exact ⟨⟨⟨soundAll_optionalText (by decide) (by decide) _,
    soundAll_optionalText (by decide) (by decide) _⟩,
    soundAll_optionalText (by decide) (by decide) _⟩,
    soundAll_map fun reaction _ => reaction.sound_toElement⟩

theorem Tutorial.sound_toElement (tutorial : Tutorial) : tutorial.toElement.Sound textNames := by
  refine ⟨⟨by decide, (legible_optional (by decide) tutorial.name).names⟩, by decide, ?_⟩
  simp only [Tutorial.textElements, soundAll_append_iff]
  exact ⟨⟨⟨⟨soundAll_optionalText (by decide) (by decide) _,
    soundAll_optionalText (by decide) (by decide) _⟩,
    soundAll_optionalText (by decide) (by decide) _⟩,
    soundAll_optionalText (by decide) (by decide) _⟩,
    soundAll_map fun step _ => step.sound_toElement⟩

theorem Tutorial.toXml_inj {tutorial other : Tutorial} :
    tutorial.toXml = other.toXml ↔ tutorial = other := by
  constructor
  · intro h
    have hchars := String.ofList_injective h
    rw [toXmlChars_eq_write, toXmlChars_eq_write, List.append_cancel_right_eq,
      List.append_cancel_left_eq] at hchars
    have helement := write_inj tutorial.sound_toElement other.sound_toElement hchars
    rw [← tutorial.ofNode_toElement, helement, other.ofNode_toElement]
  · intro h
    rw [h]

/-!
# Open documents

Open tutorials are compared by what is kept of them, and their documents say just that.
-/

/--
Two open tutorials are equal exactly if the same text is written for both, however deep their
conditions are nested.
-/
theorem LiveTutorial.beq_iff_toXml_eq (tutorial other : LiveTutorial) :
    (tutorial == other) = true ↔ tutorial.content.toXml = other.content.toXml := by
  rw [Tutorial.toXml_inj, LiveTutorial.beq_iff]

end TutorialKit
