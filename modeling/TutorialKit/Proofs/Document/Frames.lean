import TutorialKit.Proofs.Document.Interpretation

/-!
# Frames and trees

What a frame makes of the nodes inside its element can be told from the nodes as a whole.  An
element hands over to the frame around it just what that frame takes from it, and whether it may
stand there is decided inside the frame that it opens.
-/

namespace TutorialKit

open Xml Xml.Node

/-!
# What nodes add

What a frame takes from the nodes inside its element is looked up among all of them.
-/

namespace Reaction

def receive (nodes : List Node) (reaction : Reaction) : Reaction :=
  { reaction with
    option := (lastAttribute? "option" "name" nodes).getD reaction.option
    condition := (Condition.ofNodes nodes).getLast?.or reaction.condition
    nextStep := (lastAttribute? "nextStep" "id" nodes).getD reaction.nextStep
    code := (lastText? "customCode" nodes).getD reaction.code }

end Reaction

namespace Step

def receive (nodes : List Node) (step : Step) : Step :=
  { step with
    text := (lastText? "text" nodes).getD step.text
    setup := (lastText? "setup" nodes).getD step.setup
    tearDown := (lastText? "tearDown" nodes).getD step.tearDown
    reactions := step.reactions ++ (named "reaction" nodes).map Reaction.ofNode }

end Step

namespace Tutorial

def receive (nodes : List Node) (tutorial : Tutorial) : Tutorial :=
  { tutorial with
    description := (lastText? "description" nodes).getD tutorial.description
    license := (lastText? "license" nodes).getD tutorial.license
    setup := (lastText? "setup" nodes).getD tutorial.setup
    tearDown := (lastText? "tearDown" nodes).getD tutorial.tearDown
    steps := tutorial.steps ++ (named "step" nodes).map Step.ofNode }

end Tutorial

namespace Frame

def receive (nodes : List Node) : Frame -> Frame
  | step s => step (s.receive nodes)
  | reaction r => reaction (r.receive nodes)
  | composed composition children => composed composition (children ++ Condition.ofNodes nodes)
  | negation child => negation ((Condition.ofNodes nodes).getLast?.or child)
  | leaf l nested => leaf l nested
  | text field content nested => text field (content ++ textAll nodes) nested
  | ignored nested => ignored nested

def Admits (level : Nat) (nodes : List Node) : Frame -> Prop
  | step _ => forall reaction, reaction ∈ named "reaction" nodes ->
      forall node, node ∈ reaction.children -> level + node.conditionChain <= maxConditionDepth
  | reaction _ => forall node, node ∈ nodes -> level + node.conditionChain <= maxConditionDepth
  | composed .. => forall node, node ∈ nodes -> level + node.conditionChain <= maxConditionDepth
  | negation _ => forall node, node ∈ nodes -> level + node.conditionChain <= maxConditionDepth
  | leaf .. => True
  | text .. => True
  | ignored _ => True

end Frame

/-!
# Nodes after one another

More nodes add to what those before them have left.
-/

theorem getD_or {α : Type} (first second : Option α) (default : α) :
    (first.or second).getD default = first.getD (second.getD default) := by
  cases first with
  | none => rfl
  | some a => rfl

theorem Reaction.receive_append (nodes others : List Node) (reaction : Reaction) :
    reaction.receive (nodes ++ others) = (reaction.receive nodes).receive others := by
  simp only [Reaction.receive, lastAttribute?_append, lastText?_append, Condition.ofNodes_append,
    List.getLast?_append, getD_or, Option.or_assoc]

theorem Step.receive_append (nodes others : List Node) (step : Step) :
    step.receive (nodes ++ others) = (step.receive nodes).receive others := by
  simp only [Step.receive, lastText?_append, named_append, List.map_append, getD_or,
    List.append_assoc]

theorem Tutorial.receive_append (nodes others : List Node) (tutorial : Tutorial) :
    tutorial.receive (nodes ++ others) = (tutorial.receive nodes).receive others := by
  simp only [Tutorial.receive, lastText?_append, named_append, List.map_append, getD_or,
    List.append_assoc]

namespace Frame

theorem receive_append (nodes others : List Node) (frame : Frame) :
    frame.receive (nodes ++ others) = (frame.receive nodes).receive others := by
  cases frame with
  | step s => exact congrArg step (s.receive_append nodes others)
  | reaction r => exact congrArg reaction (r.receive_append nodes others)
  | composed composition children =>
      simp [receive, Condition.ofNodes_append, List.append_assoc]
  | negation child =>
      simp [receive, Condition.ofNodes_append, List.getLast?_append, Option.or_assoc]
  | leaf l nested => rfl
  | text field content nested => simp [receive, textAll_append, String.append_assoc]
  | ignored nested => rfl

theorem isCondition_receive (nodes : List Node) (frame : Frame) :
    (frame.receive nodes).isCondition = frame.isCondition := by
  cases frame <;> rfl

theorem admits_append_iff {level : Nat} {nodes others : List Node} {frame : Frame} :
    frame.Admits level (nodes ++ others) ↔
      frame.Admits level nodes ∧ (frame.receive nodes).Admits level others := by
  cases frame with
  | step s => simp only [Admits, receive, named_append, List.forall_mem_append]
  | reaction r => exact List.forall_mem_append
  | composed composition children => exact List.forall_mem_append
  | negation child => exact List.forall_mem_append
  | leaf l nested => simp [Admits, receive]
  | text field content nested => simp [Admits, receive]
  | ignored nested => simp [Admits, receive]

end Frame

/-!
# Elements

A single element adds what it says, if its name is the one that is looked for.
-/

section Element

variable {node : Node} {tag : Tag}

theorem text_of_tag? (htag : node.tag? = some tag) : node.text = textAll node.children := by
  cases node with
  | paired tag children => rfl
  | empty tag => rfl
  | single event hevent => cases htag

theorem ofNode?_of_tag? (htag : node.tag? = some tag) :
    Condition.ofNode? node = Condition.ofTag? tag (Condition.ofNodes node.children) := by
  cases node with
  | paired tag' children =>
      cases htag
      rfl
  | empty tag' =>
      cases htag
      rfl
  | single event hevent => cases htag

theorem conditionChain_of_tag? (htag : node.tag? = some tag) :
    node.conditionChain = chainFrom tag.name (conditionChainAll node.children) := by
  cases node with
  | paired tag' children =>
      cases htag
      rfl
  | empty tag' =>
      cases htag
      rfl
  | single event hevent => cases htag

theorem named_of_tag? (htag : node.tag? = some tag) (name : String) :
    named name [node] = if tag.name = name then [node] else [] := by
  simp [named, hasName, htag, List.filter_singleton]

theorem lastText?_of_tag? (htag : node.tag? = some tag) (name : String) :
    lastText? name [node] = if tag.name = name then some (textAll node.children) else none := by
  rw [lastText?, named_of_tag? htag]
  split
  · rw [List.getLast?_singleton, Option.map_some, text_of_tag? htag]
  · rfl

theorem lastAttribute?_of_tag? (htag : node.tag? = some tag) (name key : String) :
    lastAttribute? name key [node] =
      if tag.name = name then Attribute.lookup? key tag.attributes else none := by
  rw [lastAttribute?, named_of_tag? htag]
  split
  · cases hkey : Attribute.lookup? key tag.attributes <;> simp [attribute?, htag, hkey]
  · rfl

theorem attribute?_of_tag? (htag : node.tag? = some tag) (key : String) :
    node.attribute? key = Attribute.lookup? key tag.attributes := by
  rw [attribute?, htag]
  rfl

theorem ofNodes_of_tag? (htag : node.tag? = some tag) :
    Condition.ofNodes [node] =
      (Condition.ofTag? tag (Condition.ofNodes node.children)).toList := by
  rw [Condition.ofNodes, Condition.ofNodes, List.append_nil, ofNode?_of_tag? htag]

theorem Reaction.ofNode_of_tag? (htag : node.tag? = some tag) :
    Reaction.ofNode node = (Reaction.ofAttributes tag.attributes).receive node.children := by
  simp only [ofNode, ofAttributes, receive, attribute?_of_tag? htag, Option.or_none]

theorem Step.ofNode_of_tag? (htag : node.tag? = some tag) :
    Step.ofNode node = (Step.ofAttributes tag.attributes).receive node.children := by
  simp only [ofNode, ofAttributes, receive, attribute?_of_tag? htag, List.nil_append]

theorem Tutorial.ofNode_of_tag? (htag : node.tag? = some tag) :
    Tutorial.ofNode node = (Tutorial.ofAttributes tag.attributes).receive node.children := by
  simp only [ofNode, ofAttributes, receive, attribute?_of_tag? htag, List.nil_append]

end Element

/-!
# An element inside a frame

Every kind of element opens a frame of its own, and what this frame comes to is taken over by the
frame around it.
-/

namespace Frame

def weight (frame : Frame) : Nat :=
  if frame.isCondition then 1 else 0

theorem conditionLevel_cons_eq (frame : Frame) (below : List Frame) :
    conditionLevel (frame :: below) = conditionLevel below + frame.weight :=
  List.countP_cons

/-- Where so many conditions are open, the frame may be opened and nodes be read inside it. -/
def Fits (level : Nat) (nodes : List Node) (frame : Frame) : Prop :=
  level + frame.weight <= maxConditionDepth ∧ frame.Admits (level + frame.weight) nodes

theorem chainFrom_eq_zero {name : String} {attributes : List Attribute}
    (hcomposed : name ≠ "waitForComposed") (hnot : name ≠ "waitForNot")
    (hleaf : Leaf.ofElement? name attributes = none) (inner : Nat) : chainFrom name inner = 0 := by
  unfold Leaf.ofElement? at hleaf
  simp only at hleaf
  split_ifs at hleaf with hevent hproperty hsignal hwindow hactivation
  simp [chainFrom, holdsConditions, Condition.elementNames, hcomposed, hnot, hevent, hproperty,
    hsignal, hwindow, hactivation]

theorem fits_holder_iff {level : Nat} {nodes : List Node} :
    (level + 1 <= maxConditionDepth ∧
      forall node, node ∈ nodes -> level + 1 + node.conditionChain <= maxConditionDepth) ↔
    level + (1 + conditionChainAll nodes) <= maxConditionDepth := by
  have hchain : conditionChainAll nodes <= maxConditionDepth - (level + 1) ↔ _ :=
    conditionChainAll_le_iff
  constructor
  · rintro ⟨hopen, hnodes⟩
    have hall := hchain.mpr (fun node hnode => Nat.le_sub_of_add_le' (hnodes node hnode))
    omega
  · intro hall
    have hnodes := hchain.mp (by omega)
    constructor
    · omega
    · intro node hnode
      have hle := hnodes node hnode
      omega

theorem fits_inCondition_iff (level : Nat) (tag : Tag) (nodes : List Node) :
    (inCondition tag.name tag.attributes).Fits level nodes ↔
      level + chainFrom tag.name (conditionChainAll nodes) <= maxConditionDepth := by
  unfold inCondition
  split_ifs with hcomposed hnot
  · rw [hcomposed]
    exact fits_holder_iff
  · rw [hnot]
    exact fits_holder_iff
  · cases hleaf : Leaf.ofElement? tag.name tag.attributes with
    | none =>
        rw [chainFrom_eq_zero hcomposed hnot hleaf]
        simp [Fits, weight, isCondition, Admits]
    | some l =>
        rw [Condition.chainFrom_of_leaf hleaf]
        simp [Fits, weight, isCondition, Admits]

theorem part_inCondition (tag : Tag) (nodes : List Node) :
    ((inCondition tag.name tag.attributes).receive nodes).part =
      ((Condition.ofTag? tag (Condition.ofNodes nodes)).map Part.condition).getD .nothing := by
  unfold inCondition Condition.ofTag?
  split_ifs with hcomposed hnot
  · rfl
  · simp [receive, part]
  · cases Leaf.ofElement? tag.name tag.attributes with
    | none => rfl
    | some l => rfl

theorem leave?_inCondition (name : String) (attributes : List Attribute) :
    (inCondition name attributes).leave? = none := by
  unfold inCondition
  split_ifs
  · rfl
  · rfl
  · cases Leaf.ofElement? name attributes with
    | none => rfl
    | some l => rfl

theorem leave?_of_enter {frame entered above : Frame} {name : String} {attributes : List Attribute}
    (h : frame.enter name attributes = (entered, some above)) : above.leave? = none := by
  cases frame with
  | step s =>
      cases h
      unfold inStep
      split_ifs <;> rfl
  | reaction r =>
      cases h
      unfold inReaction
      split_ifs
      · rfl
      · exact leave?_inCondition name attributes
  | composed composition children =>
      cases h
      exact leave?_inCondition name attributes
  | negation child =>
      cases h
      exact leave?_inCondition name attributes
  | leaf l nested => cases h
  | text field content nested => cases h
  | ignored nested => cases h

theorem leave?_receive {frame : Frame} (h : frame.leave? = none) (nodes : List Node) :
    (frame.receive nodes).leave? = none := by
  cases frame with
  | leaf l nested =>
      cases nested with
      | zero => rfl
      | succ nested => cases h
  | text field content nested =>
      cases nested with
      | zero => rfl
      | succ nested => cases h
  | ignored nested =>
      cases nested with
      | zero => rfl
      | succ nested => cases h
  | _ => rfl

variable {frame entered above : Frame} {node : Node} {tag : Tag} {level : Nat}

theorem step_receive (htag : node.tag? = some tag) (s : Step) :
    s.receive [node] =
      s.addPart ((inStep tag.name tag.attributes).receive node.children).part := by
  rw [Step.receive, lastText?_of_tag? htag, lastText?_of_tag? htag, lastText?_of_tag? htag,
    named_of_tag? htag]
  unfold inStep
  by_cases htext : tag.name = "text"
  · simp [htext, receive, part, Step.addPart]
  by_cases hsetup : tag.name = "setup"
  · simp [hsetup, receive, part, Step.addPart]
  by_cases htearDown : tag.name = "tearDown"
  · simp [htearDown, receive, part, Step.addPart]
  by_cases hreaction : tag.name = "reaction"
  · simp [hreaction, receive, part, Step.addPart, Reaction.ofNode_of_tag? htag]
  · simp [htext, hsetup, htearDown, hreaction, receive, part, Step.addPart]

theorem addAttributes_eq (htag : node.tag? = some tag) (r : Reaction) :
    r.addAttributes tag.name tag.attributes = { r with
      option := (lastAttribute? "option" "name" [node]).getD r.option
      nextStep := (lastAttribute? "nextStep" "id" [node]).getD r.nextStep } := by
  rw [lastAttribute?_of_tag? htag, lastAttribute?_of_tag? htag, Reaction.addAttributes]
  by_cases hoption : tag.name = "option"
  · simp [hoption]
  by_cases hnext : tag.name = "nextStep"
  · simp [hnext]
  · simp [hoption, hnext]

theorem reaction_receive (htag : node.tag? = some tag) (r : Reaction) :
    r.receive [node] =
      (r.addAttributes tag.name tag.attributes).addPart
        ((inReaction tag.name tag.attributes).receive node.children).part := by
  rw [addAttributes_eq htag, Reaction.receive, ofNodes_of_tag? htag, lastText?_of_tag? htag,
    inReaction]
  by_cases hcode : tag.name = "customCode"
  · simp [hcode, Condition.ofTag?, Leaf.ofElement?, receive, part, Reaction.addPart]
  · rw [if_neg hcode, if_neg hcode, part_inCondition]
    cases Condition.ofTag? tag (Condition.ofNodes node.children) with
    | none => simp [Reaction.addPart]
    | some condition => simp [Reaction.addPart]

theorem tutorial_receive (htag : node.tag? = some tag) (tutorial : Tutorial) :
    tutorial.receive [node] =
      tutorial.addPart ((inTutorial tag.name tag.attributes).receive node.children).part := by
  rw [Tutorial.receive, lastText?_of_tag? htag, lastText?_of_tag? htag, lastText?_of_tag? htag,
    lastText?_of_tag? htag, named_of_tag? htag]
  unfold inTutorial
  by_cases hdescription : tag.name = "description"
  · simp [hdescription, receive, part, Tutorial.addPart]
  by_cases hlicense : tag.name = "license"
  · simp [hlicense, receive, part, Tutorial.addPart]
  by_cases hsetup : tag.name = "setup"
  · simp [hsetup, receive, part, Tutorial.addPart]
  by_cases htearDown : tag.name = "tearDown"
  · simp [htearDown, receive, part, Tutorial.addPart]
  by_cases hstep : tag.name = "step"
  · simp [hstep, receive, part, Tutorial.addPart, Step.ofNode_of_tag? htag]
  · simp [hdescription, hlicense, hsetup, htearDown, hstep, receive, part, Tutorial.addPart]

theorem receive_of_enter (htag : node.tag? = some tag)
    (h : frame.enter tag.name tag.attributes = (entered, some above)) :
    frame.receive [node] = entered.addPart (above.receive node.children).part := by
  cases frame with
  | step s =>
      cases h
      exact congrArg step (step_receive htag s)
  | reaction r =>
      cases h
      exact congrArg reaction (reaction_receive htag r)
  | composed composition children =>
      cases h
      rw [part_inCondition, receive, ofNodes_of_tag? htag]
      cases Condition.ofTag? tag (Condition.ofNodes node.children) with
      | none => simp [addPart]
      | some condition => rfl
  | negation child =>
      cases h
      rw [part_inCondition, receive, ofNodes_of_tag? htag]
      cases Condition.ofTag? tag (Condition.ofNodes node.children) with
      | none => rfl
      | some condition => rfl
  | leaf l nested => cases h
  | text field content nested => cases h
  | ignored nested => cases h

theorem fits_inStep_iff (htag : node.tag? = some tag) (hlevel : level <= maxConditionDepth) :
    (inStep tag.name tag.attributes).Fits level node.children ↔
      forall reaction, reaction ∈ named "reaction" [node] ->
        forall inner, inner ∈ reaction.children ->
          level + inner.conditionChain <= maxConditionDepth := by
  rw [named_of_tag? htag]
  unfold inStep
  split_ifs with htext hsetup htearDown hreaction
  all_goals simp_all [Fits, Admits, weight, isCondition]

theorem fits_inReaction_iff (htag : node.tag? = some tag) (level : Nat) :
    (inReaction tag.name tag.attributes).Fits level node.children ↔
      level + node.conditionChain <= maxConditionDepth := by
  rw [conditionChain_of_tag? htag]
  unfold inReaction
  split_ifs with hcode
  · simp [hcode, Fits, Admits, weight, isCondition, chainFrom, holdsConditions,
      Condition.elementNames]
  · exact fits_inCondition_iff level tag node.children

/-- Whether an element may stand in a frame is decided inside the frame that it opens. -/
theorem admits_of_enter (htag : node.tag? = some tag) (hlevel : level <= maxConditionDepth)
    (h : frame.enter tag.name tag.attributes = (entered, some above)) :
    frame.Admits level [node] ↔ above.Fits level node.children := by
  have hcondition : (forall other, other ∈ [node] ->
      level + other.conditionChain <= maxConditionDepth) ↔
        (inCondition tag.name tag.attributes).Fits level node.children := by
    rw [List.forall_mem_singleton, conditionChain_of_tag? htag, fits_inCondition_iff]
  cases frame with
  | step s =>
      cases h
      exact (fits_inStep_iff htag hlevel).symm
  | reaction r =>
      cases h
      rw [fits_inReaction_iff htag level, Admits, List.forall_mem_singleton]
  | composed composition children =>
      cases h
      exact hcondition
  | negation child =>
      cases h
      exact hcondition
  | leaf l nested => cases h
  | text field content nested => cases h
  | ignored nested => cases h

theorem leave?_of_enter_none (htag : node.tag? = some tag)
    (h : frame.enter tag.name tag.attributes = (entered, none)) :
    (entered.receive node.children).leave? = some (frame.receive [node]) := by
  cases frame with
  | leaf l nested =>
      cases h
      rfl
  | text field content nested =>
      cases h
      simp [receive, leave?, textAll, text_of_tag? htag]
  | ignored nested =>
      cases h
      rfl
  | step s => cases h
  | reaction r => cases h
  | composed composition children => cases h
  | negation child => cases h

theorem admits_of_enter_none (node : Node) (level : Nat)
    (h : frame.enter tag.name tag.attributes = (entered, none)) :
    frame.Admits level [node] ∧ entered.Admits level node.children := by
  cases frame with
  | leaf l nested =>
      cases h
      exact ⟨trivial, trivial⟩
  | text field content nested =>
      cases h
      exact ⟨trivial, trivial⟩
  | ignored nested =>
      cases h
      exact ⟨trivial, trivial⟩
  | step s => cases h
  | reaction r => cases h
  | composed composition children => cases h
  | negation child => cases h

theorem fits_inTutorial_iff (htag : node.tag? = some tag) :
    (inTutorial tag.name tag.attributes).Fits 0 node.children ↔
      forall s, s ∈ named "step" [node] ->
        forall reaction, reaction ∈ named "reaction" s.children ->
          forall inner, inner ∈ reaction.children ->
            inner.conditionChain <= maxConditionDepth := by
  rw [named_of_tag? htag]
  unfold inTutorial
  split_ifs with hdescription hlicense hsetup htearDown hstep
  all_goals simp_all [Fits, Admits, weight, isCondition]

theorem leave?_inTutorial (name : String) (attributes : List Attribute) :
    (inTutorial name attributes).leave? = none := by
  unfold inTutorial
  split_ifs <;> rfl

theorem weight_of_enter {name : String} {attributes : List Attribute} {next : Option Frame}
    (h : frame.enter name attributes = (entered, next)) : entered.weight = frame.weight := by
  cases frame <;> cases h <;> rfl

end Frame

end TutorialKit
