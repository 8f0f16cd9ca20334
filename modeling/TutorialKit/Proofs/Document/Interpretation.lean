import TutorialKit.Document.Reading
import TutorialKit.Proofs.Document.Conditions
import TutorialKit.Proofs.Xml.Tree

/-!
# What a tree says

A tree is given a meaning as a whole: an element is looked for by its name among the children of
another one, and where one may stand only, the last one counts.  A condition is nested no deeper
than the elements that it is taken from.
-/

namespace TutorialKit

open Xml

namespace Xml
namespace Node

/-!
# Children that are looked for

Of several elements with the name that is looked for, the last one counts.
-/

def lastText? (name : String) (nodes : List Node) : Option String :=
  (named name nodes).getLast?.map text

/-- What an attribute is in the last element with a name that has the attribute. -/
def lastAttribute? (name key : String) (nodes : List Node) : Option String :=
  ((named name nodes).filterMap (attribute? key)).getLast?

theorem lastText?_append (name : String) (nodes others : List Node) :
    lastText? name (nodes ++ others) = (lastText? name others).or (lastText? name nodes) := by
  rw [lastText?, named_append, List.getLast?_append, Option.map_or]
  rfl

theorem lastAttribute?_append (name key : String) (nodes others : List Node) :
    lastAttribute? name key (nodes ++ others) =
      (lastAttribute? name key others).or (lastAttribute? name key nodes) := by
  rw [lastAttribute?, named_append, List.filterMap_append, List.getLast?_append]
  rfl

end Node
end Xml

open Xml.Node

/-!
# Conditions

The name of an element tells whether it stands for a condition, and its children that do are
conditions inside it.
-/

namespace Condition

def elementNames : List String :=
  ["waitForComposed", "waitForEvent", "waitForNot", "waitForProperty", "waitForSignal",
    "waitForStepActivation", "waitForWindow"]

def ofTag? (tag : Tag) (children : List Condition) : Option Condition :=
  if tag.name = "waitForComposed" then
    some (.composed (((Attribute.lookup? "compositionType" tag.attributes).map
      Composition.ofLiteralOrDefault).getD default) children)
  else if tag.name = "waitForNot" then some (.negation children.getLast?)
  else (Leaf.ofElement? tag.name tag.attributes).map leaf

theorem ofTag?_of_notMem {tag : Tag} (h : tag.name ∉ elementNames) (children : List Condition) :
    ofTag? tag children = none := by
  simp only [elementNames, List.mem_cons, List.not_mem_nil, or_false, not_or] at h
  simp [ofTag?, Leaf.ofElement?, h]

mutual

def ofNode? : Node -> Option Condition
  | .paired tag children => ofTag? tag (ofNodes children)
  | .empty tag => ofTag? tag []
  | .single .. => none

def ofNodes : List Node -> List Condition
  | [] => []
  | node :: rest => (ofNode? node).toList ++ ofNodes rest

end

theorem ofNodes_eq_filterMap (nodes : List Node) : ofNodes nodes = nodes.filterMap ofNode? := by
  induction nodes with
  | nil => rfl
  | cons node rest ih =>
      rw [ofNodes, ih, List.filterMap_cons]
      cases ofNode? node with
      | none => rfl
      | some condition => rfl

theorem ofNodes_append (nodes others : List Node) :
    ofNodes (nodes ++ others) = ofNodes nodes ++ ofNodes others := by
  rw [ofNodes_eq_filterMap, ofNodes_eq_filterMap, ofNodes_eq_filterMap, List.filterMap_append]

end Condition

/-!
# Reactions, steps and tutorials

Each part is put together from the elements right inside its own.
-/

namespace Reaction

def ofNode (node : Node) : Reaction where
  trigger := ((node.attribute? "triggerType").map Trigger.ofLiteralOrDefault).getD default
  option := (lastAttribute? "option" "name" node.children).getD ""
  condition := (Condition.ofNodes node.children).getLast?
  response := ((node.attribute? "responseType").map Response.ofLiteralOrDefault).getD default
  nextStep := (lastAttribute? "nextStep" "id" node.children).getD ""
  code := (lastText? "customCode" node.children).getD ""

end Reaction

namespace Step

def ofNode (node : Node) : Step where
  id := (node.attribute? "id").getD ""
  text := (lastText? "text" node.children).getD ""
  setup := (lastText? "setup" node.children).getD ""
  tearDown := (lastText? "tearDown" node.children).getD ""
  reactions := (named "reaction" node.children).map Reaction.ofNode

end Step

namespace Tutorial

def ofNode (node : Node) : Tutorial where
  name := (node.attribute? "name").getD ""
  description := (lastText? "description" node.children).getD ""
  license := (lastText? "license" node.children).getD ""
  setup := (lastText? "setup" node.children).getD ""
  tearDown := (lastText? "tearDown" node.children).getD ""
  steps := (named "step" node.children).map Step.ofNode

end Tutorial

/-!
# Chains of conditions

A chain is a way down from one condition to the next; reading limits how long it is.
-/

namespace Xml
namespace Node

def holdsConditions (name : String) : Bool :=
  name = "waitForComposed" || name = "waitForNot"

def chainFrom (name : String) (inner : Nat) : Nat :=
  if holdsConditions name then 1 + inner else if name ∈ Condition.elementNames then 1 else 0

mutual

/--
The length of the longest chain of conditions that begins with a node.  After the first one, each
stands right inside a composed condition or a negation, which is the one before it.
-/
def conditionChain : Node -> Nat
  | paired tag children => chainFrom tag.name (conditionChainAll children)
  | empty tag => chainFrom tag.name 0
  | single .. => 0

def conditionChainAll : List Node -> Nat
  | [] => 0
  | node :: rest => max (conditionChain node) (conditionChainAll rest)

end

theorem conditionChainAll_le_iff {nodes : List Node} {limit : Nat} :
    conditionChainAll nodes <= limit ↔
      forall node, node ∈ nodes -> node.conditionChain <= limit := by
  induction nodes with
  | nil => simp [conditionChainAll]
  | cons node rest ih => rw [conditionChainAll, Nat.max_le, ih, List.forall_mem_cons]

/-- No chain of conditions that begins inside a reaction of the tutorial is longer than allowed. -/
def ChainsFit (root : Node) : Prop :=
  forall step, step ∈ named "step" root.children ->
    forall reaction, reaction ∈ named "reaction" step.children ->
      forall node, node ∈ reaction.children -> node.conditionChain <= maxConditionDepth

end Node
end Xml

namespace Condition

open Xml.Node

theorem chainFrom_of_leaf {name : String} {attributes : List Attribute} {l : Leaf}
    (h : Leaf.ofElement? name attributes = some l) (inner : Nat) : chainFrom name inner = 1 := by
  unfold Leaf.ofElement? at h
  simp only at h
  split_ifs at h with hevent hproperty hsignal hwindow hactivation
  · simp [hevent, chainFrom, elementNames, holdsConditions]
  · simp [hproperty, chainFrom, elementNames, holdsConditions]
  · simp [hsignal, chainFrom, elementNames, holdsConditions]
  · simp [hwindow, chainFrom, elementNames, holdsConditions]
  · simp [hactivation, chainFrom, elementNames, holdsConditions]

theorem chainFrom_le {inner outer : Nat} (h : inner <= outer) (name : String) :
    chainFrom name inner <= chainFrom name outer := by
  unfold chainFrom
  split
  · omega
  · exact Nat.le_refl _

theorem depth_ofTag? {tag : Tag} {children : List Condition} {condition : Condition}
    (h : ofTag? tag children = some condition) :
    condition.depth <= chainFrom tag.name (depthAll children) := by
  unfold ofTag? at h
  split_ifs at h with hcomposed hnot
  · cases h
    simp [hcomposed, chainFrom, holdsConditions, depth]
  · cases h
    have hchain : chainFrom tag.name (depthAll children) = 1 + depthAll children := by
      simp [hnot, chainFrom, holdsConditions]
    rw [hchain]
    cases hlast : children.getLast? with
    | none =>
        rw [depth]
        omega
    | some child =>
        have hchild := depthAll_le_iff.mp (Nat.le_refl (depthAll children)) child
          (List.mem_of_getLast? hlast)
        rw [depth]
        omega
  · rcases Option.map_eq_some_iff.mp h with ⟨l, hl, rfl⟩
    simp [chainFrom_of_leaf hl, depth]

mutual

theorem depth_ofNode? {condition : Condition} : (node : Node) ->
    ofNode? node = some condition -> condition.depth <= node.conditionChain
  | .paired tag children, h =>
      Nat.le_trans (depth_ofTag? h) (chainFrom_le (depthAll_ofNodes children) tag.name)
  | .empty tag, h => depth_ofTag? h
  | .single .., h => by cases h

theorem depthAll_ofNodes :
    (nodes : List Node) -> depthAll (ofNodes nodes) <= conditionChainAll nodes
  | [] => Nat.le_refl 0
  | node :: rest => by
      have hrest := depthAll_ofNodes rest
      rw [ofNodes, conditionChainAll]
      cases hnode : ofNode? node with
      | none =>
          rw [Option.toList_none, List.nil_append]
          omega
      | some condition =>
          have hfirst := depth_ofNode? node hnode
          rw [Option.toList_some, List.singleton_append, depthAll]
          omega

end

end Condition

end TutorialKit
