import TutorialKit.Proofs.Document.Passage

/-!
# Conditions of a document

A condition is read wherever it may stand, and refused where it is nested too deep: the number of
conditions that are open and the depth of the one that is read are exactly what is limited.
-/

namespace TutorialKit

open Xml ReadState

/-!
# Conditions

A condition may stand in a reaction or in another condition, and opens there unless as many are open
as may be.
-/

namespace Frame

def Hosts : Frame -> Prop
  | reaction _ => True
  | composed .. => True
  | negation _ => True
  | _ => False

theorem Hosts.deaf {frame : Frame} (h : frame.Hosts) (below : List Frame) :
    Deaf (frame :: below) := by
  intro content
  cases frame with
  | step => cases h
  | leaf => cases h
  | text => cases h
  | ignored => cases h
  | _ => rfl

end Frame

def conditionLevel (frames : List Frame) : Nat :=
  frames.countP Frame.isCondition

theorem enter_of_hosts {frame : Frame} (h : frame.Hosts) {name : String}
    (hname : name ∉ ["option", "nextStep", "customCode"]) (attributes : List Attribute) :
    frame.enter name attributes = (frame, some (Frame.inCondition name attributes)) := by
  simp only [List.mem_cons, List.not_mem_nil, or_false, not_or] at hname
  cases frame with
  | step => cases h
  | leaf => cases h
  | text => cases h
  | ignored => cases h
  | reaction r =>
      simp [Frame.enter, Reaction.addAttributes, Frame.inReaction, hname]
  | _ => rfl

theorem opens_condition {frame above : Frame} {below : List Frame} (h : frame.Hosts)
    {name : String} (attributes : List Attribute)
    (hname : name ∉ ["option", "nextStep", "customCode"])
    (habove : Frame.inCondition name attributes = above) (hcondition : above.isCondition = true)
    (hlevel : conditionLevel (frame :: below) <= maxConditionDepth) (tutorial : Tutorial) :
    Opens (conditionLevel (frame :: below) < maxConditionDepth) tutorial (frame :: below) name
      attributes tutorial (above :: frame :: below) := by
  have hpush : openElement tutorial (frame :: below) name attributes =
      push tutorial (frame :: below) above := by
    rw [openElement, enter_of_hosts h hname, habove]
  constructor
  · intro hlt
    have hne := Nat.ne_of_lt hlt
    rw [conditionLevel] at hne
    rw [hpush, push, hcondition]
    simp [hne]
  · intro hge
    have heq : conditionLevel (frame :: below) = maxConditionDepth := by omega
    rw [conditionLevel] at heq
    rw [hpush, push, hcondition]
    simp [heq]

/-!
# Attributes that may be left out

An attribute with nothing to say is not written, and one that is missing is read as if it said
nothing.
-/

theorem lookup?_append (name : String) (first rest : List Attribute) :
    Attribute.lookup? name (first ++ rest) =
      (Attribute.lookup? name first).or (Attribute.lookup? name rest) := by
  simp [Attribute.lookup?, List.find?_append, Option.map_or]

theorem lookup?_optional (name value : String) :
    (Attribute.lookup? name (Attribute.optional name value)).getD "" = value := by
  unfold Attribute.optional
  split
  · rename_i h
    rw [h]
    rfl
  · simp [Attribute.lookup?]

theorem lookup?_optional_of_ne {name other : String} (h : other ≠ name) (value : String) :
    Attribute.lookup? name (Attribute.optional other value) = none := by
  unfold Attribute.optional
  split
  · rfl
  · simp [Attribute.lookup?, h]

theorem ofElement?_attributes (l : Leaf) : Leaf.ofElement? l.kindName l.attributes = some l := by
  cases l <;>
    simp [Leaf.ofElement?, Leaf.kindName, Leaf.attributes, lookup?_append, lookup?_optional,
      lookup?_optional_of_ne]

theorem optional_sublist (name value : String) :
    (Attribute.optional name value).Sublist [⟨name, value⟩] := by
  unfold Attribute.optional
  split
  · exact List.nil_sublist _
  · exact List.Sublist.refl _

theorem legible_singleton {name : String} (hname : IsName name.toList) (value : String) :
    Legible [⟨name, value⟩] :=
  legible_of_names _ [name] rfl (by simpa using hname) (by simp)

theorem legible_optional {name : String} (hname : IsName name.toList) (value : String) :
    Legible (Attribute.optional name value) :=
  (legible_singleton hname value).sublist (optional_sublist name value)

theorem legible_attributes (l : Leaf) : Legible l.attributes := by
  cases l with
  | event receiver name =>
      have hlegible := legible_of_names [⟨"receiverName", receiver⟩, ⟨"eventName", name⟩]
        ["receiverName", "eventName"] rfl (by decide) (by decide)
      exact hlegible.sublist ((optional_sublist _ _).append (optional_sublist _ _))
  | property object name value =>
      have hlegible := legible_of_names
        [⟨"objectName", object⟩, ⟨"propertyName", name⟩, ⟨"value", value⟩]
        ["objectName", "propertyName", "value"] rfl (by decide) (by decide)
      exact hlegible.sublist
        (((optional_sublist _ _).append (optional_sublist _ _)).append (optional_sublist _ _))
  | signal emitter name =>
      have hlegible := legible_of_names [⟨"emitterName", emitter⟩, ⟨"signalName", name⟩]
        ["emitterName", "signalName"] rfl (by decide) (by decide)
      exact hlegible.sublist ((optional_sublist _ _).append (optional_sublist _ _))
  | window name => exact legible_optional (by decide) name
  | stepActivation => exact legible_nil

/-!
# Conditions inside one another

The induction is on the condition: its children are read in the frame that it opens, one after the
other.
-/

theorem depthAll_le_iff {conditions : List Condition} {limit : Nat} :
    Condition.depthAll conditions <= limit ↔
      forall condition, condition ∈ conditions -> condition.depth <= limit := by
  induction conditions with
  | nil => simp [Condition.depthAll]
  | cons first rest ih => rw [Condition.depthAll, Nat.max_le, ih, List.forall_mem_cons]

theorem depth_composed_le_iff {composition : Composition} {children : List Condition}
    {level limit : Nat} :
    level + (Condition.composed composition children).depth <= limit ↔
      level < limit ∧ forall child, child ∈ children -> level + 1 + child.depth <= limit := by
  have hdepth : (Condition.composed composition children).depth =
      1 + Condition.depthAll children := by rw [Condition.depth]
  rw [hdepth]
  constructor
  · intro h
    have hall : Condition.depthAll children <= limit - (level + 1) := by omega
    refine ⟨by omega, ?_⟩
    intro child hchild
    have hdepth := depthAll_le_iff.mp hall child hchild
    omega
  · rintro ⟨hlt, hall⟩
    have hdepth : Condition.depthAll children <= limit - (level + 1) := by
      rw [depthAll_le_iff]
      intro child hchild
      have hle := hall child hchild
      omega
    omega

theorem conditionLevel_cons {frame : Frame} (h : frame.isCondition = true)
    (below : List Frame) : conditionLevel (frame :: below) = conditionLevel below + 1 := by
  rw [conditionLevel, List.countP_cons_of_pos h]
  rfl

/-- Wherever a condition may stand it is read, as long as that is not too deep. -/
def ReadsCondition (condition : Condition) : Prop :=
  forall (frame : Frame) (below : List Frame) (tutorial : Tutorial) (opened : List (List Char))
    (level : Nat), frame.Hosts -> conditionLevel (frame :: below) <= maxConditionDepth ->
    Reads (conditionLevel (frame :: below) + condition.depth <= maxConditionDepth) opened
      (inside tutorial (frame :: below)) (condition.toElement.write level) opened
      (inside tutorial (frame.addPart (.condition condition) :: below))

theorem reads_leaf (l : Leaf) : ReadsCondition (.leaf l) := by
  intro frame below tutorial opened level hhosts hlevel
  have hname : l.kindName ∉ ["option", "nextStep", "customCode"] := by
    cases l <;> simp [Leaf.kindName]
  have hletters : IsName l.kindName.toList := by
    cases l <;> simp only [Leaf.kindName] <;> decide
  have habove : Frame.inCondition l.kindName l.attributes = .leaf l 0 := by
    rw [Frame.inCondition, ofElement?_attributes]
    cases l <;> rfl
  have hopens := opens_condition hhosts _ hname habove rfl hlevel tutorial
  rw [Condition.toElement, Element.write_empty]
  exact (reads_emptyTag hletters (legible_attributes l) (hhosts.deaf below) hopens opened
    level).congr Iff.rfl

theorem reads_conditions {children : List Condition}
    (hreads : forall child, child ∈ children -> ReadsCondition child)
    {below : List Frame} (tutorial : Tutorial) (opened : List (List Char)) (level : Nat)
    (composition : Composition) (held : List Condition)
    (hlevel : conditionLevel below < maxConditionDepth) :
    Reads (forall child, child ∈ children ->
        conditionLevel below + 1 + child.depth <= maxConditionDepth) opened
      (inside tutorial (.composed composition held :: below))
      (Element.writeAll level (Condition.toElements children)) opened
      (inside tutorial (.composed composition (held ++ children) :: below)) := by
  induction children generalizing held with
  | nil =>
      rw [List.append_nil]
      exact (reads_nil opened _).congr (by simp)
  | cons first rest ih =>
      rw [List.forall_mem_cons] at hreads
      have hframe : conditionLevel (.composed composition held :: below) =
          conditionLevel below + 1 := conditionLevel_cons rfl below
      have hfirst := hreads.1 (.composed composition held) below tutorial opened level trivial
        (by rw [hframe]; exact hlevel)
      rw [hframe] at hfirst
      have hrest := ih hreads.2 (held ++ [first])
      rw [List.append_assoc] at hrest
      rw [Condition.toElements, Element.writeAll_cons]
      exact (hfirst.append fun _ => hrest).congr (by rw [List.forall_mem_cons])

theorem reads_composed (composition : Composition) {children : List Condition}
    (hreads : forall child, child ∈ children -> ReadsCondition child) :
    ReadsCondition (.composed composition children) := by
  intro frame below tutorial opened level hhosts hlevel
  have hname : IsName "waitForComposed".toList := by decide
  have hlegible : Legible [⟨"compositionType", composition.literal⟩] :=
    legible_singleton (by decide) _
  have habove : Frame.inCondition "waitForComposed"
      [⟨"compositionType", composition.literal⟩] = .composed composition [] := by
    simp [Frame.inCondition, Attribute.lookup?, Composition.ofLiteralOrDefault_literal]
  have hopens := opens_condition hhosts _ (by decide) habove rfl hlevel tutorial
  cases children with
  | nil =>
      rw [Condition.toElement, Element.write_empty]
      exact reads_emptyTag hname hlegible (hhosts.deaf below) hopens opened level
  | cons first rest =>
      rw [Condition.toElement, Element.write_parent, List.append_assoc]
      have hstart := reads_startTag hname hlegible (hhosts.deaf below) hopens opened level
      have hopened : Frame.Hosts (.composed composition (first :: rest)) := trivial
      have hend : Reads True ("waitForComposed".toList :: opened)
          (inside tutorial (.composed composition (first :: rest) :: frame :: below))
          (lineBreak level ++ endTag "waitForComposed") opened
          (inside tutorial
            (frame.addPart (.condition (.composed composition (first :: rest))) :: below)) :=
        reads_endTag hname (hopened.deaf (frame :: below)) opened level
      have hchildren (hlt : conditionLevel (frame :: below) < maxConditionDepth) :=
        reads_conditions hreads tutorial ("waitForComposed".toList :: opened) (level + 1)
          composition [] hlt
      exact ((hstart.append hchildren).thenAll hend).congr depth_composed_le_iff.symm

theorem reads_unset : ReadsCondition (.negation none) := by
  intro frame below tutorial opened level hhosts hlevel
  have habove : Frame.inCondition "waitForNot" [] = .negation none := rfl
  have hopens := opens_condition hhosts [] (by decide) habove rfl hlevel tutorial
  rw [Condition.toElement, Element.write_empty]
  exact reads_emptyTag (by decide) legible_nil (hhosts.deaf below) hopens opened level

theorem reads_negation {child : Condition} (hreads : ReadsCondition child) :
    ReadsCondition (.negation (some child)) := by
  intro frame below tutorial opened level hhosts hlevel
  have hname : IsName "waitForNot".toList := by decide
  have habove : Frame.inCondition "waitForNot" [] = .negation none := rfl
  have hopens := opens_condition hhosts [] (by decide) habove rfl hlevel tutorial
  have hstart := reads_startTag hname legible_nil (hhosts.deaf below) hopens opened level
  have hlevel' : conditionLevel (.negation none :: frame :: below) =
      conditionLevel (frame :: below) + 1 := conditionLevel_cons rfl _
  have hchild (hlt : conditionLevel (frame :: below) < maxConditionDepth) :=
    hreads (.negation none) (frame :: below) tutorial ("waitForNot".toList :: opened)
      (level + 1) trivial (by rw [hlevel']; exact hlt)
  have hopened : Frame.Hosts (.negation (some child)) := trivial
  have hend : Reads True ("waitForNot".toList :: opened)
      (inside tutorial (.negation (some child) :: frame :: below))
      (lineBreak level ++ endTag "waitForNot") opened
      (inside tutorial (frame.addPart (.condition (.negation (some child))) :: below)) :=
    reads_endTag hname (hopened.deaf (frame :: below)) opened level
  rw [Condition.toElement, Element.write_parent, Element.writeAll_cons, Element.writeAll_nil,
    List.append_nil, List.append_assoc]
  refine ((hstart.append hchild).thenAll hend).congr ?_
  rw [hlevel', Condition.depth]
  omega

theorem reads_condition (condition : Condition) : ReadsCondition condition := by
  induction condition with
  | leaf l => exact reads_leaf l
  | composed composition children ih => exact reads_composed composition ih
  | unset => exact reads_unset
  | negation child ih => exact reads_negation ih

end TutorialKit
