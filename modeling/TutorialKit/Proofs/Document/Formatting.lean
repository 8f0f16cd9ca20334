import TutorialKit.Proofs.Document.Acceptance
import TutorialKit.Proofs.Document.RoundTrip

/-!
# Documents that are written anew

A text that is read can be written anew from its tutorial.  This loses nothing of the tutorial, and
a text that has been written anew stays as it is.
-/

namespace TutorialKit

open Xml Xml.Node

/-!
# Conditions that have been read

A condition that has been read is no deeper than reading allows, so that it can be written and read
again.
-/

theorem mem_conditions_ofNode {node : Node} {condition : Condition}
    (h : condition ∈ (Reaction.ofNode node).conditions) :
    exists child, child ∈ node.children ∧ Condition.ofNode? child = some condition := by
  rw [Reaction.conditions, Option.mem_toList] at h
  have hmem := List.mem_of_getLast? h
  rw [Condition.ofNodes_eq_filterMap, List.mem_filterMap] at hmem
  exact hmem

theorem shallow_ofNode {root : Node} (h : root.ChainsFit) :
    Shallow (Tutorial.ofNode root).conditions := by
  intro condition hcondition
  rcases List.mem_flatMap.mp hcondition with ⟨step, hstep, hcondition⟩
  rcases List.mem_flatMap.mp hcondition with ⟨reaction, hreaction, hcondition⟩
  rcases List.mem_map.mp hstep with ⟨stepNode, hstepNode, rfl⟩
  rcases List.mem_map.mp hreaction with ⟨reactionNode, hreactionNode, rfl⟩
  rcases mem_conditions_ofNode hcondition with ⟨child, hchild, hchildCondition⟩
  have hchain := h stepNode hstepNode reactionNode hreactionNode child hchild
  exact Nat.le_trans (Condition.depth_ofNode? child hchildCondition) hchain

namespace Tutorial

theorem ofXml_toXml_of_shallow {tutorial : Tutorial} (h : Shallow tutorial.conditions) :
    ofXml tutorial.toXml = .ok tutorial := by
  rcases ofXml_toXml_eq tutorial with ⟨cs, hread⟩
  rw [hread, (reads_document tutorial 0 ['\n']).1 h]
  rfl

def rewrite (text : String) : Except ReadError String :=
  (ofXml text).map toXml

/--
The tutorial of a text is the one that is read when the text has been rewritten, and to rewrite it
once more changes nothing.
-/
theorem rewrite_lossless_and_idempotent (text : String) :
    (rewrite text >>= ofXml) = ofXml text ∧ (rewrite text >>= rewrite) = rewrite text := by
  unfold rewrite
  cases hread : ofXml text with
  | error error => simp [bind, Except.bind, Except.map]
  | ok tutorial =>
      rcases ofXml_eq_ok_iff.mp hread with ⟨document, _, _, hchains, rfl⟩
      have hagain := ofXml_toXml_of_shallow (shallow_ofNode hchains)
      simp [bind, Except.bind, Except.map, hagain]

end Tutorial

end TutorialKit
