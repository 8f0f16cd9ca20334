import Mathlib.Data.List.Perm.Basic
import TutorialKit.Proofs.Document.Acceptance
import TutorialKit.Proofs.Xml.Closing

/-!
# What is looked up in a tag

Attributes are looked up by their names, and the name of an element tells which ones.  Two tags of
an element are read alike if one has the attributes of the other, in any order, and besides them
only such that are not known.
-/

namespace TutorialKit

open Xml

def knownAttributes (name : String) : List String :=
  if name ∈ ["tutorial", "option"] then ["name"]
  else if name ∈ ["step", "nextStep"] then ["id"]
  else if name = "reaction" then ["triggerType", "responseType"]
  else if name = "waitForComposed" then ["compositionType"]
  else if name = "waitForEvent" then ["receiverName", "eventName"]
  else if name = "waitForProperty" then ["objectName", "propertyName", "value"]
  else if name = "waitForSignal" then ["emitterName", "signalName"]
  else if name = "waitForWindow" then ["windowObjectName"]
  else []

/-!
# Tags that say the same

Reading an element asks for the values of some attributes, and for nothing else in its tag.
-/

def SaysSame (name : String) (attributes others : List Attribute) : Prop :=
  forall key, key ∈ knownAttributes name ->
    Attribute.lookup? key others = Attribute.lookup? key attributes

namespace SaysSame

variable {name : String} {attributes others : List Attribute}

theorem inTutorial (h : SaysSame name attributes others) :
    Frame.inTutorial name others = Frame.inTutorial name attributes := by
  by_cases hstep : name = "step"
  · subst hstep
    have hid := h "id" (by decide)
    simp [Frame.inTutorial, Step.ofAttributes, hid]
  · simp [Frame.inTutorial, hstep]

theorem inStep (h : SaysSame name attributes others) :
    Frame.inStep name others = Frame.inStep name attributes := by
  by_cases hreaction : name = "reaction"
  · subst hreaction
    have htrigger := h "triggerType" (by decide)
    have hresponse := h "responseType" (by decide)
    simp [Frame.inStep, Reaction.ofAttributes, htrigger, hresponse]
  · simp [Frame.inStep, hreaction]

theorem ofElement? (h : SaysSame name attributes others) :
    Leaf.ofElement? name others = Leaf.ofElement? name attributes := by
  by_cases hevent : name = "waitForEvent"
  · subst hevent
    simp [Leaf.ofElement?, h "receiverName" (by decide), h "eventName" (by decide)]
  by_cases hproperty : name = "waitForProperty"
  · subst hproperty
    simp [Leaf.ofElement?, h "objectName" (by decide), h "propertyName" (by decide),
      h "value" (by decide)]
  by_cases hsignal : name = "waitForSignal"
  · subst hsignal
    simp [Leaf.ofElement?, h "emitterName" (by decide), h "signalName" (by decide)]
  by_cases hwindow : name = "waitForWindow"
  · subst hwindow
    simp [Leaf.ofElement?, h "windowObjectName" (by decide)]
  · simp [Leaf.ofElement?, hevent, hproperty, hsignal, hwindow]

theorem inCondition (h : SaysSame name attributes others) :
    Frame.inCondition name others = Frame.inCondition name attributes := by
  by_cases hcomposed : name = "waitForComposed"
  · subst hcomposed
    simp [Frame.inCondition, h "compositionType" (by decide)]
  · simp [Frame.inCondition, hcomposed, h.ofElement?]

theorem addAttributes (h : SaysSame name attributes others) (reaction : Reaction) :
    reaction.addAttributes name others = reaction.addAttributes name attributes := by
  by_cases hoption : name = "option"
  · subst hoption
    simp [Reaction.addAttributes, h "name" (by decide)]
  by_cases hnext : name = "nextStep"
  · subst hnext
    simp [Reaction.addAttributes, h "id" (by decide)]
  · simp [Reaction.addAttributes, hoption, hnext]

theorem enter (h : SaysSame name attributes others) (frame : Frame) :
    frame.enter name others = frame.enter name attributes := by
  cases frame with
  | step s => rw [Frame.enter, Frame.enter, h.inStep]
  | reaction r =>
      rw [Frame.enter, Frame.enter, h.addAttributes, Frame.inReaction, Frame.inReaction,
        h.inCondition]
  | composed composition children => rw [Frame.enter, Frame.enter, h.inCondition]
  | negation child => rw [Frame.enter, Frame.enter, h.inCondition]
  | _ => rfl

theorem openElement (h : SaysSame name attributes others) (tutorial : Tutorial)
    (frames : List Frame) :
    ReadState.openElement tutorial frames name others =
      ReadState.openElement tutorial frames name attributes := by
  cases frames with
  | nil => rw [ReadState.openElement, ReadState.openElement, h.inTutorial]
  | cons top below => rw [ReadState.openElement, ReadState.openElement, h.enter]

theorem openRoot (h : SaysSame name attributes others) :
    ReadState.openRoot name others = ReadState.openRoot name attributes := by
  by_cases hname : name = "tutorial"
  · subst hname
    simp [ReadState.openRoot, Tutorial.ofAttributes, h "name" (by decide)]
  · simp [ReadState.openRoot, hname]

theorem take_start (h : SaysSame name attributes others) (state : ReadState) :
    state.take (.start name others) = state.take (.start name attributes) := by
  cases state with
  | prolog => exact h.openRoot
  | inside tutorial frames => exact h.openElement tutorial frames
  | epilog tutorial => rfl

theorem take_empty (h : SaysSame name attributes others) (state : ReadState) :
    state.take (.empty name others) = state.take (.empty name attributes) := by
  cases state with
  | prolog => simp only [ReadState.take, ReadState.inProlog, h.openRoot]
  | inside tutorial frames => simp only [ReadState.take, ReadState.inRoot, h.openElement]
  | epilog tutorial => rfl

end SaysSame

/-!
# Attributes in another order

Attributes that are given once are found alike in any order.
-/

theorem lookup?_eq_some_iff {attributes : List Attribute}
    (h : (attributes.map Attribute.name).Nodup) {name value : String} :
    Attribute.lookup? name attributes = some value ↔ ⟨name, value⟩ ∈ attributes := by
  induction attributes with
  | nil => simp [Attribute.lookup?]
  | cons first rest ih =>
      rw [List.map_cons, List.nodup_cons] at h
      have hrest := ih h.2
      rcases first with ⟨key, content⟩
      rw [Attribute.lookup?, List.find?_cons, List.mem_cons, Attribute.mk.injEq]
      by_cases hkey : key = name
      · subst hkey
        have hnot : ⟨key, value⟩ ∉ rest := fun hmem => h.1 (List.mem_map.mpr ⟨_, hmem, rfl⟩)
        simp [hnot, eq_comm]
      · rw [beq_eq_false_iff_ne.mpr hkey]
        simpa [Ne.symm hkey, Attribute.lookup?] using hrest

theorem lookup?_perm {attributes others : List Attribute} (h : attributes.Perm others)
    (hunique : (attributes.map Attribute.name).Nodup) (name : String) :
    Attribute.lookup? name attributes = Attribute.lookup? name others := by
  apply Option.ext
  intro value
  rw [lookup?_eq_some_iff hunique, lookup?_eq_some_iff ((h.map _).nodup_iff.mp hunique), h.mem_iff]

theorem lookup?_eq_none {attributes : List Attribute} {name : String}
    (h : forall a, a ∈ attributes -> a.name ≠ name) : Attribute.lookup? name attributes = none := by
  simpa [Attribute.lookup?] using h

namespace Xml

theorem names_of_decodes {raws : List RawAttribute} {attributes : List Attribute}
    (h : List.Forall₂ Decodes raws attributes) :
    attributes.map Attribute.name = (raws.map RawAttribute.key).map String.ofList := by
  induction h with
  | nil => rfl
  | cons hdecodes _ ih => rw [List.map_cons, List.map_cons, List.map_cons, ih, hdecodes.name]

/--
A tag of an element with this name says what another one does: it holds the same attributes in some
order, and besides them such that are not known.
-/
structure Elaborates (content content' : List Char) : Prop where
  name : tagName content' = tagName content
  attributes : exists raws raws' extra : List RawAttribute,
    AttributeList raws (content.dropWhile fun c => !isSpace c) ∧
    AttributeList raws' (content'.dropWhile fun c => !isSpace c) ∧
    raws'.Perm (raws ++ extra) ∧ (raws'.map RawAttribute.key).Nodup ∧
    forall raw, raw ∈ extra ->
      String.ofList raw.key ∉ knownAttributes (Event.elementName content) ∧
        exists a, Decodes raw a

theorem AttributeList.unique {raws others : List RawAttribute} {cs : List Char}
    (h : AttributeList raws cs) (hother : AttributeList others cs)
    (hunique : (raws.map RawAttribute.key).Nodup)
    (hunique' : (others.map RawAttribute.key).Nodup) : raws = others := by
  have hfresh : Fresh [] raws := ⟨hunique, fun _ _ => rfl⟩
  have hfresh' : Fresh [] others := ⟨hunique', fun _ _ => rfl⟩
  have hscan := h.scan 0 0 hfresh
  rw [hother.scan 0 0 hfresh'] at hscan
  cases hscan
  rfl

theorem elaborates_of_rawAttributes {content content' : List Char} (extra : List RawAttribute)
    (hname : tagName content' = tagName content) (hfault : (rawAttributes content).fault = none)
    (hfault' : (rawAttributes content').fault = none)
    (hperm : (rawAttributes content').found.Perm ((rawAttributes content).found ++ extra))
    (hextra : forall raw, raw ∈ extra ->
      String.ofList raw.key ∉ knownAttributes (Event.elementName content) ∧
        (decodeAttribute raw).isOk = true) : Elaborates content content' := by
  have hscan : rawAttributes content = ⟨(rawAttributes content).found, none⟩ := by rw [← hfault]
  have hscan' : rawAttributes content' = ⟨(rawAttributes content').found, none⟩ := by
    rw [← hfault']
  rcases attributeList_of_scan hscan' with ⟨hlist', hfresh⟩
  refine ⟨hname, _, _, extra, (attributeList_of_scan hscan).1, hlist', hperm, hfresh.1, ?_⟩
  intro raw hraw
  rcases hextra raw hraw with ⟨hknown, hok⟩
  refine ⟨hknown, ?_⟩
  cases hdecode : decodeAttribute raw with
  | error error =>
      rw [hdecode] at hok
      cases hok
  | ok a => exact ⟨a, decodeAttribute_eq_ok_iff.mp hdecode⟩

theorem exists_decoded {raws : List RawAttribute}
    (h : forall raw, raw ∈ raws -> exists a, Decodes raw a) :
    exists attributes, List.Forall₂ Decodes raws attributes := by
  induction raws with
  | nil => exact ⟨[], .nil⟩
  | cons first rest ih =>
      rw [List.forall_mem_cons] at h
      rcases h.1 with ⟨a, ha⟩
      rcases ih h.2 with ⟨attributes, hattributes⟩
      exact ⟨a :: attributes, .cons ha hattributes⟩

theorem names_nodup {raws : List RawAttribute} {attributes : List Attribute}
    (h : List.Forall₂ Decodes raws attributes) (hunique : (raws.map RawAttribute.key).Nodup) :
    (attributes.map Attribute.name).Nodup := by
  rw [names_of_decodes h]
  exact hunique.map fun _ _ => String.ofList_inj.mp

theorem Elaborates.exists_attributes {content content' : List Char} {attributes : List Attribute}
    (h : Elaborates content content') (hholds : TagHolds content attributes) :
    exists others, TagHolds content' others ∧
      SaysSame (Event.elementName content) attributes others := by
  rcases h.attributes with ⟨raws, raws', extra, hraws, hraws', hperm, hunique', hextra⟩
  rcases hholds.written with ⟨written, hwritten, hunique, hdecodes⟩
  have hall : ((raws ++ extra).map RawAttribute.key).Nodup := (hperm.map _).nodup_iff.mp hunique'
  rw [List.map_append] at hall
  cases hraws.unique hwritten hall.of_append_left hunique
  rcases exists_decoded fun raw hraw => (hextra raw hraw).2 with ⟨added, hadded⟩
  have htogether : List.Forall₂ Decodes (raws ++ extra) (attributes ++ added) :=
    List.rel_append hdecodes hadded
  rcases List.perm_comp_forall₂ hperm htogether with ⟨others, hothers, hpermuted⟩
  refine ⟨others, ⟨raws', hraws', hunique', hothers⟩, ?_⟩
  intro key hkey
  have hnone : Attribute.lookup? key added = none := by
    apply lookup?_eq_none
    rintro a ha rfl
    have hname : a.name ∈ (extra.map RawAttribute.key).map String.ofList := by
      rw [← names_of_decodes hadded]
      exact List.mem_map_of_mem ha
    rcases List.mem_map.mp hname with ⟨_, hmem, heq⟩
    rcases List.mem_map.mp hmem with ⟨raw, hraw, rfl⟩
    rw [← heq] at hkey
    exact (hextra raw hraw).1 hkey
  rw [lookup?_perm hpermuted (names_nodup hothers hunique'), lookup?_append, hnone, Option.or_none]

end Xml

namespace ReadState

open Xml

variable {state later : ReadState} {content content' : List Char}

theorem takeToken_start_of_elaborates (h : Elaborates content content')
    (htake : state.takeToken (.start content) = .ok later) :
    state.takeToken (.start content') = .ok later := by
  rcases takeToken_eq_ok_iff.mp htake with ⟨_, hmeans, hevent⟩
  cases hmeans with
  | start hholds =>
      rcases h.exists_attributes hholds with ⟨others, hothers, hsame⟩
      refine takeToken_eq_ok_iff.mpr ⟨_, .start hothers, ?_⟩
      rw [Event.elementName, h.name]
      exact (hsame.take_start state).trans hevent

theorem takeToken_empty_of_elaborates (h : Elaborates content content')
    (htake : state.takeToken (.empty content) = .ok later) :
    state.takeToken (.empty content') = .ok later := by
  rcases takeToken_eq_ok_iff.mp htake with ⟨_, hmeans, hevent⟩
  cases hmeans with
  | empty hholds =>
      rcases h.exists_attributes hholds with ⟨others, hothers, hsame⟩
      refine takeToken_eq_ok_iff.mpr ⟨_, .empty hothers, ?_⟩
      rw [Event.elementName, h.name]
      exact (hsame.take_empty state).trans hevent

end ReadState

end TutorialKit
