import TutorialKit.Proofs.Document.Traversal
import TutorialKit.Proofs.Xml.Tags

/-!
# Texts that are read

Which texts hold a tutorial can be said without the states of the reader.  A text is read exactly if
its tokens spell a document whose root has the right name and whose conditions are not nested too
deep, and then the tutorial is what the tree of the document says.
-/

namespace TutorialKit

open Xml Xml.Node

/-!
# Tokens and events

A token is taken in as the event that it stands for, so reading a text is reading its events.
-/

namespace ReadState

theorem takeToken_eq_ok_iff {state later : ReadState} {token : Token} :
    state.takeToken token = .ok later ↔
      exists event, token.Means event ∧ state.take event = .ok later := by
  simp only [← ofToken_eq_ok_iff]
  rw [takeToken]
  cases Event.ofToken token with
  | error error =>
      constructor
      · intro h
        cases h
      · intro h
        rcases h with ⟨event, hevent, _⟩
        cases hevent
  | ok event =>
      constructor
      · intro h
        exact ⟨event, rfl, h⟩
      · intro h
        rcases h with ⟨event', hevent, h⟩
        cases hevent
        exact h

theorem finish_eq_ok_iff {state : ReadState} {tutorial : Tutorial} :
    state.finish = .ok tutorial ↔ state = epilog tutorial := by
  cases state with
  | prolog => simp [finish]
  | inside tutorial' frames => simp [finish]
  | epilog tutorial' => simp [finish]

theorem run_eq_ok_iff {state : ReadState} {tokens : List (Located Token)} {ending : Ending}
    {tutorial : Tutorial} :
    state.run tokens ending = .ok tutorial ↔
      (exists offset, ending = .complete offset) ∧
        exists events, List.Forall₂ Token.Means (tokens.map Located.value) events ∧
          state.takeAll events = .ok (epilog tutorial) := by
  induction tokens generalizing state with
  | nil =>
      simp only [List.map_nil, List.forall₂_nil_left_iff, exists_eq_left, takeAll, Except.ok.injEq]
      cases ending with
      | complete offset =>
          rw [run, mapError_eq_ok_iff, finish_eq_ok_iff]
          simp
      | failed error offset => simp [run]
  | cons token rest ih =>
      have hrun : state.run (token :: rest) ending = .ok tutorial ↔
          exists next, state.takeToken token.value = .ok next ∧
            next.run rest ending = .ok tutorial := by
        rw [run]
        cases state.takeToken token.value with
        | error fault => simp
        | ok next => simp
      rw [hrun]
      simp only [takeToken_eq_ok_iff, ih, List.map_cons, List.forall₂_cons_left_iff]
      constructor
      · intro h
        rcases h with ⟨next, ⟨event, hevent, hnext⟩, hending, events, hevents, htake⟩
        exact ⟨hending, event :: events, ⟨event, events, hevent, hevents, rfl⟩,
          takeAll_cons_eq_ok_iff.mpr ⟨next, hnext, htake⟩⟩
      · intro h
        rcases h with ⟨hending, _, ⟨event, events, hevent, hevents, rfl⟩, htake⟩
        rcases takeAll_cons_eq_ok_iff.mp htake with ⟨next, hnext, hrest⟩
        exact ⟨next, ⟨event, hevent, hnext⟩, hending, events, hevents, hrest⟩

/-!
# Around the root element

Before and behind the root element nothing may stand that has content.
-/

theorem take_prolog_eq_ok_iff {event : Event} (h : event.isTag = false) {state : ReadState} :
    prolog.take event = .ok state ↔ event.MayPrecede ∧ state = prolog := by
  cases event with
  | start name attributes => cases h
  | empty name attributes => cases h
  | close => cases h
  | text content =>
      rw [take, inProlog, Event.MayPrecede]
      by_cases hblank : isBlank content.toList = true
      · simp [hblank, eq_comm]
      · simp [hblank]
  | characterData content => simp [take, inProlog, Event.MayPrecede]
  | reference character => simp [take, inProlog, Event.MayPrecede]
  | comment => simp [take, inProlog, Event.MayPrecede, eq_comm]
  | instruction => simp [take, inProlog, Event.MayPrecede, eq_comm]
  | declaration => simp [take, inProlog, Event.MayPrecede, eq_comm]
  | doctype => simp [take, inProlog, Event.MayPrecede, eq_comm]

theorem take_epilog_eq_ok_iff {tutorial : Tutorial} {event : Event} {state : ReadState} :
    (epilog tutorial).take event = .ok state ↔ event.MayFollow ∧ state = epilog tutorial := by
  cases event with
  | text content =>
      rw [take, inEpilog, Event.MayFollow]
      by_cases hblank : isBlank content.toList = true
      · simp [hblank, eq_comm]
      · simp [hblank]
  | comment => simp [take, inEpilog, Event.MayFollow, eq_comm]
  | instruction => simp [take, inEpilog, Event.MayFollow, eq_comm]
  | _ => simp [take, inEpilog, Event.MayFollow]

theorem takeAll_epilog_eq_ok_iff {tutorial : Tutorial} {events : List Event} {state : ReadState} :
    (epilog tutorial).takeAll events = .ok state ↔
      (forall event, event ∈ events -> event.MayFollow) ∧ state = epilog tutorial := by
  induction events with
  | nil => simp [takeAll, eq_comm]
  | cons event rest ih =>
      rw [takeAll_cons_eq_ok_iff, List.forall_mem_cons, and_assoc, ← ih]
      constructor
      · intro h
        rcases h with ⟨between, hbetween, hrest⟩
        rcases take_epilog_eq_ok_iff.mp hbetween with ⟨hevent, rfl⟩
        exact ⟨hevent, hrest⟩
      · intro h
        exact ⟨_, take_epilog_eq_ok_iff.mpr ⟨h.1, rfl⟩, h.2⟩

/-!
# The root element

What is between the tags of the root element is read as its children are, and its end leads behind
it.
-/

theorem openRoot_eq_ok_iff {name : String} {attributes : List Attribute} {state : ReadState} :
    openRoot name attributes = .ok state ↔
      name = "tutorial" ∧ state = inside (Tutorial.ofAttributes attributes) [] := by
  rw [openRoot]
  by_cases hname : name = "tutorial"
  · simp [hname, eq_comm]
  · simp [hname]

theorem take_emptyRoot (name : String) (attributes : List Attribute) :
    prolog.take (.empty name attributes) = prolog.takeAll [.start name attributes, .close] := by
  rw [takeAll]
  simp only [takeAll_singleton, take, inProlog]
  cases hopen : openRoot name attributes with
  | error fault => rfl
  | ok state =>
      rcases openRoot_eq_ok_iff.mp hopen with ⟨_, rfl⟩
      rfl

theorem takeAll_root_events {root : Node} {tag : Tag} (htag : root.tag? = some tag) :
    prolog.takeAll root.events = openRoot tag.name tag.attributes >>= fun state =>
      state.takeAll (eventsAll root.children ++ [Event.close]) := by
  cases root with
  | paired tag' children =>
      cases htag
      rfl
  | empty tag' =>
      cases htag
      change prolog.takeAll [.empty tag.name tag.attributes] = _
      rw [takeAll_singleton, take_emptyRoot]
      rfl
  | single event hevent => cases htag

theorem takeAll_root_iff {root : Node} {tag : Tag} (htag : root.tag? = some tag)
    {state : ReadState} :
    prolog.takeAll root.events = .ok state ↔
      tag.name = "tutorial" ∧ root.ChainsFit ∧ state = epilog (Tutorial.ofNode root) := by
  have hinside : (inside (Tutorial.ofAttributes tag.attributes) []).takeAll
        (eventsAll root.children ++ [Event.close]) = .ok state ↔
      root.ChainsFit ∧ state = epilog (Tutorial.ofNode root) := by
    rw [Tutorial.ofNode_of_tag? htag]
    exact takeAll_closed_iff (absorbs root.children) (Nat.zero_le _) rfl
  rw [takeAll_root_events htag, bind_eq_ok_iff]
  constructor
  · intro h
    rcases h with ⟨opened, hopen, htake⟩
    rcases openRoot_eq_ok_iff.mp hopen with ⟨hname, rfl⟩
    exact ⟨hname, hinside.mp htake⟩
  · intro h
    rcases h with ⟨hname, hrest⟩
    exact ⟨_, openRoot_eq_ok_iff.mpr ⟨hname, rfl⟩, hinside.mpr hrest⟩

theorem inside_of_unclosed {events : List Event} (h : Unclosed events) {tutorial : Tutorial}
    {frames : List Frame} {state : ReadState} (hlevel : conditionLevel frames <= maxConditionDepth)
    (htake : (inside tutorial frames).takeAll events = .ok state) :
    exists tutorial' frames', state = inside tutorial' frames' := by
  induction h generalizing tutorial frames with
  | nodes nodes =>
      rcases exists_received nodes tutorial frames with ⟨tutorial', frames', hreceived, _⟩
      rcases (absorbs nodes tutorial frames state hlevel).mp htake with ⟨_, rfl⟩
      exact ⟨tutorial', frames', hreceived⟩
  | inner nodes tag hevents ih =>
      rcases exists_received nodes tutorial frames with
        ⟨tutorial', frames', hreceived, hsame, _⟩
      rcases takeAll_append_eq_ok_iff.mp htake with ⟨between, hnodes, hrest⟩
      rcases (absorbs nodes tutorial frames between hlevel).mp hnodes with ⟨_, rfl⟩
      rw [hreceived] at hrest
      rcases takeAll_cons_eq_ok_iff.mp hrest with ⟨opened, hopen, hinner⟩
      rcases exists_frames_of_openElement (hsame.trans_le hlevel) hopen with
        ⟨frames'', hlevel', rfl⟩
      exact ih hlevel' hinner

/-!
# Documents

The events that lead behind the root element are those of a document.
-/

theorem takeAll_prolog_eq_self {events : List Event}
    (h : forall event, event ∈ events -> event.MayPrecede) :
    prolog.takeAll events = .ok prolog := by
  induction events with
  | nil => rfl
  | cons event rest ih =>
      rw [List.forall_mem_cons] at h
      exact takeAll_cons_eq_ok_iff.mpr
        ⟨prolog, (take_prolog_eq_ok_iff h.1.not_isTag).mpr ⟨h.1, rfl⟩, ih h.2⟩

theorem takeAll_document_iff (document : Document) {tutorial : Tutorial} :
    prolog.takeAll document.events = .ok (epilog tutorial) ↔
      document.root.hasName "tutorial" = true ∧ document.root.ChainsFit ∧
        Tutorial.ofNode document.root = tutorial := by
  rcases Option.isSome_iff_exists.mp document.isElement with ⟨tag, htag⟩
  have hname : document.root.hasName "tutorial" = true ↔ tag.name = "tutorial" := by
    simp [hasName, htag]
  have hbefore := takeAll_prolog_eq_self document.precedes
  rw [Document.events, List.append_assoc, takeAll_append, hbefore, hname]
  change prolog.takeAll (document.root.events ++ document.after) = _ ↔ _
  rw [takeAll_append_eq_ok_iff]
  constructor
  · intro h
    rcases h with ⟨between, hroot, hafter⟩
    rcases (takeAll_root_iff htag).mp hroot with ⟨hname, hchains, rfl⟩
    cases (takeAll_epilog_eq_ok_iff.mp hafter).2
    exact ⟨hname, hchains, rfl⟩
  · intro h
    rcases h with ⟨hname, hchains, rfl⟩
    exact ⟨_, (takeAll_root_iff htag).mpr ⟨hname, hchains, rfl⟩,
      takeAll_epilog_eq_ok_iff.mpr ⟨document.follows, rfl⟩⟩

theorem exists_document_of_root (root : Node) {tag : Tag} (htag : root.tag? = some tag)
    {after : List Event} {tutorial : Tutorial}
    (h : prolog.takeAll (root.events ++ after) = .ok (epilog tutorial)) :
    exists document : Document, document.events = root.events ++ after := by
  rcases takeAll_append_eq_ok_iff.mp h with ⟨between, hroot, hafter⟩
  rcases (takeAll_root_iff htag).mp hroot with ⟨_, _, rfl⟩
  have hfollows := (takeAll_epilog_eq_ok_iff.mp hafter).1
  exact ⟨⟨[], root, after, by simp, by rw [htag]; rfl, hfollows⟩, rfl⟩

theorem exists_document {events : List Event} {tutorial : Tutorial}
    (h : prolog.takeAll events = .ok (epilog tutorial)) :
    exists document : Document, document.events = events := by
  induction events with
  | nil => cases h
  | cons event rest ih =>
      cases htag : event.isTag with
      | false =>
          rcases takeAll_cons_eq_ok_iff.mp h with ⟨between, hevent, hrest⟩
          rcases (take_prolog_eq_ok_iff htag).mp hevent with ⟨hprecede, rfl⟩
          rcases ih hrest with ⟨document, rfl⟩
          have hprecedes : forall other, other ∈ event :: document.before -> other.MayPrecede :=
            List.forall_mem_cons.mpr ⟨hprecede, document.precedes⟩
          exact ⟨{ document with before := event :: document.before, precedes := hprecedes }, rfl⟩
      | true =>
          cases event with
          | close => cases h
          | empty name attributes =>
              exact exists_document_of_root (.empty ⟨name, attributes⟩) rfl h
          | start name attributes =>
              rcases closes_or_unclosed rest with ⟨nodes, later, rfl⟩ | hunclosed
              · have hevents : (.start name attributes :: (eventsAll nodes ++ .close :: later)) =
                    (Node.paired ⟨name, attributes⟩ nodes).events ++ later := by
                  simp [events]
                rw [hevents] at h ⊢
                exact exists_document_of_root (.paired ⟨name, attributes⟩ nodes) rfl h
              · rcases takeAll_cons_eq_ok_iff.mp h with ⟨between, hopen, hrest⟩
                rcases openRoot_eq_ok_iff.mp hopen with ⟨_, rfl⟩
                rcases inside_of_unclosed hunclosed (Nat.zero_le _) hrest with
                  ⟨tutorial', frames', hinside⟩
                cases hinside
          | _ => cases htag

end ReadState

/-!
# Texts

A text without errors spells one document, and is read if that document fits.
-/

namespace Xml
namespace Document

/-- There are no tokens but sound ones up to the end, and their events are those of the document. -/
structure SpelledBy (stream : TokenStream) (document : Document) : Prop where
  complete : exists offset, stream.ending = .complete offset
  sound : List.Forall₂ Token.Means (stream.tokens.map Located.value) document.events

theorem means_unique {tokens : List Token} {events others : List Event}
    (h : List.Forall₂ Token.Means tokens events) (hother : List.Forall₂ Token.Means tokens others) :
    events = others := by
  induction h generalizing others with
  | nil =>
      cases hother
      rfl
  | cons hevent _ ih =>
      cases hother with
      | cons hother hrest =>
          have hsame := ofToken_eq_ok_iff.mpr hevent
          rw [ofToken_eq_ok_iff.mpr hother] at hsame
          cases hsame
          rw [ih hrest]

theorem SpelledBy.unique {stream : TokenStream} {document other : Document}
    (h : document.SpelledBy stream) (hother : other.SpelledBy stream) : document = other :=
  events_injective (means_unique h.sound hother.sound)

end Document
end Xml

namespace Tutorial

theorem ofXml_eq_ok_iff {text : String} {tutorial : Tutorial} :
    ofXml text = .ok tutorial ↔
      exists document : Document, document.SpelledBy (Xml.tokens text.toList) ∧
        document.root.hasName "tutorial" = true ∧ document.root.ChainsFit ∧
        ofNode document.root = tutorial := by
  rw [ofXml, readChars, mapError_eq_ok_iff, ReadState.run_eq_ok_iff]
  constructor
  · intro h
    rcases h with ⟨hending, events, hsound, htake⟩
    rcases ReadState.exists_document htake with ⟨document, rfl⟩
    exact ⟨document, ⟨hending, hsound⟩, ReadState.takeAll_document_iff document |>.mp htake⟩
  · intro h
    rcases h with ⟨document, hspelled, hdocument⟩
    exact ⟨hspelled.complete, document.events, hspelled.sound,
      (ReadState.takeAll_document_iff document).mpr hdocument⟩

/--
Before and after the root only what may stand there, all tags and references sound wherever they
are, the name of the root, and no conditions nested too deep: a text is read if and only if it is
like this.
-/
theorem readable_iff_document (text : String) :
    (exists tutorial, ofXml text = .ok tutorial) ↔
      exists document : Document, document.SpelledBy (Xml.tokens text.toList) ∧
        document.root.hasName "tutorial" = true ∧ document.root.ChainsFit := by
  constructor
  · intro h
    rcases h with ⟨tutorial, h⟩
    rcases ofXml_eq_ok_iff.mp h with ⟨document, hspelled, hname, hchains, _⟩
    exact ⟨document, hspelled, hname, hchains⟩
  · intro h
    rcases h with ⟨document, hspelled, hname, hchains⟩
    exact ⟨ofNode document.root,
      ofXml_eq_ok_iff.mpr ⟨document, hspelled, hname, hchains, rfl⟩⟩

/-- What is read from a text is what the tree says of the one document that the text spells. -/
theorem ofXml_eq_ofNode {text : String} {tutorial : Tutorial} (h : ofXml text = .ok tutorial) :
    exists document : Document,
      (forall other : Document, other.SpelledBy (Xml.tokens text.toList) ↔ other = document) ∧
        ofNode document.root = tutorial := by
  rcases ofXml_eq_ok_iff.mp h with ⟨document, hspelled, _, _, htutorial⟩
  refine ⟨document, ?_, htutorial⟩
  intro other
  constructor
  · intro hother
    exact hother.unique hspelled
  · intro hother
    rw [hother]
    exact hspelled

/-- Known elements where they do not count, a text in pieces, and one text after another. -/
def mixedText : String :=
  "<tutorial name='&#65;'><a><step/></a><step id=\"s\"><text>1</text><reaction><waitForNot/>" ++
    "</reaction><text>t<![CDATA[<]]>&lt;<i>u</i></text></step></tutorial>"

def mixedTutorial : Tutorial where
  name := "A"
  steps := [{ id := "s", text := "t<<u", reactions := [{ condition := some (.negation none) }] }]

theorem ofXml_eq_ofNode_of_mixed :
    ofXml mixedText = .ok mixedTutorial ∧
      exists document : Document,
        (forall other : Document,
          other.SpelledBy (Xml.tokens mixedText.toList) ↔ other = document) ∧
          ofNode document.root = mixedTutorial := by
  have h : ofXml mixedText = .ok mixedTutorial := by decide +kernel
  exact ⟨h, ofXml_eq_ofNode h⟩

end Tutorial

end TutorialKit
