import TutorialKit.Proofs.Document.Conditions

/-!
# Reading what has been written

The elements of a document are read in the order in which they are written, each in the frames of
the elements around it.  A tutorial is read from its document as it was, unless a condition is
nested deeper than reading allows, and then the document is refused for that.
-/

namespace TutorialKit

open Xml ReadState

/-!
# Conditions of a tutorial

An open tutorial may hold conditions that are nested deeper than reading allows.
-/

namespace Reaction

def conditions (reaction : Reaction) : List Condition :=
  reaction.condition.toList

end Reaction

namespace Step

def conditions (step : Step) : List Condition :=
  step.reactions.flatMap Reaction.conditions

end Step

namespace Tutorial

def conditions (tutorial : Tutorial) : List Condition :=
  tutorial.steps.flatMap Step.conditions

end Tutorial

/-- None of the conditions is nested deeper than a document may be. -/
def Shallow (conditions : List Condition) : Prop :=
  forall condition, condition ∈ conditions -> condition.depth <= maxConditionDepth

theorem shallow_append {first rest : List Condition} :
    Shallow (first ++ rest) ↔ Shallow first ∧ Shallow rest :=
  List.forall_mem_append

/-!
# Texts

The element for a text is left out if there is no text.
-/

variable {tutorial : Tutorial} {frames below : List Frame}

theorem reads_optionalText {name content : String} (field : TextField) (state : ReadState)
    (hname : IsName name.toList) (hdeaf : Deaf frames)
    (hopen : openElement tutorial frames name [] =
      .ok (inside tutorial (.text field "" 0 :: frames)))
    (hempty : content = "" -> state = inside tutorial frames)
    (hclose : closeElement tutorial (.text field content 0 :: frames) = state)
    (opened : List (List Char)) (level : Nat) :
    Reads True opened (inside tutorial frames)
      (Element.writeAll level (Element.optionalText name content)) opened state := by
  unfold Element.optionalText
  split
  · rename_i h
    rw [hempty h]
    exact reads_nil opened _
  · have hopens : Opens True tutorial frames name [] tutorial (.text field "" 0 :: frames) :=
      ⟨fun _ => hopen, fun h => absurd trivial h⟩
    have htext := reads_text hname hdeaf hopens opened level content
    rw [Element.writeAll_cons, Element.writeAll_nil, List.append_nil, ← hclose]
    have hheld : addText content (.text field "" 0 :: frames) =
        .text field content 0 :: frames := by
      simp [addText, Frame.addText]
    rw [hheld] at htext
    exact htext

/-!
# Reactions

The elements of a reaction are read one after the other, in the frame that the reaction opens.
-/

theorem reads_reactionAttribute {name key value : String} (reaction reaction' : Reaction)
    (hname : IsName name.toList) (hkey : IsName key.toList)
    (henter : Frame.enter name [⟨key, value⟩] (.reaction reaction) =
      (.reaction reaction', some (.ignored 0)))
    (hempty : value = "" -> reaction' = reaction)
    (opened : List (List Char)) (level : Nat) :
    Reads True opened (inside tutorial (.reaction reaction :: below))
      (Element.writeAll level (if value = "" then [] else [.empty name [⟨key, value⟩]])) opened
      (inside tutorial (.reaction reaction' :: below)) := by
  split
  · rename_i h
    rw [hempty h]
    exact reads_nil opened _
  · have hopens : Opens True tutorial (.reaction reaction :: below) name [⟨key, value⟩] tutorial
        (.ignored 0 :: .reaction reaction' :: below) := by
      refine ⟨fun _ => ?_, fun h => absurd trivial h⟩
      rw [openElement, henter]
      rfl
    rw [Element.writeAll_cons, Element.writeAll_nil, List.append_nil, Element.write_empty]
    exact reads_emptyTag hname (legible_singleton hkey value) (fun _ => rfl) hopens opened level

theorem reads_reactionCondition (reaction : Reaction) (condition : Option Condition)
    (hnone : reaction.condition = none) (hlevel : conditionLevel below = 0)
    (opened : List (List Char)) (level : Nat) :
    Reads (Shallow condition.toList) opened (inside tutorial (.reaction reaction :: below))
      (Element.writeAll level (condition.toList.map Condition.toElement)) opened
      (inside tutorial (.reaction { reaction with condition := condition } :: below)) := by
  cases condition with
  | none =>
      have hsame : { reaction with condition := none } = reaction := by
        rw [← hnone]
      rw [hsame]
      exact (reads_nil opened _).congr (by simp [Shallow])
  | some condition =>
      have hlevel' : conditionLevel (.reaction reaction :: below) = 0 := hlevel
      have hreads := reads_condition condition (.reaction reaction) below tutorial opened level
        trivial (by rw [hlevel']; decide)
      rw [Option.toList_some, List.map_singleton, Element.writeAll_cons, Element.writeAll_nil,
        List.append_nil]
      refine hreads.congr ?_
      rw [hlevel']
      simp [Shallow]

theorem reads_reaction (reaction : Reaction) (step : Step) (opened : List (List Char))
    (level : Nat) :
    Reads (Shallow reaction.conditions) opened (inside tutorial [.step step])
      (reaction.toElement.write level) opened
      (inside tutorial [.step { step with reactions := step.reactions ++ [reaction] }]) := by
  rcases reaction with ⟨trigger, option, condition, response, nextStep, code⟩
  have hname : IsName "reaction".toList := by decide
  have hlegible : Legible [⟨"triggerType", trigger.literal⟩, ⟨"responseType", response.literal⟩] :=
    legible_of_names _ ["triggerType", "responseType"] rfl (by decide) (by decide)
  have hattributes : Reaction.ofAttributes
      [⟨"triggerType", trigger.literal⟩, ⟨"responseType", response.literal⟩] =
      { trigger := trigger, response := response } := by
    simp [Reaction.ofAttributes, Attribute.lookup?, Trigger.ofLiteralOrDefault_literal,
      Response.ofLiteralOrDefault_literal]
  have hopens : Opens True tutorial [.step step] "reaction"
      [⟨"triggerType", trigger.literal⟩, ⟨"responseType", response.literal⟩] tutorial
      [.reaction { trigger := trigger, response := response }, .step step] := by
    refine ⟨fun _ => ?_, fun h => absurd trivial h⟩
    rw [← hattributes]
    rfl
  have hstart := reads_startTag hname hlegible (fun _ => rfl) hopens opened level
  have hend : Reads True ("reaction".toList :: opened)
      (inside tutorial [.reaction ⟨trigger, option, condition, response, nextStep, code⟩,
        .step step])
      (lineBreak level ++ endTag "reaction") opened
      (inside tutorial [.step
        { step with
          reactions :=
            step.reactions ++ [⟨trigger, option, condition, response, nextStep, code⟩] }]) :=
    reads_endTag hname (fun _ => rfl) opened level
  simp only [Reaction.toElement, Element.write_parent, Element.writeAll_append, List.append_assoc]
  rw [← List.append_assoc]
  refine hstart.then ?_
  refine (reads_reactionAttribute _ ⟨trigger, option, none, response, "", ""⟩ (by decide)
    (by decide) rfl (by rintro rfl; rfl) _ _).then ?_
  refine (reads_reactionCondition _ condition rfl rfl _ _).thenAll ?_
  refine (reads_optionalText .customCode
    (inside tutorial [.reaction ⟨trigger, option, condition, response, "", code⟩, .step step])
    (by decide) (fun _ => rfl) rfl (by rintro rfl; rfl) rfl _ _).then ?_
  exact (reads_reactionAttribute _ ⟨trigger, option, condition, response, nextStep, code⟩
    (by decide) (by decide) rfl (by rintro rfl; rfl) _ _).then hend

/-!
# Steps

The steps of a document are read after those before them, whatever these have been.
-/

theorem reads_reactions (reactions : List Reaction) (step : Step) (opened : List (List Char))
    (level : Nat) :
    Reads (Shallow (reactions.flatMap Reaction.conditions)) opened (inside tutorial [.step step])
      (Element.writeAll level (reactions.map Reaction.toElement)) opened
      (inside tutorial [.step { step with reactions := step.reactions ++ reactions }]) := by
  induction reactions generalizing step with
  | nil =>
      rw [List.append_nil]
      exact (reads_nil opened _).congr (by simp [Shallow])
  | cons first rest ih =>
      have hfirst := @reads_reaction tutorial first step opened level
      have hrest := ih { step with reactions := step.reactions ++ [first] }
      rw [List.append_assoc] at hrest
      rw [List.map_cons, Element.writeAll_cons, List.flatMap_cons]
      exact (hfirst.append fun _ => hrest).congr shallow_append.symm

theorem reads_step (step : Step) (opened : List (List Char)) (level : Nat) :
    Reads (Shallow step.conditions) opened (inside tutorial []) (step.toElement.write level)
      opened (inside { tutorial with steps := tutorial.steps ++ [step] } []) := by
  rcases step with ⟨id, text, setup, tearDown, reactions⟩
  have hname : IsName "step".toList := by decide
  have hattributes : Step.ofAttributes (Attribute.optional "id" id) = ⟨id, "", "", "", []⟩ := by
    rw [Step.ofAttributes, lookup?_optional]
  have hopens : Opens True tutorial [] "step" (Attribute.optional "id" id) tutorial
      [.step ⟨id, "", "", "", []⟩] := by
    refine ⟨fun _ => ?_, fun h => absurd trivial h⟩
    rw [← hattributes]
    rfl
  have hstart := reads_startTag hname (legible_optional (by decide) id) (fun _ => rfl) hopens
    opened level
  have hend : Reads True ("step".toList :: opened)
      (inside tutorial [.step ⟨id, text, setup, tearDown, reactions⟩])
      (lineBreak level ++ endTag "step") opened
      (inside { tutorial with
        steps := tutorial.steps ++ [⟨id, text, setup, tearDown, reactions⟩] } []) :=
    reads_endTag hname (fun _ => rfl) opened level
  simp only [Step.toElement, Element.write_parent, Element.writeAll_append, List.append_assoc]
  rw [← List.append_assoc]
  refine hstart.then ?_
  refine (reads_optionalText .text (inside tutorial [.step ⟨id, text, "", "", []⟩]) (by decide)
    (fun _ => rfl) rfl (by rintro rfl; rfl) rfl _ _).then ?_
  refine (reads_optionalText .setup (inside tutorial [.step ⟨id, text, setup, "", []⟩])
    (by decide) (fun _ => rfl) rfl (by rintro rfl; rfl) rfl _ _).then ?_
  refine (reads_optionalText .tearDown (inside tutorial [.step ⟨id, text, setup, tearDown, []⟩])
    (by decide) (fun _ => rfl) rfl (by rintro rfl; rfl) rfl _ _).then ?_
  exact (reads_reactions reactions _ _ _).thenAll hend

theorem reads_steps (steps : List Step) (tutorial : Tutorial) (opened : List (List Char))
    (level : Nat) :
    Reads (Shallow (steps.flatMap Step.conditions)) opened (inside tutorial [])
      (Element.writeAll level (steps.map Step.toElement)) opened
      (inside { tutorial with steps := tutorial.steps ++ steps } []) := by
  induction steps generalizing tutorial with
  | nil =>
      rw [List.append_nil]
      exact (reads_nil opened _).congr (by simp [Shallow])
  | cons first rest ih =>
      have hfirst := @reads_step tutorial first opened level
      have hrest := ih { tutorial with steps := tutorial.steps ++ [first] }
      rw [List.append_assoc] at hrest
      rw [List.map_cons, Element.writeAll_cons, List.flatMap_cons]
      exact (hfirst.append fun _ => hrest).congr shallow_append.symm

/-!
# The whole document

Around the root element there are the declaration and line breaks only.
-/

theorem readFrom_declaration (offset : Nat) (rest : List Char) :
    prolog.readFrom (.text []) [] offset (Tutorial.declaration ++ rest) =
      prolog.readFrom (.text []) [] (offset + utf8Length Tutorial.declaration) rest := by
  rfl

theorem readFrom_prologBreak (offset : Nat) (rest : List Char) :
    prolog.readFrom (.text []) [] offset (lineBreak 0 ++ '<' :: rest) =
      prolog.readFrom (.opened (offset + 1)) [] (offset + 2) rest := by
  simp only [lineBreak, Nat.mul_zero, List.replicate_zero, List.singleton_append]
  rw [readFrom_plain _ _ _ _ (by decide) (by decide)]
  simp only [readFrom, scanTokens, if_true, TokenStream.consText, TokenStream.cons]
  rfl

theorem reads_root (tutorial : Tutorial) :
    Reads True [] prolog
      (Tutorial.declaration ++ lineBreak 0 ++ startTag "tutorial" tutorial.attributes)
      ["tutorial".toList] (inside { name := tutorial.name } []) := by
  intro offset rest
  have hname : IsName "tutorial".toList := by decide
  have hlegible : Legible tutorial.attributes := legible_optional (by decide) tutorial.name
  have htag : Tutorial.declaration ++ lineBreak 0 ++ startTag "tutorial" tutorial.attributes ++
      rest = Tutorial.declaration ++ (lineBreak 0 ++
        '<' :: (tagContent "tutorial" tutorial.attributes ++ '>' :: rest)) := by
    simp [startTag]
  have htake : prolog.take (.start "tutorial" tutorial.attributes) =
      .ok (inside { name := tutorial.name } []) := by
    rw [take, inProlog, openRoot, if_pos rfl, Tutorial.ofAttributes, Tutorial.attributes,
      lookup?_optional]
  rw [htag, readFrom_declaration, readFrom_prologBreak,
    readFrom_startTag hname hlegible, htake, utf8Length_append, utf8Length_append,
    utf8Length_startTag]
  refine ⟨fun _ => ?_, fun h => absurd trivial h⟩
  have hlength : utf8Length (lineBreak 0) = 1 := rfl
  have hoffset : offset + utf8Length Tutorial.declaration + 2 +
      utf8Length (tagContent "tutorial" tutorial.attributes) + 1 =
      offset + (utf8Length Tutorial.declaration + 1 +
        (1 + utf8Length (tagContent "tutorial" tutorial.attributes) + 1)) := by omega
  rw [hlength, hoffset, proceed]

theorem reads_document (tutorial : Tutorial) :
    Reads (Shallow tutorial.conditions) [] prolog
      (Tutorial.declaration ++ tutorial.toElement.write 0) [] (epilog tutorial) := by
  have hroot := reads_root tutorial
  rcases tutorial with ⟨name, description, license, setup, tearDown, steps⟩
  have hend : Reads True ["tutorial".toList]
      (inside ⟨name, description, license, setup, tearDown, steps⟩ [])
      (lineBreak 0 ++ endTag "tutorial") []
      (epilog ⟨name, description, license, setup, tearDown, steps⟩) :=
    reads_endTag (by decide) (fun _ => rfl) [] 0
  simp only [Tutorial.toElement, Tutorial.textElements, Element.write_parent,
    Element.writeAll_append, List.append_assoc]
  rw [← List.append_assoc, ← List.append_assoc]
  refine hroot.then ?_
  refine (reads_optionalText .description (inside ⟨name, description, "", "", "", []⟩ [])
    (by decide) (fun _ => rfl) rfl (by rintro rfl; rfl) rfl _ _).then ?_
  refine (reads_optionalText .license (inside ⟨name, description, license, "", "", []⟩ [])
    (by decide) (fun _ => rfl) rfl (by rintro rfl; rfl) rfl _ _).then ?_
  refine (reads_optionalText .setup (inside ⟨name, description, license, setup, "", []⟩ [])
    (by decide) (fun _ => rfl) rfl (by rintro rfl; rfl) rfl _ _).then ?_
  refine (reads_optionalText .tearDown
    (inside ⟨name, description, license, setup, tearDown, []⟩ []) (by decide) (fun _ => rfl) rfl
    (by rintro rfl; rfl) rfl _ _).then ?_
  exact (reads_steps steps _ _ _).thenAll hend

theorem ofXml_toXml_eq (tutorial : Tutorial) :
    exists cs, Tutorial.ofXml tutorial.toXml =
      (prolog.readFrom (.text []) [] 0
        (Tutorial.declaration ++ tutorial.toElement.write 0 ++ ['\n'])).mapError
        (ReadError.ofFault cs) := by
  have hchars : tutorial.toXml.toList =
      Tutorial.declaration ++ tutorial.toElement.write 0 ++ ['\n'] := by
    rw [Tutorial.toXml, String.toList_ofList, Tutorial.toXmlChars_eq_write]
  rw [Tutorial.ofXml, hchars]
  exact ⟨_, rfl⟩

/--
Whatever texts and conditions a tutorial has, it is read from its document as it was if none of
its conditions is nested deeper than allowed, and otherwise its document is refused for that.
-/
theorem ofXml_toXml (tutorial : Tutorial) :
    exists place, Tutorial.ofXml tutorial.toXml =
      if forall condition, condition ∈ tutorial.conditions ->
          condition.depth <= maxConditionDepth then .ok tutorial
      else .error (.malformed "conditions nested deeper than 256 levels" place) := by
  rcases ofXml_toXml_eq tutorial with ⟨cs, hread⟩
  have hreads := reads_document tutorial 0 ['\n']
  rw [hread]
  by_cases hshallow : forall condition, condition ∈ tutorial.conditions ->
      condition.depth <= maxConditionDepth
  · refine ⟨Text.Place.ofOffset cs 0, ?_⟩
    rw [hreads.1 hshallow, if_pos hshallow]
    rfl
  · rcases hreads.2 hshallow with ⟨place, hrefused⟩
    refine ⟨Text.Place.ofOffset cs place, ?_⟩
    rw [hrefused, if_neg hshallow]
    rfl

end TutorialKit
