import TutorialKit.Document.Written

/-!
# Documents handed to a sink

A document reaches a sink in many small pieces, and a line break is written with the tag that
follows it.  A sink with limited room takes the beginning of the document as far as there is room,
and the error names a step if and only if the first byte without room belongs to the text of that
step.
-/

namespace TutorialKit

open Text Xml

namespace Xml

def Sink.acceptText (cs : List Char) (sink : Sink) : Sink :=
  sink.accept (Utf8.encode cs)

theorem Sink.acceptText_append (cs ds : List Char) (sink : Sink) :
    sink.acceptText (cs ++ ds) = (sink.acceptText cs).acceptText ds := by
  simp [acceptText, accept, Utf8.encode_append, List.take_append, Nat.sub_sub]

theorem Sink.room_acceptText (cs : List Char) (sink : Sink) :
    (sink.acceptText cs).room = sink.room - Utf8.size cs := rfl

theorem Sink.reason_acceptText (cs : List Char) (sink : Sink) :
    (sink.acceptText cs).reason = sink.reason := rfl

theorem Sink.taken_acceptText (cs : List Char) (sink : Sink) :
    (sink.acceptText cs).taken = sink.taken ++ (Utf8.encode cs).take sink.room := by
  simp [acceptText, accept, taken]

theorem Sink.acceptText_of_full {sink : Sink} (h : sink.room = 0) (cs : List Char) :
    sink.acceptText cs = sink := by
  cases sink with
  | mk room reason reversed =>
      cases h
      simp [acceptText, accept]

def Layout.opening (layout : Layout) : List Char :=
  if layout.breaks then lineBreak layout.level else []

namespace Writing

theorem run_bind {ε α β : Type} (action : Writing ε α) (next : α -> Writing ε β)
    (writer : Writer) :
    (action >>= next).run.run writer =
      match action.run.run writer with
      | (.ok value, later) => (next value).run.run later
      | (.error error, later) => (.error error, later) := by
  rw [ExceptT.run_bind, StateT.run_bind]
  change (match action.run.run writer with | (result, later) => _) = _
  rcases action.run.run writer with ⟨error | value, later⟩
  · rfl
  · rfl

/-!
# What an action writes

An action is known by the text that it writes and by the error that it fails with.
-/

/--
The action writes the text as far as there is room for it.  If there is too little, it fails with
what `error` says of the first byte that is left out, which is given by its offset.
-/
def Writes {ε : Type} (error : Nat -> String -> ε) (before : Layout) (cs : List Char)
    (after : Layout) (action : Writing ε Unit) : Prop :=
  forall sink, exists layout,
    action.run.run ⟨sink, before⟩ =
        (if Utf8.size cs <= sink.room then .ok () else .error (error sink.room sink.reason),
          ⟨sink.acceptText cs, layout⟩) ∧
      (Utf8.size cs <= sink.room -> layout = after)

variable {ε : Type} {before between after : Layout} {cs ds : List Char}

theorem Writes.then {error first second : Nat -> String -> ε} {action next : Writing ε Unit}
    (haction : Writes first before cs between action) (hnext : Writes second between ds after next)
    (hfirst : forall offset, offset < Utf8.size cs -> error offset = first offset)
    (hsecond : forall offset, error (Utf8.size cs + offset) = second offset) :
    Writes error before (cs ++ ds) after (do action; next) := by
  intro sink
  rcases haction sink with ⟨layout, hrun, hlayout⟩
  rw [run_bind, hrun, Utf8.size_append, Sink.acceptText_append]
  by_cases hfits : Utf8.size cs <= sink.room
  · cases hlayout hfits
    rcases hnext (sink.acceptText cs) with ⟨later, hthen, hlater⟩
    have hroom : Utf8.size ds <= (sink.acceptText cs).room ↔
        Utf8.size cs + Utf8.size ds <= sink.room := by
      rw [Sink.room_acceptText]
      omega
    have herror : second (sink.acceptText cs).room = error sink.room := by
      rw [← hsecond, Sink.room_acceptText, Nat.add_sub_cancel' hfits]
    refine ⟨later, ?_, fun h => hlater (hroom.mpr h)⟩
    rw [if_pos hfits]
    simp only [hthen, hroom, herror, Sink.reason_acceptText]
  · have hfull : (sink.acceptText cs).room = 0 := by
      rw [Sink.room_acceptText]
      omega
    refine ⟨layout, ?_, fun h => absurd (Nat.le_of_add_right_le h) hfits⟩
    rw [if_neg hfits, if_neg (by omega), Sink.acceptText_of_full hfull,
      hfirst sink.room (Nat.lt_of_not_le hfits)]

theorem Writes.thenAlike {error : String -> ε} {action next : Writing ε Unit}
    (haction : Writes (fun _ => error) before cs between action)
    (hnext : Writes (fun _ => error) between ds after next) :
    Writes (fun _ => error) before (cs ++ ds) after (do action; next) :=
  haction.then hnext (fun _ _ => rfl) (fun _ => rfl)

theorem Writes.congr {error : Nat -> String -> ε} {action : Writing ε Unit}
    (h : Writes error before cs after action) (htext : cs = ds) :
    Writes error before ds after action :=
  htext ▸ h

theorem Writes.relabel {error other : Nat -> String -> ε} {action : Writing ε Unit}
    (h : Writes error before cs after action)
    (hsame : forall offset, offset < Utf8.size cs -> other offset = error offset) :
    Writes other before cs after action := by
  intro sink
  rcases h sink with ⟨layout, hrun, hlayout⟩
  refine ⟨layout, ?_, hlayout⟩
  by_cases hfits : Utf8.size cs <= sink.room
  · rw [hrun, if_pos hfits, if_pos hfits]
  · rw [hrun, if_neg hfits, if_neg hfits, hsame sink.room (Nat.lt_of_not_le hfits)]

theorem writes_nothing (error : Nat -> String -> ε) (layout : Layout) :
    Writes error layout [] layout (pure ()) := by
  intro sink
  refine ⟨layout, ?_, fun _ => rfl⟩
  simp [Sink.acceptText, Sink.accept, Utf8.encode]
  rfl

theorem writes_arrange (layout : Layout) (change : Layout -> Layout) :
    Writes (fun _ reason => reason) layout [] (change layout) (arrange change) := by
  intro sink
  refine ⟨change layout, ?_, fun _ => rfl⟩
  simp [Sink.acceptText, Sink.accept, Utf8.encode]
  rfl

theorem writes_put (layout : Layout) (cs : List Char) :
    Writes (fun _ reason => reason) layout cs layout (put cs) := by
  intro sink
  refine ⟨layout, ?_, fun _ => rfl⟩
  change (if sink.room < Utf8.size cs then throw sink.reason else pure () :
    Writing String Unit).run.run ⟨sink.acceptText cs, layout⟩ = _
  by_cases hfits : Utf8.size cs <= sink.room
  · rw [if_neg (Nat.not_lt.mpr hfits), if_pos hfits]
    rfl
  · rw [if_pos (Nat.lt_of_not_le hfits), if_neg hfits]
    rfl

/-!
# Tags, texts and elements

An element writes its tags and texts in order, and fails alike for each of its bytes.
-/

abbrev WritesPart (before : Layout) (cs : List Char) (after : Layout)
    (action : Writing String Unit) : Prop :=
  Writes (fun _ reason => reason) before cs after action

theorem writes_beginLine (layout : Layout) : WritesPart layout layout.opening layout beginLine := by
  rcases layout with ⟨level, breaks⟩
  cases breaks with
  | false => exact fun sink => writes_nothing (fun _ reason => reason) ⟨level, false⟩ sink
  | true =>
      have h := (writes_put ⟨level, true⟩ ['\n']).thenAlike
        (writes_put ⟨level, true⟩ (List.replicate (indentWidth * level) ' '))
      exact fun sink => h sink

theorem writes_markup (layout : Layout) (opening content closing : List Char) :
    WritesPart layout (layout.opening ++ opening ++ content ++ closing) ⟨layout.level, true⟩
      (markup opening content closing) := by
  have hend := (writes_put layout closing).thenAlike
    (writes_arrange layout fun layout => { layout with breaks := true })
  have h := (writes_beginLine layout).thenAlike
    ((writes_put layout opening).thenAlike ((writes_put layout content).thenAlike hend))
  exact h.congr (by simp)

theorem writes_startTag (layout : Layout) (name : String) (attributes : List Attribute) :
    WritesPart layout (layout.opening ++ Xml.startTag name attributes) ⟨layout.level + 1, true⟩
      (startTag name attributes) := by
  have h := (writes_markup layout ['<'] (tagContent name attributes) ['>']).thenAlike
    (writes_arrange ⟨layout.level, true⟩ fun layout => { layout with level := layout.level + 1 })
  exact h.congr (by simp [Xml.startTag])

theorem writes_emptyTag (layout : Layout) (name : String) (attributes : List Attribute) :
    WritesPart layout (layout.opening ++ Xml.emptyTag name attributes) ⟨layout.level, true⟩
      (emptyTag name attributes) := by
  have h := writes_markup layout ['<'] (tagContent name attributes) "/>".toList
  exact h.congr (by simp [Xml.emptyTag])

theorem writes_endTag (level : Nat) (breaks : Bool) (name : String) :
    WritesPart ⟨level + 1, breaks⟩ ((⟨level, breaks⟩ : Layout).opening ++ Xml.endTag name)
      ⟨level, true⟩ (endTag name) := by
  have h := (writes_arrange ⟨level + 1, breaks⟩ fun layout =>
      { layout with level := layout.level - 1 }).thenAlike
    (writes_markup ⟨level, breaks⟩ "</".toList name.toList ['>'])
  exact h.congr (by simp [Xml.endTag])

theorem writes_text (layout : Layout) (content : String) :
    WritesPart layout (escapeText content.toList) ⟨layout.level, false⟩ (text content) := by
  have h := (writes_put layout (escapeText content.toList)).thenAlike
    (writes_arrange layout fun layout => { layout with breaks := false })
  exact h.congr (List.append_nil _)

mutual

theorem writes_element (level : Nat) : (e : Element) ->
    WritesPart ⟨level, true⟩ (e.write level) ⟨level, true⟩ (element e)
  | .empty name attributes => by
      rw [Element.write_empty, element]
      exact writes_emptyTag ⟨level, true⟩ name attributes
  | .text name content => by
      have h := (writes_startTag ⟨level, true⟩ name []).thenAlike
        ((writes_text ⟨level + 1, true⟩ content).thenAlike (writes_endTag level false name))
      rw [Element.write_text, element]
      exact h.congr (by simp [Layout.opening])
  | .parent name attributes children => by
      have h := (writes_startTag ⟨level, true⟩ name attributes).thenAlike
        ((writes_elements (level + 1) children).thenAlike (writes_endTag level true name))
      rw [Element.write_parent, element]
      exact h.congr (by simp [Layout.opening])

theorem writes_elements (level : Nat) : (es : List Element) ->
    WritesPart ⟨level, true⟩ (Element.writeAll level es) ⟨level, true⟩ (elements es)
  | [] => writes_nothing _ _
  | first :: rest => by
      rw [Element.writeAll_cons, elements]
      exact (writes_element level first).thenAlike (writes_elements level rest)

end

end Writing
end Xml

open Writing

/-!
# Portions of a document

The byte at an offset belongs to one portion, which tells whether the error names a step.
-/

theorem writes_writeIn {before after : Layout} {cs : List Char} {part : Writing String Unit}
    (h : WritesPart before cs after part) (step : Option String) :
    Writes (fun _ reason => ⟨step, reason⟩) before cs after (writeIn step part) := by
  intro sink
  rcases h sink with ⟨layout, hrun, hlayout⟩
  refine ⟨layout, ?_, hlayout⟩
  change ((part.run.run ⟨sink, before⟩).1.mapError _, (part.run.run ⟨sink, before⟩).2) = _
  rw [hrun]
  split
  · rfl
  · rfl

namespace Portion

def textAll (portions : List Portion) : List Char :=
  portions.flatMap text

@[simp] theorem textAll_nil : textAll [] = [] := rfl

@[simp] theorem textAll_cons (portion : Portion) (rest : List Portion) :
    textAll (portion :: rest) = portion.text ++ textAll rest := List.flatMap_cons

def ownerAt : List Portion -> Nat -> Option String
  | [], _ => none
  | portion :: rest, offset =>
      if offset < Utf8.size portion.text then portion.step
      else ownerAt rest (offset - Utf8.size portion.text)

theorem ownerAt_append (front : List Portion) (portion : Portion) (back : List Portion)
    {offset : Nat} (hfront : Utf8.size (textAll front) <= offset)
    (hoffset : offset < Utf8.size (textAll front) + Utf8.size portion.text) :
    ownerAt (front ++ portion :: back) offset = portion.step := by
  induction front generalizing offset with
  | nil => rw [List.nil_append, ownerAt, if_pos (by simpa using hoffset)]
  | cons first front ih =>
      rw [textAll_cons, Utf8.size_append] at hfront hoffset
      rw [List.cons_append, ownerAt, if_neg (by omega)]
      exact ih (by omega) (by omega)

theorem exists_portion_at {portions : List Portion} {offset : Nat}
    (h : offset < Utf8.size (textAll portions)) :
    exists front portion back, portions = front ++ portion :: back ∧
      Utf8.size (textAll front) <= offset ∧
      offset < Utf8.size (textAll front) + Utf8.size portion.text := by
  induction portions generalizing offset with
  | nil => exact absurd h (Nat.not_lt_zero _)
  | cons first rest ih =>
      rw [textAll_cons, Utf8.size_append] at h
      by_cases hfirst : offset < Utf8.size first.text
      · exact ⟨[], first, rest, rfl, Nat.zero_le _, by simpa using hfirst⟩
      · have hrest : offset - Utf8.size first.text < Utf8.size (textAll rest) := by omega
        rcases ih hrest with ⟨front, portion, back, rfl, hfront, hoffset⟩
        refine ⟨first :: front, portion, back, rfl, ?_, ?_⟩
        · rw [textAll_cons, Utf8.size_append]
          omega
        · rw [textAll_cons, Utf8.size_append]
          omega

def error (portions : List Portion) (offset : Nat) (reason : String) : WriteError :=
  ⟨ownerAt portions offset, reason⟩

theorem error_cons_of_lt {portion : Portion} {rest : List Portion} {offset : Nat}
    (h : offset < Utf8.size portion.text) :
    error (portion :: rest) offset = fun reason => ⟨portion.step, reason⟩ := by
  funext reason
  rw [error, ownerAt, if_pos h]

theorem error_cons_add (portion : Portion) (rest : List Portion) (offset : Nat) :
    error (portion :: rest) (Utf8.size portion.text + offset) = error rest offset := by
  funext reason
  rw [error, ownerAt, if_neg (by omega), Nat.add_sub_cancel_left]
  rfl

theorem writes_single (portion : Portion) {before after : Layout}
    {action : Writing WriteError Unit}
    (h : Writes (fun _ reason => ⟨portion.step, reason⟩) before portion.text after action) :
    Writes (error [portion]) before (textAll [portion]) after action :=
  (h.relabel fun _ hoffset => error_cons_of_lt hoffset).congr (List.append_nil _).symm

theorem writes_cons (portion : Portion) {before between after : Layout} {rest : List Portion}
    {first later : Writing WriteError Unit}
    (hfirst : Writes (fun _ reason => ⟨portion.step, reason⟩) before portion.text between first)
    (hlater : Writes (error rest) between (textAll rest) after later) :
    Writes (error (portion :: rest)) before (textAll (portion :: rest)) after
      (do first; later) :=
  hfirst.then hlater (fun _ hoffset => error_cons_of_lt hoffset) (error_cons_add portion rest)

end Portion

theorem Step.writes_deliverAll {later : List Portion} {after : Layout}
    {next : Writing WriteError Unit}
    (hnext : Writes (Portion.error later) ⟨1, true⟩ (Portion.textAll later) after next)
    (steps : List Step) :
    Writes (Portion.error (steps.map Tutorial.stepPortion ++ later)) ⟨1, true⟩
      (Portion.textAll (steps.map Tutorial.stepPortion ++ later)) after
      (do deliverAll steps; next) := by
  induction steps with
  | nil => exact hnext
  | cons step rest ih =>
      have hstep := writes_writeIn (writes_element 1 step.toElement) (some step.id)
      rw [deliverAll, bind_assoc]
      exact Portion.writes_cons (Tutorial.stepPortion step) hstep ih

namespace Tutorial

theorem writes_deliver (tutorial : Tutorial) :
    Writes (Portion.error tutorial.portions) {} tutorial.toXmlChars ⟨0, true⟩ tutorial.deliver := by
  have hdeclaration : "<?".toList ++ "xml version=\"1.0\" encoding=\"UTF-8\"".toList ++
      "?>".toList = declaration := rfl
  have hopened := ((writes_markup {} "<?".toList
      "xml version=\"1.0\" encoding=\"UTF-8\"".toList "?>".toList).congr hdeclaration).thenAlike
    ((writes_startTag ⟨0, true⟩ "tutorial" tutorial.attributes).thenAlike
      (writes_elements 1 tutorial.textElements))
  have hclosed := (writes_endTag 0 true "tutorial").thenAlike (writes_put ⟨0, true⟩ ['\n'])
  have hhead : WritesPart {} tutorial.headPortion.text ⟨1, true⟩ _ :=
    hopened.congr (by simp only [headPortion, Layout.opening, if_true, List.append_assoc])
  exact Portion.writes_cons tutorial.headPortion (writes_writeIn hhead none)
    (Step.writes_deliverAll (Portion.writes_single tailPortion (writes_writeIn hclosed none))
      tutorial.steps)

/-!
# Limited room

The portions with a step are compared with the texts of the steps.
-/

/-- The document is `front`, the text of a step with the line break before it, and `back`. -/
structure HasText (tutorial : Tutorial) (step : Step) (front back : List Char) : Prop where
  document : tutorial.toXmlChars = front ++ step.toElement.write 1 ++ back
  place : exists earlier later, tutorial.steps = earlier ++ step :: later ∧
    front = tutorial.headPortion.text ++ Element.writeAll 1 (earlier.map Step.toElement) ∧
    back = Element.writeAll 1 (later.map Step.toElement) ++ tailPortion.text

def HasTextAt (tutorial : Tutorial) (offset : Nat) (step : Step) : Prop :=
  exists front back, tutorial.HasText step front back ∧ Utf8.size front <= offset ∧
    offset < Utf8.size (front ++ step.toElement.write 1)

theorem textAll_stepPortions (tutorial : Tutorial) (steps : List Step) :
    Portion.textAll (tutorial.headPortion :: steps.map stepPortion) =
      tutorial.headPortion.text ++ Element.writeAll 1 (steps.map Step.toElement) := by
  rw [Portion.textAll_cons, Portion.textAll, flatMap_stepPortion]

theorem portions_split {tutorial : Tutorial} {earlier later : List Step} {step : Step}
    (hsteps : tutorial.steps = earlier ++ step :: later) :
    tutorial.portions = (tutorial.headPortion :: earlier.map stepPortion) ++
      stepPortion step :: (later.map stepPortion ++ [tailPortion]) := by
  simp [portions, hsteps]

theorem toXmlChars_split {tutorial : Tutorial} {earlier later : List Step} {step : Step}
    (hsteps : tutorial.steps = earlier ++ step :: later) :
    tutorial.toXmlChars =
      tutorial.headPortion.text ++ Element.writeAll 1 (earlier.map Step.toElement) ++
        step.toElement.write 1 ++
        (Element.writeAll 1 (later.map Step.toElement) ++ tailPortion.text) := by
  rw [toXmlChars, portions_split hsteps]
  simp only [List.flatMap_append, List.flatMap_cons, List.flatMap_nil, flatMap_stepPortion,
    List.append_assoc, List.append_nil]
  rfl

theorem exists_step_of_portion {tutorial : Tutorial} {front back : List Portion} {portion : Portion}
    {id : String} (hportions : tutorial.portions = front ++ portion :: back)
    (hid : portion.step = some id) :
    exists earlier step later, tutorial.steps = earlier ++ step :: later ∧ step.id = id ∧
      portion = stepPortion step ∧ front = tutorial.headPortion :: earlier.map stepPortion := by
  cases front with
  | nil =>
      cases hportions
      cases hid
  | cons head front =>
      rw [portions, List.cons_append, List.cons_append] at hportions
      rcases List.cons.inj hportions with ⟨rfl, hrest⟩
      rcases List.append_eq_append_iff.mp hrest with ⟨more, hfront, hback⟩ | ⟨more, hsteps, hback⟩
      · cases more with
        | nil =>
            cases hback
            cases hid
        | cons first more => simp at hback
      · cases more with
        | nil =>
            cases hback
            cases hid
        | cons first more =>
            rw [List.cons_append] at hback
            rcases List.cons.inj hback with ⟨rfl, -⟩
            rcases List.map_eq_append_iff.mp hsteps with ⟨earlier, rest, hsplit, rfl, hmap⟩
            rcases List.map_eq_cons_iff.mp hmap with ⟨step, later, rfl, rfl, -⟩
            exact ⟨earlier, step, later, hsplit, Option.some.inj hid, rfl, rfl⟩

theorem ownerAt_eq_some_iff {tutorial : Tutorial} {offset : Nat} {id : String}
    (hoffset : offset < Utf8.size tutorial.toXmlChars) :
    Portion.ownerAt tutorial.portions offset = some id ↔
      exists step, tutorial.HasTextAt offset step ∧ step.id = id := by
  constructor
  · intro howner
    rcases Portion.exists_portion_at hoffset with ⟨front, portion, back, hportions, hfrom, hto⟩
    rw [hportions, Portion.ownerAt_append front portion back hfrom hto] at howner
    rcases exists_step_of_portion hportions howner with
      ⟨earlier, step, later, hsteps, hid, rfl, rfl⟩
    rw [textAll_stepPortions] at hfrom hto
    refine ⟨step, ⟨_, _, ⟨?_, earlier, later, hsteps, rfl, rfl⟩, hfrom, ?_⟩, hid⟩
    · exact toXmlChars_split hsteps
    · rw [Utf8.size_append]
      exact hto
  · rintro ⟨step, ⟨front, back, ⟨-, earlier, later, hsteps, rfl, rfl⟩, hfrom, hto⟩, rfl⟩
    rw [portions_split hsteps]
    rw [← textAll_stepPortions] at hfrom hto
    rw [Utf8.size_append] at hto
    exact Portion.ownerAt_append _ _ _ hfrom hto

/--
A sink with limited room takes the beginning of the document, and no error arises if and only if
the document fits.  An error names a step just if the first byte that is left out belongs to the
text of that step.
-/
theorem writeLimited_exact (reason : String) (room : Nat) (tutorial : Tutorial) :
    let document := Utf8.encodeText tutorial.toXml
    let delivery := tutorial.writeLimited reason room
    delivery.taken = document.take room ∧
      (delivery.failure = none ↔ document.length <= room) ∧
      forall error, delivery.failure = some error ->
        error.message = "Failed to write tutorial XML: " ++
            error.step.elim "" (fun id => "step " ++ Text.Quoted.encode id ++ ": ") ++ reason ∧
          forall id, error.step = some id ↔
            exists step, tutorial.HasTextAt room step ∧ step.id = id := by
  intro document delivery
  rcases writes_deliver tutorial { room, reason } with ⟨layout, hrun, -⟩
  have hdocument : document.length = Utf8.size tutorial.toXmlChars := by
    simp [document, Utf8.encodeText, toXml, Utf8.size]
  have htaken : delivery.taken = document.take room := by
    simp only [delivery, writeLimited, hrun, Sink.taken_acceptText]
    simp [document, Utf8.encodeText, toXml, Sink.taken]
  refine ⟨htaken, ?_⟩
  by_cases hfits : Utf8.size tutorial.toXmlChars <= room
  · have hfailure : delivery.failure = none := by
      simp only [delivery, writeLimited, hrun, if_pos hfits]
    simp [hfailure, hdocument, hfits]
  · have hfailure : delivery.failure = some (Portion.error tutorial.portions room reason) := by
      simp only [delivery, writeLimited, hrun, if_neg hfits]
    have howner (id : String) : (Portion.error tutorial.portions room reason).step = some id ↔
        exists step, tutorial.HasTextAt room step ∧ step.id = id :=
      ownerAt_eq_some_iff (Nat.lt_of_not_le hfits)
    have hmessage (step : Option String) : (⟨step, reason⟩ : WriteError).message =
        "Failed to write tutorial XML: " ++
          step.elim "" (fun id => "step " ++ Text.Quoted.encode id ++ ": ") ++ reason := by
      unfold WriteError.message
      cases step with
      | none => simp only [Option.elim_none]
      | some id => simp only [Option.elim_some]
    rw [hfailure, hdocument]
    refine ⟨by simp [hfits], ?_⟩
    intro error herror
    rw [← Option.some.inj herror]
    exact ⟨hmessage _, howner⟩

end Tutorial
end TutorialKit
