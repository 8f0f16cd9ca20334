import Mathlib.Data.List.InsertIdx
import Mathlib.Data.List.Perm.Basic
import TutorialKit.Editing.Change
import TutorialKit.Proofs.Editing.Attachment

/-!
# Stocks

A stock is all there is: the texts of a tutorial, the order of its steps, and every step and
reaction, in the tutorial, beside it or held by a command.  A step is kept there as a card, apart
from its reactions, so that every edit changes one thing.  All edits are listed with what they
report.  Keys stay unique, the reports lead from the old lists of keys to the new ones, and no field
of anything changes unless that is reported.
-/

namespace TutorialKit

/-!
# Mirrors

A mirror is a list of keys that is kept from reports alone.
-/

inductive KeyEvent (κ : Type) where
  | added (key : κ) (index : Nat)
  | removed (key : κ)

section

variable {κ : Type} [DecidableEq κ]

def KeyEvent.mirror? (keys : List κ) : KeyEvent κ -> Option (List κ)
  | added key index => if index <= keys.length then some (keys.insertIdx index key) else none
  | removed key => if key ∈ keys then some (keys.erase key) else none

def mirrorAll? (keys : List κ) (events : List (KeyEvent κ)) : Option (List κ) :=
  events.foldlM KeyEvent.mirror? keys

theorem mirrorAll?_append {keys between keys' : List κ} {events more : List (KeyEvent κ)}
    (h : mirrorAll? keys events = some between) (h' : mirrorAll? between more = some keys') :
    mirrorAll? keys (events ++ more) = some keys' := by
  rw [mirrorAll?, List.foldlM_append]
  exact Option.bind_eq_some_iff.mpr ⟨between, h, h'⟩

theorem mirrorAll?_added {keys : List κ} {index : Nat} (key : κ) (h : index <= keys.length) :
    mirrorAll? keys [.added key index] = some (keys.insertIdx index key) := by
  simp [mirrorAll?, KeyEvent.mirror?, h]

theorem mirrorAll?_removed {keys : List κ} {key : κ} (h : key ∈ keys) :
    mirrorAll? keys [.removed key] = some (keys.erase key) := by
  simp [mirrorAll?, KeyEvent.mirror?, h]

end

namespace Change

def stepEvent? : Change -> Option (KeyEvent StepKey)
  | stepAdded key index => some (.added key index)
  | stepRemoved key => some (.removed key)
  | _ => none

def reactionEvent? (step : StepKey) : Change -> Option (KeyEvent ReactionKey)
  | reactionAdded owner key index => if owner = step then some (.added key index) else none
  | reactionRemoved owner key => if owner = step then some (.removed key) else none
  | _ => none

theorem entity_of_stepEvent? {change : Change} {event : KeyEvent StepKey}
    (h : change.stepEvent? = some event) : change.entity = .tutorial := by
  cases change with
  | stepAdded | stepRemoved => rfl
  | _ => cases h

theorem entity_of_reactionEvent? {step : StepKey} {change : Change}
    {event : KeyEvent ReactionKey} (h : change.reactionEvent? step = some event) :
    change.entity = .step step := by
  cases change with
  | reactionAdded owner | reactionRemoved owner =>
      rw [entity, (Option.ite_none_right_eq_some.mp h).1]
  | _ => cases h

end Change

/-!
# Cards and items

A stock lists steps without their reactions, and all reactions by themselves.
-/

/-- A step with the keys of its reactions. -/
structure Card where
  key : StepKey
  texts : StepField -> String
  reactions : List ReactionKey

def LiveStep.card (step : LiveStep) : Card where
  key := step.key
  texts := step.get
  reactions := step.reactions.map LiveReaction.key

inductive Item where
  | step (step : LiveStep)
  | reaction (reaction : LiveReaction)

namespace Item

def cards : Item -> List Card
  | step s => [s.card]
  | reaction _ => []

def reactions : Item -> List LiveReaction
  | step s => s.reactions
  | reaction r => [r]

end Item

structure Stock where
  texts : TutorialField -> String
  order : List StepKey
  cards : List Card
  reactions : List LiveReaction

namespace Stock

def of (texts : TutorialField -> String) (order : List StepKey) (items : List Item) : Stock where
  texts := texts
  order := order
  cards := items.flatMap Item.cards
  reactions := items.flatMap Item.reactions

/-- No key occurs twice. -/
structure Unique (stock : Stock) : Prop where
  cards : (stock.cards.map Card.key).Nodup
  reactions : (stock.reactions.map LiveReaction.key).Nodup

end Stock

namespace Stock.Unique

variable {texts : TutorialField -> String} {order : List StepKey} {front back : List Item}

theorem step_apart (h : (Stock.of texts order (front ++ back)).Unique) {step other : LiveStep}
    (hstep : .step step ∈ front) (hother : .step other ∈ back) : other.key ≠ step.key := by
  have hkeys : (((front ++ back).flatMap Item.cards).map Card.key).Nodup := h.cards
  rw [List.flatMap_append, List.map_append] at hkeys
  have hmem : forall {items : List Item} {step : LiveStep}, .step step ∈ items ->
      step.key ∈ (items.flatMap Item.cards).map Card.key :=
    fun hitem => List.mem_map.mpr
      ⟨_, List.mem_flatMap.mpr ⟨_, hitem, List.mem_singleton_self _⟩, rfl⟩
  exact ((List.nodup_append.mp hkeys).2.2 _ (hmem hstep) _ (hmem hother)).symm

theorem reaction_apart {stock : Stock} (h : stock.Unique) {before after : List LiveReaction}
    (hreactions : stock.reactions = before ++ after) {reaction other : LiveReaction}
    (hreaction : reaction ∈ before) (hother : other ∈ after) : other.key ≠ reaction.key := by
  have hkeys := h.reactions
  rw [hreactions, List.map_append] at hkeys
  exact ((List.nodup_append.mp hkeys).2.2 _ (List.mem_map.mpr ⟨_, hreaction, rfl⟩) _
    (List.mem_map.mpr ⟨_, hother, rfl⟩)).symm

end Stock.Unique

def LiveTutorial.stock (tutorial : LiveTutorial) (others : List Item) : Stock :=
  Stock.of tutorial.get (tutorial.steps.map LiveStep.key) (tutorial.steps.map Item.step ++ others)

/-!
# Edits

An edit changes one thing and reports just that.
-/

/-- What any number of edits lead to, with what they report.  Conditions may be edited in place,
which is reported to their own listeners, only if `inPlace` says so. -/
inductive Edits (inPlace : Bool) : Stock -> List Change -> Stock -> Prop where
  | part {stock : Stock} {cards : List Card} {reactions : List LiveReaction}
      (lostCards : List Card) (lostReactions : List LiveReaction) :
      stock.cards.Perm (cards ++ lostCards) -> stock.reactions.Perm (reactions ++ lostReactions) ->
      Edits inPlace stock [] { stock with cards := cards, reactions := reactions }
  | setTutorial (stock : Stock) (texts : TutorialField -> String) :
      Edits inPlace stock [.tutorialData] { stock with texts := texts }
  | addStep (stock : Stock) (key : StepKey) {index : Nat} :
      index <= stock.order.length ->
      Edits inPlace stock [.stepAdded key index]
        { stock with order := stock.order.insertIdx index key }
  | removeStep (stock : Stock) {key : StepKey} :
      key ∈ stock.order ->
      Edits inPlace stock [.stepRemoved key] { stock with order := stock.order.erase key }
  | setStep (stock : Stock) (card : Card) (texts : StepField -> String) (cards : List Card) :
      Edits inPlace { stock with cards := card :: cards } [.stepData card.key]
        { stock with cards := { card with texts := texts } :: cards }
  | addReaction (stock : Stock) (card : Card) (key : ReactionKey) {index : Nat}
      (cards : List Card) :
      index <= card.reactions.length ->
      Edits inPlace { stock with cards := card :: cards } [.reactionAdded card.key key index]
        { stock with
          cards := { card with reactions := card.reactions.insertIdx index key } :: cards }
  | removeReaction (stock : Stock) (card : Card) {key : ReactionKey} (cards : List Card) :
      key ∈ card.reactions ->
      Edits inPlace { stock with cards := card :: cards } [.reactionRemoved card.key key]
        { stock with cards := { card with reactions := card.reactions.erase key } :: cards }
  | setReaction (stock : Stock) {reaction reaction' : LiveReaction}
      (reactions : List LiveReaction) :
      reaction'.key = reaction.key ->
      Edits inPlace { stock with reactions := reaction :: reactions }
        [.reactionData reaction.key] { stock with reactions := reaction' :: reactions }
  | editCondition (stock : Stock) (reaction : LiveReaction) (condition : Option LiveCondition)
      (reactions : List LiveReaction) :
      inPlace = true ->
      Edits inPlace { stock with reactions := reaction :: reactions } []
        { stock with reactions := { reaction with condition := condition } :: reactions }
  | trans {stock between stock' : Stock} {changes more : List Change} :
      Edits inPlace stock changes between -> Edits inPlace between more stock' ->
      Edits inPlace stock (changes ++ more) stock'

/-!
# What edits keep

Keys stay unique, and whatever is different afterwards has been reported.
-/

def Carried {α : Type} (relation : α -> α -> Prop) (before after : List α) : Prop :=
  forall later, later ∈ after -> exists earlier, earlier ∈ before ∧ relation earlier later

section

variable {α : Type} {relation : α -> α -> Prop} {before after : List α}

theorem Carried.of_subset (hsubset : after ⊆ before) (hrefl : forall a, relation a a) :
    Carried relation before after :=
  fun later hlater => ⟨later, hsubset hlater, hrefl later⟩

theorem Carried.cons {earlier later : α} {rest : List α} (h : relation earlier later)
    (hrest : forall a, a ∈ rest -> relation a a) :
    Carried relation (earlier :: rest) (later :: rest) := by
  intro other hother
  rcases List.mem_cons.mp hother with rfl | hother
  · exact ⟨earlier, List.mem_cons_self, h⟩
  · exact ⟨other, List.mem_cons_of_mem earlier hother, hrest other hother⟩

end

/-- The reports lead to the reactions of a card, and to its texts unless these are as before. -/
structure Card.Follows (changes : List Change) (card card' : Card) : Prop where
  key : card'.key = card.key
  texts : .stepData card.key ∈ changes ∨ card'.texts = card.texts
  reactions : mirrorAll? card.reactions (changes.filterMap (Change.reactionEvent? card.key)) =
    some card'.reactions

def LiveReaction.settings (reaction : LiveReaction) :
    Trigger × String × Response × String × String :=
  (reaction.trigger, reaction.option, reaction.response, reaction.nextStep, reaction.code)

structure LiveReaction.Follows (inPlace : Bool) (changes : List Change)
    (reaction reaction' : LiveReaction) : Prop where
  key : reaction'.key = reaction.key
  fields : .reactionData reaction.key ∈ changes ∨
    (reaction'.settings = reaction.settings ∧
      (inPlace = true ∨ reaction'.condition = reaction.condition))

namespace Card.Follows

variable {changes more : List Change} {card card' card'' : Card}

theorem refl (card : Card) (h : changes.filterMap (Change.reactionEvent? card.key) = []) :
    card.Follows changes card where
  key := rfl
  texts := .inr rfl
  reactions := by
    rw [h]
    rfl

theorem trans (h : card.Follows changes card') (h' : card'.Follows more card'') :
    card.Follows (changes ++ more) card'' where
  key := h'.key.trans h.key
  texts := by
    rcases h.texts with htold | htexts
    · exact .inl (List.mem_append_left more htold)
    · rcases h'.texts with htold' | htexts'
      · rw [h.key] at htold'
        exact .inl (List.mem_append_right changes htold')
      · exact .inr (htexts'.trans htexts)
  reactions := by
    have hreactions' := h'.reactions
    rw [h.key] at hreactions'
    rw [List.filterMap_append]
    exact mirrorAll?_append h.reactions hreactions'

end Card.Follows

namespace LiveReaction.Follows

variable {inPlace : Bool} {changes more : List Change}
  {reaction reaction' reaction'' : LiveReaction}

theorem refl (inPlace : Bool) (changes : List Change) (reaction : LiveReaction) :
    reaction.Follows inPlace changes reaction :=
  ⟨rfl, .inr ⟨rfl, .inr rfl⟩⟩

theorem trans (h : reaction.Follows inPlace changes reaction')
    (h' : reaction'.Follows inPlace more reaction'') :
    reaction.Follows inPlace (changes ++ more) reaction'' where
  key := h'.key.trans h.key
  fields := by
    rcases h.fields with htold | ⟨hsettings, hcondition⟩
    · exact .inl (List.mem_append_left more htold)
    · rcases h'.fields with htold' | ⟨hsettings', hcondition'⟩
      · rw [h.key] at htold'
        exact .inl (List.mem_append_right changes htold')
      · refine .inr ⟨hsettings'.trans hsettings, ?_⟩
        rcases hcondition with hcondition | hcondition
        · exact .inl hcondition
        · exact hcondition'.imp_right fun hcondition' => hcondition'.trans hcondition

theorem weaken (h : reaction.Follows inPlace changes reaction') :
    reaction.Follows true changes reaction' where
  key := h.key
  fields := h.fields.imp_right fun hsame => ⟨hsame.1, .inl rfl⟩

end LiveReaction.Follows

/-- Nothing new is there after the edits, and what has changed has been reported. -/
structure Explained (inPlace : Bool) (stock : Stock) (changes : List Change) (stock' : Stock) :
    Prop where
  texts : .tutorialData ∈ changes ∨ stock'.texts = stock.texts
  order : mirrorAll? stock.order (changes.filterMap Change.stepEvent?) = some stock'.order
  cards : Carried (Card.Follows changes) stock.cards stock'.cards
  reactions : Carried (LiveReaction.Follows inPlace changes) stock.reactions stock'.reactions

namespace Explained

variable {inPlace : Bool} {stock between stock' : Stock} {changes more : List Change}

theorem trans (h : Explained inPlace stock changes between)
    (h' : Explained inPlace between more stock') :
    Explained inPlace stock (changes ++ more) stock' where
  texts := by
    rcases h.texts with htold | htexts
    · exact .inl (List.mem_append_left more htold)
    · exact h'.texts.imp (List.mem_append_right changes) fun htexts' => htexts'.trans htexts
  order := by
    rw [List.filterMap_append]
    exact mirrorAll?_append h.order h'.order
  cards := by
    intro later hlater
    rcases h'.cards later hlater with ⟨card, hcard, hfollows'⟩
    rcases h.cards card hcard with ⟨earlier, hearlier, hfollows⟩
    exact ⟨earlier, hearlier, hfollows.trans hfollows'⟩
  reactions := by
    intro later hlater
    rcases h'.reactions later hlater with ⟨reaction, hreaction, hfollows'⟩
    rcases h.reactions reaction hreaction with ⟨earlier, hearlier, hfollows⟩
    exact ⟨earlier, hearlier, hfollows.trans hfollows'⟩

theorem of_subset (htexts : .tutorialData ∈ changes ∨ stock'.texts = stock.texts)
    (horder : mirrorAll? stock.order (changes.filterMap Change.stepEvent?) = some stock'.order)
    (hquiet : forall step, changes.filterMap (Change.reactionEvent? step) = [])
    (hcards : stock'.cards ⊆ stock.cards) (hreactions : stock'.reactions ⊆ stock.reactions) :
    Explained inPlace stock changes stock' :=
  ⟨htexts, horder, .of_subset hcards fun card => .refl card (hquiet card.key),
    .of_subset hreactions (LiveReaction.Follows.refl inPlace changes)⟩

theorem of_card {card card' : Card} {cards : List Card}
    (hkeys : ((card :: cards).map Card.key).Nodup)
    (horder : changes.filterMap Change.stepEvent? = [])
    (hothers : forall key, key ≠ card.key ->
      changes.filterMap (Change.reactionEvent? key) = [])
    (h : card.Follows changes card') :
    Explained inPlace { stock with cards := card :: cards } changes
      { stock with cards := card' :: cards } where
  texts := .inr rfl
  order := by
    rw [horder]
    rfl
  cards := by
    refine .cons h fun other hother => .refl other (hothers other.key ?_)
    rintro hkey
    rw [List.map_cons, ← hkey] at hkeys
    exact (List.nodup_cons.mp hkeys).1 (List.mem_map.mpr ⟨other, hother, rfl⟩)
  reactions := .of_subset (List.Subset.refl _) (LiveReaction.Follows.refl inPlace changes)

theorem of_reaction {reaction reaction' : LiveReaction} {reactions : List LiveReaction}
    (horder : changes.filterMap Change.stepEvent? = [])
    (hquiet : forall step, changes.filterMap (Change.reactionEvent? step) = [])
    (h : reaction.Follows inPlace changes reaction') :
    Explained inPlace { stock with reactions := reaction :: reactions } changes
      { stock with reactions := reaction' :: reactions } where
  texts := .inr rfl
  order := by
    rw [horder]
    rfl
  cards := .of_subset (List.Subset.refl _) fun card => .refl card (hquiet card.key)
  reactions := .cons h fun other _ => .refl inPlace changes other

end Explained

namespace Edits

variable {inPlace : Bool}

variable {stock stock' : Stock} {changes : List Change}

theorem refl (stock : Stock) : Edits inPlace stock [] stock :=
  .part [] [] (by simp) (by simp)

theorem unique (h : Edits inPlace stock changes stock') (hunique : stock.Unique) :
    stock'.Unique := by
  induction h with
  | part lostCards lostReactions hcards hreactions =>
      refine ⟨?_, ?_⟩
      · have hkeys := (hcards.map Card.key).nodup_iff.mp hunique.cards
        rw [List.map_append] at hkeys
        exact (List.nodup_append.mp hkeys).1
      · have hkeys := (hreactions.map LiveReaction.key).nodup_iff.mp hunique.reactions
        rw [List.map_append] at hkeys
        exact (List.nodup_append.mp hkeys).1
  | setTutorial | addStep | removeStep | setStep | addReaction | removeReaction | editCondition =>
      exact ⟨hunique.cards, hunique.reactions⟩
  | setReaction stock reactions hkey =>
      refine ⟨hunique.cards, ?_⟩
      have hreactions := hunique.reactions
      rw [List.map_cons] at hreactions ⊢
      rwa [hkey]
  | trans hfirst hsecond ihfirst ihsecond => exact ihsecond (ihfirst hunique)

theorem explained (h : Edits inPlace stock changes stock') (hunique : stock.Unique) :
    Explained inPlace stock changes stock' := by
  induction h with
  | part lostCards lostReactions hcards hreactions =>
      refine Explained.of_subset (.inr rfl) rfl (fun _ => rfl) ?_ ?_
      · exact fun card hcard => hcards.mem_iff.mpr (List.mem_append_left _ hcard)
      · exact fun reaction hreaction => hreactions.mem_iff.mpr (List.mem_append_left _ hreaction)
  | setTutorial stock texts =>
      exact .of_subset (.inl List.mem_cons_self) rfl (fun _ => rfl) (List.Subset.refl _)
        (List.Subset.refl _)
  | addStep stock key hindex =>
      exact .of_subset (.inr rfl) (mirrorAll?_added key hindex) (fun _ => rfl)
        (List.Subset.refl _) (List.Subset.refl _)
  | removeStep stock hkey =>
      exact .of_subset (.inr rfl) (mirrorAll?_removed hkey) (fun _ => rfl) (List.Subset.refl _)
        (List.Subset.refl _)
  | setStep stock card texts cards =>
      exact .of_card hunique.cards rfl (fun _ _ => rfl) ⟨rfl, .inl List.mem_cons_self, rfl⟩
  | addReaction stock card key cards hindex =>
      refine .of_card hunique.cards rfl ?_ ⟨rfl, .inr rfl, ?_⟩
      · intro other hother
        simp [Change.reactionEvent?, hother.symm]
      · simpa [Change.reactionEvent?] using mirrorAll?_added key hindex
  | removeReaction stock card cards hkey =>
      refine .of_card hunique.cards rfl ?_ ⟨rfl, .inr rfl, ?_⟩
      · intro other hother
        simp [Change.reactionEvent?, hother.symm]
      · simpa [Change.reactionEvent?] using mirrorAll?_removed hkey
  | setReaction stock reactions hkey =>
      exact .of_reaction rfl (fun _ => rfl) ⟨hkey, .inl List.mem_cons_self⟩
  | editCondition stock reaction condition reactions hplace =>
      exact .of_reaction rfl (fun _ => rfl) ⟨rfl, .inr ⟨rfl, .inl hplace⟩⟩
  | trans hfirst hsecond ihfirst ihsecond =>
      exact (ihfirst hunique).trans (ihsecond (hfirst.unique hunique))

end Edits

/-!
# Edits of items

Items may be listed in another order, and some may be given up.
-/

theorem perm_eraseP_of_find? {α : Type} {p : α -> Bool} {l : List α} {a : α}
    (h : l.find? p = some a) : l.Perm (a :: l.eraseP p) := by
  rcases find?_split h with ⟨before, after, rfl, ha, hbefore⟩
  rw [List.eraseP_append_right _ (by simpa using hbefore), List.eraseP_cons_of_pos ha]
  exact List.perm_middle

theorem map_eraseP_key {α κ : Type} [BEq κ] [LawfulBEq κ] (key : α -> κ) (k : κ) (l : List α) :
    (l.eraseP fun a => key a == k).map key = (l.map key).erase k := by
  rw [List.erase_eq_eraseP, List.eraseP_map]
  congr 2
  funext a
  exact BEq.comm

theorem LiveStep.insertReaction_eq_ok {step changed : LiveStep} {index : Nat}
    {reaction : LiveReaction} (h : step.insertReaction index reaction = .ok changed) :
    index <= step.reactions.length ∧
      changed = { step with reactions := step.reactions.insertIdx index reaction } := by
  unfold insertReaction at h
  split at h
  · cases h
  · split at h
    · next hindex =>
        cases h
        exact ⟨hindex, rfl⟩
    · cases h

theorem LiveStep.removeReaction_eq_ok {step changed : LiveStep} {key : ReactionKey}
    {reaction : LiveReaction} (h : step.removeReaction key = .ok (reaction, changed)) :
    step.reaction? key = some reaction ∧ changed = { step with
      reactions := step.reactions.eraseP fun reaction => reaction.key == key } := by
  unfold removeReaction at h
  cases hfound : step.reaction? key with
  | none =>
      rw [hfound] at h
      cases h
  | some found =>
      rw [hfound] at h
      cases h
      exact ⟨rfl, rfl⟩

namespace Edits

variable {inPlace : Bool} {texts : TutorialField -> String} {order : List StepKey}
  {items items' rest : List Item}

theorem relist {stock stock' stock'' : Stock} {changes : List Change}
    (h : Edits inPlace stock changes stock') (htexts : stock''.texts = stock'.texts)
    (horder : stock''.order = stock'.order) (hcards : stock'.cards.Perm stock''.cards)
    (hreactions : stock'.reactions.Perm stock''.reactions) :
    Edits inPlace stock changes stock'' := by
  have hlast : Edits inPlace stock' [] { stock' with
      cards := stock''.cards, reactions := stock''.reactions } :=
    .part [] [] (by rwa [List.append_nil]) (by rwa [List.append_nil])
  rw [← htexts, ← horder] at hlast
  have hall := h.trans hlast
  rwa [List.append_nil] at hall

theorem of_perm (lost : List Item) (h : items.Perm (items' ++ lost)) :
    Edits inPlace (.of texts order items) [] (.of texts order items') := by
  have hcards := h.flatMap_right Item.cards
  have hreactions := h.flatMap_right Item.reactions
  rw [List.flatMap_append] at hcards hreactions
  exact .part _ _ hcards hreactions

theorem between {order' : List StepKey} {texts' : TutorialField -> String}
    {front front' : List Item} {changes : List Change} (h : items.Perm front)
    (hedits : Edits inPlace (.of texts order front) changes (.of texts' order' front'))
    (h' : front'.Perm items') :
    Edits inPlace (.of texts order items) changes (.of texts' order' items') := by
  have hbefore : Edits inPlace (.of texts order items) [] (.of texts order front) :=
    .of_perm [] (by rwa [List.append_nil])
  have hafter : Edits inPlace (.of texts order front) changes (.of texts' order' items') :=
    hedits.relist rfl rfl (h'.flatMap_right Item.cards) (h'.flatMap_right Item.reactions)
  have hall := hbefore.trans hafter
  rwa [List.nil_append] at hall

end Edits

/-!
# Edits of one step

What changes in one step is an edit of the stock, whatever else is there.
-/

structure Revises (inPlace : Bool) (reaction : LiveReaction) (changes : List Change)
    (reaction' : LiveReaction) : Prop where
  key : reaction'.key = reaction.key
  edits : forall (stock : Stock) (reactions : List LiveReaction),
    Edits inPlace { stock with reactions := reaction :: reactions } changes
      { stock with reactions := reaction' :: reactions }

theorem Revises.data {inPlace : Bool} {reaction reaction' : LiveReaction}
    (hkey : reaction'.key = reaction.key) :
    Revises inPlace reaction [.reactionData reaction.key] reaction' :=
  ⟨hkey, fun stock reactions => .setReaction stock reactions hkey⟩

theorem Revises.condition (reaction : LiveReaction) (condition : Option LiveCondition) :
    Revises true reaction [] { reaction with condition := condition } :=
  ⟨rfl, fun stock reactions => .editCondition stock reaction condition reactions rfl⟩

theorem Revises.alone {inPlace : Bool} {reaction reaction' : LiveReaction} {changes : List Change}
    (h : Revises inPlace reaction changes reaction') (texts : TutorialField -> String)
    (order : List StepKey) (rest : List Item) :
    Edits inPlace (.of texts order (.reaction reaction :: rest)) changes
      (.of texts order (.reaction reaction' :: rest)) :=
  h.edits (.of texts order rest) (rest.flatMap Item.reactions)

/-- Some edits lead from a step to another one with its key, taking items into the step or giving
them out of it, whatever else there is. -/
structure Amends (inPlace : Bool) (step : LiveStep) (taken : List Item) (changes : List Change)
    (step' : LiveStep) (given : List Item) : Prop where
  key : step'.key = step.key
  edits : forall texts order rest,
    Edits inPlace (.of texts order (.step step :: (taken ++ rest))) changes
      (.of texts order (.step step' :: (given ++ rest)))

namespace Amends

variable {inPlace : Bool} {step step' : LiveStep}

theorem data (hkey : step'.key = step.key) (hreactions : step'.reactions = step.reactions) :
    Amends inPlace step [] [.stepData step.key] step' [] where
  key := hkey
  edits := by
    intro texts order rest
    have hcard : step'.card = { step.card with texts := step'.get } := by
      rw [LiveStep.card, LiveStep.card, hkey, hreactions]
    have hset : Edits inPlace _ _ _ := .setStep (.of texts order (.step step :: rest)) step.card
      step'.get (rest.flatMap Item.cards)
    refine hset.relist rfl rfl (.of_eq ?_) (.of_eq ?_)
    · rw [← hcard]
      rfl
    · exact congrArg (· ++ rest.flatMap Item.reactions) hreactions.symm

theorem reactionAdded {reaction : LiveReaction} {index : Nat}
    (h : step.insertReaction index reaction = .ok step') :
    Amends inPlace step [.reaction reaction] [.reactionAdded step.key reaction.key index]
      step' [] := by
  rcases LiveStep.insertReaction_eq_ok h with ⟨hindex, rfl⟩
  refine ⟨rfl, ?_⟩
  intro texts order rest
  have hadded : Edits inPlace _ _ _ := .addReaction
    (.of texts order (.step step :: .reaction reaction :: rest)) step.card reaction.key
    (rest.flatMap Item.cards) (by simpa [LiveStep.card] using hindex)
  have hcards : (Item.step { step with
      reactions := step.reactions.insertIdx index reaction } :: rest).flatMap Item.cards =
      { step.card with reactions := step.card.reactions.insertIdx index reaction.key } ::
        rest.flatMap Item.cards := by
    simp only [List.flatMap_cons, Item.cards, LiveStep.card, List.map_insertIdx]
    rfl
  have hreactions : (step.reactions ++ reaction :: rest.flatMap Item.reactions).Perm
      (step.reactions.insertIdx index reaction ++ rest.flatMap Item.reactions) :=
    List.perm_middle.trans
      ((List.perm_insertIdx reaction step.reactions hindex).symm.append_right _)
  exact hadded.relist rfl rfl (.of_eq hcards.symm) hreactions

theorem reactionRemoved {key : ReactionKey} {reaction : LiveReaction}
    (h : step.removeReaction key = .ok (reaction, step')) :
    Amends inPlace step [] [.reactionRemoved step.key key] step' [.reaction reaction] := by
  rcases LiveStep.removeReaction_eq_ok h with ⟨hfound, rfl⟩
  refine ⟨rfl, ?_⟩
  intro texts order rest
  have hkey : reaction.key = key := by simpa using List.find?_some hfound
  have hmem : key ∈ step.card.reactions :=
    List.mem_map.mpr ⟨reaction, List.mem_of_find?_eq_some hfound, hkey⟩
  have hremoved : Edits inPlace _ _ _ := .removeReaction
    (.of texts order (.step step :: rest)) step.card (rest.flatMap Item.cards) hmem
  have hkeys : (step.reactions.eraseP fun reaction => reaction.key == key).map LiveReaction.key =
      step.card.reactions.erase key :=
    map_eraseP_key LiveReaction.key key step.reactions
  have hcards : (Item.step { step with
      reactions := step.reactions.eraseP fun reaction => reaction.key == key } ::
        .reaction reaction :: rest).flatMap Item.cards =
      { step.card with reactions := step.card.reactions.erase key } ::
        rest.flatMap Item.cards := by
    rw [← hkeys]
    rfl
  have hreactions : (step.reactions ++ rest.flatMap Item.reactions).Perm
      (step.reactions.eraseP (fun reaction => reaction.key == key) ++
        reaction :: rest.flatMap Item.reactions) :=
    ((perm_eraseP_of_find? hfound).append_right _).trans List.perm_middle.symm
  exact hremoved.relist rfl rfl (.of_eq hcards.symm) hreactions

theorem ofReaction {key : ReactionKey} {reaction : LiveReaction} {changes : List Change}
    {f : LiveReaction -> LiveReaction} (hfound : step.reaction? key = some reaction)
    (h : Revises inPlace reaction changes (f reaction)) :
    Amends inPlace step [] changes (step.updateReaction key f) [] := by
  rcases find?_split hfound with ⟨before, after, hreactions, hkey, hbefore⟩
  have hupdate : step.updateReaction key f =
      { step with reactions := before ++ f reaction :: after } := by
    rw [LiveStep.updateReaction, hreactions,
      replaceFirst_append f (p := fun reaction => reaction.key == key) hkey hbefore]
  rw [hupdate]
  refine ⟨rfl, ?_⟩
  intro texts order rest
  have hcard : ({ step with reactions := before ++ f reaction :: after } : LiveStep).card =
      step.card := by
    simp only [LiveStep.card, hreactions, List.map_append, List.map_cons, h.key]
    rfl
  have hmiddle : forall one : LiveReaction,
      (one :: (before ++ after ++ rest.flatMap Item.reactions)).Perm
        (before ++ one :: after ++ rest.flatMap Item.reactions) :=
    fun one => List.perm_middle.symm.append_right (rest.flatMap Item.reactions)
  have hbefore : (Item.step step :: rest).flatMap Item.reactions =
      before ++ reaction :: after ++ rest.flatMap Item.reactions :=
    congrArg (· ++ rest.flatMap Item.reactions) hreactions
  have hlisted : Edits inPlace (.of texts order (.step step :: rest)) []
      { Stock.of texts order (.step step :: rest) with
        reactions := reaction :: (before ++ after ++ rest.flatMap Item.reactions) } :=
    (Edits.refl _).relist rfl rfl (.refl _) (.trans (.of_eq hbefore) (hmiddle reaction).symm)
  have hall := hlisted.trans (h.edits _ _)
  rw [List.nil_append] at hall
  refine hall.relist rfl rfl (.of_eq ?_) (hmiddle (f reaction))
  exact congrArg (· :: rest.flatMap Item.cards) hcard.symm

end Amends

/-!
# Edits of a tutorial

A step is edited where it stands in the tutorial.
-/

namespace LiveTutorial

theorem insertStep_eq_ok {tutorial more : LiveTutorial} {index : Nat} {step : LiveStep}
    (h : tutorial.insertStep index step = .ok more) :
    index <= tutorial.steps.length ∧
      more = { tutorial with steps := tutorial.steps.insertIdx index step } := by
  unfold insertStep at h
  split at h
  · cases h
  · split at h
    · next hindex =>
        cases h
        exact ⟨hindex, rfl⟩
    · cases h

theorem removeStep_eq_ok {tutorial less : LiveTutorial} {key : StepKey} {step : LiveStep}
    (h : tutorial.removeStep key = .ok (step, less)) :
    tutorial.step? key = some step ∧
      less = { tutorial with steps := tutorial.steps.eraseP fun step => step.key == key } := by
  unfold removeStep at h
  cases hfound : tutorial.step? key with
  | none =>
      rw [hfound] at h
      cases h
  | some found =>
      rw [hfound] at h
      cases h
      exact ⟨rfl, rfl⟩

end LiveTutorial

theorem perm_step_middle (before after : List LiveStep) (step : LiveStep)
    (extra others : List Item) :
    ((before ++ step :: after).map Item.step ++ (extra ++ others)).Perm
      (.step step :: (extra ++ ((before ++ after).map Item.step ++ others))) := by
  rw [List.map_append, List.map_cons, List.map_append]
  have hfront : (before.map Item.step ++ .step step :: after.map Item.step).Perm
      (.step step :: (before.map Item.step ++ after.map Item.step)) := List.perm_middle
  exact (hfront.append_right (extra ++ others)).trans
    ((List.perm_append_comm_assoc _ extra others).cons _)

namespace Edits

variable {inPlace : Bool} {tutorial : LiveTutorial}

theorem tutorial_set (field : TutorialField) (text : String) (others : List Item) :
    Edits inPlace (tutorial.stock others) [.tutorialData]
      ((tutorial.set field text).stock others) := by
  have hstock : (tutorial.set field text).stock others =
      { tutorial.stock others with texts := (tutorial.set field text).get } := by
    cases field <;> rfl
  rw [hstock]
  exact .setTutorial (tutorial.stock others) (tutorial.set field text).get

theorem step_inserted {more : LiveTutorial} {index : Nat} {step : LiveStep}
    (h : tutorial.insertStep index step = .ok more) (others : List Item) :
    Edits inPlace (tutorial.stock (.step step :: others)) [.stepAdded step.key index]
      (more.stock others) := by
  rcases LiveTutorial.insertStep_eq_ok h with ⟨hindex, rfl⟩
  have hperm : (tutorial.steps.map Item.step ++ .step step :: others).Perm
      ((tutorial.steps.insertIdx index step).map Item.step ++ others) :=
    List.perm_middle.trans
      (((List.perm_insertIdx step tutorial.steps hindex).symm.map Item.step).append_right others)
  have hlength : index <= (tutorial.stock (.step step :: others)).order.length := by
    simpa [LiveTutorial.stock, Stock.of] using hindex
  have hadded : Edits inPlace _ _ _ := .addStep _ step.key hlength
  refine hadded.relist rfl ?_ (hperm.flatMap_right Item.cards) (hperm.flatMap_right Item.reactions)
  exact List.map_insertIdx ..

theorem step_removed {less : LiveTutorial} {key : StepKey} {step : LiveStep}
    (h : tutorial.removeStep key = .ok (step, less)) (others : List Item) :
    Edits inPlace (tutorial.stock others) [.stepRemoved key]
      (less.stock (.step step :: others)) := by
  rcases LiveTutorial.removeStep_eq_ok h with ⟨hfound, rfl⟩
  have hkey : step.key = key := LiveTutorial.key_of_step? hfound
  have hmem : key ∈ (tutorial.stock others).order :=
    List.mem_map.mpr ⟨step, LiveTutorial.mem_of_step? hfound, hkey⟩
  have hperm : (tutorial.steps.map Item.step ++ others).Perm
      ((tutorial.steps.eraseP fun step => step.key == key).map Item.step ++
        .step step :: others) :=
    (((perm_eraseP_of_find? hfound).map Item.step).append_right others).trans
      List.perm_middle.symm
  have hremoved : Edits inPlace _ _ _ := .removeStep (tutorial.stock others) hmem
  exact hremoved.relist rfl (map_eraseP_key LiveStep.key key tutorial.steps)
    (hperm.flatMap_right Item.cards) (hperm.flatMap_right Item.reactions)

end Edits

section

variable {inPlace : Bool} {tutorial : LiveTutorial} {changes : List Change}

theorem Amends.inSteps {before after : List LiveStep} {step step' : LiveStep}
    {taken given : List Item} (hsteps : tutorial.steps = before ++ step :: after)
    (h : Amends inPlace step taken changes step' given) (others : List Item) :
    Edits inPlace (tutorial.stock (taken ++ others)) changes
      (LiveTutorial.stock { tutorial with steps := before ++ step' :: after }
        (given ++ others)) := by
  have horder : (before ++ step' :: after).map LiveStep.key = tutorial.steps.map LiveStep.key := by
    rw [hsteps, List.map_append, List.map_append, List.map_cons, List.map_cons, h.key]
  rw [LiveTutorial.stock, LiveTutorial.stock, horder, hsteps]
  exact .between (perm_step_middle ..) (h.edits _ _ _) (perm_step_middle ..).symm

theorem Amends.inTutorial {key : StepKey} {step : LiveStep} {f : LiveStep -> LiveStep}
    {taken given : List Item} (hfound : tutorial.step? key = some step)
    (h : Amends inPlace step taken changes (f step) given) (others : List Item) :
    Edits inPlace (tutorial.stock (taken ++ others)) changes
      ((tutorial.updateStep key f).stock (given ++ others)) := by
  rcases LiveTutorial.steps_updateStep hfound with ⟨before, after, hsteps, hupdate⟩
  rw [hupdate]
  exact h.inSteps hsteps others

theorem Revises.inTutorial {key : ReactionKey} {reaction : LiveReaction}
    {f : LiveReaction -> LiveReaction} (hfound : tutorial.reaction? key = some reaction)
    (h : Revises inPlace reaction changes (f reaction)) (others : List Item) :
    Edits inPlace (tutorial.stock others) changes
      ((tutorial.updateReaction key f).stock others) := by
  rcases LiveTutorial.steps_updateReaction hfound with
    ⟨before, step, after, hsteps, hstep, -, hupdate⟩
  rw [hupdate]
  exact (Amends.ofReaction hstep h).inSteps hsteps others

end

end TutorialKit
