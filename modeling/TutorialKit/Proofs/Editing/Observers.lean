import Mathlib.Data.List.Nodup
import TutorialKit.Proofs.Editing.Requests

/-!
# What observers see

Whoever listens to a tutorial or a step can keep a mirror of its keys from what is reported.
Through every run of requests, failing ones included, the mirrors show the lists as they are, and no
field of anything changes without its listeners being told.
-/

namespace TutorialKit

/-!
# Sessions

Everything on the bench is known by its key, wherever it lies.
-/

def Item.steps : Item -> List LiveStep
  | step s => [s]
  | reaction _ => []

namespace Workbench

def steps (bench : Workbench) : List LiveStep :=
  (bench.tutorial.steps.map Item.step ++ bench.items).flatMap Item.steps

def reactions (bench : Workbench) : List LiveReaction :=
  (bench.tutorial.steps.map Item.step ++ bench.items).flatMap Item.reactions

/-- Everything on the bench has a key of its own, which is known. -/
structure Sound (bench : Workbench) : Prop where
  steps : (bench.steps.map LiveStep.key).Nodup
  reactions : (bench.reactions.map LiveReaction.key).Nodup
  knownSteps : forall step, step ∈ bench.steps -> step.key ∈ bench.knownSteps
  knownReactions : forall reaction, reaction ∈ bench.reactions ->
    reaction.key ∈ bench.knownReactions
  prepared : (bench.prepared.map Prod.fst).Nodup

/-!
# Keys of what is opened or created

The keys of an opened tutorial are made from places in it, and no two of them read the same.
-/

theorem nodup_map_mapIdx {α β κ : Type} (f : Nat -> α -> β) (key : β -> κ)
    (hkey : forall i j a b, key (f i a) = key (f j b) -> i = j) (l : List α) :
    ((l.mapIdx f).map key).Nodup := by
  rw [List.Nodup, List.pairwise_iff_getElem]
  intro i j hi hj hlt hsame
  simp only [List.getElem_map, List.getElem_mapIdx] at hsame
  have hij := hkey _ _ _ _ hsame
  omega

theorem toString_injective {i j : Nat} (h : toString i = toString j) : i = j := by
  have hvalue := congrArg (fun text => Nat.ofDigitChars 10 text.toList 0) h
  simpa [Nat.toString_eq_repr] using hvalue

theorem reactionKey_injective {step : StepKey} {i j : Nat}
    (h : reactionKey step i = reactionKey step j) : i = j := by
  have hname := ReactionKey.mk.inj h
  rw [String.append_right_inj] at hname
  have hnumber := toString_injective hname
  omega

theorem nodup_liveStep (key : StepKey) (step : Step) :
    ((liveStep key step).reactions.map LiveReaction.key).Nodup :=
  nodup_map_mapIdx (fun index reaction => LiveReaction.ofContent (reactionKey key index) reaction)
    LiveReaction.key (fun _ _ _ _ h => reactionKey_injective h) step.reactions

theorem exists_reactionKey {key : StepKey} {step : Step} {reaction : ReactionKey}
    (h : reaction ∈ (liveStep key step).reactions.map LiveReaction.key) :
    exists index, reaction = reactionKey key index := by
  rcases List.mem_map.mp h with ⟨live, hlive, rfl⟩
  rcases List.mem_mapIdx.mp hlive with ⟨index, hindex, rfl⟩
  exact ⟨index, rfl⟩

theorem takeWhile_reactionKey (i k : Nat) :
    (reactionKey ⟨"s" ++ toString i⟩ k).name.toList.takeWhile (· != 'r') =
      's' :: (toString i).toList := by
  have hdigits : forall c, c ∈ (toString i).toList -> (c != 'r') = true := by
    intro c hc
    rw [Nat.toString_eq_repr, Nat.toList_repr] at hc
    have hdigit := Nat.isDigit_of_mem_toDigits (by decide) (Nat.le_refl 10) hc
    rw [bne_iff_ne]
    rintro rfl
    revert hdigit
    decide
  have hname : (reactionKey ⟨"s" ++ toString i⟩ k).name.toList =
      's' :: (toString i).toList ++ 'r' :: (toString (k + 1)).toList := by
    simp [reactionKey]
  rw [hname, List.takeWhile_append_of_pos]
  · simp
  · rw [List.forall_mem_cons]
    exact ⟨by decide, hdigits⟩

theorem foldl_know (steps : List LiveStep) (bench : Workbench) :
    steps.foldl (fun bench step => bench.know step) bench = { bench with
      knownSteps := steps.reverse.map LiveStep.key ++ bench.knownSteps
      knownReactions := (steps.reverse.flatMap LiveStep.reactions).map LiveReaction.key ++
        bench.knownReactions } := by
  induction steps generalizing bench with
  | nil => rfl
  | cons step rest ih =>
      rw [List.foldl_cons, ih]
      simp [know]

theorem nodup_steps_liveTutorial (tutorial : Tutorial) :
    ((liveTutorial tutorial).steps.map LiveStep.key).Nodup := by
  refine nodup_map_mapIdx (fun index step => liveStep ⟨"s" ++ toString (index + 1)⟩ step)
    LiveStep.key (fun i j _ _ h => ?_) tutorial.steps
  have hname := StepKey.mk.inj h
  rw [String.append_right_inj] at hname
  have hnumber := toString_injective hname
  omega

theorem nodup_reactions_liveTutorial (tutorial : Tutorial) :
    (((liveTutorial tutorial).steps.flatMap LiveStep.reactions).map LiveReaction.key).Nodup := by
  rw [List.map_flatMap, List.nodup_flatMap]
  constructor
  · intro step hstep
    rcases List.mem_mapIdx.mp hstep with ⟨index, hindex, rfl⟩
    exact nodup_liveStep _ _
  · rw [List.pairwise_iff_getElem]
    intro i j hi hj hlt key hkey hkey'
    simp only [liveTutorial, List.getElem_mapIdx] at hkey hkey'
    rcases exists_reactionKey hkey with ⟨k, hk⟩
    rcases exists_reactionKey hkey' with ⟨l, hl⟩
    have hnames := takeWhile_reactionKey (i + 1) k
    rw [← hk, hl, takeWhile_reactionKey, List.cons_inj_right, String.toList_inj] at hnames
    have hnumbers := toString_injective hnames
    omega

theorem sound_ofTutorial (tutorial : Tutorial) : (ofTutorial tutorial).Sound := by
  have hbench : ofTutorial tutorial = _ := foldl_know (liveTutorial tutorial).steps _
  have hitems : (ofTutorial tutorial).items = [] := by
    rw [hbench]
    rfl
  have hsteps : (ofTutorial tutorial).steps = (liveTutorial tutorial).steps := by
    rw [steps, hitems, List.append_nil, hbench, List.flatMap_map]
    exact List.flatMap_singleton' _
  have hreactions : (ofTutorial tutorial).reactions =
      (liveTutorial tutorial).steps.flatMap LiveStep.reactions := by
    rw [reactions, hitems, List.append_nil, hbench, List.flatMap_map]
    rfl
  refine ⟨?_, ?_, ?_, ?_, ?_⟩
  · rw [hsteps]
    exact nodup_steps_liveTutorial tutorial
  · rw [hreactions]
    exact nodup_reactions_liveTutorial tutorial
  · intro step hstep
    rw [hsteps] at hstep
    rw [hbench]
    exact List.mem_append_left _ (List.mem_map.mpr ⟨step, List.mem_reverse.mpr hstep, rfl⟩)
  · intro reaction hreaction
    rw [hreactions, List.mem_flatMap] at hreaction
    rcases hreaction with ⟨step, hstep, hreaction⟩
    have hmem : reaction ∈ (liveTutorial tutorial).steps.reverse.flatMap LiveStep.reactions :=
      List.mem_flatMap.mpr ⟨step, List.mem_reverse.mpr hstep, hreaction⟩
    rw [hbench]
    exact List.mem_append_left _ (List.mem_map.mpr ⟨reaction, hmem, rfl⟩)
  · rw [hbench]
    exact List.nodup_nil

end Workbench

inductive BenchRequest where
  | createStep (key : StepKey) (step : Step)
  | createReaction (key : ReactionKey) (reaction : Reaction)
  | insertStep (key : StepKey) (index : Option Nat)
  | removeStep (key : StepKey)
  | insertReaction (step : StepKey) (key : ReactionKey) (index : Option Nat)
  | removeReaction (step : StepKey) (key : ReactionKey)
  | setTutorial (field : TutorialField) (text : String)
  | setStep (key : StepKey) (field : StepField) (text : String)
  | setReaction (key : ReactionKey) (value : ReactionValue)
  | editCondition (key : ReactionKey) (path : List Nat) (request : ConditionRequest)
  | push (order : Workbench.Order)
  | commit (label : String) (orders : List Workbench.Order)
  | undo
  | redo
  | setClean
  | clear
  | prepare (name : String) (order : Workbench.Order)
  | runPrepared (direction : Direction) (name : String)

def Served.outcome {α : Type} (served : Served α) : Workbench × List (Label × Notice) :=
  (served.bench, served.notices)

namespace BenchRequest

def serve (request : BenchRequest) (bench : Workbench) : Workbench × List (Label × Notice) :=
  match request with
  | createStep key step => (bench.createStep key step).outcome
  | createReaction key reaction => (bench.createReaction key reaction).outcome
  | insertStep key index => (bench.insertStep key index).outcome
  | removeStep key => (bench.removeStep key).outcome
  | insertReaction step key index => (bench.insertReaction step key index).outcome
  | removeReaction step key => (bench.removeReaction step key).outcome
  | setTutorial field text => (bench.setTutorial field text).outcome
  | setStep key field text => (bench.setStep key field text).outcome
  | setReaction key value => (bench.setReaction key value).outcome
  | editCondition key path request => (bench.editCondition key path request).outcome
  | push order => (bench.push order).outcome
  | commit label orders => (bench.commit label orders).outcome
  | undo => bench.undo.outcome
  | redo => bench.redo.outcome
  | setClean => bench.setClean.outcome
  | clear => bench.clear.outcome
  | prepare name order => (bench.prepare name order).outcome
  | runPrepared direction name => (bench.runPrepared direction name).outcome

/-- Whether a condition is edited where it is, which concerns its own listeners only. -/
def inPlace : BenchRequest -> Bool
  | editCondition .. => true
  | _ => false

/-- Keys are never used again: what is created has keys that have not been known. -/
def Fresh (bench : Workbench) : BenchRequest -> Prop
  | createStep key step => key ∉ bench.knownSteps ∧
      forall reaction, reaction ∈ (Workbench.liveStep key step).reactions ->
        reaction.key ∉ bench.knownReactions
  | createReaction key _ => key ∉ bench.knownReactions
  | _ => True

end BenchRequest

namespace Workbench

/-- Requests one after the other, with all notices that they lead to.  The same listeners are there
throughout. -/
inductive Runs (bench : Workbench) : List (Label × Notice) -> Workbench -> Prop where
  | start : Runs bench [] bench
  | next {notices : List (Label × Notice)} {bench' : Workbench} (request : BenchRequest) :
      Runs bench notices bench' -> request.Fresh bench' ->
      Runs bench (notices ++ (request.serve bench').2) (request.serve bench').1

/-!
# Notices

What one listener hears is picked out of all notices by its label.
-/

def heard {ε : Type} (label : Label) (event? : Change -> Option ε)
    (notices : List (Label × Notice)) : List ε :=
  (documents notices).filterMap fun notice => if notice.1 = label then event? notice.2 else none

def ListensOnce (label : Label) (entity : Entity) (bench : Workbench) : Prop :=
  ((bench.watchers.registry entity).entries.map Prod.snd).count label = 1

def Tells (bench : Workbench) (change : Change) (notices : List (Label × Notice)) : Prop :=
  forall entry, entry ∈ (bench.watchers.registry change.entity).entries ->
    (entry.2, .document change) ∈ notices

theorem documents_append (notices more : List (Label × Notice)) :
    documents (notices ++ more) = documents notices ++ documents more :=
  List.filterMap_append

theorem filterMap_listener {ε : Type} (label : Label) (event : ε) (entries : List (Nat × Label)) :
    (entries.filterMap fun entry => if entry.2 = label then some event else none) =
      List.replicate ((entries.map Prod.snd).count label) event := by
  induction entries with
  | nil => rfl
  | cons entry rest ih =>
      by_cases hlabel : entry.2 = label
      · simp [hlabel, ih, List.replicate_succ]
      · simp [hlabel, ih]

theorem heard_of_documents {ε : Type} {label : Label} {event? : Change -> Option ε}
    {entity : Entity} {bench : Workbench} {notices : List (Label × Notice)}
    {changes : List Change}
    (hentity : forall change event, event? change = some event -> change.entity = entity)
    (honce : bench.ListensOnce label entity)
    (h : documents notices = bench.watchers.deliver changes) :
    heard label event? notices = changes.filterMap event? := by
  rw [heard, h, Watchers.deliver, List.filterMap_flatMap, List.filterMap_eq_flatMap_toList]
  refine congrArg (fun f => changes.flatMap f) (funext fun change => ?_)
  rw [Listeners.notify, List.filterMap_map]
  cases hevent : event? change with
  | none => simp [hevent]
  | some event =>
      have hlistener := filterMap_listener label event
        (bench.watchers.registry change.entity).entries
      rw [hentity change event hevent, honce] at hlistener
      simpa [Function.comp_def, hevent, hentity change event hevent] using hlistener

theorem tells_of_documents {bench : Workbench} {notices : List (Label × Notice)}
    {changes : List Change} {change : Change}
    (h : documents notices = bench.watchers.deliver changes) (hchange : change ∈ changes) :
    bench.Tells change notices := by
  intro entry hentry
  have hnotice : (entry.2, change) ∈ documents notices := by
    rw [h, Watchers.deliver]
    exact List.mem_flatMap.mpr ⟨change, hchange, List.mem_map.mpr ⟨entry, hentry, rfl⟩⟩
  rcases List.mem_filterMap.mp hnotice with ⟨⟨label, notice⟩, hmem, hdocument⟩
  cases notice with
  | document other =>
      cases hdocument
      exact hmem
  | condition other => cases hdocument

/-!
# What becomes of a workbench

The changes that have been reported account for all that is different.
-/

/-- What the changes say of what has become of the bench.  What is there has been there before, or
its key is new. -/
structure Traced (inPlace : Bool) (bench : Workbench) (notices : List (Label × Notice))
    (changes : List Change) (bench' : Workbench) : Prop where
  sound : bench'.Sound
  watchers : bench'.watchers = bench.watchers
  knownSteps : bench.knownSteps ⊆ bench'.knownSteps
  knownReactions : bench.knownReactions ⊆ bench'.knownReactions
  told : documents notices = bench.watchers.deliver changes
  texts : .tutorialData ∈ changes ∨ bench'.tutorial.get = bench.tutorial.get
  order : mirrorAll? (bench.tutorial.steps.map LiveStep.key)
    (changes.filterMap Change.stepEvent?) = some (bench'.tutorial.steps.map LiveStep.key)
  steps : forall step', step' ∈ bench'.steps -> step'.key ∉ bench.knownSteps ∨
    exists step, step ∈ bench.steps ∧ step.card.Follows changes step'.card
  reactions : forall reaction', reaction' ∈ bench'.reactions ->
    reaction'.key ∉ bench.knownReactions ∨
      exists reaction, reaction ∈ bench.reactions ∧ reaction.Follows inPlace changes reaction'

namespace Traced

variable {inPlace : Bool} {bench between bench' : Workbench}
  {notices more : List (Label × Notice)} {changes later : List Change}

theorem weaken (h : bench.Traced inPlace notices changes bench') :
    bench.Traced true notices changes bench' where
  sound := h.sound
  watchers := h.watchers
  knownSteps := h.knownSteps
  knownReactions := h.knownReactions
  told := h.told
  texts := h.texts
  order := h.order
  steps := h.steps
  reactions := by
    intro reaction' hreaction'
    refine (h.reactions reaction' hreaction').imp_right ?_
    rintro ⟨reaction, hreaction, hfollows⟩
    exact ⟨reaction, hreaction, hfollows.weaken⟩

theorem refl (hsound : bench.Sound) : bench.Traced inPlace [] [] bench where
  sound := hsound
  watchers := rfl
  knownSteps := List.Subset.refl _
  knownReactions := List.Subset.refl _
  told := rfl
  texts := .inr rfl
  order := rfl
  steps := fun step hstep => .inr ⟨step, hstep, .refl step.card rfl⟩
  reactions := fun reaction hreaction => .inr ⟨reaction, hreaction, .refl inPlace [] reaction⟩

theorem trans (h : bench.Traced inPlace notices changes between)
    (h' : between.Traced inPlace more later bench') :
    bench.Traced inPlace (notices ++ more) (changes ++ later) bench' where
  sound := h'.sound
  watchers := h'.watchers.trans h.watchers
  knownSteps := List.Subset.trans h.knownSteps h'.knownSteps
  knownReactions := List.Subset.trans h.knownReactions h'.knownReactions
  told := by
    rw [documents_append, Watchers.deliver_append, h.told, h'.told, h.watchers]
  texts := by
    rcases h.texts with htold | htexts
    · exact .inl (List.mem_append_left later htold)
    · exact h'.texts.imp (List.mem_append_right changes) fun htexts' => htexts'.trans htexts
  order := by
    rw [List.filterMap_append]
    exact mirrorAll?_append h.order h'.order
  steps := by
    intro step'' hstep''
    rcases h'.steps step'' hstep'' with hnew | ⟨step', hstep', hfollows'⟩
    · exact .inl fun hknown => hnew (h.knownSteps hknown)
    · have hkey : step''.key = step'.key := hfollows'.key
      rcases h.steps step' hstep' with hnew | ⟨step, hstep, hfollows⟩
      · exact .inl (hkey ▸ hnew)
      · exact .inr ⟨step, hstep, hfollows.trans hfollows'⟩
  reactions := by
    intro reaction'' hreaction''
    rcases h'.reactions reaction'' hreaction'' with hnew | ⟨reaction', hreaction', hfollows'⟩
    · exact .inl fun hknown => hnew (h.knownReactions hknown)
    · rcases h.reactions reaction' hreaction' with hnew | ⟨reaction, hreaction, hfollows⟩
      · exact .inl (hfollows'.key ▸ hnew)
      · exact .inr ⟨reaction, hreaction, hfollows.trans hfollows'⟩

end Traced

/-!
# Requests are traced

A request edits the stock, or creates an item, or leaves the bench as it is.
-/

theorem cards_stock (bench : Workbench) :
    (bench.stock []).cards = bench.steps.map LiveStep.card := by
  rw [steps, List.map_flatMap]
  refine congrArg (fun f => List.flatMap f _) (funext fun item => ?_)
  cases item <;> rfl

theorem Sound.unique {bench : Workbench} (h : bench.Sound) : (bench.stock []).Unique := by
  refine ⟨?_, h.reactions⟩
  rw [cards_stock, List.map_map]
  exact h.steps

theorem Reported.traced {inPlace : Bool} {bench bench' : Workbench}
    {notices : List (Label × Notice)} (h : Reported inPlace bench notices bench')
    (hsound : bench.Sound) : exists changes, bench.Traced inPlace notices changes bench' := by
  rcases h.edits with ⟨changes, hedits, htold⟩
  have hexplained := hedits.explained hsound.unique
  have hunique := hedits.unique hsound.unique
  have hsteps : forall step', step' ∈ bench'.steps ->
      exists step, step ∈ bench.steps ∧ step.card.Follows changes step'.card := by
    intro step' hstep'
    have hcards := hexplained.cards
    rw [cards_stock, cards_stock] at hcards
    rcases hcards step'.card (List.mem_map.mpr ⟨step', hstep', rfl⟩) with ⟨card, hcard, hfollows⟩
    rcases List.mem_map.mp hcard with ⟨step, hstep, rfl⟩
    exact ⟨step, hstep, hfollows⟩
  have hreactions : forall reaction', reaction' ∈ bench'.reactions ->
      exists reaction, reaction ∈ bench.reactions ∧
        reaction.Follows inPlace changes reaction' := hexplained.reactions
  have hkeys := hunique.cards
  rw [cards_stock, List.map_map] at hkeys
  refine ⟨changes, ?_, h.keeps.watchers, ?_, ?_, htold, hexplained.texts, hexplained.order,
    fun step' hstep' => .inr (hsteps step' hstep'),
    fun reaction' hreaction' => .inr (hreactions reaction' hreaction')⟩
  · refine ⟨hkeys, hunique.reactions, ?_, ?_, h.keeps.names hsound.prepared⟩
    · intro step' hstep'
      rcases hsteps step' hstep' with ⟨step, hstep, hfollows⟩
      have hkey : step'.key = step.key := hfollows.key
      rw [h.keeps.knownSteps, hkey]
      exact hsound.knownSteps step hstep
    · intro reaction' hreaction'
      rcases hreactions reaction' hreaction' with ⟨reaction, hreaction, hfollows⟩
      rw [h.keeps.knownReactions, hfollows.key]
      exact hsound.knownReactions reaction hreaction
  · rw [h.keeps.knownSteps]
    exact List.Subset.refl _
  · rw [h.keeps.knownReactions]
    exact List.Subset.refl _

structure Creates (bench : Workbench) (item : Item) (bench' : Workbench) : Prop where
  tutorial : bench'.tutorial = bench.tutorial
  watchers : bench'.watchers = bench.watchers
  prepared : bench'.prepared = bench.prepared
  items : bench'.items.Perm (item :: bench.items)
  knownSteps : bench'.knownSteps = item.steps.map LiveStep.key ++ bench.knownSteps
  knownReactions : bench'.knownReactions =
    item.reactions.map LiveReaction.key ++ bench.knownReactions
  freshSteps : forall step, step ∈ item.steps -> step.key ∉ bench.knownSteps
  freshReactions : forall reaction, reaction ∈ item.reactions ->
    reaction.key ∉ bench.knownReactions
  keys : (item.reactions.map LiveReaction.key).Nodup

namespace Creates

variable {bench bench' : Workbench} {item : Item}

theorem perm (h : bench.Creates item bench') :
    (bench'.tutorial.steps.map Item.step ++ bench'.items).Perm
      (item :: (bench.tutorial.steps.map Item.step ++ bench.items)) := by
  rw [h.tutorial]
  exact (h.items.append_left _).trans List.perm_middle

theorem steps_perm (h : bench.Creates item bench') :
    bench'.steps.Perm (item.steps ++ bench.steps) :=
  h.perm.flatMap_right Item.steps

theorem reactions_perm (h : bench.Creates item bench') :
    bench'.reactions.Perm (item.reactions ++ bench.reactions) :=
  h.perm.flatMap_right Item.reactions

theorem mem_steps (h : bench.Creates item bench') {step : LiveStep} (hstep : step ∈ bench'.steps) :
    step ∈ item.steps ∨ step ∈ bench.steps :=
  List.mem_append.mp (h.steps_perm.mem_iff.mp hstep)

theorem mem_reactions (h : bench.Creates item bench') {reaction : LiveReaction}
    (hreaction : reaction ∈ bench'.reactions) :
    reaction ∈ item.reactions ∨ reaction ∈ bench.reactions :=
  List.mem_append.mp (h.reactions_perm.mem_iff.mp hreaction)

theorem sound (h : bench.Creates item bench') (hsound : bench.Sound) : bench'.Sound where
  steps := by
    rw [(h.steps_perm.map LiveStep.key).nodup_iff, List.map_append, List.nodup_append]
    refine ⟨by cases item <;> simp [Item.steps], hsound.steps, ?_⟩
    simp only [List.forall_mem_map]
    intro step hstep other hother hsame
    exact h.freshSteps step hstep (hsame ▸ hsound.knownSteps other hother)
  reactions := by
    rw [(h.reactions_perm.map LiveReaction.key).nodup_iff, List.map_append, List.nodup_append]
    refine ⟨h.keys, hsound.reactions, ?_⟩
    simp only [List.forall_mem_map]
    intro reaction hreaction other hother hsame
    exact h.freshReactions reaction hreaction (hsame ▸ hsound.knownReactions other hother)
  knownSteps := by
    intro step hstep
    rw [h.knownSteps, List.mem_append]
    exact (h.mem_steps hstep).imp (fun hnew => List.mem_map.mpr ⟨step, hnew, rfl⟩)
      (hsound.knownSteps step)
  knownReactions := by
    intro reaction hreaction
    rw [h.knownReactions, List.mem_append]
    exact (h.mem_reactions hreaction).imp (fun hnew => List.mem_map.mpr ⟨reaction, hnew, rfl⟩)
      (hsound.knownReactions reaction)
  prepared := by
    rw [h.prepared]
    exact hsound.prepared

theorem traced {inPlace : Bool} (h : bench.Creates item bench') (hsound : bench.Sound) :
    bench.Traced inPlace [] [] bench' where
  sound := h.sound hsound
  watchers := h.watchers
  knownSteps := by
    rw [h.knownSteps]
    exact List.subset_append_right _ _
  knownReactions := by
    rw [h.knownReactions]
    exact List.subset_append_right _ _
  told := rfl
  texts := .inr (by rw [h.tutorial])
  order := by
    rw [h.tutorial]
    rfl
  steps := by
    intro step hstep
    exact (h.mem_steps hstep).imp (h.freshSteps step) fun hold => ⟨step, hold, .refl step.card rfl⟩
  reactions := by
    intro reaction hreaction
    exact (h.mem_reactions hreaction).imp (h.freshReactions reaction)
      fun hold => ⟨reaction, hold, .refl inPlace [] reaction⟩

end Creates

theorem creates_createStep {bench : Workbench} {key : StepKey} {step : Step}
    (hstep : key ∉ bench.knownSteps)
    (hreactions : forall reaction, reaction ∈ (liveStep key step).reactions ->
      reaction.key ∉ bench.knownReactions) :
    bench.Creates (.step (liveStep key step)) (bench.createStep key step).bench where
  tutorial := rfl
  watchers := rfl
  prepared := rfl
  items := List.perm_middle
  knownSteps := rfl
  knownReactions := rfl
  freshSteps := by
    intro other hother
    cases List.mem_singleton.mp hother
    exact hstep
  freshReactions := hreactions
  keys := nodup_liveStep key step

theorem creates_createReaction {bench : Workbench} {key : ReactionKey} (reaction : Reaction)
    (hkey : key ∉ bench.knownReactions) :
    bench.Creates (.reaction (LiveReaction.ofContent key reaction))
      (bench.createReaction key reaction).bench where
  tutorial := rfl
  watchers := rfl
  prepared := rfl
  items := (List.perm_middle.append_left _).trans List.perm_middle
  knownSteps := rfl
  knownReactions := rfl
  freshSteps := fun step hstep => nomatch hstep
  freshReactions := by
    intro other hother
    cases List.mem_singleton.mp hother
    exact hkey
  keys := List.nodup_singleton _

theorem traced_serve {bench : Workbench} (hsound : bench.Sound) (request : BenchRequest)
    (hfresh : request.Fresh bench) :
    exists changes, bench.Traced request.inPlace (request.serve bench).2 changes
      (request.serve bench).1 := by
  cases request with
  | createStep key step => exact ⟨[], (creates_createStep hfresh.1 hfresh.2).traced hsound⟩
  | createReaction key reaction =>
      exact ⟨[], (creates_createReaction reaction hfresh).traced hsound⟩
  | insertStep key index => exact (reported_insertStep key index).traced hsound
  | removeStep key => exact (reported_removeStep key).traced hsound
  | insertReaction step key index =>
      exact (reported_insertReaction hsound.unique step key index).traced hsound
  | removeReaction step key =>
      exact (reported_removeReaction hsound.unique step key).traced hsound
  | setTutorial field text => exact (reported_setTutorial field text).traced hsound
  | setStep key field text => exact (reported_setStep hsound.unique key field text).traced hsound
  | setReaction key value => exact (reported_setReaction hsound.unique key value).traced hsound
  | editCondition key path request =>
      exact (reported_editCondition hsound.unique key path request).traced hsound
  | push order => exact (reported_push order).traced hsound
  | commit label orders => exact (reported_commit label orders).traced hsound
  | undo => exact reported_undo.traced hsound
  | redo => exact reported_redo.traced hsound
  | setClean => exact reported_setClean.traced hsound
  | clear => exact reported_clear.traced hsound
  | prepare name order => exact (reported_prepare name order).traced hsound
  | runPrepared direction name =>
      exact (reported_runPrepared hsound.prepared direction name).traced hsound

theorem Runs.traced {bench bench' : Workbench} {notices : List (Label × Notice)}
    (hsound : bench.Sound) (h : bench.Runs notices bench') :
    exists changes, bench.Traced true notices changes bench' := by
  induction h with
  | start => exact ⟨[], .refl hsound⟩
  | next request hrun hfresh ih =>
      rcases ih with ⟨changes, htraced⟩
      rcases traced_serve htraced.sound request hfresh with ⟨later, hnext⟩
      exact ⟨changes ++ later, htraced.trans hnext.weaken⟩

theorem Runs.sound {bench bench' : Workbench} {notices : List (Label × Notice)}
    (hsound : bench.Sound) (h : bench.Runs notices bench') : bench'.Sound := by
  rcases h.traced hsound with ⟨changes, htraced⟩
  exact htraced.sound

/-!
# Mirrors and messages

A mirror follows what its listener hears, and shows the keys as they are.
-/

structure TellsOfChanges (inPlace : Bool) (bench : Workbench) (notices : List (Label × Notice))
    (bench' : Workbench) : Prop where
  tutorial : forall field, bench'.tutorial.get field ≠ bench.tutorial.get field ->
    bench.Tells .tutorialData notices
  steps : forall step step', step ∈ bench.steps -> step' ∈ bench'.steps -> step'.key = step.key ->
    forall field, step'.get field ≠ step.get field -> bench.Tells (.stepData step.key) notices
  reactions : forall reaction reaction', reaction ∈ bench.reactions ->
    reaction' ∈ bench'.reactions -> reaction'.key = reaction.key ->
    (reaction'.settings ≠ reaction.settings ∨
      (inPlace = false ∧ reaction'.condition ≠ reaction.condition)) ->
    bench.Tells (.reactionData reaction.key) notices

namespace Traced

variable {inPlace : Bool} {bench bench' : Workbench} {notices : List (Label × Notice)}
  {changes : List Change}

theorem step_follows (h : bench.Traced inPlace notices changes bench') (hsound : bench.Sound)
    {step step' : LiveStep} (hstep : step ∈ bench.steps) (hstep' : step' ∈ bench'.steps)
    (hkey : step'.key = step.key) : step.card.Follows changes step'.card := by
  rcases h.steps step' hstep' with hnew | ⟨other, hother, hfollows⟩
  · exact absurd (hkey ▸ hsound.knownSteps step hstep) hnew
  · have hsame : other.key = step.key := hfollows.key.symm.trans hkey
    rwa [List.inj_on_of_nodup_map hsound.steps hother hstep hsame] at hfollows

theorem reaction_follows (h : bench.Traced inPlace notices changes bench') (hsound : bench.Sound)
    {reaction reaction' : LiveReaction} (hreaction : reaction ∈ bench.reactions)
    (hreaction' : reaction' ∈ bench'.reactions) (hkey : reaction'.key = reaction.key) :
    reaction.Follows inPlace changes reaction' := by
  rcases h.reactions reaction' hreaction' with hnew | ⟨other, hother, hfollows⟩
  · exact absurd (hkey ▸ hsound.knownReactions reaction hreaction) hnew
  · have hsame : other.key = reaction.key := hfollows.key.symm.trans hkey
    rwa [List.inj_on_of_nodup_map hsound.reactions hother hreaction hsame] at hfollows

theorem tellsOfChanges (h : bench.Traced inPlace notices changes bench')
    (hsound : bench.Sound) : bench.TellsOfChanges inPlace notices bench' where
  tutorial := by
    intro field hchanged
    rcases h.texts with htold | hsame
    · exact tells_of_documents h.told htold
    · exact absurd (congrFun hsame field) hchanged
  steps := by
    intro step step' hstep hstep' hkey field hchanged
    rcases (h.step_follows hsound hstep hstep' hkey).texts with htold | hsame
    · exact tells_of_documents h.told htold
    · exact absurd (congrFun hsame field) hchanged
  reactions := by
    intro reaction reaction' hreaction hreaction' hkey hchanged
    rcases (h.reaction_follows hsound hreaction hreaction' hkey).fields with
      htold | ⟨hsettings, hcondition⟩
    · exact tells_of_documents h.told htold
    · rcases hchanged with hchanged | ⟨hplace, hchanged⟩
      · exact absurd hsettings hchanged
      · rcases hcondition with hcondition | hcondition
        · rw [hplace] at hcondition
          cases hcondition
        · exact absurd hcondition hchanged

end Traced

/--
Through every run, whoever listens to the tutorial or to a step can tell the keys there from the
keys at the start and from what is reported.  What one more request changes is told to all who
listen to what it belongs to.
-/
theorem observers_see_every_change {bench bench' : Workbench} {notices : List (Label × Notice)}
    (hsound : bench.Sound) (hrun : bench.Runs notices bench') :
    (forall label, bench.ListensOnce label .tutorial ->
      mirrorAll? (bench.tutorial.steps.map LiveStep.key)
        (heard label Change.stepEvent? notices) =
          some (bench'.tutorial.steps.map LiveStep.key)) ∧
    (forall label step step', step ∈ bench.steps -> step' ∈ bench'.steps ->
      step'.key = step.key -> bench.ListensOnce label (.step step.key) ->
      mirrorAll? (step.reactions.map LiveReaction.key)
        (heard label (Change.reactionEvent? step.key) notices) =
          some (step'.reactions.map LiveReaction.key)) ∧
    forall request : BenchRequest, request.Fresh bench' ->
      bench'.TellsOfChanges request.inPlace (request.serve bench').2 (request.serve bench').1 := by
  rcases hrun.traced hsound with ⟨changes, htraced⟩
  refine ⟨?_, ?_, ?_⟩
  · intro label honce
    rw [heard_of_documents (fun _ _ => Change.entity_of_stepEvent?) honce htraced.told]
    exact htraced.order
  · intro label step step' hstep hstep' hkey honce
    rw [heard_of_documents (fun _ _ => Change.entity_of_reactionEvent?) honce htraced.told]
    exact (htraced.step_follows hsound hstep hstep' hkey).reactions
  · intro request hfresh
    rcases traced_serve htraced.sound request hfresh with ⟨later, hnext⟩
    exact hnext.tellsOfChanges htraced.sound

/-- A group takes a step out, and fails to take a reaction out of it; then the step is back.  The
name of the tutorial is set after that. -/
theorem observers_see_rollback :
    let opened := ofTutorial { steps := [{ id := "a", reactions := [{}] }, { id := "b" }] }
    let watchers : Watchers :=
      { registries := [(.tutorial, Listeners.none.subscribe "mirror")] }
    let bench := { opened with watchers := watchers }
    let group : Order := .group [.removeStep ⟨"s1"⟩, .removeReaction ⟨"s1"⟩ ⟨"s1r1"⟩] (some "g")
    let reached := (BenchRequest.push group).serve bench
    let request := BenchRequest.setTutorial .name "c"
    bench.Sound ∧ bench.Runs reached.2 reached.1 ∧ bench.ListensOnce "mirror" .tutorial ∧
      mirrorAll? [⟨"s1"⟩, ⟨"s2"⟩] [.removed ⟨"s1"⟩, .added ⟨"s1"⟩ 0] =
        some (reached.1.tutorial.steps.map LiveStep.key) ∧
      reached.1.Tells .tutorialData (request.serve reached.1).2 := by
  intro opened watchers bench group reached request
  have hopened : opened.Sound := sound_ofTutorial _
  have hsound : bench.Sound := ⟨hopened.steps, hopened.reactions, hopened.knownSteps,
    hopened.knownReactions, hopened.prepared⟩
  have hrun : bench.Runs reached.2 reached.1 := .next (.push group) .start trivial
  have honce : bench.ListensOnce "mirror" .tutorial := rfl
  have hseen := observers_see_every_change hsound hrun
  exact ⟨hsound, hrun, honce, hseen.1 "mirror" honce,
    (hseen.2.2 request trivial).tutorial .name (by decide)⟩

end Workbench

end TutorialKit
