import TutorialKit.Proofs.Script.Names
import TutorialKit.Proofs.Script.Problems

/-!
# Checking a script

Looking for problems in the script is as good as looking for them in the tutorial.  A script reports
the problems of its tutorial, each where it belongs, if no text that is repeated in it looks like a
report.
-/

namespace TutorialKit

open Script

/-!
# Problems that are written

The problems in the statements for a condition or a reaction are those of the condition or the
reaction itself.
-/

namespace Condition

theorem filterMap_problem?_children (object : String) (names : List String) :
    (names.map (Statement.addChild object)).filterMap Statement.problem? = [] := by
  rw [List.filterMap_map]
  exact List.filterMap_eq_nil_iff.mpr fun name _ => rfl

theorem problems_emitAll {conditions : List Condition}
    (h : forall condition, condition ∈ conditions -> forall scope,
      (condition.emit scope).statements.filterMap Statement.problem? = condition.problems)
    (scope : Scope) :
    (emitAll scope conditions).statements.filterMap Statement.problem? =
      problemsAll conditions := by
  induction conditions generalizing scope with
  | nil => rfl
  | cons first rest ih =>
      rw [List.forall_mem_cons] at h
      simp only [emitAll, List.filterMap_append, problemsAll, h.1]
      exact congrArg _ (ih h.2 (first.emit scope).scope)

theorem problems_emit (condition : Condition) (scope : Scope) :
    (condition.emit scope).statements.filterMap Statement.problem? = condition.problems := by
  induction condition generalizing scope with
  | leaf l =>
      rw [problems, Leaf.problems_eq]
      cases hproblem : l.problem? with
      | some problem =>
          simp only [emit, Leaf.emit, hproblem]
          rfl
      | none =>
          simp only [emit, Leaf.emit, hproblem]
          cases l <;> rfl
  | composed composition children ih =>
      simp only [emit, List.filterMap_append, problems, problems_emitAll ih]
      rw [List.filterMap_cons_none rfl, filterMap_problem?_children, List.append_nil]
  | unset => rfl
  | negation child ih =>
      simp only [emit, List.filterMap_append, problems, ih]
      cases (child.emit (scope.request "waitForNot")).object with
      | none => exact List.append_nil _
      | some object => exact List.append_nil _

theorem isSome_object_emit (condition : Condition) (scope : Scope) :
    (condition.emit scope).object.isSome = condition.prune?.isSome := by
  cases condition with
  | leaf l =>
      cases hproblem : l.problem? with
      | some problem =>
          have hincomplete : ¬ l.IsComplete := by
            rw [← Leaf.problem?_eq_none_iff, hproblem]
            simp
          simp only [emit, Leaf.emit, hproblem, prune?, if_neg hincomplete]
          rfl
      | none =>
          simp only [emit, Leaf.emit, hproblem, prune?,
            if_pos (Leaf.problem?_eq_none_iff.mp hproblem)]
          rfl
  | composed composition children => rfl
  | negation child =>
      cases child with
      | none => rfl
      | some child => rfl

end Condition

namespace Reaction

theorem problems_register (step : String) (scope : Scope) (reaction : Reaction) :
    (reaction.register step scope).statements.filterMap Statement.problem? =
      reaction.problems := by
  rw [problems_eq]
  rcases register_cases step scope reaction with ⟨problem, hproblem, hregister⟩ |
    ⟨hproblem, htrigger, hregister⟩ | ⟨condition, hproblem, htrigger, hcondition, hregister⟩
  · rw [hregister, hproblem]
    rfl
  · rw [hregister, hproblem, htrigger]
    rfl
  · have hemit := condition.problems_emit scope
    rw [hregister, hproblem, htrigger, hcondition]
    simp only [registerCondition, if_true, Option.toList_some, List.flatMap_singleton]
    cases (condition.emit scope).object with
    | none => exact hemit
    | some object =>
        rw [List.filterMap_append, hemit]
        exact List.append_nil _

theorem problems_registerAll (step : String) (closed : Bool) (scope : Scope)
    (reactions : List Reaction) :
    (registerAll step closed scope reactions).statements.filterMap Statement.problem? =
      reactions.flatMap problems := by
  induction reactions generalizing scope with
  | nil => rfl
  | cons first rest ih =>
      have hgap : forall wanted : Bool,
          (if wanted then [Statement.blank] else []).filterMap Statement.problem? = [] := by
        intro wanted
        cases wanted <;> rfl
      simp only [registerAll, List.filterMap_append, problems_register, hgap, ih,
        List.append_nil, List.flatMap_cons]

theorem single_handlerName {step ending : String} (hstep : Single step) (trigger : String)
    (hending : Single ending) : Single (step ++ Text.upperCamelCase trigger ++ ending) := by
  rw [single_append, single_append]
  exact ⟨⟨hstep, (plain_upperCamelCase trigger).single⟩, hending⟩

/-- A reaction has a handler if it is complete and is to run code. -/
theorem handlers_register {step : String} (hstep : Single step) (scope : Scope)
    (reaction : Reaction) :
    exists name, Single name ∧ (reaction.register step scope).handlers =
      if reaction.Complete then reaction.handlers name else [] := by
  rcases register_cases step scope reaction with ⟨problem, hproblem, hregister⟩ |
    ⟨hproblem, htrigger, hregister⟩ | ⟨condition, hproblem, htrigger, hcondition, hregister⟩
  · have hincomplete : ¬ reaction.Complete := by
      rw [complete_iff, hproblem]
      simp
    refine ⟨"", by decide, ?_⟩
    rw [hregister, if_neg hincomplete]
  · have hcomplete : reaction.Complete := by
      refine complete_iff.mpr ⟨hproblem, ?_⟩
      rw [htrigger]
      simp
    refine ⟨step ++ Text.upperCamelCase reaction.option ++ "OptionSelected", ?_, ?_⟩
    · exact single_handlerName hstep _ (by decide)
    · rw [hregister, if_pos hcomplete]
      rfl
  · have hcomplete : reaction.Complete ↔ (condition.emit scope).object.isSome := by
      rw [complete_iff, htrigger, kept?, hcondition, condition.isSome_object_emit scope]
      simp [hproblem]
    rw [hregister]
    cases hobject : (condition.emit scope).object with
    | none =>
        rw [hobject] at hcomplete
        refine ⟨"", by decide, ?_⟩
        simp only [registerCondition, hobject]
        rw [if_neg (by rw [hcomplete]; simp)]
    | some object =>
        rw [hobject] at hcomplete
        refine ⟨step ++ Text.upperCamelCase object ++ "ConditionMet", ?_, ?_⟩
        · exact single_handlerName hstep _ (by decide)
        · simp only [registerCondition, hobject]
          rw [if_pos (hcomplete.mpr rfl)]

theorem problems_handlers (reaction : Reaction) (name : String) :
    ((if reaction.Complete then reaction.handlers name else []).flatMap fun handler =>
      handler.blocks.flatMap Block.problems) = reaction.missingCode := by
  unfold missingCode
  by_cases hcomplete : reaction.Complete
  · rw [if_pos hcomplete]
    cases hresponse : reaction.response with
    | nextStep => simp [handlers, hresponse]
    | customCode =>
        by_cases hcode : reaction.code = "" <;>
          simp [handlers, hresponse, hcode, hcomplete, Handler.blocks, Block.problems,
            Statement.problem?]
  · simp [hcomplete]

theorem problems_handlers_registerAll {step : String} (hstep : Single step) (closed : Bool)
    (scope : Scope) (reactions : List Reaction) :
    ((registerAll step closed scope reactions).handlers.flatMap fun handler =>
      handler.blocks.flatMap Block.problems) = reactions.flatMap missingCode := by
  induction reactions generalizing scope with
  | nil => rfl
  | cons first rest ih =>
      rcases handlers_register hstep scope first with ⟨name, -, hhandlers⟩
      simp only [registerAll, List.flatMap_append, List.flatMap_cons, hhandlers,
        problems_handlers, ih]

end Reaction

namespace Step

theorem problems_textBlock (step : Step) :
    step.textBlock.problems = if step.text = "" then [Problem.stepText] else [] := by
  unfold textBlock
  split <;> rfl

theorem problems_tearDownBlocks (step : Step) :
    step.tearDownBlocks.flatMap Block.problems = [] := by
  unfold tearDownBlocks
  split <;> rfl

theorem problems_setupBlocks (scope : Scope) (step : Step) :
    (step.setupBlocks scope).2.flatMap Block.problems =
      step.reactions.flatMap Reaction.problems ++ step.reactions.flatMap Reaction.missingCode := by
  by_cases hidle : (step.setup = "" && step.reactions.isEmpty) = true
  · rw [setupBlocks, if_pos hidle]
    rw [Bool.and_eq_true] at hidle
    rw [List.isEmpty_iff.mp hidle.2]
    rfl
  · rw [setupBlocks_of_not_idle hidle, List.flatMap_cons, List.flatMap_cons, List.flatMap_assoc]
    have hproblems := Reaction.problems_registerAll step.objectName (step.setup != "") scope
      step.reactions
    have hhandlers := Reaction.problems_handlers_registerAll step.plain_objectName.single
      (step.setup != "") scope step.reactions
    rw [registered, hhandlers]
    exact congrArg (· ++ _) hproblems

theorem problems_blocks (scope : Scope) (step : Step) :
    (step.blocks scope).2.flatMap Block.problems = step.problems := by
  unfold problems
  by_cases hid : step.id = ""
  · rw [if_pos hid, blocks, if_pos hid]
    rfl
  · rw [if_neg hid, blocks_of_id hid]
    simp only [List.flatMap_append, List.flatMap_cons, List.flatMap_nil, problems_textBlock,
      problems_tearDownBlocks, problems_setupBlocks]
    simp [Block.problems]

end Step

namespace Tutorial

theorem problems_functionBlocks (name signal code : String) :
    (functionBlocks name signal code).flatMap Block.problems = [] := by
  unfold functionBlocks
  split <;> rfl

theorem problems_headBlocks (tutorial : Tutorial) :
    tutorial.headBlocks.flatMap Block.problems =
      (if tutorial.name = "" then [Problem.tutorialName] else []) ++
        (if tutorial.description = "" then [Problem.tutorialDescription] else []) := by
  unfold headBlocks informationBlocks
  simp only [List.flatMap_append, problems_functionBlocks, List.append_nil]
  by_cases hlicense : tutorial.license = "" <;> by_cases hname : tutorial.name = "" <;>
    by_cases hdescription : tutorial.description = "" <;>
    simp [hlicense, hname, hdescription, Block.problems]

end Tutorial

/-!
# Texts that are repeated

What an author wrote is repeated only where nothing is missing, so less need be quiet than stands in
the tutorial.
-/

namespace Leaf

def verbatim : Leaf -> List String
  | property object name value =>
      if (property object name value).IsComplete then [value] else []
  | _ => []

end Leaf

namespace Condition

mutual

def verbatim : Condition -> List String
  | leaf l => l.verbatim
  | composed _ children => verbatimAll children
  | negation none => []
  | negation (some child) => verbatim child

def verbatimAll : List Condition -> List String
  | [] => []
  | first :: rest => verbatim first ++ verbatimAll rest

end

end Condition

namespace Reaction

/-- Nothing of a reaction is written if it has a problem of its own, and its code only if the
reaction is complete. -/
def verbatim (reaction : Reaction) : List String :=
  (if reaction.problem? = none ∧ reaction.trigger = .conditionMet then
    reaction.condition.toList.flatMap Condition.verbatim
  else []) ++
    if reaction.Complete ∧ reaction.response = .customCode then [reaction.code] else []

end Reaction

namespace Step

def verbatim (step : Step) : List String :=
  if step.id = "" then []
  else [step.id, step.setup, step.tearDown] ++ step.reactions.flatMap Reaction.verbatim

end Step

namespace Tutorial

/-- The texts that stand in the script line by line as the author wrote them. -/
def verbatim (tutorial : Tutorial) : List String :=
  [tutorial.setup, tutorial.tearDown] ++ tutorial.steps.flatMap Step.verbatim

end Tutorial

namespace Script

/-- None of the texts has a line that looks like the report of a problem. -/
def QuietAll (texts : List String) : Prop :=
  forall text, text ∈ texts -> Quiet text.toList

instance (texts : List String) : Decidable (QuietAll texts) :=
  List.decidableBAll (fun text : String => Quiet text.toList) texts

theorem quietAll_append {texts others : List String} :
    QuietAll (texts ++ others) ↔ QuietAll texts ∧ QuietAll others :=
  List.forall_mem_append

theorem QuietAll.of_mem {α : Type} {texts : α -> List String} {l : List α} {a : α}
    (h : QuietAll (l.flatMap texts)) (ha : a ∈ l) : QuietAll (texts a) :=
  fun text htext => h text (List.mem_flatMap.mpr ⟨a, ha, htext⟩)

end Script

/-!
# Statements as they should be

Quoted texts and names are never in the way.  A value and the code of a handler may be.
-/

namespace Leaf

theorem clear_assignment {leaf : Leaf} {object : String} (hobject : Plain object)
    (hcomplete : leaf.IsComplete) (hquiet : QuietAll leaf.verbatim) :
    (leaf.assignment object).Clear := by
  cases leaf with
  | property owner name value =>
      rw [verbatim, if_pos hcomplete] at hquiet
      exact ⟨hobject, hquiet value List.mem_cons_self⟩
  | _ => exact hobject

theorem clear_emit {leaf : Leaf} (scope : Scope) (hquiet : QuietAll leaf.verbatim) :
    forall statement, statement ∈ (leaf.emit scope).statements -> statement.Clear := by
  cases hproblem : leaf.problem? with
  | some problem =>
      simp only [emit, hproblem, List.forall_mem_singleton]
      trivial
  | none =>
      have hobject := leaf.plain_objectName.variableFor scope
      simp only [emit, hproblem, List.forall_mem_cons]
      exact ⟨hobject, clear_assignment hobject (problem?_eq_none_iff.mp hproblem) hquiet,
        List.forall_mem_nil _⟩

end Leaf

namespace Condition

theorem plain_objects_emitAll {conditions : List Condition} {scope : Scope} {object : String}
    (h : object ∈ (emitAll scope conditions).objects) : Plain object := by
  induction conditions generalizing scope with
  | nil => cases h
  | cons first rest ih =>
      rcases List.mem_append.mp h with h | h
      · exact plain_object_emit (Option.mem_toList.mp h)
      · exact ih h

theorem clear_emitAll {conditions : List Condition}
    (h : forall condition, condition ∈ conditions -> forall scope,
      QuietAll condition.verbatim ->
      forall statement, statement ∈ (condition.emit scope).statements -> statement.Clear)
    (scope : Scope) (hquiet : QuietAll (verbatimAll conditions)) :
    forall statement, statement ∈ (emitAll scope conditions).statements -> statement.Clear := by
  induction conditions generalizing scope with
  | nil => exact List.forall_mem_nil _
  | cons first rest ih =>
      rw [List.forall_mem_cons] at h
      rw [verbatimAll, quietAll_append] at hquiet
      simp only [emitAll, List.forall_mem_append, List.forall_mem_cons]
      exact ⟨h.1 scope hquiet.1, trivial, ih h.2 _ hquiet.2⟩

theorem clear_emit {condition : Condition} (scope : Scope)
    (hquiet : QuietAll condition.verbatim) :
    forall statement, statement ∈ (condition.emit scope).statements -> statement.Clear := by
  induction condition generalizing scope with
  | leaf l => exact l.clear_emit scope hquiet
  | composed composition children ih =>
      have hvariable : (emitAll scope children).scope.variableFor
            ("waitFor" ++ composition.literal) ∈
          ((composed composition children).emit scope).object := rfl
      have hobject := plain_object_emit hvariable
      simp only [emit, List.forall_mem_append, List.forall_mem_cons, List.forall_mem_map]
      exact ⟨clear_emitAll ih scope hquiet, hobject,
        fun child hchild => ⟨hobject, plain_objects_emitAll hchild⟩⟩
  | unset =>
      simp only [emit, List.forall_mem_singleton]
      trivial
  | negation child ih =>
      have hvariable : scope.variableFor "waitForNot" ∈
          ((negation (some child)).emit scope).object := rfl
      have hobject := plain_object_emit hvariable
      simp only [emit, List.forall_mem_append, List.forall_mem_cons, List.forall_mem_map]
      refine ⟨ih _ hquiet, trivial, hobject, fun other hother => ⟨hobject, ?_⟩⟩
      exact plain_object_emit (Option.mem_toList.mp hother)

end Condition

namespace Reaction

theorem clear_target {reaction : Reaction} {name : String} (h : Single name) :
    (reaction.target name).Clear := by
  unfold target
  split
  · trivial
  · exact h

theorem clear_register {step : String} (hstep : Single step) (scope : Scope)
    {reaction : Reaction} (hquiet : QuietAll reaction.verbatim) :
    forall statement, statement ∈ (reaction.register step scope).statements ->
      statement.Clear := by
  rcases register_cases step scope reaction with ⟨problem, hproblem, hregister⟩ |
    ⟨hproblem, htrigger, hregister⟩ | ⟨condition, hproblem, htrigger, hcondition, hregister⟩
  · rw [hregister, List.forall_mem_singleton]
    trivial
  · have hobject : Plain (scope.variableFor
        (Text.lowerCamelCase reaction.option ++ "Option")) := by
      exact ((plain_lowerCamelCase _).append (by decide)).variableFor scope
    rw [hregister]
    simp only [registerOption, List.forall_mem_cons]
    exact ⟨hobject, ⟨hobject, clear_target (single_handlerName hstep _ (by decide))⟩,
      List.forall_mem_nil _⟩
  · rw [verbatim, quietAll_append, if_pos ⟨hproblem, htrigger⟩, hcondition] at hquiet
    have hwritten : QuietAll condition.verbatim := by simpa using hquiet.1
    have hemit := condition.clear_emit scope hwritten
    rw [hregister]
    simp only [registerCondition]
    cases hobject : (condition.emit scope).object with
    | none => exact hemit
    | some object =>
        simp only [List.forall_mem_append, List.forall_mem_singleton]
        exact ⟨hemit, Condition.plain_object_emit hobject,
          clear_target (single_handlerName hstep _ (by decide))⟩

theorem clear_handlers {step : String} (hstep : Single step) (scope : Scope)
    {reaction : Reaction} (hquiet : QuietAll reaction.verbatim) :
    forall handler, handler ∈ (reaction.register step scope).handlers ->
      Single handler.name ∧ Quiet handler.code.toList := by
  rcases handlers_register hstep scope reaction with ⟨name, hname, hhandlers⟩
  intro handler hmem
  rw [hhandlers] at hmem
  by_cases hcomplete : reaction.Complete
  · rw [if_pos hcomplete] at hmem
    cases hresponse : reaction.response with
    | nextStep => simp [handlers, hresponse] at hmem
    | customCode =>
        simp only [handlers, hresponse, List.mem_singleton] at hmem
        rw [verbatim, quietAll_append] at hquiet
        have hcode := hquiet.2
        rw [if_pos ⟨hcomplete, hresponse⟩] at hcode
        rw [hmem]
        exact ⟨hname, hcode _ List.mem_cons_self⟩
  · rw [if_neg hcomplete] at hmem
    cases hmem

theorem clear_registerAll {step : String} (hstep : Single step) (closed : Bool) (scope : Scope)
    {reactions : List Reaction} (hquiet : QuietAll (reactions.flatMap verbatim)) :
    (forall statement, statement ∈ (registerAll step closed scope reactions).statements ->
      statement.Clear) ∧
    forall handler, handler ∈ (registerAll step closed scope reactions).handlers ->
      Single handler.name ∧ Quiet handler.code.toList := by
  induction reactions generalizing scope with
  | nil => exact ⟨List.forall_mem_nil _, List.forall_mem_nil _⟩
  | cons first rest ih =>
      rw [List.flatMap_cons, quietAll_append] at hquiet
      rcases ih (first.register step scope).scope hquiet.2 with ⟨hstatements, hhandlers⟩
      have hgap : forall statement,
          statement ∈ (if closed || !rest.isEmpty then [Statement.blank] else []) ->
          statement.Clear := by
        intro statement hmem
        split at hmem
        · rw [List.mem_singleton.mp hmem]
          trivial
        · cases hmem
      simp only [registerAll, List.forall_mem_append]
      exact ⟨⟨⟨clear_register hstep scope hquiet.1, hgap⟩, hstatements⟩,
        clear_handlers hstep scope hquiet.1, hhandlers⟩

end Reaction

/-!
# Blocks as they should be

From statements to the functions around them, and from these to steps and tutorials.
-/

theorem Script.Handler.clear_blocks {handler : Handler} (hname : Single handler.name)
    (hcode : Quiet handler.code.toList) :
    forall block, block ∈ handler.blocks -> block.Clear := by
  have hstatements : forall statement,
      statement ∈ (if handler.code = "" then [Statement.problem .handlerCode] else []) ->
      statement.Clear := by
    intro statement hmem
    split at hmem
    · rw [List.mem_singleton.mp hmem]
      trivial
    · cases hmem
  simp only [blocks, List.forall_mem_cons]
  exact ⟨⟨hname, by decide, hstatements, hcode⟩, trivial, List.forall_mem_nil _⟩

namespace Step

theorem single_textContext (text : String) : Single (textContext text) := by
  unfold textContext
  split <;> decide

theorem clear_textBlock (step : Step) : step.textBlock.Clear := by
  unfold textBlock
  split
  · trivial
  · exact ⟨step.plain_objectName, single_textContext step.text⟩

theorem single_functionName (step : Step) {ending : String} (h : Single ending) :
    Single (step.objectName ++ ending) :=
  single_append.mpr ⟨step.plain_objectName.single, h⟩

theorem clear_tearDownBlocks {step : Step} (hcode : Quiet step.tearDown.toList) :
    forall block, block ∈ step.tearDownBlocks -> block.Clear := by
  have hname := step.single_functionName (show Single "TearDown" by decide)
  unfold tearDownBlocks
  split
  · exact List.forall_mem_nil _
  · simp only [List.forall_mem_cons]
    exact ⟨⟨hname, by decide, List.forall_mem_nil _, hcode⟩,
      ⟨step.plain_objectName.single, by decide, hname⟩, List.forall_mem_nil _⟩

theorem clear_setupBlocks (scope : Scope) {step : Step} (hcode : Quiet step.setup.toList)
    (hquiet : QuietAll (step.reactions.flatMap Reaction.verbatim)) :
    forall block, block ∈ (step.setupBlocks scope).2 -> block.Clear := by
  have hname := step.single_functionName (show Single "Setup" by decide)
  by_cases hidle : (step.setup = "" && step.reactions.isEmpty) = true
  · rw [setupBlocks, if_pos hidle]
    exact List.forall_mem_nil _
  · rcases Reaction.clear_registerAll step.plain_objectName.single (step.setup != "") scope
      hquiet with ⟨hstatements, hhandlers⟩
    rw [setupBlocks_of_not_idle hidle]
    simp only [List.forall_mem_cons, List.forall_mem_flatMap]
    refine ⟨⟨hname, by decide, hstatements, hcode⟩,
      ⟨step.plain_objectName.single, by decide, hname⟩, ?_⟩
    intro handler hmem
    exact Handler.clear_blocks (hhandlers handler hmem).1 (hhandlers handler hmem).2

theorem clear_blocks (scope : Scope) {step : Step} (hquiet : QuietAll step.verbatim) :
    forall block, block ∈ (step.blocks scope).2 -> block.Clear := by
  by_cases hid : step.id = ""
  · rw [blocks, if_pos hid]
    simp only [List.forall_mem_cons]
    exact ⟨trivial, trivial, List.forall_mem_nil _⟩
  · rw [verbatim, if_neg hid, quietAll_append] at hquiet
    rcases hquiet with ⟨hown, hreactions⟩
    have hcomment : Quiet step.id.toList := hown _ (by simp)
    have hsetup : Quiet step.setup.toList := hown _ (by simp)
    have htearDown : Quiet step.tearDown.toList := hown _ (by simp)
    rw [blocks_of_id hid]
    simp only [List.forall_mem_append, List.forall_mem_cons]
    have hnone : forall block, block ∈ ([] : List Block) -> block.Clear := List.forall_mem_nil _
    exact ⟨⟨⟨⟨hcomment, step.plain_objectName, step.clear_textBlock, trivial, hnone⟩,
      clear_setupBlocks scope hsetup hreactions⟩, clear_tearDownBlocks htearDown⟩,
      step.plain_objectName.single, trivial, hnone⟩

end Step

namespace Tutorial

theorem clear_functionBlocks {name signal code : String} (hname : Single name)
    (hsignal : Single signal) (hcode : Quiet code.toList) :
    forall block, block ∈ functionBlocks name signal code -> block.Clear := by
  unfold functionBlocks
  split
  · exact List.forall_mem_nil _
  · simp only [List.forall_mem_cons]
    exact ⟨⟨hname, by decide, List.forall_mem_nil _, hcode⟩, ⟨by decide, hsignal, hname⟩,
      List.forall_mem_nil _⟩

theorem clear_informationBlocks (tutorial : Tutorial) :
    forall block, block ∈ tutorial.informationBlocks -> block.Clear := by
  unfold informationBlocks
  simp only [List.forall_mem_cons]
  refine ⟨?_, ?_, trivial, List.forall_mem_nil _⟩
  · split <;> trivial
  · split <;> trivial

theorem clear_headBlocks {tutorial : Tutorial} (hsetup : Quiet tutorial.setup.toList)
    (htearDown : Quiet tutorial.tearDown.toList) :
    forall block, block ∈ tutorial.headBlocks -> block.Clear := by
  unfold headBlocks
  simp only [List.forall_mem_append, List.forall_mem_singleton]
  refine ⟨⟨⟨⟨?_, trivial⟩, tutorial.clear_informationBlocks⟩,
    clear_functionBlocks (by decide) (by decide) hsetup⟩,
    clear_functionBlocks (by decide) (by decide) htearDown⟩
  intro block hmem
  split at hmem
  · cases hmem
  · rw [List.mem_singleton.mp hmem]
    trivial

/-!
# The check

The problems in the blocks of a tutorial, and the reports in the text of these blocks, are put
together here.
-/

/-- The script of a tutorial, steps one after the other. -/
theorem toScript_eq (tutorial : Tutorial) :
    tutorial.toScript = blocksText (tutorial.headBlocks ++
      tutorial.steps.flatMap fun step => (step.blocks Scope.empty).2) := by
  rw [toScript, scriptBlocks, Step.blocksAll_empty]

/--
A script in which nothing repeated looks like a report reports the problems of the tutorial, in
their order, and thus none exactly if the tutorial is finished.
-/
theorem toScript_reports_problems {tutorial : Tutorial} (hquiet : QuietAll tutorial.verbatim) :
    reported tutorial.toScript = tutorial.problems.map Problem.message ∧
      (reported tutorial.toScript = [] ↔ tutorial.Finished) := by
  rw [verbatim, quietAll_append] at hquiet
  rcases hquiet with ⟨hown, hsteps⟩
  let blocks := tutorial.headBlocks ++
    tutorial.steps.flatMap fun step => (step.blocks Scope.empty).2
  have hclear : forall block, block ∈ blocks -> block.Clear := by
    simp only [blocks, List.forall_mem_append, List.forall_mem_flatMap]
    refine ⟨clear_headBlocks (hown _ (by simp)) (hown _ (by simp)), ?_⟩
    intro step hmem
    exact step.clear_blocks Scope.empty (hsteps.of_mem hmem)
  have hproblems : blocks.flatMap Block.problems = tutorial.problems := by
    simp only [blocks, List.flatMap_append, List.flatMap_assoc, problems_headBlocks,
      Step.problems_blocks]
    rfl
  have hreports : Reports tutorial.toScript.toList tutorial.problems := by
    have hall := Reports.flatMap fun block hmem => Block.reports_text (hclear block hmem)
    rw [hproblems] at hall
    rw [toScript_eq, blocksText, String.toList_join, List.flatMap_map]
    exact hall
  have hreported := reported_of_reports hreports
  refine ⟨hreported, ?_⟩
  rw [hreported, List.map_eq_nil_iff, problems_eq_nil_iff]

def unfinished : Tutorial :=
  { description := "An example", license := "//Error: none", setup := "run();\n//Errors: none\n"
    steps :=
      [{ text := "A step without an id" },
        { id := "start"
          reactions :=
            [{ trigger := .optionSelected, option := "Go on", response := .customCode },
              { trigger := .conditionMet, response := .customCode
                condition := some (.composed .any
                  [.leaf (.event "" "press"), .negation none,
                    .leaf (.property "box" "text" "//Error:\n1")]) },
              { trigger := .conditionMet, condition := some (.leaf (.window ""))
                response := .customCode },
              { trigger := .conditionMet }] }] }

theorem unfinished_reports_problems :
    QuietAll unfinished.verbatim ∧
      reported unfinished.toScript =
        ["Tutorial without name!", "Step without id!", "Step without text!",
          "WaitForEvent without receiver name!", "WaitForNot without negated WaitFor!",
          "WaitForWindow without window object name!", "WaitFor not set!", "No code set!",
          "No code set!"] ∧
      ¬ unfinished.Finished := by
  have hquiet : QuietAll unfinished.verbatim := by decide
  have hproblems : unfinished.problems.map Problem.message =
      ["Tutorial without name!", "Step without id!", "Step without text!",
        "WaitForEvent without receiver name!", "WaitForNot without negated WaitFor!",
        "WaitForWindow without window object name!", "WaitFor not set!", "No code set!",
        "No code set!"] := by
    decide
  have hreports := toScript_reports_problems hquiet
  rw [hproblems] at hreports
  refine ⟨hquiet, hreports.1, ?_⟩
  intro hfinished
  have hnone := hreports.2.mpr hfinished
  rw [hreports.1] at hnone
  cases hnone

end Tutorial
end TutorialKit
