import TutorialKit.Editing.ConditionEditor

/-!
# Edits of one node of a condition

An edit works on the node at the end of a path.  Everything beside that path stays as it is, nodes
on the path keep what they are by themselves, and below the edited node children only move to make
room or to close a gap.  Listeners move with their nodes, and only those of the edited node hear of
the edit: `edit_stays_local`.
-/

namespace TutorialKit

/-!
# What an edit does to a node

Which edits apply where is read off the kinds of nodes and their texts alone, with the node that is
stored, the change that is reported and the conditions that are handed back.
-/

/-- A leaf with a text of it, and the leaf with the given text there. -/
inductive Leaf.Sets (text : String) : LeafField -> Leaf -> Leaf -> Prop where
  | receiver {receiver name : String} :
      Sets text .receiver (.event receiver name) (.event text name)
  | event {receiver name : String} :
      Sets text .event (.event receiver name) (.event receiver text)
  | object {object name value : String} :
      Sets text .object (.property object name value) (.property text name value)
  | property {object name value : String} :
      Sets text .property (.property object name value) (.property object text value)
  | value {object name value : String} :
      Sets text .value (.property object name value) (.property object name text)
  | emitter {emitter name : String} :
      Sets text .emitter (.signal emitter name) (.signal text name)
  | signal {emitter name : String} :
      Sets text .signal (.signal emitter name) (.signal emitter text)
  | window {name : String} : Sets text .window (.window name) (.window text)

namespace ConditionEdit

/-- What an edit makes of a node, the change that it reports there and its result. -/
inductive Applies :
    ConditionEdit -> LiveCondition -> LiveCondition -> ConditionChange -> ConditionResult -> Prop
    where
  | setText {ls : Listeners Label} {field : LeafField} {text : String} {old new : Leaf}
      (sets : Leaf.Sets text field old new) :
      Applies (.setText field text) (.leaf ls old) (.leaf ls new) .dataChanged .done
  | setComposition {ls : Listeners Label} {old new : Composition}
      {children : List LiveCondition} :
      Applies (.setComposition new) (.composed ls old children) (.composed ls new children)
        .dataChanged .done
  | addChild {ls : Listeners Label} {composition : Composition} {children : List LiveCondition}
      {child : LiveCondition} :
      Applies (.addChild child) (.composed ls composition children)
        (.composed ls composition (children ++ [child])) (.childAdded children.length) .done
  | insertChild {ls : Listeners Label} {composition : Composition}
      {before after : List LiveCondition} {child : LiveCondition} :
      Applies (.insertChild before.length child) (.composed ls composition (before ++ after))
        (.composed ls composition (before ++ child :: after)) (.childAdded before.length) .done
  | removeChild {ls : Listeners Label} {composition : Composition}
      {before after : List LiveCondition} {child : LiveCondition} :
      Applies (.removeChild before.length) (.composed ls composition (before ++ child :: after))
        (.composed ls composition (before ++ after)) (.childRemoved before.length)
        (.removed child)
  | setNegated {ls : Listeners Label} {old new : Option LiveCondition} :
      Applies (.setNegated new) (.negation ls old) (.negation ls new) .dataChanged
        (.displaced old)

/-- The index is beyond the children, and the error says so. -/
inductive Misses : ConditionEdit -> LiveCondition -> ChildIndexError -> Prop where
  | insertChild {ls : Listeners Label} {composition : Composition}
      {children : List LiveCondition} {index : Nat} {child : LiveCondition}
      (beyond : children.length < index) :
      Misses (.insertChild index child) (.composed ls composition children)
        ⟨index, children.length⟩
  | removeChild {ls : Listeners Label} {composition : Composition}
      {children : List LiveCondition} {index : Nat} (beyond : children.length <= index) :
      Misses (.removeChild index) (.composed ls composition children) ⟨index, children.length⟩

def given : ConditionEdit -> List LiveCondition
  | addChild child => [child]
  | insertChild _ child => [child]
  | setNegated child => child.toList
  | _ => []

/-- Where the child at an index stands after the edit, if it is still there. -/
def moved (index : Nat) : ConditionEdit -> Option Nat
  | insertChild place _ => some (if index < place then index else index + 1)
  | removeChild place =>
      if index < place then some index else if index = place then none else some (index - 1)
  | setNegated _ => none
  | _ => some index

/-- Where a node stands after an edit at a path; other parts of the tree do not move. -/
def movedFrom (edit : ConditionEdit) : (path place : List Nat) -> Option (List Nat)
  | [], [] => some []
  | [], index :: rest => (edit.moved index).map (· :: rest)
  | _ :: _, [] => some []
  | step :: path, index :: rest =>
      if step = index then (edit.movedFrom path rest).map (step :: ·) else some (index :: rest)

end ConditionEdit

def ConditionResult.returned : ConditionResult -> List LiveCondition
  | .removed child => [child]
  | .displaced child => child.toList
  | _ => []

namespace LiveCondition

/-!
# Numbers of nodes

A node counts once, and its children by themselves.
-/

def nodeCount (condition : LiveCondition) : Nat :=
  condition.content.nodeCount

def nodeCountAll (conditions : List LiveCondition) : Nat :=
  Condition.nodeCountAll (contentAll conditions)

theorem nodeCountAll_cons (first : LiveCondition) (rest : List LiveCondition) :
    nodeCountAll (first :: rest) = first.nodeCount + nodeCountAll rest := rfl

theorem nodeCount_eq (condition : LiveCondition) :
    condition.nodeCount = 1 + nodeCountAll condition.children := by
  cases condition with
  | leaf ls l => rfl
  | composed ls composition children => rfl
  | negation ls child => cases child <;> rfl

theorem nodeCountAll_append (conditions others : List LiveCondition) :
    nodeCountAll (conditions ++ others) = nodeCountAll conditions + nodeCountAll others := by
  induction conditions with
  | nil => exact (Nat.zero_add _).symm
  | cons first rest ih =>
      rw [List.cons_append, nodeCountAll_cons, nodeCountAll_cons, ih, Nat.add_assoc]

theorem nodeCountAll_set {conditions : List LiveCondition} {index : Nat} {old : LiveCondition}
    (h : conditions[index]? = some old) (new : LiveCondition) :
    nodeCountAll (conditions.set index new) + old.nodeCount =
      nodeCountAll conditions + new.nodeCount := by
  induction conditions generalizing index with
  | nil => cases h
  | cons first rest ih =>
      cases index with
      | zero =>
          cases h
          rw [List.set_cons_zero, nodeCountAll_cons, nodeCountAll_cons]
          omega
      | succ index =>
          rw [List.getElem?_cons_succ] at h
          have hrest := ih h
          rw [List.set_cons_succ, nodeCountAll_cons, nodeCountAll_cons]
          omega

/-!
# Nodes by themselves

A node is compared with another one apart from its children.
-/

/-- The node with its listeners and all that it holds besides children. -/
def alone : LiveCondition -> LiveCondition
  | leaf ls l => leaf ls l
  | composed ls composition _ => composed ls composition []
  | negation ls _ => negation ls none

theorem listeners_alone (condition : LiveCondition) :
    condition.alone.listeners = condition.listeners := by
  cases condition <;> rfl

theorem children_setChild (condition : LiveCondition) (index : Nat) (child : LiveCondition) :
    (condition.setChild index child).children = condition.children.set index child := by
  cases condition with
  | leaf ls l => rfl
  | composed ls composition children => rfl
  | negation ls previous =>
      cases previous with
      | none => rfl
      | some previous =>
          cases index with
          | zero => rfl
          | succ index => rfl

theorem setChild_self {condition child : LiveCondition} {index : Nat}
    (h : condition.children[index]? = some child) : condition.setChild index child = condition := by
  cases condition with
  | leaf ls l => rfl
  | composed ls composition children =>
      change children[index]? = some child at h
      rcases List.getElem?_eq_some_iff.mp h with ⟨hindex, rfl⟩
      rw [setChild, List.set_getElem_self]
  | negation ls previous =>
      cases previous with
      | none => cases h
      | some previous =>
          cases index with
          | zero =>
              cases h
              rfl
          | succ index => rfl

theorem alone_setChild (condition : LiveCondition) (index : Nat) (child : LiveCondition) :
    (condition.setChild index child).alone = condition.alone := by
  cases condition with
  | leaf ls l => rfl
  | composed ls composition children => rfl
  | negation ls previous =>
      cases previous with
      | none => rfl
      | some previous =>
          cases index with
          | zero => rfl
          | succ index => rfl

theorem nodeAt?_cons (index : Nat) (path : List Nat) (condition : LiveCondition) :
    nodeAt? (index :: path) condition = condition.children[index]?.bind (nodeAt? path) := by
  rw [nodeAt?]
  cases condition.children[index]? with
  | none => rfl
  | some child => rfl

/-!
# Another node at the end of a path

A tree is known from the former one and from the node that has taken the place of another.
-/

/-- The later tree is the former one with another node at the end of the path. -/
structure Exchanged (path : List Nat) (old new former later : LiveCondition) : Prop where
  before : nodeAt? path former = some old
  same : new = old -> later = former
  after : forall rest, nodeAt? (path ++ rest) later = nodeAt? rest new
  /-- Whatever is not below the end of the path is what it was, children aside. -/
  above : forall place, ¬ path <+: place ->
    (nodeAt? place later).map alone = (nodeAt? place former).map alone ∧
      (nodeAt? place later).map (fun node => node.children.length) =
        (nodeAt? place former).map fun node => node.children.length
  beside : forall place, ¬ path <+: place -> ¬ place <+: path ->
    nodeAt? place later = nodeAt? place former
  count : later.nodeCount + old.nodeCount = former.nodeCount + new.nodeCount

theorem Exchanged.here (old new : LiveCondition) : Exchanged [] old new old new where
  before := rfl
  same := id
  after := fun _ => rfl
  above := fun _ h => absurd List.nil_prefix h
  beside := fun _ h _ => absurd List.nil_prefix h
  count := Nat.add_comm _ _

theorem Exchanged.below {path : List Nat} {old new child later : LiveCondition}
    (h : Exchanged path old new child later) {former : LiveCondition} {index : Nat}
    (hchild : former.children[index]? = some child) :
    Exchanged (index :: path) old new former (former.setChild index later) := by
  have hlength := (List.getElem?_eq_some_iff.mp hchild).1
  have hlater : (former.setChild index later).children[index]? = some later := by
    rw [children_setChild, List.getElem?_set_self hlength]
  have hother : forall other, index ≠ other ->
      (former.setChild index later).children[other]? = former.children[other]? := by
    intro other hne
    rw [children_setChild, List.getElem?_set_ne hne]
  refine ⟨?_, fun hsame => ?_, fun rest => ?_, fun place hplace => ?_,
    fun place hplace hbeside => ?_, ?_⟩
  · rw [nodeAt?_cons, hchild]
    exact h.before
  · rw [h.same hsame, setChild_self hchild]
  · rw [List.cons_append, nodeAt?_cons, hlater]
    exact h.after rest
  · cases place with
    | nil =>
        constructor
        · exact congrArg some (alone_setChild former index later)
        · simp [nodeAt?, children_setChild]
    | cons other place =>
        rw [nodeAt?_cons, nodeAt?_cons]
        by_cases hsame : index = other
        · subst hsame
          rw [hlater, hchild]
          exact h.above place fun hprefix => hplace (by simpa using hprefix)
        · rw [hother other hsame]
          exact ⟨rfl, rfl⟩
  · cases place with
    | nil => exact absurd List.nil_prefix hbeside
    | cons other place =>
        rw [nodeAt?_cons, nodeAt?_cons]
        by_cases hsame : index = other
        · subst hsame
          rw [hlater, hchild]
          exact h.beside place (fun hprefix => hplace (by simpa using hprefix))
            fun hprefix => hbeside (by simpa using hprefix)
        · rw [hother other hsame]
  · have hcount := h.count
    have hset := nodeCountAll_set hchild later
    rw [nodeCount_eq (former.setChild index later), nodeCount_eq former, children_setChild]
    omega

theorem updateAt_of_nodeAt? {α : Type} (f : LiveCondition -> LiveCondition × α) {path : List Nat}
    {former node : LiveCondition} (h : nodeAt? path former = some node) :
    exists later, updateAt f path former = some (later, (f node).2) ∧
      Exchanged path node (f node).1 former later := by
  induction path generalizing former with
  | nil =>
      cases h
      exact ⟨_, rfl, .here _ _⟩
  | cons index path ih =>
      rw [nodeAt?_cons] at h
      rcases Option.bind_eq_some_iff.mp h with ⟨child, hchild, hnode⟩
      rcases ih hnode with ⟨later, hupdate, hexchanged⟩
      refine ⟨former.setChild index later, ?_, hexchanged.below hchild⟩
      simp only [updateAt, hchild, hupdate]

end LiveCondition

/-!
# Edits of a node

A leaf answers to a setter just if it has the text, and an edit comes to what `Applies` says; where
nothing applies, the node stays as it is.
-/

theorem Leaf.set?_eq_some_iff {field : LeafField} {text : String} {old new : Leaf} :
    old.set? field text = some new ↔ Sets text field old new := by
  constructor
  · intro h
    cases old with
    | event receiver name =>
        cases field with
        | receiver =>
            cases h
            exact .receiver
        | event =>
            cases h
            exact .event
        | _ => cases h
    | property object name value =>
        cases field with
        | object =>
            cases h
            exact .object
        | property =>
            cases h
            exact .property
        | value =>
            cases h
            exact .value
        | _ => cases h
    | signal emitter name =>
        cases field with
        | emitter =>
            cases h
            exact .emitter
        | signal =>
            cases h
            exact .signal
        | _ => cases h
    | window name =>
        cases field with
        | window =>
            cases h
            exact .window
        | _ => cases h
    | stepActivation => cases h
  · intro h
    cases h with
    | _ => rfl

namespace ConditionEdit

open LiveCondition (nodeCountAll nodeCountAll_append nodeCountAll_cons)

theorem exists_append_of_le {α : Type} {list : List α} {index : Nat} (h : index <= list.length) :
    exists before after, index = before.length ∧ list = before ++ after :=
  ⟨list.take index, list.drop index, (List.length_take_of_le h).symm,
    (List.take_append_drop index list).symm⟩

theorem insertIdx_length_append {α : Type} (before after : List α) (new : α) :
    (before ++ after).insertIdx before.length new = before ++ new :: after := by
  induction before with
  | nil => rfl
  | cons first before ih =>
      rw [List.cons_append, List.length_cons, List.insertIdx_succ_cons, ih, List.cons_append]

section

variable {edit : ConditionEdit} {node new : LiveCondition} {change : ConditionChange}
  {result : ConditionResult}

theorem Applies.edit_eq (h : edit.Applies node new change result) :
    node.edit edit = ⟨new, some change, result⟩ := by
  cases h with
  | setText sets => rw [LiveCondition.edit, Leaf.set?_eq_some_iff.mpr sets]
  | setComposition => rfl
  | addChild =>
      rw [LiveCondition.edit, LiveCondition.insertChild, if_pos (Nat.le_refl _),
        List.insertIdx_length_self]
  | insertChild =>
      rw [LiveCondition.edit, LiveCondition.insertChild, if_pos (by simp),
        insertIdx_length_append]
  | removeChild =>
      rw [LiveCondition.edit, LiveCondition.removeChild, List.getElem?_append_right (Nat.le_refl _),
        List.eraseIdx_append_of_length_le (Nat.le_refl _), Nat.sub_self]
      rfl
  | setNegated => rfl

theorem Misses.edit_eq {error : ChildIndexError} (h : edit.Misses node error) :
    node.edit edit = node.unchanged (.outOfRange error) := by
  cases h with
  | insertChild beyond =>
      rw [LiveCondition.edit, LiveCondition.insertChild, if_neg (Nat.not_le.mpr beyond)]
  | removeChild beyond =>
      rw [LiveCondition.edit, LiveCondition.removeChild, List.getElem?_eq_none beyond]

theorem edit_of_not_applies
    (h : forall new change result, ¬ edit.Applies node new change result) :
    exists result, node.edit edit = node.unchanged result ∧ result.returned = [] := by
  cases node with
  | leaf ls l =>
      cases edit with
      | setText field text =>
          cases hset : l.set? field text with
          | none => exact ⟨.notApplicable, by rw [LiveCondition.edit, hset], rfl⟩
          | some new => exact absurd (.setText (Leaf.set?_eq_some_iff.mp hset)) (h _ _ _)
      | _ => exact ⟨.notApplicable, rfl, rfl⟩
  | composed ls composition children =>
      cases edit with
      | setText field text => exact ⟨.notApplicable, rfl, rfl⟩
      | setComposition new => exact absurd .setComposition (h _ _ _)
      | addChild child => exact absurd .addChild (h _ _ _)
      | insertChild index child =>
          rcases Nat.lt_or_ge children.length index with hbeyond | hindex
          · exact ⟨_, (Misses.insertChild hbeyond).edit_eq, rfl⟩
          · rcases exists_append_of_le hindex with ⟨before, after, rfl, rfl⟩
            exact absurd .insertChild (h _ _ _)
      | removeChild index =>
          rcases Nat.lt_or_ge index children.length with hindex | hbeyond
          · rcases exists_append_of_le (Nat.le_of_lt hindex) with ⟨before, after, rfl, rfl⟩
            cases after with
            | nil => exact absurd hindex (by simp)
            | cons child after => exact absurd .removeChild (h _ _ _)
          · exact ⟨_, (Misses.removeChild hbeyond).edit_eq, rfl⟩
      | setNegated new => exact ⟨.notApplicable, rfl, rfl⟩
  | negation ls previous =>
      cases edit with
      | setNegated new => exact absurd .setNegated (h _ _ _)
      | _ => exact ⟨.notApplicable, rfl, rfl⟩

theorem Applies.listeners (h : edit.Applies node new change result) :
    new.listeners = node.listeners := by
  cases h with
  | _ => rfl

theorem Applies.getElem?_children (h : edit.Applies node new change result) {index place : Nat}
    {child : LiveCondition} (hchild : node.children[index]? = some child)
    (hmoved : edit.moved index = some place) : new.children[place]? = some child := by
  have hlength := (List.getElem?_eq_some_iff.mp hchild).1
  cases h with
  | setText sets => cases hchild
  | setComposition =>
      cases hmoved
      exact hchild
  | addChild =>
      cases hmoved
      exact (List.getElem?_append_left hlength).trans hchild
  | @insertChild _ _ before after new =>
      change (before ++ after)[index]? = some child at hchild
      change (before ++ new :: after)[place]? = some child
      rw [moved] at hmoved
      by_cases hbefore : index < before.length
      · rw [if_pos hbefore] at hmoved
        cases hmoved
        rw [List.getElem?_append_left hbefore] at hchild
        rw [List.getElem?_append_left hbefore, hchild]
      · rw [if_neg hbefore] at hmoved
        cases hmoved
        rw [List.getElem?_append_right (by omega)] at hchild
        rw [List.getElem?_append_right (by omega), Nat.succ_sub (by omega),
          List.getElem?_cons_succ, hchild]
  | @removeChild _ _ before after old =>
      change (before ++ old :: after)[index]? = some child at hchild
      change (before ++ after)[place]? = some child
      rw [moved] at hmoved
      by_cases hbefore : index < before.length
      · rw [if_pos hbefore] at hmoved
        cases hmoved
        rw [List.getElem?_append_left hbefore] at hchild
        rw [List.getElem?_append_left hbefore, hchild]
      · by_cases hgap : index = before.length
        · rw [if_neg hbefore, if_pos hgap] at hmoved
          cases hmoved
        · rw [if_neg hbefore, if_neg hgap] at hmoved
          cases hmoved
          have hafter : index - before.length = index - 1 - before.length + 1 := by omega
          rw [List.getElem?_append_right (by omega), hafter, List.getElem?_cons_succ] at hchild
          rw [List.getElem?_append_right (by omega), hchild]
  | setNegated => cases hmoved

theorem Applies.count (h : edit.Applies node new change result) :
    nodeCountAll new.children + nodeCountAll result.returned =
      nodeCountAll node.children + nodeCountAll edit.given := by
  cases h with
  | setText sets => rfl
  | setComposition => rfl
  | addChild => exact nodeCountAll_append _ _
  | insertChild =>
      simp only [LiveCondition.children, nodeCountAll_append, nodeCountAll_cons, given,
        ConditionResult.returned]
      omega
  | removeChild =>
      simp only [LiveCondition.children, nodeCountAll_append, nodeCountAll_cons, given,
        ConditionResult.returned]
      omega
  | setNegated => exact Nat.add_comm _ _

end

end ConditionEdit

namespace LiveCondition

/-!
# Edits in a tree

Below the edited node places move with its children; anywhere else they stay.
-/

theorem nodeAt?_append (path rest : List Nat) (condition : LiveCondition) :
    nodeAt? (path ++ rest) condition = (nodeAt? path condition).bind (nodeAt? rest) := by
  induction path generalizing condition with
  | nil => rfl
  | cons index path ih =>
      rw [List.cons_append, nodeAt?_cons, nodeAt?_cons, Option.bind_assoc]
      exact congrArg _ (funext ih)

theorem movedFrom_of_not_above (edit : ConditionEdit) {path place : List Nat}
    (h : ¬ path <+: place) : edit.movedFrom path place = some place := by
  induction path generalizing place with
  | nil => exact absurd List.nil_prefix h
  | cons step path ih =>
      cases place with
      | nil => rfl
      | cons index place =>
          rw [ConditionEdit.movedFrom]
          by_cases hsame : step = index
          · subst hsame
            rw [if_pos rfl, ih fun hprefix => h (by simpa using hprefix)]
            rfl
          · rw [if_neg hsame]

theorem movedFrom_append (edit : ConditionEdit) (path rest : List Nat) :
    edit.movedFrom path (path ++ rest) = (edit.movedFrom [] rest).map (path ++ ·) := by
  induction path with
  | nil => simp
  | cons step path ih =>
      rw [List.cons_append, ConditionEdit.movedFrom, if_pos rfl, ih, Option.map_map]
      rfl

/-- The later tree is the former one after an edit that made another node of the one at the end
of the path. -/
structure Performed (edit : ConditionEdit) (path : List Nat) (node new former later : LiveCondition)
    (result : ConditionResult) : Prop where
  exchanged : Exchanged path node new former later
  /-- Every node that remains keeps its listeners, and changes only if it is on the path. -/
  remaining : forall place other, nodeAt? place former = some other ->
    forall target, edit.movedFrom path place = some target ->
      exists moved, nodeAt? target later = some moved ∧ moved.listeners = other.listeners ∧
        (¬ place <+: path -> moved = other)
  count : later.nodeCount + nodeCountAll result.returned =
    former.nodeCount + nodeCountAll edit.given

/-- What comes of an edit of the node at the end of a path. -/
structure EditedAt (edit : ConditionEdit) (path : List Nat) (node former later : LiveCondition)
    (notices : List (Label × ConditionChange)) (result : ConditionResult) : Prop where
  /-- Each listener of the node hears once of the change, in the order of the subscriptions. -/
  applied : forall new change outcome, edit.Applies node new change outcome ->
    Performed edit path node new former later outcome ∧
      notices = (node.listeners.entries.map fun entry => (entry.2, change)) ∧ result = outcome
  refused : (forall new change outcome, ¬ edit.Applies node new change outcome) ->
    later = former ∧ notices = [] ∧ result.returned = []
  missed : forall error, edit.Misses node error ->
    later = former ∧ notices = [] ∧ result = .outOfRange error

section

variable {edit : ConditionEdit} {path : List Nat} {node new former later : LiveCondition}
  {change : ConditionChange} {result : ConditionResult}

theorem Exchanged.remaining (h : Exchanged path node new former later)
    (happlies : edit.Applies node new change result) {place target : List Nat}
    {other : LiveCondition} (hother : nodeAt? place former = some other)
    (htarget : edit.movedFrom path place = some target) :
    exists moved, nodeAt? target later = some moved ∧ moved.listeners = other.listeners ∧
      (¬ place <+: path -> moved = other) := by
  by_cases hprefix : path <+: place
  · rcases hprefix with ⟨rest, rfl⟩
    rw [nodeAt?_append, h.before, Option.bind_some] at hother
    rw [movedFrom_append] at htarget
    rcases Option.map_eq_some_iff.mp htarget with ⟨rest', hrest, rfl⟩
    rw [h.after]
    cases rest with
    | nil =>
        cases hrest
        cases hother
        exact ⟨new, rfl, happlies.listeners, fun hbeside => absurd (by simp) hbeside⟩
    | cons index rest =>
        rcases Option.map_eq_some_iff.mp hrest with ⟨place, hmoved, rfl⟩
        rw [nodeAt?_cons] at hother
        rcases Option.bind_eq_some_iff.mp hother with ⟨child, hchild, hbelow⟩
        refine ⟨other, ?_, rfl, fun _ => rfl⟩
        rw [nodeAt?_cons, happlies.getElem?_children hchild hmoved]
        exact hbelow
  · rw [movedFrom_of_not_above edit hprefix] at htarget
    cases htarget
    by_cases hon : place <+: path
    · have halone := (h.above place hprefix).1
      rw [hother] at halone
      rcases Option.map_eq_some_iff.mp halone with ⟨moved, hmoved, heq⟩
      refine ⟨moved, hmoved, ?_, fun hbeside => absurd hon hbeside⟩
      rw [← listeners_alone moved, heq, listeners_alone]
    · exact ⟨other, (h.beside place hprefix hon).trans hother, rfl, fun _ => rfl⟩

theorem Exchanged.performed (h : Exchanged path node new former later)
    (happlies : edit.Applies node new change result) :
    Performed edit path node new former later result := by
  refine ⟨h, fun place other hother target htarget => h.remaining happlies hother htarget, ?_⟩
  have hcount := h.count
  have hchildren := happlies.count
  rw [nodeCount_eq node, nodeCount_eq new] at hcount
  omega

theorem Exchanged.unchanged (h : Exchanged path node (node.edit edit).condition former later)
    (hedit : node.edit edit = node.unchanged result) :
    later = former ∧ node.notices (node.edit edit).change = [] ∧
      (node.edit edit).result = result := by
  rw [hedit] at h ⊢
  exact ⟨h.same rfl, rfl, rfl⟩

theorem Exchanged.editedAt (h : Exchanged path node (node.edit edit).condition former later) :
    EditedAt edit path node former later (node.notices (node.edit edit).change)
      (node.edit edit).result where
  applied := by
    intro new change outcome happlies
    rw [happlies.edit_eq] at h ⊢
    exact ⟨h.performed happlies, rfl, rfl⟩
  refused := by
    intro hnone
    rcases ConditionEdit.edit_of_not_applies hnone with ⟨result, hedit, hreturned⟩
    rcases h.unchanged hedit with ⟨hsame, hsilent, hresult⟩
    exact ⟨hsame, hsilent, hresult ▸ hreturned⟩
  missed := by
    intro error hmisses
    exact h.unchanged hmisses.edit_eq

end

end LiveCondition

namespace ConditionEditor

open LiveCondition

/-- An edit of a node stores what it says there and changes no other node, keeps every listener of
what remains, tells those of the node and nobody else, and loses no node. -/
theorem edit_stays_local {editor : ConditionEditor} {path : List Nat} {node : LiveCondition}
    (hnode : nodeAt? path editor.condition = some node) (edit : ConditionEdit) :
    exists later notices result,
      editor.serve path (.edit edit) =
          (⟨later, editor.subscriptions⟩, notices, .result result) ∧
        EditedAt edit path node editor.condition later notices result := by
  let work (node : LiveCondition) : LiveCondition × ServedNode :=
    let served := serveNode (.edit edit) editor.subscriptions node
    (served.condition, served)
  rcases updateAt_of_nodeAt? work hnode with ⟨later, hupdate, hexchanged⟩
  refine ⟨later, _, _, ?_, Exchanged.editedAt hexchanged⟩
  simp only [serve]
  rw [hupdate]
  rfl

def leafExample : LiveCondition :=
  .leaf ⟨1, [(0, "inner")]⟩ (.window "b")

def pairExample : LiveCondition :=
  .composed ⟨2, [(0, "left"), (1, "right")]⟩ .all [leafExample]

def nestedExample : ConditionEditor where
  condition := .composed ⟨1, [(0, "root")]⟩ .any
    [.leaf ⟨1, [(0, "first")]⟩ (.window "a"), pairExample]

theorem edit_stays_local_nested :
    nodeAt? [1] nestedExample.condition = some pairExample ∧
      (nestedExample.serve [1] (.edit (.removeChild 0))).2.1 =
        [("left", .childRemoved 0), ("right", .childRemoved 0)] ∧
      (exists later notices result,
        nestedExample.serve [1] (.edit (.removeChild 0)) = (⟨later, []⟩, notices, .result result) ∧
          EditedAt (.removeChild 0) [1] pairExample nestedExample.condition later notices
            result) ∧
      nodeAt? [1, 0] nestedExample.condition = some leafExample ∧
      (nestedExample.serve [1, 0] (.edit (.setText .window "c"))).2.1 = [("inner", .dataChanged)] ∧
      exists later notices result,
        nestedExample.serve [1, 0] (.edit (.setText .window "c")) =
            (⟨later, []⟩, notices, .result result) ∧
          EditedAt (.setText .window "c") [1, 0] leafExample nestedExample.condition later notices
            result :=
  have hpair : nodeAt? [1] nestedExample.condition = some pairExample := rfl
  have hleaf : nodeAt? [1, 0] nestedExample.condition = some leafExample := rfl
  ⟨hpair, rfl, edit_stays_local hpair (.removeChild 0), hleaf, rfl,
    edit_stays_local hleaf (.setText .window "c")⟩

end ConditionEditor
end TutorialKit
