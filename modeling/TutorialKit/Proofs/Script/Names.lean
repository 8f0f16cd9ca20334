import TutorialKit.Proofs.Script.Blocks
import TutorialKit.Proofs.Script.Variables
import TutorialKit.Proofs.Script.Words
import TutorialKit.Proofs.Text.Tables

/-!
# Names in a script

Whatever a name is made from, it holds no slash and no line break, and so it may stand anywhere in
a line.
-/

namespace TutorialKit

open Script

namespace Text

theorem isPlain_ofNat {n : Nat} (h : '/'.toNat < n) : IsPlain (Char.ofNat n) := by
  have hbreak : '\n'.toNat < '/'.toNat := by decide
  by_cases hvalid : n.isValidChar
  · have hnat := toNat_ofNat hvalid
    constructor
    · intro heq
      rw [heq] at hnat
      omega
    · intro heq
      rw [heq] at hnat
      omega
  · rw [Char.ofNat, dif_neg hvalid]
    decide

/-- All images of the mapping come after the slash. -/
structure CaseMapping.Plain (mapping : CaseMapping) : Prop where
  runs : forall run, run ∈ mapping.runs -> '/'.toNat < run.image
  expansions : forall entry, entry ∈ mapping.expansions ->
    forall image, image ∈ entry.2 -> '/'.toNat < image

theorem CaseMapping.Plain.apply {mapping : CaseMapping} (h : mapping.Plain) {c image : Char}
    (hc : IsPlain c) (himage : image ∈ mapping.apply c) : IsPlain image := by
  rcases mapping.apply_cases c with happly | ⟨images, hentry, happly⟩ |
    ⟨run, hrun, -, -, -, happly⟩
  · rw [happly, List.mem_singleton] at himage
    rwa [himage]
  · rw [happly, List.mem_map] at himage
    rcases himage with ⟨n, hn, rfl⟩
    exact isPlain_ofNat (h.expansions (c.toNat, images) hentry n hn)
  · rw [happly, List.mem_singleton] at himage
    have himages := h.runs run hrun
    rw [himage]
    exact isPlain_ofNat (by omega)

theorem plain_upperCase : upperCase.Plain where
  runs := by decide +kernel
  expansions := by decide +kernel

theorem plain_lowerCase : lowerCase.Plain where
  runs := by decide +kernel
  expansions := by decide +kernel

theorem isPlain_of_isWordChar {c : Char} (h : CamelCase.isWordChar c = true) : IsPlain c := by
  constructor
  · rintro rfl
    revert h
    decide
  · rintro rfl
    revert h
    decide

theorem isPlain_of_mem_upper {cs : List Char} {c : Char} (h : c ∈ CamelCase.upper cs) :
    IsPlain c := by
  rcases List.mem_flatMap.mp h with ⟨word, hword, hc⟩
  have hplain : forall d, d ∈ word -> IsPlain d := by
    intro d hd
    exact isPlain_of_isWordChar (isWordChar_of_mem_words hword d hd)
  cases word with
  | nil => cases hc
  | cons first rest =>
      rw [List.forall_mem_cons] at hplain
      rcases List.mem_append.mp hc with hc | hc
      · exact plain_upperCase.apply hplain.1 hc
      · exact hplain.2 c hc

theorem isPlain_of_mem_lower {cs : List Char} {c : Char} (h : c ∈ CamelCase.lower cs) :
    IsPlain c := by
  have hplain : forall d, d ∈ CamelCase.upper cs -> IsPlain d := fun d hd => isPlain_of_mem_upper hd
  unfold CamelCase.lower at h
  cases hupper : CamelCase.upper cs with
  | nil =>
      rw [hupper] at h
      cases h
  | cons first rest =>
      rw [hupper, List.forall_mem_cons] at hplain
      rw [hupper] at h
      rcases List.mem_append.mp h with h | h
      · exact plain_lowerCase.apply hplain.1 h
      · exact hplain.2 c h

end Text

namespace Script

theorem plain_upperCamelCase (text : String) : Plain (Text.upperCamelCase text) := by
  intro c hc
  rw [Text.upperCamelCase, String.toList_ofList] at hc
  exact Text.isPlain_of_mem_upper hc

theorem plain_lowerCamelCase (text : String) : Plain (Text.lowerCamelCase text) := by
  intro c hc
  rw [Text.lowerCamelCase, String.toList_ofList] at hc
  exact Text.isPlain_of_mem_lower hc

theorem Plain.append {first second : String} (hfirst : Plain first) (hsecond : Plain second) :
    Plain (first ++ second) := by
  intro c hc
  rw [String.toList_append, List.mem_append] at hc
  rcases hc with hc | hc
  · exact hfirst c hc
  · exact hsecond c hc

theorem plain_toString (n : Nat) : Plain (toString n) := by
  intro c hc
  rw [toList_toString] at hc
  have hdigit := Nat.isDigit_of_mem_toDigits (by decide) (Nat.le_refl 10) hc
  constructor
  · rintro rfl
    revert hdigit
    decide
  · rintro rfl
    revert hdigit
    decide

theorem Plain.variableFor {name : String} (h : Plain name) (scope : Scope) :
    Plain (scope.variableFor name) := by
  unfold Scope.variableFor Scope.numbered
  split
  · exact h
  · exact h.append (plain_toString _)

end Script

/-!
# Names of objects

The names of steps and conditions are plain whatever texts they are made from.
-/

theorem Leaf.plain_objectName (leaf : Leaf) : Plain leaf.objectName := by
  have hwait : Plain "waitFor" := by decide
  unfold Leaf.objectName
  cases leaf with
  | event receiver name =>
      exact ((hwait.append (plain_upperCamelCase _)).append (by decide)).append
        (plain_upperCamelCase _)
  | property object name value =>
      exact ((hwait.append (plain_upperCamelCase _)).append (by decide)).append
        (plain_upperCamelCase _)
  | signal emitter name =>
      exact ((hwait.append (plain_upperCamelCase _)).append (by decide)).append
        (plain_upperCamelCase _)
  | window name => exact (hwait.append (plain_upperCamelCase _)).append (by decide)
  | stepActivation => decide

theorem Step.plain_objectName (step : Step) : Plain step.objectName := by
  unfold Step.objectName
  exact (plain_lowerCamelCase _).append (by decide)

theorem Condition.plain_object_emit {condition : Condition} {scope : Scope} {object : String}
    (h : object ∈ (condition.emit scope).object) : Plain object := by
  cases condition with
  | leaf l =>
      unfold Condition.emit Leaf.emit at h
      split at h
      · cases h
      · cases h
        exact l.plain_objectName.variableFor scope
  | composed composition children =>
      cases h
      apply Plain.variableFor
      cases composition <;> decide
  | negation child =>
      cases child with
      | none => cases h
      | some child =>
          cases h
          exact Plain.variableFor (by decide) scope

end TutorialKit
