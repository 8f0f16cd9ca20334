import TutorialKit.Proofs.Script.Exporting
import TutorialKit.Proofs.Text.Tables

/-!
# Semantic markup in step texts

Tags are looked for from the left, and a `<` with a word behind it takes in everything up to the
next `>`, other tags included.  So a tag is seen only where no earlier one is still open.  A text is
taken to hold semantic markup, and handed to translators as such, if and only if a semantic tag
stands free in it.
-/

namespace TutorialKit

open Script

namespace Text

/-!
# Letters of tags

The names of tags are words in small letters; a tag may have them in any case.
-/

theorem trimStart_append_cons {c : Char} (hc : isBlank c = false) (front rest : List Char) :
    trimStart (front ++ c :: rest) = trimStart front ++ c :: rest := by
  rw [trimStart, trimStart, List.dropWhile_append]
  split
  · rename_i hblank
    rw [List.isEmpty_iff.mp hblank, List.dropWhile_cons_of_neg (by simp [hc]), List.nil_append]
  · rfl

theorem not_isBlank_of_isWordCharacter {c : Char} (h : isWordCharacter c = true) :
    isBlank c = false := by
  have hapart : forall range, range ∈ blankCodePoints ->
      forall k, k < range.2 + 1 - range.1 -> wordCodePoints.member (range.1 + k) = false := by
    decide +kernel
  refine Bool.eq_false_iff.mpr fun hblank => ?_
  rcases CodePoints.exists_range_of_member hblank with ⟨range, hrange, hfirst, hlast⟩
  have hno := hapart range hrange (c.toNat - range.1) (by omega)
  rw [Nat.add_sub_cancel' hfirst] at hno
  rw [isWordCharacter, CodePoints.contains, hno] at h
  cases h

def IsSmallLetter (c : Char) : Prop :=
  0x61 <= c.toNat ∧ c.toNat <= 0x7A

instance (c : Char) : Decidable (IsSmallLetter c) :=
  inferInstanceAs (Decidable (_ ∧ _))

theorem isWordCharacter_of_toLower {c letter : Char} (hletter : IsSmallLetter letter)
    (h : letter ∈ toLower c) : isWordCharacter c = true := by
  have hexpansions : forall entry, entry ∈ lowerCase.expansions ->
      wordCodePoints.member entry.1 = true := by
    decide +kernel
  have hruns : forall run, run ∈ lowerCase.runs ->
      run.image <= 0x7A -> 0x61 <= run.image + (run.last - run.first) ->
      forall k, k < run.last + 1 - run.first -> wordCodePoints.member (run.first + k) = true := by
    decide +kernel
  have hletters : forall k, k < 26 -> wordCodePoints.member (0x61 + k) = true := by
    decide +kernel
  rw [isWordCharacter, CodePoints.contains]
  rw [toLower] at h
  rcases lowerCase.apply_cases c with happly | ⟨images, hentry, -⟩ |
    ⟨run, hrun, hfirst, hlast, -, happly⟩
  · rw [happly, List.mem_singleton] at h
    subst h
    have hmember := hletters (letter.toNat - 0x61) (by have := hletter.2; omega)
    rwa [Nat.add_sub_cancel' hletter.1] at hmember
  · exact hexpansions (c.toNat, images) hentry
  · rw [happly, List.mem_singleton] at h
    subst h
    have himage := toNat_ofNat_of_pos (Nat.lt_of_lt_of_le (by decide) hletter.1)
    have hmember := hruns run hrun (by have := hletter.2; omega) (by have := hletter.1; omega)
      (c.toNat - run.first) (by omega)
    rwa [Nat.add_sub_cancel' hfirst] at hmember

theorem toLower_ne_nil (c : Char) : toLower c ≠ [] := by
  have hexpansions : forall entry, entry ∈ lowerCase.expansions -> entry.2 ≠ [] := by
    decide +kernel
  rw [toLower]
  rcases lowerCase.apply_cases c with happly | ⟨images, hentry, happly⟩ |
    ⟨run, -, -, -, -, happly⟩
  · rw [happly]
    exact List.cons_ne_nil c []
  · rw [happly, Ne, List.map_eq_nil_iff]
    exact hexpansions (c.toNat, images) hentry
  · rw [happly]
    exact List.cons_ne_nil _ []

end Text

namespace Script
namespace Markup

theorem isWordCharacter_of_isNamed {name : List Char} (h : isNamed semanticTags name = true) :
    name ≠ [] ∧ forall c, c ∈ name -> Text.isWordCharacter c = true := by
  have hletters : forall tag, tag ∈ semanticTags ->
      tag ≠ "" ∧ (tag.toList.all fun c => decide (Text.IsSmallLetter c)) = true := by
    decide +kernel
  have hmem : String.ofList (lowerCased name) ∈ semanticTags := by
    simpa [isNamed] using h
  rcases hletters _ hmem with ⟨hne, hsmall⟩
  rw [String.toList_ofList, List.all_eq_true] at hsmall
  constructor
  · rintro rfl
    exact hne rfl
  · intro c hc
    rcases List.exists_mem_of_ne_nil _ (Text.toLower_ne_nil c) with ⟨letter, hletter⟩
    have hletters := hsmall letter (List.mem_flatMap.mpr ⟨c, hc, hletter⟩)
    exact Text.isWordCharacter_of_toLower (of_decide_eq_true hletters) hletter

/-!
# Tags that stand free

The scan is either between tags or inside one.  Inside, only a `>` counts.
-/

/-- Every tag that begins in the text ends in it: a `>` follows. -/
def Settled (cs : List Char) : Prop :=
  forall back, '<' :: back <:+ cs -> leadingWord back ≠ [] -> '>' ∈ back

theorem settled_nil : Settled [] := by
  intro back hback
  simp at hback

theorem settled_cons_iff {c : Char} {cs : List Char} :
    Settled (c :: cs) ↔ (c = '<' -> leadingWord cs ≠ [] -> '>' ∈ cs) ∧ Settled cs := by
  constructor
  · intro h
    constructor
    · rintro rfl hword
      exact h cs List.suffix_rfl hword
    · intro back hback
      exact h back (hback.trans (List.suffix_cons c cs))
  · rintro ⟨hfirst, hrest⟩ back hback hword
    rcases List.suffix_cons_iff.mp hback with heq | hback
    · cases heq
      exact hfirst rfl hword
    · exact hrest back hback hword

instance decidableSettled : (cs : List Char) -> Decidable (Settled cs)
  | [] => isTrue settled_nil
  | _ :: cs =>
      have := decidableSettled cs
      decidable_of_iff _ settled_cons_iff.symm

theorem leadingWord_append (front rest : List Char) :
    leadingWord (front ++ '<' :: rest) = leadingWord front := by
  have hword : Text.isWordCharacter '<' = false := by decide
  rw [leadingWord, leadingWord, Text.trimStart_append_cons (by decide), List.takeWhile_append]
  split
  · rename_i hall
    rw [List.takeWhile_cons_of_neg (by rw [hword]; decide), List.append_nil,
      (List.takeWhile_prefix _).eq_of_length hall]
  · rfl

/--
Somewhere in the text stands a tag that begins with the word, and no earlier tag is open there;
one that is open where the text begins has ended, too.
-/
def StandsFree (inside : Bool) (word cs : List Char) : Prop :=
  exists front rest, cs = front ++ '<' :: rest ∧ (inside = true -> '>' ∈ front) ∧
    Settled front ∧ '>' ∈ rest ∧ leadingWord rest = word

theorem standsFree_cons_iff {inside : Bool} {word cs : List Char} {c : Char} :
    StandsFree inside word (c :: cs) ↔
      (c = '<' ∧ inside = false ∧ '>' ∈ cs ∧ leadingWord cs = word) ∨
      exists front rest, cs = front ++ '<' :: rest ∧ (inside = true -> '>' ∈ c :: front) ∧
        (c = '<' -> leadingWord cs ≠ [] -> '>' ∈ front) ∧ Settled front ∧
        '>' ∈ rest ∧ leadingWord rest = word := by
  constructor
  · rintro ⟨front, rest, hcs, hinside, hsettled, hclosed, hword⟩
    cases front with
    | nil =>
        cases hcs
        refine Or.inl ⟨rfl, ?_, hclosed, hword⟩
        exact Bool.eq_false_iff.mpr fun h => List.not_mem_nil (hinside h)
    | cons d front =>
        rw [List.cons_append] at hcs
        rcases List.cons.inj hcs with ⟨rfl, rfl⟩
        rw [settled_cons_iff] at hsettled
        rw [leadingWord_append]
        exact Or.inr ⟨front, rest, rfl, hinside, hsettled.1, hsettled.2, hclosed, hword⟩
  · rintro (⟨rfl, rfl, hclosed, hword⟩ | ⟨front, rest, rfl, hinside, hfirst, hsettled, htag⟩)
    · exact ⟨[], cs, rfl, by simp, settled_nil, hclosed, hword⟩
    · rw [leadingWord_append] at hfirst
      exact ⟨c :: front, rest, rfl, hinside, settled_cons_iff.mpr ⟨hfirst, hsettled⟩, htag⟩

theorem standsFree_inside_iff {word cs : List Char} {c : Char} :
    StandsFree true word (c :: cs) ↔ StandsFree (c != '>') word cs := by
  rw [standsFree_cons_iff, StandsFree]
  simp only [Bool.true_eq_false, false_and, and_false, false_or]
  refine exists_congr fun front => exists_congr fun rest => and_congr_right fun _ => ?_
  by_cases hc : c = '>'
  · subst hc
    simp
  · simp only [List.mem_cons, bne_iff_ne, ne_eq, hc, Ne.symm hc]
    tauto

theorem standsFree_opening_iff {word cs : List Char} (hopens : leadingWord cs ≠ []) :
    StandsFree false word ('<' :: cs) ↔
      ('>' ∈ cs ∧ leadingWord cs = word) ∨ StandsFree true word cs := by
  rw [standsFree_cons_iff, StandsFree]
  refine or_congr (by simp) ?_
  refine exists_congr fun front => exists_congr fun rest => and_congr_right fun _ => ?_
  simp [hopens]

theorem standsFree_skip_iff {word cs : List Char} {c : Char} (hword : word ≠ [])
    (hskip : c = '<' -> leadingWord cs = []) :
    StandsFree false word (c :: cs) ↔ StandsFree false word cs := by
  rw [standsFree_cons_iff, StandsFree]
  constructor
  · rintro (⟨hc, _, _, rfl⟩ | ⟨front, rest, hcs, _, _, htag⟩)
    · exact absurd (hskip hc) hword
    · exact ⟨front, rest, hcs, nofun, htag⟩
  · rintro ⟨front, rest, hcs, _, htag⟩
    exact Or.inr ⟨front, rest, hcs, nofun, fun hc hopens => absurd (hskip hc) hopens, htag⟩

theorem StandsFree.closed {inside : Bool} {word cs : List Char} (h : StandsFree inside word cs) :
    '>' ∈ cs := by
  rcases h with ⟨front, rest, rfl, _, _, hclosed, _⟩
  simp [hclosed]

/-- The scan finds just the tags that stand free. -/
theorem mem_tagWords_iff {word : List Char} (hword : word ≠ []) {inside : Bool} {cs : List Char} :
    word ∈ tagWords inside cs ↔ StandsFree inside word cs := by
  induction cs generalizing inside with
  | nil => simp [tagWords, StandsFree]
  | cons c cs ih =>
      rw [tagWords]
      cases inside with
      | true => rw [if_pos rfl, ih, standsFree_inside_iff]
      | false =>
          rw [if_neg Bool.false_ne_true]
          by_cases hopens : c = '<' ∧ leadingWord cs ≠ []
          · rcases hopens with ⟨rfl, hopens⟩
            rw [standsFree_opening_iff hopens]
            by_cases hclosed : '>' ∈ cs
            · rw [if_pos (by simp [hopens, hclosed]), List.mem_cons, ih]
              exact or_congr_left ⟨fun h => ⟨hclosed, h.symm⟩, fun h => h.2.symm⟩
            · have hnone (inside : Bool) : ¬ StandsFree inside word cs := fun h => hclosed h.closed
              simp [hclosed, ih, hnone]
          · have hskip : c = '<' -> leadingWord cs = [] := by
              intro hc
              by_contra hne
              exact hopens ⟨hc, hne⟩
            have hcond : ¬ (c == '<' && cs.contains '>' && !(leadingWord cs).isEmpty) = true := by
              simp only [Bool.and_eq_true, beq_iff_eq, Bool.not_eq_true', List.isEmpty_eq_false_iff]
              exact fun h => h.2 (hskip h.1.1)
            rw [if_neg hcond, ih, standsFree_skip_iff hword hskip]

/-!
# Texts with semantic markup

The text is scanned as a whole and the words of the tags are compared with the semantic ones.
-/

/-- A semantic tag stands in the text, with a name in any letter case, where no tag is open. -/
def HoldsFreeTag (cs : List Char) : Prop :=
  exists front rest, cs = front ++ '<' :: rest ∧ Settled front ∧ '>' ∈ rest ∧
    isNamed semanticTags (leadingWord rest) = true

theorem isSemantic_iff {cs : List Char} : isSemantic cs = true ↔ HoldsFreeTag cs := by
  rw [isSemantic, List.any_eq_true]
  constructor
  · rintro ⟨word, hmem, hnamed⟩
    rw [mem_tagWords_iff (isWordCharacter_of_isNamed hnamed).1] at hmem
    rcases hmem with ⟨front, rest, hcs, -, hsettled, hclosed, rfl⟩
    exact ⟨front, rest, hcs, hsettled, hclosed, hnamed⟩
  · rintro ⟨front, rest, hcs, hsettled, hclosed, hnamed⟩
    refine ⟨leadingWord rest, ?_, hnamed⟩
    rw [mem_tagWords_iff (isWordCharacter_of_isNamed hnamed).1]
    exact ⟨front, rest, hcs, nofun, hsettled, hclosed, rfl⟩

theorem leadingWord_tag {name : List Char} (h : isNamed semanticTags name = true)
    (back : List Char) : leadingWord (name ++ '>' :: back) = name := by
  rcases isWordCharacter_of_isNamed h with ⟨hne, hword⟩
  have htrim : Text.trimStart (name ++ '>' :: back) = name ++ '>' :: back := by
    cases name with
    | nil => exact absurd rfl hne
    | cons c name =>
        have hblank := Text.not_isBlank_of_isWordCharacter (hword c List.mem_cons_self)
        rw [Text.trimStart, List.cons_append, List.dropWhile_cons_of_neg (by simp [hblank])]
  have hend : Text.isWordCharacter '>' = false := by decide
  rw [leadingWord, htrim, List.takeWhile_append_of_pos hword,
    List.takeWhile_cons_of_neg (by simp [hend]), List.append_nil]

theorem isNamed_of_lowerCased {names : List String} {tag : String} {name : List Char}
    (htag : tag ∈ names) (hname : lowerCased name = tag.toList) : isNamed names name = true := by
  rw [isNamed, hname, String.ofList_toList]
  simpa using htag

end Markup
end Script

namespace Tutorial

open Markup

/-- The text of a step with an identifier stands in the script, in the context that it has. -/
theorem toScript_setText {tutorial : Tutorial} {step : Step} (hmem : step ∈ tutorial.steps)
    (hid : step.id ≠ "") (htext : step.text ≠ "") :
    exists before after, tutorial.toScript =
      before ++ (Block.setText step.objectName (Step.textContext step.text) step.text).text ++
        after := by
  rcases List.append_of_mem hmem with ⟨earlier, later, hsteps⟩
  refine ⟨blocksText (tutorial.headBlocks ++
      earlier.flatMap (fun step => (step.blocks Scope.empty).2) ++
      [Block.stepComment step.id, Block.newStep step.objectName step.id]),
    blocksText ([Block.gap] ++ (step.setupBlocks Scope.empty).2 ++ step.tearDownBlocks ++
      [Block.addStep step.objectName, Block.gap] ++
      later.flatMap (fun step => (step.blocks Scope.empty).2)), ?_⟩
  rw [toScript, scriptBlocks, Step.blocksAll_empty, hsteps, List.flatMap_append,
    List.flatMap_cons, Step.blocks_of_id hid, Step.textBlock, if_neg htext]
  simp only [blocksText_append, blocksText_cons, blocksText_nil, String.append_assoc,
    List.cons_append, List.nil_append, String.append_empty]

/--
A semantic tag in the text of a step is noticed, and the text written for translators as one with
markup, if and only if such a tag stands free in the text; the tag itself does wherever every
earlier one has ended.
-/
theorem semantic_tag_noticed_iff {tutorial : Tutorial} {step : Step} {tag : String}
    {front name back : List Char} (hmem : step ∈ tutorial.steps) (hid : step.id ≠ "")
    (htag : tag ∈ semanticTags) (hname : lowerCased name = tag.toList)
    (htext : step.text.toList = front ++ '<' :: (name ++ '>' :: back)) :
    (Settled front -> HoldsFreeTag step.text.toList) ∧
      ((mightBeSemanticMarkup step.text = true ∧
          exists before after, tutorial.toScript =
            before ++ (Block.setText step.objectName "@info" step.text).text ++ after) ↔
        HoldsFreeTag step.text.toList) := by
  have hnamed := isNamed_of_lowerCased htag hname
  constructor
  · intro hsettled
    refine ⟨front, name ++ '>' :: back, htext, hsettled, by simp, ?_⟩
    rwa [leadingWord_tag hnamed]
  · constructor
    · rintro ⟨hsemantic, -⟩
      exact isSemantic_iff.mp hsemantic
    · intro hfree
      have hsemantic : mightBeSemanticMarkup step.text = true := isSemantic_iff.mpr hfree
      have hne : step.text ≠ "" := by
        intro hempty
        simp [hempty] at htext
      have hcontext : Step.textContext step.text = "@info" := by
        rw [Step.textContext, hsemantic, Bool.or_true, if_pos rfl]
      exact ⟨hsemantic, hcontext ▸ toScript_setText hmem hid hne⟩

def compared : Tutorial where
  steps :=
    [{ id := "start", text := "If 1 < 2 and 3 > 2: <EmphasiS>take care</EmphasiS>" }]

theorem semantic_tag_noticed_behind_comparisons :
    let step : Step :=
      { id := "start", text := "If 1 < 2 and 3 > 2: <EmphasiS>take care</EmphasiS>" }
    step ∈ compared.steps ∧ step.id ≠ "" ∧ "emphasis" ∈ semanticTags ∧
      lowerCased "EmphasiS".toList = "emphasis".toList ∧
      step.text.toList = "If 1 < 2 and 3 > 2: ".toList ++
        '<' :: ("EmphasiS".toList ++ '>' :: "take care</EmphasiS>".toList) ∧
      Settled "If 1 < 2 and 3 > 2: ".toList ∧
      mightBeSemanticMarkup step.text = true ∧
      exists before after, compared.toScript =
        before ++ (Block.setText step.objectName "@info" step.text).text ++ after := by
  intro step
  have hmem : step ∈ compared.steps := List.mem_cons_self
  have hid : step.id ≠ "" := by decide
  have htag : "emphasis" ∈ semanticTags := by decide
  have hname : lowerCased "EmphasiS".toList = "emphasis".toList := by decide +kernel
  have htext : step.text.toList = "If 1 < 2 and 3 > 2: ".toList ++
      '<' :: ("EmphasiS".toList ++ '>' :: "take care</EmphasiS>".toList) := by decide
  have hsettled : Settled "If 1 < 2 and 3 > 2: ".toList := by decide +kernel
  have hnoticed := semantic_tag_noticed_iff hmem hid htag hname htext
  exact ⟨hmem, hid, htag, hname, htext, hsettled, hnoticed.2.mpr (hnoticed.1 hsettled)⟩

/-- A comparison that does not end takes in the tag behind it. -/
theorem comparison_hides_semantic_tag :
    let step : Step := { id := "start", text := "If 1 <2: <emphasis>take care</emphasis>" }
    let tutorial : Tutorial := { name := "t", description := "d", steps := [step] }
    "emphasis" ∈ semanticTags ∧
      step.text.toList = "If 1 <2: ".toList ++
        '<' :: ("emphasis".toList ++ '>' :: "take care</emphasis>".toList) ∧
      mightBeSemanticMarkup step.text = false ∧
      Block.setText "startStep" "@info/plain" step.text ∈ tutorial.scriptBlocks ∧
      Block.setText "startStep" "@info" step.text ∉ tutorial.scriptBlocks := by
  decide +kernel

end Tutorial
end TutorialKit
