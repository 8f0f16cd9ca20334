import TutorialKit.Proofs.Text.Pieces
import TutorialKit.Text.CamelCase

/-!
# Words of a text

A text falls into words, which hold letters, digits and low lines, and into whatever stands before
them, behind them and between them.  In camel case a text may be cut at any character between its
words, and nothing but the words makes a difference.
-/

namespace TutorialKit
namespace Text

open CamelCase

/-!
# Words

A letter begins a word of its own or belongs to the word behind it.
-/

theorem words_cons_of_not {c : Char} (hc : isWordChar c = false) (cs : List Char) :
    words (c :: cs) = words cs := by
  simp [words, pieces, hc]

theorem words_cons_of_isWordChar {c : Char} (hc : isWordChar c = true)
    (cs : List Char) : exists rest more, words (c :: cs) = (c :: rest) :: more := by
  rw [words, pieces, hc]
  cases hcs : pieces (fun c => !isWordChar c) cs with
  | nil => exact absurd hcs (pieces_ne_nil _ cs)
  | cons piece more => exact ⟨piece, _, rfl⟩

theorem isWordChar_of_mem_words {cs word : List Char} (h : word ∈ words cs) :
    forall c, c ∈ word -> isWordChar c = true := by
  intro c hc
  simpa using uncut_of_mem_pieces (List.mem_filter.mp h).1 c hc

theorem words_append_cons {c : Char} (hc : isWordChar c = false) (first second : List Char) :
    words (first ++ c :: second) = words first ++ words second := by
  rw [words, pieces_append_cut (by simp [hc]), List.filter_append]
  rfl

theorem words_of_word {word : List Char} (hne : word ≠ [])
    (hword : forall d, d ∈ word -> isWordChar d = true) : words word = [word] := by
  have huncut : forall d, d ∈ word -> (!isWordChar d) = false := by
    intro d hd
    rw [hword d hd]
    rfl
  rw [words, pieces_of_uncut huncut, List.filter_cons_of_pos]
  · rfl
  · rwa [Bool.not_eq_true', List.isEmpty_eq_false_iff]

/-- How a text falls into words: between two of them stands something that belongs to none. -/
inductive FallsInto : List Char -> List (List Char) -> Prop where
  | nothing : FallsInto [] []
  | last {word : List Char} : word ≠ [] -> (forall d, d ∈ word -> isWordChar d = true) ->
      FallsInto word [word]
  | between {c : Char} {cs : List Char} {words : List (List Char)} : isWordChar c = false ->
      FallsInto cs words -> FallsInto (c :: cs) words
  | word {word : List Char} {c : Char} {cs : List Char} {words : List (List Char)} : word ≠ [] ->
      (forall d, d ∈ word -> isWordChar d = true) -> isWordChar c = false ->
      FallsInto cs words -> FallsInto (word ++ c :: cs) (word :: words)

theorem FallsInto.words_eq {cs : List Char} {found : List (List Char)} (h : FallsInto cs found) :
    words cs = found := by
  induction h with
  | nothing => rfl
  | last hne hword => exact words_of_word hne hword
  | between hc _ ih => rw [words_cons_of_not hc, ih]
  | word hne hword hc _ ih =>
      rw [words_append_cons hc, words_of_word hne hword, ih]
      rfl

theorem FallsInto.exists_cons {c : Char} (hc : isWordChar c = true) {cs : List Char}
    {found : List (List Char)} (h : FallsInto cs found) :
    exists others, FallsInto (c :: cs) others := by
  have hsingle : forall d, d ∈ [c] -> isWordChar d = true := by
    intro d hd
    rwa [List.mem_singleton.mp hd]
  cases h with
  | nothing => exact ⟨_, .last (List.cons_ne_nil c []) hsingle⟩
  | last hne hword =>
      refine ⟨_, .last (List.cons_ne_nil c cs) ?_⟩
      rw [List.forall_mem_cons]
      exact ⟨hc, hword⟩
  | between hd hrest => exact ⟨_, .word (List.cons_ne_nil c []) hsingle hd hrest⟩
  | word hne hword hd hrest =>
      refine ⟨_, .word (List.cons_ne_nil c _) ?_ hd hrest⟩
      rw [List.forall_mem_cons]
      exact ⟨hc, hword⟩

theorem fallsInto_words (cs : List Char) : FallsInto cs (words cs) := by
  induction cs with
  | nil => exact .nothing
  | cons c cs ih =>
      cases hc : isWordChar c with
      | false =>
          rw [words_cons_of_not hc]
          exact .between hc ih
      | true =>
          rcases ih.exists_cons hc with ⟨found, hfound⟩
          rwa [hfound.words_eq]

/-!
# Camel case

Every word is capitalized by itself, so names are put together where texts are.
-/

theorem upper_of_find?_eq_none {cs : List Char} (h : cs.find? isWordChar = none) :
    upper cs = [] := by
  induction cs with
  | nil => rfl
  | cons c cs ih =>
      rw [List.find?_cons] at h
      cases hc : isWordChar c with
      | true => simp [hc] at h
      | false =>
          rw [hc] at h
          rw [upper, words_cons_of_not hc]
          exact ih h

theorem upper_of_find?_eq_some {cs : List Char} {first : Char}
    (h : cs.find? isWordChar = some first) :
    exists rest, upper cs = toUpper first ++ rest := by
  induction cs with
  | nil => cases h
  | cons c cs ih =>
      rw [List.find?_cons] at h
      cases hc : isWordChar c with
      | true =>
          rw [hc] at h
          cases h
          rcases words_cons_of_isWordChar hc cs with ⟨rest, more, hwords⟩
          rw [upper, hwords, List.flatMap_cons, capitalize, List.append_assoc]
          exact ⟨_, rfl⟩
      | false =>
          rw [hc] at h
          rw [upper, words_cons_of_not hc]
          exact ih h

theorem upper_append_cons {c : Char} (hc : isWordChar c = false) (first second : List Char) :
    upper (first ++ c :: second) = upper first ++ upper second := by
  rw [upper, words_append_cons hc, List.flatMap_append]
  rfl

/--
A character that is neither alphanumeric nor a low line cuts a text into two, each with a camel
case of its own; and all texts that fall into the same words have the same one.
-/
theorem upperCamelCase_of_words :
    (forall (first second : String) (c : Char), isAlphanumeric c = false -> c ≠ '_' ->
      upperCamelCase (first ++ String.singleton c ++ second) =
        upperCamelCase first ++ upperCamelCase second) ∧
    forall text : String, exists found, FallsInto text.toList found ∧
      forall other : String, FallsInto other.toList found ->
        upperCamelCase other = upperCamelCase text := by
  constructor
  · intro first second c hc hlow
    have hbetween : isWordChar c = false := by
      rw [isWordChar, hc, Bool.false_or, beq_eq_false_iff_ne]
      exact hlow
    rw [upperCamelCase, upperCamelCase, upperCamelCase, ← String.ofList_append,
      ← upper_append_cons hbetween]
    simp
  · intro text
    refine ⟨words text.toList, fallsInto_words text.toList, ?_⟩
    intro other hother
    rw [upperCamelCase, upperCamelCase, upper, upper, hother.words_eq]

/-- Separators of all kinds, at both ends and in the middle. -/
theorem upperCamelCase_of_words_apart :
    isAlphanumeric '/' = false ∧ '/' ≠ '_' ∧
      upperCamelCase (" a-\t" ++ String.singleton '/' ++ "?ßb c_d...") =
        upperCamelCase " a-\t" ++ upperCamelCase "?ßb c_d..." ∧
      exists found, FallsInto "a ßb c_d".toList found ∧
        FallsInto " a-\t/?ßb c_d...".toList found ∧
        upperCamelCase " a-\t/?ßb c_d..." = upperCamelCase "a ßb c_d" := by
  have hslash : isAlphanumeric '/' = false := by decide +kernel
  have hlow : '/' ≠ '_' := by decide
  have hsame : words " a-\t/?ßb c_d...".toList = words "a ßb c_d".toList := by decide +kernel
  refine ⟨hslash, hlow, upperCamelCase_of_words.1 _ _ _ hslash hlow, ?_⟩
  rcases upperCamelCase_of_words.2 "a ßb c_d" with ⟨found, hfound, hothers⟩
  have hother : FallsInto " a-\t/?ßb c_d...".toList found := by
    rw [← hfound.words_eq, ← hsame]
    exact fallsInto_words _
  exact ⟨found, hfound, hother, hothers _ hother⟩

end Text
end TutorialKit
