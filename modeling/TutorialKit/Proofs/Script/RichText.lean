import TutorialKit.Proofs.Script.Names
import TutorialKit.Proofs.Script.SemanticMarkup

/-!
# Rich text

Whether a text may be rich text is told from its beginning.  The search for a first tag ends with
the first line, and a tag ends at the first `>` behind it; all tests on the way look ahead, but none
looks beyond that place.  What follows the first tag of the first line, or a first line without a
tag, makes no difference.
-/

namespace TutorialKit

open Script

namespace Text

theorem isPrefixOf_append {start rest : List Char}
    (hrest : forall c, c ∈ rest.head? -> c ∉ start) (cs : List Char) :
    start.isPrefixOf (cs ++ rest) = start.isPrefixOf cs := by
  rw [Bool.eq_iff_iff, List.isPrefixOf_iff_prefix, List.isPrefixOf_iff_prefix]
  constructor
  · intro hstart
    rcases List.prefix_or_prefix_of_prefix hstart (List.prefix_append cs rest) with h | h
    · exact h
    · rcases h with ⟨more, rfl⟩
      have hmore : more <+: rest := (List.prefix_append_right_inj cs).mp hstart
      cases more with
      | nil => simp
      | cons c more =>
          rcases hmore with ⟨others, rfl⟩
          exact absurd (by simp) (hrest c rfl)
  · intro hstart
    exact hstart.trans (List.prefix_append cs rest)

theorem eq_lessThan_of_head?_toLower {c : Char} (h : (toLower c).head? = some '<') : c = '<' := by
  have hruns : forall run, run ∈ lowerCase.runs -> 0x60 < run.image := by decide +kernel
  have hexpansions : forall entry, entry ∈ lowerCase.expansions ->
      forall image, image ∈ entry.2 -> 0x60 < image := by
    decide +kernel
  have hsign {n : Nat} (hn : 0x60 < n) : Char.ofNat n ≠ '<' := by
    intro heq
    have hnat := toNat_ofNat_of_pos (n := n) (by rw [heq]; decide)
    rw [heq] at hnat
    exact absurd hn (by rw [← hnat]; decide)
  rcases lowerCase.apply_cases c with happly | ⟨images, hentry, happly⟩ |
    ⟨run, hrun, -, -, -, happly⟩
  · rw [toLower, happly] at h
    exact Option.some.inj h
  · rw [toLower, happly, List.head?_map, Option.map_eq_some_iff] at h
    rcases h with ⟨image, himage, heq⟩
    exact absurd heq (hsign (hexpansions _ hentry image (List.mem_of_mem_head? himage)))
  · rw [toLower, happly] at h
    have himage := hruns run hrun
    exact absurd (Option.some.inj h) (hsign (by omega))

end Text

namespace Script
namespace Markup

/-!
# The start of a text

The tests for a declaration and a document type look at the first characters of a text only.
-/

theorem body_of_not_declared {cs : List Char}
    (h : ¬ "<?xml".toList <+: Text.trimStart cs) : body cs = Text.trimStart cs := by
  rw [body, if_neg]
  rwa [List.isPrefixOf_iff_prefix]

def BeginsDoctype (cs : List Char) : Prop :=
  lowerCased (cs.take 5) = "<!doc".toList

theorem not_beginsDoctype {cs : List Char} (h : cs.head? ≠ some '<') : ¬ BeginsDoctype cs := by
  intro hdoctype
  cases cs with
  | nil => cases hdoctype
  | cons c cs =>
      rw [BeginsDoctype, List.take_succ_cons, lowerCased, List.flatMap_cons] at hdoctype
      have hhead := congrArg List.head? hdoctype
      rw [List.head?_append_of_ne_nil _ (Text.toLower_ne_nil c)] at hhead
      exact h (congrArg some (Text.eq_lessThan_of_head?_toLower hhead))

theorem not_beginsDoctype_of_short {cs : List Char} (h : cs.length < 5) (rest : List Char) :
    ¬ BeginsDoctype (cs ++ '>' :: rest) := by
  intro hdoctype
  have hmem : '>' ∈ (cs ++ '>' :: rest).take 5 := by
    rw [List.take_append, List.mem_append]
    right
    rw [show 5 - cs.length = (4 - cs.length) + 1 by omega, List.take_succ_cons]
    exact List.mem_cons_self
  have hsign : '>' ∈ Text.toLower '>' := by decide +kernel
  have hdoc : '>' ∈ "<!doc".toList := by
    rw [← hdoctype]
    exact List.mem_flatMap.mpr ⟨'>', hmem, hsign⟩
  exact absurd hdoc (by decide)

theorem beginsDoctype_closed_iff (cs back other : List Char) :
    BeginsDoctype (cs ++ '>' :: other) ↔ BeginsDoctype (cs ++ '>' :: back) := by
  by_cases hlength : cs.length < 5
  · exact iff_of_false (not_beginsDoctype_of_short hlength other)
      (not_beginsDoctype_of_short hlength back)
  · have hle : 5 <= cs.length := by omega
    rw [BeginsDoctype, BeginsDoctype, List.take_append_of_le_length hle,
      List.take_append_of_le_length hle]

/-!
# The search for a tag

The search for a `<` stops at the end of the line.
-/

theorem opening_append {front : List Char} (hline : '\n' ∉ front) (hopen : '<' ∉ front)
    (rest : List Char) (hrest : forall c, c ∈ rest.head? -> c ∉ "lt;".toList) :
    opening (front ++ rest) = .escapedTag ∧ opening front = .escapedTag ∨
      opening (front ++ rest) = opening rest ∧ opening front = .none := by
  induction front with
  | nil => exact .inr ⟨rfl, rfl⟩
  | cons c front ih =>
      rw [List.mem_cons, not_or] at hline hopen
      rw [List.cons_append, opening, opening, if_neg (Ne.symm hopen.1), if_neg (Ne.symm hopen.1),
        if_neg (Ne.symm hline.1), if_neg (Ne.symm hline.1), Text.isPrefixOf_append hrest]
      split
      · exact .inl ⟨rfl, rfl⟩
      · exact ih hline.2 hopen.2

theorem isRichTag_closed {tag : List Char} (hclose : '>' ∉ tag) (back : List Char) :
    isRichTag (tag ++ '>' :: back) = (tagName? [] tag).any (isNamed richElements) := by
  have htag : (tag ++ '>' :: back).takeWhile (· != '>') = tag := by
    rw [List.takeWhile_append_of_pos, List.takeWhile_cons_of_neg (by simp), List.append_nil]
    intro c hc
    rw [bne_iff_ne]
    rintro rfl
    exact hclose hc
  rw [isRichTag, if_pos (by simp), htag]
  cases tagName? [] tag with
  | none => rfl
  | some name => rfl

/-!
# Where the answer is settled

What has been found is the same in every text that goes on differently.
-/

theorem isRich_iff (cs : List Char) :
    isRich cs = true ↔ BeginsDoctype (body cs) ∨ opening (body cs) = .escapedTag ∨
      exists rest, opening (body cs) = .tag rest ∧ isRichTag rest = true := by
  rw [isRich]
  by_cases hdoctype : BeginsDoctype (body cs)
  · rw [if_pos (beq_of_eq hdoctype)]
    simp [hdoctype]
  · rw [if_neg (fun h => hdoctype (eq_of_beq h))]
    cases opening (body cs) <;> simp [hdoctype]

/-- Nothing that follows the first tag makes a difference. -/
theorem isRich_closed {front tag back : List Char} (hopen : '<' ∉ front)
    (hline : '\n' ∉ Text.trimStart front) (hclose : '>' ∉ tag)
    (hplain : ¬ "<?xml".toList <+: Text.trimStart (front ++ '<' :: (tag ++ '>' :: back)))
    (other : List Char) :
    isRich (front ++ '<' :: (tag ++ '>' :: other)) =
      isRich (front ++ '<' :: (tag ++ '>' :: back)) := by
  have htrim (rest : List Char) : Text.trimStart (front ++ '<' :: (tag ++ '>' :: rest)) =
      (Text.trimStart front ++ '<' :: tag) ++ '>' :: rest := by
    rw [Text.trimStart_append_cons (by decide), List.append_assoc, List.cons_append]
  have hstart (rest : List Char) :
      "<?xml".toList.isPrefixOf ((Text.trimStart front ++ '<' :: tag) ++ '>' :: rest) =
        "<?xml".toList.isPrefixOf (Text.trimStart front ++ '<' :: tag) := by
    apply Text.isPrefixOf_append
    rintro c ⟨⟩
    decide
  have hbody (rest : List Char) : body (front ++ '<' :: (tag ++ '>' :: rest)) =
      (Text.trimStart front ++ '<' :: tag) ++ '>' :: rest := by
    rw [body_of_not_declared, htrim]
    rwa [htrim, ← List.isPrefixOf_iff_prefix, hstart, ← hstart back, ← htrim,
      List.isPrefixOf_iff_prefix]
  -- Up to the first `<` the search goes the same way whatever stands behind it.
  have hfront : '<' ∉ Text.trimStart front :=
    fun h => hopen ((List.dropWhile_sublist _).subset h)
  have hopening (rest : List Char) :=
    opening_append hline hfront ('<' :: (tag ++ '>' :: rest)) (by rintro c ⟨⟩; decide)
  have htag (rest : List Char) : opening ('<' :: rest) = .tag rest := by simp [opening]
  rw [Bool.eq_iff_iff, isRich_iff, isRich_iff, hbody, hbody]
  apply or_congr (beginsDoctype_closed_iff _ back other)
  rw [List.append_assoc, List.append_assoc, List.cons_append, List.cons_append]
  rcases hopening other with ⟨hother, hescaped⟩ | ⟨hother, hnone⟩
  · rcases hopening back with ⟨hback, -⟩ | ⟨-, hnone⟩
    · rw [hother, hback]
    · cases hescaped.symm.trans hnone
  · rcases hopening back with ⟨-, hescaped⟩ | ⟨hback, -⟩
    · cases hescaped.symm.trans hnone
    · rw [hother, hback, htag, htag]
      simp [isRichTag_closed hclose]

/-- A first line without a tag settles the answer. -/
theorem isRich_line_iff {front : List Char} (hsome : Text.trimStart front ≠ [])
    (hline : '\n' ∉ Text.trimStart front) (hopen : '<' ∉ Text.trimStart front)
    (rest : List Char) (hrest : forall c, c ∈ rest.head? -> c = '\n') :
    isRich (front ++ rest) = true ↔ opening (Text.trimStart front) = .escapedTag := by
  have htrim : Text.trimStart (front ++ rest) = Text.trimStart front ++ rest := by
    rw [Text.trimStart, List.dropWhile_append, if_neg]
    · rfl
    · rwa [List.isEmpty_iff]
  have hhead : (Text.trimStart front ++ rest).head? ≠ some '<' := by
    rw [List.head?_append_of_ne_nil _ hsome]
    exact fun h => hopen (List.mem_of_mem_head? h)
  have hplain : ¬ "<?xml".toList <+: Text.trimStart (front ++ rest) := by
    rintro ⟨more, hmore⟩
    rw [← htrim, ← hmore] at hhead
    exact hhead rfl
  have hnone : opening rest = .none := by
    cases rest with
    | nil => rfl
    | cons c rest =>
        rw [hrest c rfl]
        rfl
  have hopening := opening_append hline hopen rest (by
    intro c hc
    rw [hrest c hc]
    decide)
  rw [isRich_iff, body_of_not_declared hplain, htrim, or_iff_right (not_beginsDoctype hhead)]
  rcases hopening with ⟨hescaped, hfront⟩ | ⟨hopening, hfront⟩
  · simp [hescaped, hfront]
  · simp [hopening, hnone, hfront]

end Markup

/-!
# Texts with the same beginning

A text is taken apart at the end of its first tag or of its first line.
-/

/-- A text begins with a declaration, which may be followed by a tag of its own. -/
def Declared (text : String) : Prop :=
  "<?xml".toList <+: Text.trimStart text.toList

instance (text : String) : Decidable (Declared text) :=
  inferInstanceAs (Decidable (_ <+: _))

/-- The first line of a text, without the white space before it. -/
def firstLine (text : String) : List Char :=
  (Text.trimStart text.toList).takeWhile (· != '\n')

theorem break_not_mem_takeWhile (cs : List Char) : '\n' ∉ cs.takeWhile (· != '\n') := by
  intro h
  simpa using List.all_eq_true.mp List.all_takeWhile _ h

theorem exists_first_tag {text : String} (hopen : '<' ∈ firstLine text)
    (hclose : '>' ∈ text.toList.dropWhile (· != '<')) :
    exists front tag back : String, text = front ++ "<" ++ tag ++ ">" ++ back ∧
      '<' ∉ front.toList ∧ '\n' ∉ Text.trimStart front.toList ∧ '>' ∉ tag.toList := by
  have hmem : '<' ∈ text.toList :=
    (List.dropWhile_sublist _).subset ((List.takeWhile_sublist _).subset hopen)
  rcases List.eq_append_cons_of_mem hmem with ⟨front, after, htext, hfront⟩
  have hafter : '>' ∈ after := by
    rw [htext, List.dropWhile_append_of_pos, List.dropWhile_cons_of_neg (by simp),
      List.mem_cons] at hclose
    · rcases hclose with h | h
      · exact absurd h (by decide)
      · exact h
    · intro c hc
      rw [bne_iff_ne]
      rintro rfl
      exact hfront hc
  have hline : '\n' ∉ Text.trimStart front := by
    intro hbreak
    rw [firstLine, htext, Text.trimStart_append_cons (by decide), List.takeWhile_append] at hopen
    split at hopen
    · rename_i hall
      rw [← (List.takeWhile_prefix _).eq_of_length hall] at hbreak
      exact break_not_mem_takeWhile _ hbreak
    · exact hfront ((List.dropWhile_sublist _).subset ((List.takeWhile_sublist _).subset hopen))
  rcases List.eq_append_cons_of_mem hafter with ⟨tag, back, rfl, htag⟩
  refine ⟨String.ofList front, String.ofList tag, String.ofList back, ?_, ?_, ?_, ?_⟩
  · rw [← String.toList_inj, htext]
    simp
  · rwa [String.toList_ofList]
  · rwa [String.toList_ofList]
  · rwa [String.toList_ofList]

theorem trimStart_firstLine (text : String) :
    Text.trimStart (firstLine text) = firstLine text := by
  rw [firstLine]
  cases htext : Text.trimStart text.toList with
  | nil => rfl
  | cons c rest =>
      have hblank := List.head?_dropWhile_not Text.isBlank text.toList
      rw [← Text.trimStart, htext] at hblank
      rw [List.takeWhile_cons]
      split
      · rw [Text.trimStart, List.dropWhile_cons_of_neg (by simpa using hblank)]
      · rfl

theorem exists_first_line (text : String) :
    exists front : String, Text.trimStart front.toList = firstLine text ∧
      (text = front ∨ exists rest, text = front ++ "\n" ++ rest) := by
  have htext := List.takeWhile_append_dropWhile (p := Text.isBlank) (l := text.toList)
  have hline := List.takeWhile_append_dropWhile (p := (· != '\n')) (l := Text.trimStart text.toList)
  refine ⟨String.ofList (text.toList.takeWhile Text.isBlank ++ firstLine text), ?_, ?_⟩
  · rw [String.toList_ofList, Text.trimStart, List.dropWhile_append_of_pos]
    · exact trimStart_firstLine text
    · intro c hc
      exact List.all_eq_true.mp List.all_takeWhile _ hc
  · cases hrest : (Text.trimStart text.toList).dropWhile (· != '\n') with
    | nil =>
        left
        rw [hrest, List.append_nil] at hline
        rw [firstLine, hline, Text.trimStart, htext, String.ofList_toList]
    | cons c rest =>
        right
        have hbreak := List.head?_dropWhile_not (· != '\n') (Text.trimStart text.toList)
        rw [hrest] at hbreak
        have hc : c = '\n' := by simpa using hbreak
        rw [hrest, hc] at hline
        have hchars : text.toList =
            text.toList.takeWhile Text.isBlank ++ (firstLine text ++ '\n' :: rest) := by
          rw [firstLine, hline, Text.trimStart, htext]
        refine ⟨String.ofList rest, ?_⟩
        rw [← String.toList_inj]
        simpa using hchars

/-- Whatever is put in the place of what follows the first tag, the answer stays the same. -/
def SettledByTag (text : String) : Prop :=
  exists front tag back : String, text = front ++ "<" ++ tag ++ ">" ++ back ∧
    '<' ∉ front.toList ∧ '>' ∉ tag.toList ∧
    forall other, mightBeRichText (front ++ "<" ++ tag ++ ">" ++ other) = mightBeRichText text

/-- Whatever is put in the place of what follows the first line, the answer stays the same. -/
def SettledByLine (text : String) : Prop :=
  exists front : String, Text.trimStart front.toList = firstLine text ∧
    (text = front ∨ exists rest, text = front ++ "\n" ++ rest) ∧
    mightBeRichText front = mightBeRichText text ∧
    forall other, mightBeRichText (front ++ "\n" ++ other) = mightBeRichText text

/--
Whether a text without a declaration may be rich text is settled by the first tag of its first
line, if one begins there and ends anywhere, and by that line, if it is not empty and no tag begins
in it.
-/
theorem rich_text_settled {text : String} (hplain : ¬ Declared text) :
    ('<' ∈ firstLine text -> '>' ∈ text.toList.dropWhile (· != '<') -> SettledByTag text) ∧
      (firstLine text ≠ [] -> '<' ∉ firstLine text -> SettledByLine text) := by
  constructor
  · intro hopen hclose
    rcases exists_first_tag hopen hclose with ⟨front, tag, back, rfl, hfront, hline, htag⟩
    refine ⟨front, tag, back, rfl, hfront, htag, ?_⟩
    intro other
    have hchars (rest : String) : (front ++ "<" ++ tag ++ ">" ++ rest).toList =
        front.toList ++ '<' :: (tag.toList ++ '>' :: rest.toList) := by
      simp
    rw [Declared, hchars] at hplain
    rw [mightBeRichText, mightBeRichText, hchars, hchars]
    exact Markup.isRich_closed hfront hline htag hplain other.toList
  · intro hsome hopen
    rcases exists_first_line text with ⟨front, hfront, htext⟩
    have hline : '\n' ∉ Text.trimStart front.toList := by
      rw [hfront]
      exact break_not_mem_takeWhile _
    rw [← hfront] at hsome hopen
    have hsettled := Markup.isRich_line_iff hsome hline hopen
    have halone : mightBeRichText front = true ↔
        Markup.opening (Text.trimStart front.toList) = .escapedTag := by
      rw [mightBeRichText, ← hsettled [] nofun, List.append_nil]
    have hbroken (rest : String) : mightBeRichText (front ++ "\n" ++ rest) = true ↔
        Markup.opening (Text.trimStart front.toList) = .escapedTag := by
      rw [mightBeRichText, ← hsettled ('\n' :: rest.toList) (by rintro c ⟨⟩; rfl)]
      simp
    have hanswer : mightBeRichText front = mightBeRichText text := by
      rcases htext with rfl | ⟨rest, rfl⟩
      · rfl
      · rw [Bool.eq_iff_iff, halone, hbroken]
    refine ⟨front, hfront, htext, hanswer, ?_⟩
    intro other
    rw [← hanswer, Bool.eq_iff_iff, hbroken, halone]

theorem rich_text_settled_across_lines :
    let tagged := " \n1 > 0 &lt <B\nid=\"x\">this</B> <i>"
    let plain := "Tom & Jerry &lt\n<b>bold</b>"
    ¬ Declared tagged ∧ '<' ∈ firstLine tagged ∧ '>' ∈ tagged.toList.dropWhile (· != '<') ∧
      SettledByTag tagged ∧
      ¬ Declared plain ∧ firstLine plain ≠ [] ∧ '<' ∉ firstLine plain ∧ SettledByLine plain := by
  intro tagged plain
  have htagged : ¬ Declared tagged := by decide +kernel
  have hopen : '<' ∈ firstLine tagged := by decide +kernel
  have hclose : '>' ∈ tagged.toList.dropWhile (· != '<') := by decide +kernel
  have hplain : ¬ Declared plain := by decide +kernel
  have hsome : firstLine plain ≠ [] := by decide +kernel
  have hno : '<' ∉ firstLine plain := by decide +kernel
  exact ⟨htagged, hopen, hclose, (rich_text_settled htagged).1 hopen hclose,
    hplain, hsome, hno, (rich_text_settled hplain).2 hsome hno⟩

end Script
end TutorialKit
