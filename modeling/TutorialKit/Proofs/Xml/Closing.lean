import TutorialKit.Proofs.Xml.Scanning
import TutorialKit.Proofs.Xml.Tags

/-!
# Where a tag ends

A tag ends with the first `>` outside of quotes.  A tag that ends is one token, and it ends where it
should if there are no quotes but those around its values.
-/

namespace TutorialKit
namespace Xml

/-!
# Quotes

Quotes are looked at from the left, each being closed by the next one of its kind.
-/

/-- The state of the quotes after some characters of a tag, unless the tag ends before. -/
def quoteBehind (quote : Option Char) : List Char -> Option (Option Char)
  | [] => some quote
  | c :: rest => if c = '>' && quote.isNone then none else quoteBehind (quoteAfter quote c) rest

theorem quoteBehind_append (quote : Option Char) (cs ds : List Char) :
    quoteBehind quote (cs ++ ds) =
      (quoteBehind quote cs).bind fun quote => quoteBehind quote ds := by
  induction cs generalizing quote with
  | nil => rfl
  | cons c rest ih =>
      rw [List.cons_append, quoteBehind, quoteBehind, ih]
      split <;> rfl

/-- The first `>` outside of quotes is the one that follows. -/
def Closed (content : List Char) : Prop :=
  quoteBehind none content = some none

instance (content : List Char) : Decidable (Closed content) :=
  inferInstanceAs (Decidable (_ = _))

theorem Closed.append {content other : List Char} (h : Closed content) (hother : Closed other) :
    Closed (content ++ other) := by
  rw [Closed, quoteBehind_append, h]
  exact hother

/-!
# Quotes around values

A value is quoted and holds no quote of its kind, so it leaves the state of the quotes as it was.
-/

def Unquoted (c : Char) : Prop :=
  c ≠ '>' ∧ c ≠ '"' ∧ c ≠ '\''

theorem quoteBehind_unquoted {cs : List Char} (h : forall c, c ∈ cs -> Unquoted c) :
    quoteBehind none cs = some none := by
  induction cs with
  | nil => rfl
  | cons c rest ih =>
      rw [List.forall_mem_cons] at h
      simp only [quoteBehind, quoteAfter, h.1.1, h.1.2.1, h.1.2.2, decide_false, Bool.false_and,
        Bool.or_self, Bool.false_eq_true, if_false]
      exact ih h.2

theorem quoteBehind_value {quote : Char} {value : List Char} (h : quote ∉ value) :
    quoteBehind (some quote) (value ++ [quote]) = some none := by
  induction value with
  | nil => simp [quoteBehind, quoteAfter]
  | cons c rest ih =>
      rw [List.mem_cons, not_or] at h
      rw [List.cons_append, quoteBehind]
      simp only [quoteAfter, Ne.symm h.1, Option.isNone_some, Bool.and_false, Bool.false_eq_true,
        if_false]
      exact ih h.2

theorem unquoted_of_isSpace {c : Char} (h : isSpace c = true) : Unquoted c := by
  have hne : forall d : Char, isSpace d = false -> c ≠ d := by
    rintro d hd rfl
    rw [h] at hd
    cases hd
  exact ⟨hne '>' rfl, hne '"' rfl, hne '\'' rfl⟩

theorem quoteBehind_cons_unquoted {c : Char} (h : Unquoted c) (cs : List Char) :
    quoteBehind none (c :: cs) = quoteBehind none cs := by
  have hfirst : quoteBehind none [c] = some none := quoteBehind_unquoted (by simpa using h)
  rw [← List.singleton_append, quoteBehind_append, hfirst, Option.bind_some]

theorem quoteBehind_quotedValue {value text : List Char} (h : QuotedValue value text) :
    quoteBehind none text = some none := by
  induction h with
  | quoted hquote hvalue =>
      rw [← quoteBehind_value hvalue]
      rcases hquote with rfl | rfl
      · rfl
      · rfl
  | space hspace _ ih => rw [quoteBehind_cons_unquoted (unquoted_of_isSpace hspace), ih]

theorem quoteBehind_assignment {value text : List Char} (h : Assignment value text) :
    quoteBehind none text = some none := by
  induction h with
  | equals hvalue =>
      rw [quoteBehind_cons_unquoted (by simp [Unquoted]), quoteBehind_quotedValue hvalue]
  | space hspace _ ih => rw [quoteBehind_cons_unquoted (unquoted_of_isSpace hspace), ih]

/-- Where no key holds a quote, the quotes are those around the values. -/
theorem quoteBehind_attributeList {raws : List RawAttribute} {cs : List Char}
    (h : AttributeList raws cs)
    (hkeys : forall raw, raw ∈ raws -> forall c, c ∈ raw.key -> Unquoted c) :
    quoteBehind none cs = some none := by
  induction h with
  | nil => rfl
  | space hspace _ ih => rw [quoteBehind_cons_unquoted (unquoted_of_isSpace hspace), ih hkeys]
  | cons htext _ ih =>
      rw [List.forall_mem_cons] at hkeys
      rw [quoteBehind_append]
      cases htext with
      | intro hfirst hmore hassignment =>
          rw [← List.cons_append, quoteBehind_append, quoteBehind_unquoted hkeys.1,
            Option.bind_some, quoteBehind_assignment hassignment, Option.bind_some, ih hkeys.2]

theorem closed_of_unquoted {content : List Char} {raws : List RawAttribute}
    (hname : forall c, c ∈ tagName content -> Unquoted c)
    (hraws : AttributeList raws (content.dropWhile fun c => !isSpace c))
    (hkeys : forall raw, raw ∈ raws -> forall c, c ∈ raw.key -> Unquoted c) : Closed content := by
  have hsplit : tagName content ++ content.dropWhile (fun c => !isSpace c) = content :=
    List.takeWhile_append_dropWhile
  rw [Closed, ← hsplit, quoteBehind_append, quoteBehind_unquoted hname, Option.bind_some,
    quoteBehind_attributeList hraws hkeys]

/-!
# Tags as tokens

The scanner collects a tag up to where it is closed, and makes one token of it.
-/

/-- Does not begin like an end tag, nor like something that is no tag. -/
def OpensTag (content : List Char) : Prop :=
  forall c, content.head? = some c -> c ∉ ['>', '!', '?', '/']

instance (content : List Char) : Decidable (OpensTag content) :=
  match content with
  | [] => isTrue (by simp [OpensTag])
  | c :: _ => decidable_of_iff (c ∉ ['>', '!', '?', '/']) (by simp [OpensTag])

theorem tagMarkup_of_opensTag {content : List Char} (h : OpensTag content) (start : Nat)
    (opened : List (List Char)) :
    tagMarkup start opened content =
      if content.getLast? = some '/' then .ok (.empty content.dropLast, opened)
      else .ok (.start content, tagName content :: opened) := by
  unfold tagMarkup
  split
  · exact absurd (h '/' rfl) (by simp)
  · rfl

namespace Cursor

theorem scan_inTag {quote quote' : Option Char} {cs : List Char}
    (h : quoteBehind quote cs = some quote') (start : Nat) (held : List Char)
    (opened : List (List Char)) :
    exists start', (Cursor.mk (.tag start quote held) opened).scan cs =
      some ([], ⟨.tag start' quote' (cs.reverse ++ held), opened⟩) := by
  induction cs generalizing quote start held with
  | nil =>
      cases h
      exact ⟨start, rfl⟩
  | cons c rest ih =>
      rw [quoteBehind] at h
      split at h
      · cases h
      · rename_i hends
        rcases ih h 0 (c :: held) with ⟨start', hrest⟩
        refine ⟨start', ?_⟩
        rw [scan, advance]
        simp only [hends, Bool.false_eq_true, if_false, Option.bind_some, hrest, Option.map_some]
        simp

theorem scan_tag {content : List Char} (hopens : OpensTag content) (hclosed : Closed content)
    (held : List Char) (opened : List (List Char)) :
    (Cursor.mk (.text held) opened).scan ('<' :: (content ++ ['>'])) =
      (behind (tagMarkup 0 opened content)).map fun step =>
        (textTokens held ++ step.1, step.2) := by
  have hend (cursor : Cursor) (step : Option (List Token × Cursor))
      (h : cursor.advance '>' = step) : cursor.scan ['>'] = step := by
    rw [scan, h]
    cases step with
    | none => rfl
    | some step => simp [scan]
  have hopened : (Cursor.mk (.text held) opened).advance '<' =
      some (textTokens held, ⟨.opened 0, opened⟩) := rfl
  have hcontent : (Cursor.mk (.opened 0) opened).scan (content ++ ['>']) =
      behind (tagMarkup 0 opened content) := by
    cases content with
    | nil => exact hend _ _ rfl
    | cons c rest =>
        have hc := hopens c rfl
        simp only [List.mem_cons, List.not_mem_nil, or_false, not_or] at hc
        have hrest : quoteBehind (quoteAfter none c) rest = some none := by
          simpa [Closed, quoteBehind, hc.1] using hclosed
        rcases scan_inTag hrest 0 [c] opened with ⟨start, hscan⟩
        have hlast : (Cursor.mk (.tag start none (rest.reverse ++ [c])) opened).scan ['>'] =
            behind (tagMarkup 0 opened (c :: rest)) := by
          apply hend
          simp [advance]
        have hfirst : (Cursor.mk (.opened 0) opened).advance c =
            some ([], ⟨.tag 0 (quoteAfter none c) [c], opened⟩) := by
          simp [advance, hc]
        rw [List.cons_append, scan, hfirst, Option.bind_some, scan_append, hscan, Option.bind_some,
          hlast]
        simp
  rw [scan, hopened, Option.bind_some, hcontent]

end Cursor
end Xml
end TutorialKit
