import TutorialKit.Proofs.Xml.References
import TutorialKit.Xml.Event

/-!
# What tags may hold

After its name a tag holds attributes and white space.  The attributes of a tag are found exactly if
it is written in that form, no key is given twice and all values are sound; and a token means an
event exactly if it is sound in this sense.
-/

namespace TutorialKit
namespace Xml

/-!
# Scanning a value

A value is all that stands before the next quote of its kind.
-/

theorem scan_closing (size position : Nat) (seen : List (List Char × Nat)) (key : List Char)
    {quote : Char} (held : List Char) {value : List Char} (hquote : quote ∉ value)
    (rest : List Char) :
    exists position', scanAttributes size (.value key quote held) seen position
        (value ++ quote :: rest) =
      (scanAttributes size .between seen position' rest).cons ⟨key, held.reverse ++ value⟩ := by
  induction value generalizing held position with
  | nil =>
      refine ⟨position + quote.utf8Size, ?_⟩
      simp [scanAttributes]
  | cons c cs ih =>
      rw [List.mem_cons, not_or] at hquote
      rcases ih (position + c.utf8Size) (c :: held) hquote.2 with ⟨position', hnext⟩
      refine ⟨position', ?_⟩
      simp only [List.cons_append, scanAttributes, Ne.symm hquote.1, if_false]
      rw [hnext, List.reverse_cons, List.append_assoc]
      rfl

/-!
# The form of attributes

The form is given by relations between what is read and what follows it, as the scanner takes one
part after the other.
-/

/-- A value in quotes, which may be double or single ones, and white space before it. -/
inductive QuotedValue (value : List Char) : List Char -> Prop where
  | quoted {quote : Char} : quote = '"' ∨ quote = '\'' -> quote ∉ value ->
      QuotedValue value (quote :: (value ++ [quote]))
  | space {c : Char} {cs : List Char} : isSpace c = true -> QuotedValue value cs ->
      QuotedValue value (c :: cs)

inductive Assignment (value : List Char) : List Char -> Prop where
  | equals {cs : List Char} : QuotedValue value cs -> Assignment value ('=' :: cs)
  | space {c : Char} {cs : List Char} : isSpace c = true -> Assignment value cs ->
      Assignment value (c :: cs)

def ContinuesKey (c : Char) : Prop :=
  c ≠ '=' ∧ isSpace c = false

/-- A key takes its first character whatever it is, and then all up to an equals sign. -/
inductive AttributeText : RawAttribute -> List Char -> Prop where
  | intro {first : Char} {more value cs : List Char} : isSpace first = false ->
      (forall c, c ∈ more -> ContinuesKey c) -> Assignment value cs ->
      AttributeText ⟨first :: more, value⟩ (first :: (more ++ cs))

/-- White space between attributes may be left out. -/
inductive AttributeList : List RawAttribute -> List Char -> Prop where
  | nil : AttributeList [] []
  | space {c : Char} {cs : List Char} {raws : List RawAttribute} : isSpace c = true ->
      AttributeList raws cs -> AttributeList raws (c :: cs)
  | cons {raw : RawAttribute} {cs rest : List Char} {raws : List RawAttribute} :
      AttributeText raw cs -> AttributeList raws rest -> AttributeList (raw :: raws) (cs ++ rest)

/-!
# Scanning what has the form

Each part of the form is scanned as what it is, whatever follows.
-/

section

variable {value text : List Char} (size : Nat)

theorem QuotedValue.scan (h : QuotedValue value text) (position : Nat)
    (seen : List (List Char × Nat)) (key rest : List Char) :
    exists position', scanAttributes size (.beforeValue key) seen position (text ++ rest) =
      (scanAttributes size .between seen position' rest).cons ⟨key, value⟩ := by
  induction h generalizing position with
  | quoted hquote hvalue =>
      rename_i quote
      have hspace : isSpace quote = false := by
        rcases hquote with rfl | rfl
        · rfl
        · rfl
      have hopens : (decide (quote = '"') || decide (quote = '\'')) = true := by
        simpa using hquote
      rcases scan_closing size (position + quote.utf8Size) seen key [] hvalue rest with
        ⟨position', hclosing⟩
      refine ⟨position', ?_⟩
      rw [List.cons_append, List.append_assoc, List.singleton_append, scanAttributes]
      simp only [hspace, hopens, Bool.false_eq_true, if_false, if_true]
      exact hclosing
  | space hspace _ ih =>
      rename_i c cs _
      rcases ih (position + c.utf8Size) with ⟨position', hnext⟩
      refine ⟨position', ?_⟩
      rw [List.cons_append, scanAttributes]
      simp only [hspace, if_true]
      exact hnext

theorem closeKey_of_lookup {seen : List (List Char × Nat)} {key : List Char}
    (hseen : seen.lookup key = none) (start : Nat) :
    closeKey seen start key = .ok (.beforeValue key) := by
  rw [closeKey, hseen]

theorem isSpace_equals : isSpace '=' = false := rfl

theorem ne_equals_of_isSpace {c : Char} (h : isSpace c = true) : c ≠ '=' := by
  intro heq
  rw [heq, isSpace_equals] at h
  cases h

theorem Assignment.scan (h : Assignment value text) (position start : Nat)
    {seen : List (List Char × Nat)} {key : List Char} (hseen : seen.lookup key = none)
    (rest : List Char) :
    exists position', scanAttributes size (.afterKey start key) seen position (text ++ rest) =
      (scanAttributes size .between ((key, start) :: seen) position' rest).cons ⟨key, value⟩ := by
  induction h generalizing position with
  | equals hvalue =>
      rcases hvalue.scan size (position + '='.utf8Size) ((key, start) :: seen) key rest
        with ⟨position', hnext⟩
      refine ⟨position', ?_⟩
      rw [List.cons_append, scanAttributes]
      simp only [if_true, closeKey_of_lookup hseen]
      exact hnext
  | space hspace _ ih =>
      rename_i c cs _
      rcases ih (position + c.utf8Size) with ⟨position', hnext⟩
      refine ⟨position', ?_⟩
      rw [List.cons_append, scanAttributes]
      simp only [hspace, ne_equals_of_isSpace hspace, if_false, if_true]
      exact hnext

theorem Assignment.scan_key (h : Assignment value text) (position start : Nat)
    {seen : List (List Char × Nat)} (held : List Char) {more : List Char}
    (hmore : forall c, c ∈ more -> ContinuesKey c)
    (hseen : seen.lookup (held.reverse ++ more) = none) (rest : List Char) :
    exists position', scanAttributes size (.key start held) seen position
        (more ++ (text ++ rest)) =
      (scanAttributes size .between ((held.reverse ++ more, start) :: seen) position' rest).cons
        ⟨held.reverse ++ more, value⟩ := by
  induction more generalizing held position with
  | nil =>
      rw [List.append_nil] at hseen ⊢
      rw [List.nil_append]
      cases h with
      | equals hvalue =>
          rcases hvalue.scan size (position + '='.utf8Size)
            ((held.reverse, start) :: seen) held.reverse rest with ⟨position', hnext⟩
          refine ⟨position', ?_⟩
          rw [List.cons_append, scanAttributes]
          simp only [if_true, closeKey_of_lookup hseen]
          exact hnext
      | space hspace hassignment =>
          rename_i c cs
          rcases hassignment.scan size (position + c.utf8Size) start hseen rest with
            ⟨position', hnext⟩
          refine ⟨position', ?_⟩
          rw [List.cons_append, scanAttributes]
          simp only [hspace, ne_equals_of_isSpace hspace, if_false, if_true]
          exact hnext
  | cons c more ih =>
      rw [List.forall_mem_cons] at hmore
      have hkey : held.reverse ++ c :: more = (c :: held).reverse ++ more := by simp
      rw [hkey] at hseen ⊢
      rcases ih (position + c.utf8Size) (c :: held) hmore.2 hseen with ⟨position', hnext⟩
      refine ⟨position', ?_⟩
      rw [List.cons_append, scanAttributes]
      simp only [hmore.1.1, hmore.1.2, Bool.false_eq_true, if_false]
      exact hnext

theorem AttributeText.scan {raw : RawAttribute} (h : AttributeText raw text)
    (position : Nat) {seen : List (List Char × Nat)} (hseen : seen.lookup raw.key = none)
    (rest : List Char) :
    exists start position', scanAttributes size .between seen position (text ++ rest) =
      (scanAttributes size .between ((raw.key, start) :: seen) position' rest).cons raw := by
  cases h with
  | intro hfirst hmore hassignment =>
      rename_i first more value cs
      rcases hassignment.scan_key size (position + first.utf8Size) position [first] hmore
        hseen rest with ⟨position', hnext⟩
      refine ⟨position, position', ?_⟩
      rw [List.cons_append, List.append_assoc, scanAttributes]
      simp only [hfirst, Bool.false_eq_true, if_false]
      exact hnext

/-!
# The form of what has been scanned

What the scanner takes has the form, which is found by going back over its steps.
-/

variable {size}

theorem exists_closing {position : Nat} {seen : List (List Char × Nat)} {key : List Char}
    {quote : Char} {held cs : List Char}
    (h : (scanAttributes size (.value key quote held) seen position cs).fault = none) :
    exists value rest, cs = value ++ quote :: rest ∧ quote ∉ value := by
  induction cs generalizing held position with
  | nil => cases h
  | cons c cs ih =>
      by_cases hquote : c = quote
      · exact ⟨[], cs, by rw [hquote]; rfl, List.not_mem_nil⟩
      · simp only [scanAttributes, hquote, if_false] at h
        rcases ih h with ⟨value, rest, rfl, hvalue⟩
        refine ⟨c :: value, rest, rfl, ?_⟩
        rw [List.mem_cons, not_or]
        exact ⟨Ne.symm hquote, hvalue⟩

theorem exists_quotedValue {position : Nat} {seen : List (List Char × Nat)} {key cs : List Char}
    (h : (scanAttributes size (.beforeValue key) seen position cs).fault = none) :
    exists value text rest, cs = text ++ rest ∧ QuotedValue value text := by
  induction cs generalizing position with
  | nil => cases h
  | cons c cs ih =>
      rw [scanAttributes] at h
      cases hspace : isSpace c with
      | true =>
          simp only [hspace, if_true] at h
          rcases ih h with ⟨value, text, rest, rfl, hvalue⟩
          exact ⟨value, c :: text, rest, rfl, .space hspace hvalue⟩
      | false =>
          simp only [hspace, Bool.false_eq_true, if_false] at h
          split at h
          · rename_i hquote
            rcases exists_closing h with ⟨value, rest, rfl, hvalue⟩
            exact ⟨value, c :: (value ++ [c]), rest, by simp,
              .quoted (by simpa using hquote) hvalue⟩
          · cases h

theorem lookup_of_closeKey {seen : List (List Char × Nat)} {start position : Nat}
    {key cs : List Char}
    (h : (match closeKey seen start key with
      | .error fault => RawAttributes.failed fault
      | .ok mode => scanAttributes size mode ((key, start) :: seen) position cs).fault = none) :
    seen.lookup key = none ∧
      (scanAttributes size (.beforeValue key) ((key, start) :: seen) position cs).fault = none := by
  unfold closeKey at h
  cases hseen : seen.lookup key with
  | some first =>
      rw [hseen] at h
      cases h
  | none =>
      rw [hseen] at h
      exact ⟨rfl, h⟩

theorem exists_assignment {position start : Nat} {seen : List (List Char × Nat)}
    {key cs : List Char}
    (h : (scanAttributes size (.afterKey start key) seen position cs).fault = none) :
    seen.lookup key = none ∧
      exists value text rest, cs = text ++ rest ∧ Assignment value text := by
  induction cs generalizing position with
  | nil => cases h
  | cons c cs ih =>
      rw [scanAttributes] at h
      by_cases hequals : c = '='
      · simp only [hequals, if_true] at h
        rcases lookup_of_closeKey h with ⟨hseen, hnext⟩
        rcases exists_quotedValue hnext with ⟨value, text, rest, rfl, hvalue⟩
        exact ⟨hseen, value, c :: text, rest, rfl, hequals ▸ .equals hvalue⟩
      · simp only [hequals, if_false] at h
        cases hspace : isSpace c with
        | true =>
            simp only [hspace, if_true] at h
            rcases ih h with ⟨hseen, value, text, rest, rfl, hassignment⟩
            exact ⟨hseen, value, c :: text, rest, rfl, .space hspace hassignment⟩
        | false =>
            simp only [hspace, Bool.false_eq_true, if_false] at h
            cases h

theorem exists_keyText {position start : Nat} {seen : List (List Char × Nat)}
    {held cs : List Char}
    (h : (scanAttributes size (.key start held) seen position cs).fault = none) :
    exists more value text rest, cs = more ++ (text ++ rest) ∧
      (forall c, c ∈ more -> ContinuesKey c) ∧ Assignment value text ∧
      seen.lookup (held.reverse ++ more) = none := by
  induction cs generalizing held position with
  | nil => cases h
  | cons c cs ih =>
      rw [scanAttributes] at h
      by_cases hequals : c = '='
      · simp only [hequals, if_true] at h
        rcases lookup_of_closeKey h with ⟨hseen, hnext⟩
        rcases exists_quotedValue hnext with ⟨value, text, rest, rfl, hvalue⟩
        refine ⟨[], value, c :: text, rest, rfl, by simp, hequals ▸ .equals hvalue, ?_⟩
        rw [List.append_nil]
        exact hseen
      · simp only [hequals, if_false] at h
        cases hspace : isSpace c with
        | true =>
            simp only [hspace, if_true] at h
            rcases exists_assignment h with ⟨hseen, value, text, rest, rfl, hassignment⟩
            refine ⟨[], value, c :: text, rest, rfl, by simp, .space hspace hassignment, ?_⟩
            rw [List.append_nil]
            exact hseen
        | false =>
            simp only [hspace, Bool.false_eq_true, if_false] at h
            rcases ih h with ⟨more, value, text, rest, rfl, hmore, hassignment, hseen⟩
            refine ⟨c :: more, value, text, rest, rfl, ?_, hassignment, by simpa using hseen⟩
            rw [List.forall_mem_cons]
            exact ⟨⟨hequals, hspace⟩, hmore⟩

theorem exists_attributeText {position : Nat} {seen : List (List Char × Nat)} {c : Char}
    {cs : List Char} (hspace : isSpace c = false)
    (h : (scanAttributes size .between seen position (c :: cs)).fault = none) :
    exists raw text rest, c :: cs = text ++ rest ∧ AttributeText raw text ∧
      seen.lookup raw.key = none := by
  rw [scanAttributes] at h
  simp only [hspace, Bool.false_eq_true, if_false] at h
  rcases exists_keyText h with ⟨more, value, text, rest, rfl, hmore, hassignment, hseen⟩
  refine ⟨⟨c :: more, value⟩, c :: (more ++ text), rest, ?_, .intro hspace hmore hassignment, hseen⟩
  rw [List.cons_append, List.append_assoc]

end

theorem AttributeText.length_pos {raw : RawAttribute} {text : List Char}
    (h : AttributeText raw text) : 0 < text.length := by
  cases h
  exact Nat.succ_pos _

/-- No key is given twice, and none is one of those given before. -/
def Fresh (seen : List (List Char × Nat)) (raws : List RawAttribute) : Prop :=
  (raws.map RawAttribute.key).Nodup ∧ forall raw, raw ∈ raws -> seen.lookup raw.key = none

theorem fresh_cons_iff {seen : List (List Char × Nat)} {raw : RawAttribute}
    {raws : List RawAttribute} {start : Nat} (hseen : seen.lookup raw.key = none) :
    Fresh seen (raw :: raws) ↔ Fresh ((raw.key, start) :: seen) raws := by
  have hlookup : forall other : RawAttribute,
      ((raw.key, start) :: seen).lookup other.key = none ↔
        other.key ≠ raw.key ∧ seen.lookup other.key = none := by
    intro other
    rw [List.lookup_cons]
    by_cases heq : other.key = raw.key
    · simp [heq]
    · simp [heq, beq_eq_false_iff_ne.mpr heq]
  unfold Fresh
  simp only [List.map_cons, List.nodup_cons, List.mem_map, not_exists, not_and,
    List.forall_mem_cons, hseen, true_and, hlookup]
  constructor
  · intro h
    rcases h with ⟨⟨hnew, hnodup⟩, hrest⟩
    exact ⟨hnodup, fun other hother => ⟨hnew other hother, hrest other hother⟩⟩
  · intro h
    rcases h with ⟨hnodup, hrest⟩
    exact ⟨⟨fun other hother => (hrest other hother).1, hnodup⟩,
      fun other hother => (hrest other hother).2⟩

theorem AttributeList.scan {raws : List RawAttribute} {cs : List Char}
    (h : AttributeList raws cs) (size position : Nat) {seen : List (List Char × Nat)}
    (hfresh : Fresh seen raws) :
    scanAttributes size .between seen position cs = ⟨raws, none⟩ := by
  induction h generalizing position seen with
  | nil => rfl
  | space hspace _ ih =>
      rw [scanAttributes]
      simp only [hspace, if_true]
      exact ih _ hfresh
  | cons htext _ ih =>
      have hseen := hfresh.2 _ List.mem_cons_self
      rcases htext.scan size position hseen _ with ⟨start, position', hscan⟩
      rw [hscan, ih position' ((fresh_cons_iff hseen).mp hfresh)]
      rfl

theorem attributeList_of_scan {size position : Nat} {seen : List (List Char × Nat)}
    {cs : List Char} {raws : List RawAttribute}
    (h : scanAttributes size .between seen position cs = ⟨raws, none⟩) :
    AttributeList raws cs ∧ Fresh seen raws := by
  -- An attribute takes more than one character at a time, and so the length decides.
  induction hlength : cs.length using Nat.strongRecOn generalizing cs seen position raws with
  | ind n ih =>
      subst hlength
      cases cs with
      | nil =>
          cases h
          exact ⟨.nil, List.nodup_nil, by simp⟩
      | cons c cs =>
          cases hspace : isSpace c with
          | true =>
              rw [scanAttributes] at h
              simp only [hspace, if_true] at h
              rcases ih _ (Nat.lt_succ_self _) h rfl with ⟨hlist, hfresh⟩
              exact ⟨.space hspace hlist, hfresh⟩
          | false =>
              have hfault :
                  (scanAttributes size .between seen position (c :: cs)).fault = none := by
                rw [h]
              rcases exists_attributeText hspace hfault with ⟨raw, text, rest, hcs, htext, hseen⟩
              rw [hcs] at h ih ⊢
              rcases htext.scan size position hseen rest with ⟨start, position', hscan⟩
              have hshorter : rest.length < (text ++ rest).length := by
                have hpos := htext.length_pos
                rw [List.length_append]
                omega
              rw [hscan, RawAttributes.cons, RawAttributes.mk.injEq] at h
              rcases h with ⟨hraws, hnone⟩
              have hrest : scanAttributes size .between ((raw.key, start) :: seen) position' rest =
                  ⟨(scanAttributes size .between ((raw.key, start) :: seen) position' rest).found,
                    none⟩ := by
                rw [← hnone]
              rcases ih _ hshorter hrest rfl with ⟨hlist, hfresh⟩
              rw [← hraws]
              exact ⟨.cons htext hlist, (fresh_cons_iff hseen).mpr hfresh⟩

/-!
# What attributes mean

A value may have the right form and still be unsound.
-/

/-- A value holds no `<`, and all of its references stand for characters. -/
structure Decodes (raw : RawAttribute) (a : Attribute) : Prop where
  name : a.name = String.ofList raw.key
  clean : '<' ∉ raw.value
  value : Resolves raw.value a.value.toList

theorem decodeAttribute_eq_ok_iff {raw : RawAttribute} {a : Attribute} :
    decodeAttribute raw = .ok a ↔ Decodes raw a := by
  unfold decodeAttribute
  rw [List.contains_eq_mem]
  by_cases hclean : '<' ∈ raw.value
  · constructor
    · intro h
      simp [hclean] at h
    · intro h
      exact absurd hclean h.clean
  · simp only [hclean, decide_false, Bool.false_eq_true, if_false]
    constructor
    · intro h
      cases hvalue : unescapeValue raw.value with
      | error error =>
          rw [hvalue] at h
          cases h
      | ok value =>
          rw [hvalue] at h
          cases h
          refine ⟨rfl, hclean, ?_⟩
          rw [String.toList_ofList]
          exact unescapeValue_eq_ok_iff.mp hvalue
    · intro h
      rw [unescapeValue_eq_ok_iff.mpr h.value, ← h.name]
      simp

/-- The attributes of a tag with this content, in the order in which they are written. -/
structure TagHolds (content : List Char) (attributes : List Attribute) : Prop where
  written : exists raws, AttributeList raws (content.dropWhile fun c => !isSpace c) ∧
    (raws.map RawAttribute.key).Nodup ∧ List.Forall₂ Decodes raws attributes

theorem attributesOf_eq_ok_iff {content : List Char} {attributes : List Attribute} :
    attributesOf content = .ok attributes ↔ TagHolds content attributes := by
  have hmapM : forall raws : List RawAttribute, raws.mapM decodeAttribute = .ok attributes ↔
      List.Forall₂ Decodes raws attributes :=
    fun raws => mapM_eq_ok_iff fun _ _ => decodeAttribute_eq_ok_iff
  constructor
  · intro h
    unfold attributesOf at h
    simp only at h
    split at h
    · cases h
    · cases h
    · rename_i decoded hdecoded hfault
      cases h
      have hscan : rawAttributes content = ⟨(rawAttributes content).found, none⟩ := by
        rw [← hfault]
      rcases attributeList_of_scan hscan with ⟨hlist, hfresh⟩
      exact ⟨_, hlist, hfresh.1, (hmapM _).mp hdecoded⟩
  · intro h
    rcases h.written with ⟨raws, hlist, hnodup, hdecodes⟩
    have hscan : rawAttributes content = ⟨raws, none⟩ :=
      hlist.scan _ _ ⟨hnodup, fun _ _ => rfl⟩
    unfold attributesOf
    simp only [hscan, (hmapM raws).mpr hdecodes]

/-!
# What tokens mean

Comments and the like stand for themselves.
-/

namespace Token

/--
The event that a token stands for, if it is sound.  Only tags and references may be unsound.
-/
inductive Means : Token -> Event -> Prop where
  | start {content : List Char} {attributes : List Attribute} : TagHolds content attributes ->
      Means (.start content) (.start (Event.elementName content) attributes)
  | empty {content : List Char} {attributes : List Attribute} : TagHolds content attributes ->
      Means (.empty content) (.empty (Event.elementName content) attributes)
  | close : Means .close .close
  | text {content : List Char} : Means (.text content) (.text (String.ofList content))
  | characterData {content : List Char} :
      Means (.characterData content) (.characterData (String.ofList content))
  | reference {name : List Char} {character : Char} : StandsFor character name ->
      Means (.reference name) (.reference character)
  | comment : Means .comment .comment
  | instruction : Means .instruction .instruction
  | declaration : Means .declaration .declaration
  | doctype : Means .doctype .doctype

end Token

theorem ofToken_eq_ok_iff {token : Token} {event : Event} :
    Event.ofToken token = .ok event ↔ token.Means event := by
  constructor
  · intro h
    cases token with
    | start content =>
        rcases map_eq_ok_iff.mp (mapError_eq_ok_iff.mp h) with ⟨attributes, hattributes, rfl⟩
        exact .start (attributesOf_eq_ok_iff.mp hattributes)
    | empty content =>
        rcases map_eq_ok_iff.mp (mapError_eq_ok_iff.mp h) with ⟨attributes, hattributes, rfl⟩
        exact .empty (attributesOf_eq_ok_iff.mp hattributes)
    | reference name =>
        rcases map_eq_ok_iff.mp (mapError_eq_ok_iff.mp h) with ⟨character, hcharacter, rfl⟩
        exact .reference (resolve_eq_ok_iff.mp hcharacter)
    | close =>
        cases h
        exact .close
    | text content =>
        cases h
        exact .text
    | characterData content =>
        cases h
        exact .characterData
    | comment =>
        cases h
        exact .comment
    | instruction =>
        cases h
        exact .instruction
    | declaration =>
        cases h
        exact .declaration
    | doctype =>
        cases h
        exact .doctype
  · intro h
    cases h with
    | start hholds =>
        rw [Event.ofToken, attributesOf_eq_ok_iff.mpr hholds]
        rfl
    | empty hholds =>
        rw [Event.ofToken, attributesOf_eq_ok_iff.mpr hholds]
        rfl
    | reference hstands =>
        rw [Event.ofToken, resolve_eq_ok_iff.mpr hstands]
        rfl
    | close => rfl
    | text => rfl
    | characterData => rfl
    | comment => rfl
    | instruction => rfl
    | declaration => rfl
    | doctype => rfl

end Xml
end TutorialKit
