import Mathlib.Data.List.Basic
import TutorialKit.Proofs.Xml.Attributes

/-!
# Written elements

What an element is written as ends where it ends, whatever follows.  Elements are told apart by what
they are written as, as long as those that hold text have names of their own.
-/

namespace TutorialKit
namespace Xml

/-!
# Where a part ends

A part ends where a character comes that it cannot hold.
-/

theorem append_cons_inj {p : Char -> Bool} {xs ys rest others : List Char} {c d : Char}
    (hxs : forall x, x ∈ xs -> p x = true) (hys : forall y, y ∈ ys -> p y = true)
    (hc : p c = false) (hd : p d = false) (h : xs ++ c :: rest = ys ++ d :: others) :
    xs = ys ∧ c :: rest = d :: others := by
  have htake := congrArg (List.takeWhile p) h
  have hdrop := congrArg (List.dropWhile p) h
  rw [List.takeWhile_append_of_pos hxs, List.takeWhile_append_of_pos hys] at htake
  rw [List.dropWhile_append_of_pos hxs, List.dropWhile_append_of_pos hys] at hdrop
  simp only [List.takeWhile_cons, List.dropWhile_cons, hc, hd, Bool.false_eq_true, if_false,
    List.append_nil] at htake hdrop
  exact ⟨htake, hdrop⟩

theorem name_append_inj {name other : String} {c d : Char} {rest others : List Char}
    (hname : IsName name.toList) (hother : IsName other.toList) (hc : c.isAlpha = false)
    (hd : d.isAlpha = false) (h : name.toList ++ c :: rest = other.toList ++ d :: others) :
    name = other ∧ c :: rest = d :: others := by
  rcases append_cons_inj hname.2 hother.2 hc hd h with ⟨hsame, hrest⟩
  exact ⟨String.toList_inj.mp hsame, hrest⟩

theorem Resolves.unique {cs resolved other : List Char} (h : Resolves cs resolved)
    (hother : Resolves cs other) : resolved = other := by
  rw [← unescapeValue_eq_ok_iff] at h hother
  rw [h] at hother
  exact Except.ok.inj hother

theorem resolves_escapeText (cs : List Char) : Resolves (escapeText cs) cs := by
  induction cs with
  | nil => exact .nil
  | cons c cs ih =>
      rw [escapeText, List.flatMap_cons]
      exact (escapes_text c).resolves ih

theorem escapeText_append_inj {cs ds rest others : List Char}
    (h : escapeText cs ++ '<' :: rest = escapeText ds ++ '<' :: others) :
    cs = ds ∧ rest = others := by
  have hclean (es : List Char) : forall d, d ∈ escapeText es -> (d != '<') = true := by
    intro d hd
    rcases List.mem_flatMap.mp hd with ⟨c, _, hmem⟩
    exact bne_iff_ne.mpr ((escapes_text c).clean hmem).1
  rcases append_cons_inj (hclean cs) (hclean ds) rfl rfl h with ⟨hsame, hrest⟩
  have hcs := resolves_escapeText cs
  rw [hsame] at hcs
  exact ⟨hcs.unique (resolves_escapeText ds), List.tail_eq_of_cons_eq hrest⟩

theorem escapeValue_append_inj {cs ds rest others : List Char}
    (h : escapeValue cs ++ '"' :: rest = escapeValue ds ++ '"' :: others) :
    cs = ds ∧ rest = others := by
  have hclean (es : List Char) : forall d, d ∈ escapeValue es -> (d != '"') = true :=
    fun d hd => bne_iff_ne.mpr (escapeValue_clean hd).2
  rcases append_cons_inj (hclean cs) (hclean ds) rfl rfl h with ⟨hsame, hrest⟩
  have hcs := resolves_escapeValue cs
  rw [hsame] at hcs
  exact ⟨hcs.unique (resolves_escapeValue ds), List.tail_eq_of_cons_eq hrest⟩

/-!
# Tags

The content of a tag is its name with its attributes.
-/

theorem write_append_inj {a b : Attribute} {rest others : List Char}
    (ha : IsName a.name.toList) (hb : IsName b.name.toList)
    (h : a.write ++ rest = b.write ++ others) : a = b ∧ rest = others := by
  have hcons : a.name.toList ++ '=' :: '"' :: (escapeValue a.value.toList ++ '"' :: rest) =
      b.name.toList ++ '=' :: '"' :: (escapeValue b.value.toList ++ '"' :: others) := by
    simpa [Attribute.write] using h
  rcases name_append_inj ha hb rfl rfl hcons with ⟨hname, hvalue⟩
  simp only [List.cons.injEq, true_and] at hvalue
  rcases escapeValue_append_inj hvalue with ⟨hsame, hrest⟩
  cases a
  cases b
  rw [Attribute.mk.injEq]
  exact ⟨⟨hname, String.toList_inj.mp hsame⟩, hrest⟩

theorem attributes_append_inj {attributes given : List Attribute} {c d : Char}
    {rest others : List Char} (ha : forall a, a ∈ attributes -> IsName a.name.toList)
    (hg : forall a, a ∈ given -> IsName a.name.toList) (hc : c ≠ ' ') (hd : d ≠ ' ')
    (h : attributes.flatMap Attribute.write ++ c :: rest =
      given.flatMap Attribute.write ++ d :: others) :
    attributes = given ∧ c :: rest = d :: others := by
  induction attributes generalizing given with
  | nil =>
      cases given with
      | nil => exact ⟨rfl, h⟩
      | cons b given => exact absurd (List.head_eq_of_cons_eq h) hc
  | cons a attributes ih =>
      cases given with
      | nil => exact absurd (List.head_eq_of_cons_eq h).symm hd
      | cons b given =>
          rw [List.forall_mem_cons] at ha hg
          rw [List.flatMap_cons, List.flatMap_cons, List.append_assoc, List.append_assoc] at h
          rcases write_append_inj ha.1 hg.1 h with ⟨rfl, hmore⟩
          rcases ih ha.2 hg.2 hmore with ⟨rfl, hend⟩
          exact ⟨rfl, hend⟩

/-- The name and the names of the attributes consist of letters. -/
def IsTag (name : String) (attributes : List Attribute) : Prop :=
  IsName name.toList ∧ forall a, a ∈ attributes -> IsName a.name.toList

theorem tagContent_append_inj {name other : String} {attributes given : List Attribute}
    {c d : Char} {rest others : List Char} (htag : IsTag name attributes)
    (hother : IsTag other given) (hc : c = '>' ∨ c = '/') (hd : d = '>' ∨ d = '/')
    (h : tagContent name attributes ++ c :: rest = tagContent other given ++ d :: others) :
    name = other ∧ attributes = given ∧ c :: rest = d :: others := by
  have hend {e : Char} (he : e = '>' ∨ e = '/') : e ≠ ' ' ∧ e.isAlpha = false := by
    rcases he with rfl | rfl
    · decide
    · decide
  have hcons {e : Char} (he : e = '>' ∨ e = '/') (more : List Attribute) (tail : List Char) :
      exists f after, more.flatMap Attribute.write ++ e :: tail = f :: after ∧
        f.isAlpha = false := by
    cases more with
    | nil => exact ⟨e, tail, rfl, (hend he).2⟩
    | cons a more => exact ⟨' ', _, rfl, rfl⟩
  rw [tagContent, tagContent, List.append_assoc, List.append_assoc] at h
  rcases hcons hc attributes rest with ⟨f, after, hattributes, hf⟩
  rcases hcons hd given others with ⟨g, behind, hgiven, hg⟩
  rw [hattributes, hgiven] at h
  rcases name_append_inj htag.1 hother.1 hf hg h with ⟨hname, hmore⟩
  rw [← hattributes, ← hgiven] at hmore
  exact ⟨hname, attributes_append_inj htag.2 hother.2 (hend hc).1 (hend hd).1 hmore⟩

/-!
# Elements

The induction is on the element.  An end tag has a slash where another element has a letter.
-/

namespace Element

mutual

/-- All names consist of letters, and those of elements with text are known. -/
def Sound (texts : List String) : Element -> Prop
  | empty name attributes => IsTag name attributes
  | text name _ => IsTag name [] ∧ name ∈ texts
  | parent name attributes children =>
      IsTag name attributes ∧ name ∉ texts ∧ SoundAll texts children

def SoundAll (texts : List String) : List Element -> Prop
  | [] => True
  | element :: rest => Sound texts element ∧ SoundAll texts rest

end

def name : Element -> String
  | empty name _ => name
  | text name _ => name
  | parent name _ _ => name

def attributes : Element -> List Attribute
  | empty _ attributes => attributes
  | text _ _ => []
  | parent _ attributes _ => attributes

def behind (level : Nat) (after : List Char) : Element -> List Char
  | empty _ _ => '/' :: '>' :: after
  | text name content =>
      '>' :: (escapeText content.toList ++ '<' :: '/' :: (name.toList ++ '>' :: after))
  | parent name _ children =>
      '>' :: (writeAll (level + 1) children ++
        (lineBreak level ++ '<' :: '/' :: (name.toList ++ '>' :: after)))

theorem write_append_eq (level : Nat) (after : List Char) (element : Element) :
    element.write level ++ after =
      lineBreak level ++
        '<' :: (tagContent element.name element.attributes ++ element.behind level after) := by
  cases element with
  | empty name attributes => simp [emptyTag, Element.name, Element.attributes, behind]
  | text name content => simp [startTag, endTag, Element.name, Element.attributes, behind]
  | parent name attributes children =>
      simp [startTag, endTag, Element.name, Element.attributes, behind]

theorem Sound.isTag {texts : List String} {element : Element} (h : element.Sound texts) :
    IsTag element.name element.attributes := by
  cases element with
  | empty name attributes => exact h
  | text name content => exact h.1
  | parent name attributes children => exact h.1

theorem exists_behind_eq (level : Nat) (after : List Char) (element : Element) :
    exists c rest, element.behind level after = c :: rest ∧ (c = '>' ∨ c = '/') := by
  cases element with
  | empty name attributes => exact ⟨'/', _, rfl, .inr rfl⟩
  | text name content => exact ⟨'>', _, rfl, .inl rfl⟩
  | parent name attributes children => exact ⟨'>', _, rfl, .inl rfl⟩

theorem behind_eq {texts : List String} {element other : Element} (h : element.Sound texts)
    (hother : other.Sound texts) {level : Nat} {after more : List Char}
    (heq : element.write level ++ after = other.write level ++ more) :
    element.name = other.name ∧ element.attributes = other.attributes ∧
      element.behind level after = other.behind level more := by
  rw [write_append_eq, write_append_eq, List.append_cancel_left_eq, List.cons.injEq] at heq
  rcases exists_behind_eq level after element with ⟨c, rest, hc, hcend⟩
  rcases exists_behind_eq level more other with ⟨d, others, hd, hdend⟩
  rw [hc, hd] at heq ⊢
  exact tagContent_append_inj h.isTag hother.isTag hcend hdend heq.2

theorem lineBreak_ne (level : Nat) (rest others : List Char) :
    lineBreak level ++ '<' :: rest ≠ lineBreak (level + 1) ++ others := by
  intro h
  have hdeeper : lineBreak (level + 1) = lineBreak level ++ ' ' :: List.replicate 3 ' ' := by
    rw [lineBreak, lineBreak, List.cons_append, ← List.replicate_succ,
      List.replicate_append_replicate]
    rfl
  rw [hdeeper, List.append_assoc, List.append_cancel_left_eq] at h
  exact absurd (List.head_eq_of_cons_eq h) (by decide)

theorem endTag_append_inj {name : String} {after more : List Char}
    (h : name.toList ++ '>' :: after = name.toList ++ '>' :: more) : after = more := by
  rw [List.append_cancel_left_eq, List.cons.injEq] at h
  exact h.2

mutual

/-- An element ends where it ends, whatever follows. -/
theorem write_append_inj {texts : List String} {level : Nat} {after more : List Char} :
    (element other : Element) -> element.Sound texts -> other.Sound texts ->
    element.write level ++ after = other.write level ++ more -> element = other ∧ after = more
  | empty name attributes, other, hsound, hother, h => by
      rcases behind_eq hsound hother h with ⟨hname, hattributes, hbehind⟩
      cases other with
      | empty name' attributes' =>
          cases hname
          cases hattributes
          cases hbehind
          exact ⟨rfl, rfl⟩
      | text name' content' => cases hbehind
      | parent name' attributes' children' => cases hbehind
  | text name content, other, hsound, hother, h => by
      rcases behind_eq hsound hother h with ⟨hname, hattributes, hbehind⟩
      cases other with
      | empty name' attributes' => cases hbehind
      | text name' content' =>
          cases hname
          rcases escapeText_append_inj (List.tail_eq_of_cons_eq hbehind) with ⟨hcontent, hend⟩
          rw [String.toList_inj.mp hcontent]
          exact ⟨rfl, endTag_append_inj (List.tail_eq_of_cons_eq hend)⟩
      | parent name' attributes' children' =>
          cases hname
          exact absurd hsound.2 hother.2.1
  | parent name attributes children, other, hsound, hother, h => by
      rcases behind_eq hsound hother h with ⟨hname, hattributes, hbehind⟩
      cases other with
      | empty name' attributes' => cases hbehind
      | text name' content' =>
          cases hname
          exact absurd hother.2 hsound.2.1
      | parent name' attributes' children' =>
          cases hname
          cases hattributes
          rcases writeAll_append_inj children children' hsound.2.2 hother.2.2
            (List.tail_eq_of_cons_eq hbehind) with ⟨rfl, hend⟩
          exact ⟨rfl, endTag_append_inj hend⟩

theorem writeAll_append_inj {texts : List String} {level : Nat} {after more : List Char} :
    (elements others : List Element) -> SoundAll texts elements -> SoundAll texts others ->
    writeAll (level + 1) elements ++ (lineBreak level ++ '<' :: '/' :: after) =
      writeAll (level + 1) others ++ (lineBreak level ++ '<' :: '/' :: more) ->
    elements = others ∧ after = more
  | [], [], _, _, h => by
      simp only [writeAll_nil, List.nil_append, List.append_cancel_left_eq, List.cons.injEq,
        true_and] at h
      exact ⟨rfl, h⟩
  | [], other :: others, _, hothers, h => by
      rw [writeAll_nil, writeAll_cons, List.nil_append, List.append_assoc, write_append_eq] at h
      exact absurd h (lineBreak_ne level _ _)
  | element :: elements, [], helements, _, h => by
      rw [writeAll_nil, writeAll_cons, List.nil_append, List.append_assoc, write_append_eq] at h
      exact absurd h.symm (lineBreak_ne level _ _)
  | element :: elements, other :: others, helements, hothers, h => by
      rw [writeAll_cons, writeAll_cons, List.append_assoc, List.append_assoc] at h
      rcases write_append_inj element other helements.1 hothers.1 h with ⟨rfl, hmore⟩
      rcases writeAll_append_inj elements others helements.2 hothers.2 hmore with ⟨rfl, hend⟩
      exact ⟨rfl, hend⟩

end

/-- Elements are told apart by what they are written as. -/
theorem write_inj {texts : List String} {element other : Element} (h : element.Sound texts)
    (hother : other.Sound texts) {level : Nat} (heq : element.write level = other.write level) :
    element = other :=
  (write_append_inj element other h hother (congrArg (· ++ []) heq)).1

end Element

end Xml
end TutorialKit
