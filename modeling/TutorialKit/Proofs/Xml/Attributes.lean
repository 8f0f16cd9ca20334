import Mathlib.Data.List.Nodup
import TutorialKit.Proofs.Xml.Tags

/-!
# Attributes that have been written

Whatever the values of attributes are, they are read from a written tag as they were, as long as
their names consist of letters and are different.
-/

namespace TutorialKit
namespace Xml

/-!
# Names

The writer gives attributes names of letters only.
-/

def IsName (cs : List Char) : Prop :=
  cs ≠ [] ∧ forall c, c ∈ cs -> c.isAlpha = true

instance (cs : List Char) : Decidable (IsName cs) :=
  decidable_of_iff (cs ≠ [] ∧ cs.all Char.isAlpha = true) (by simp [IsName])

theorem ne_of_isAlpha {c d : Char} (hc : c.isAlpha = true) (hd : d.isAlpha = false) : c ≠ d := by
  rintro rfl
  rw [hc] at hd
  cases hd

theorem isSpace_of_isAlpha {c : Char} (hc : c.isAlpha = true) : isSpace c = false := by
  simp [isSpace, ne_of_isAlpha hc]

theorem IsName.exists_cons {cs : List Char} (h : IsName cs) :
    exists c rest, cs = c :: rest ∧ c.isAlpha = true ∧
      forall d, d ∈ rest -> d.isAlpha = true := by
  cases cs with
  | nil => exact absurd rfl h.1
  | cons c rest =>
      have hall := List.forall_mem_cons.mp h.2
      exact ⟨c, rest, rfl, hall.1, hall.2⟩

/-- Names made of letters, each given once. -/
structure Legible (attributes : List Attribute) : Prop where
  names : forall a, a ∈ attributes -> IsName a.name.toList
  unique : (attributes.map Attribute.name).Nodup

namespace Legible

theorem sublist {attributes given : List Attribute} (h : Legible attributes)
    (hgiven : given.Sublist attributes) : Legible given :=
  ⟨fun a ha => h.names a (hgiven.mem ha), h.unique.sublist (hgiven.map _)⟩

end Legible

theorem legible_of_names (attributes : List Attribute) (names : List String)
    (h : attributes.map Attribute.name = names)
    (hnames : forall name, name ∈ names -> IsName name.toList) (hunique : names.Nodup) :
    Legible attributes :=
  ⟨fun _ ha => hnames _ (h ▸ List.mem_map_of_mem ha), h ▸ hunique⟩

theorem legible_nil : Legible [] :=
  ⟨by simp, by simp⟩

/-!
# Written attributes

A value is escaped when it is written, and its references are resolved when it is read.
-/

theorem Escapes.resolves {c : Char} {cs rest resolved : List Char} (h : Escapes c cs)
    (hrest : Resolves rest resolved) : Resolves (cs ++ rest) (c :: resolved) := by
  cases h with
  | plain hamp hlt hquote => exact .plain hamp hrest
  | reference name hresolve hname =>
      have hname' : forall d, d ∈ name -> d ≠ '&' ∧ d ≠ ';' :=
        fun d hd => ⟨(hname d hd).1, (hname d hd).2.1⟩
      have hreference := Resolves.reference hname' (resolve_eq_ok_iff.mp hresolve) hrest
      simpa using hreference

theorem resolves_escapeValue (cs : List Char) : Resolves (escapeValue cs) cs := by
  induction cs with
  | nil => exact .nil
  | cons c cs ih =>
      rw [escapeValue, List.flatMap_cons]
      exact (escapes_value c).resolves ih

namespace Attribute

/-- The attribute as it stands in a tag. -/
def raw (a : Attribute) : RawAttribute :=
  ⟨a.name.toList, escapeValue a.value.toList⟩

theorem decodes_raw (a : Attribute) : Decodes a.raw a where
  name := String.ofList_toList.symm
  clean := fun hmem => (escapeValue_clean hmem).1 rfl
  value := resolves_escapeValue a.value.toList

theorem attributeText_raw {a : Attribute} (ha : IsName a.name.toList) :
    AttributeText a.raw
      (a.name.toList ++ '=' :: '"' :: (escapeValue a.value.toList ++ ['"'])) := by
  rcases ha.exists_cons with ⟨first, more, hname, hfirst, hmore⟩
  have hquote : '"' ∉ escapeValue a.value.toList := fun hmem => (escapeValue_clean hmem).2 rfl
  have hkey : forall c, c ∈ more -> ContinuesKey c := by
    intro c hc
    exact ⟨ne_of_isAlpha (hmore c hc) rfl, isSpace_of_isAlpha (hmore c hc)⟩
  rw [raw, hname]
  exact .intro (isSpace_of_isAlpha hfirst) hkey (.equals (.quoted (Or.inl rfl) hquote))

theorem attributeList_write {attributes : List Attribute}
    (h : forall a, a ∈ attributes -> IsName a.name.toList) :
    AttributeList (attributes.map raw) (attributes.flatMap write) := by
  induction attributes with
  | nil => exact .nil
  | cons first rest ih =>
      rw [List.forall_mem_cons] at h
      have hlist := AttributeList.space (c := ' ') rfl (.cons (attributeText_raw h.1) (ih h.2))
      simpa [write] using hlist

end Attribute

/-!
# Whole tags

The name of the element comes first, and a space is before each attribute.
-/

theorem takeWhile_tagContent {name : String} (hname : IsName name.toList)
    (attributes : List Attribute) :
    tagName (tagContent name attributes) = name.toList ∧
      (tagContent name attributes).dropWhile (fun c => !isSpace c) =
        attributes.flatMap Attribute.write := by
  have hletters : forall c, c ∈ name.toList -> (!isSpace c) = true := by
    intro c hc
    rw [isSpace_of_isAlpha (hname.2 c hc)]
    rfl
  rw [tagName, tagContent, List.takeWhile_append_of_pos hletters,
    List.dropWhile_append_of_pos hletters]
  cases attributes with
  | nil => simp
  | cons first rest =>
      rw [List.flatMap_cons, Attribute.write]
      simp [show isSpace ' ' = true from rfl]

/-- A written tag holds the attributes that it has been written from. -/
theorem tagHolds_tagContent {name : String} {attributes : List Attribute}
    (hname : IsName name.toList) (h : Legible attributes) :
    TagHolds (tagContent name attributes) attributes := by
  refine ⟨attributes.map Attribute.raw, ?_, ?_, ?_⟩
  · rw [(takeWhile_tagContent hname attributes).2]
    exact Attribute.attributeList_write h.names
  · have hinjective : Function.Injective String.toList := fun _ _ => String.toList_inj.mp
    have hkeys := List.Nodup.map hinjective h.unique
    rw [List.map_map] at hkeys ⊢
    exact hkeys
  · rw [List.forall₂_map_left_iff, List.forall₂_same]
    intro a _
    exact a.decodes_raw

theorem attributesOf_tagContent {name : String} {attributes : List Attribute}
    (hname : IsName name.toList) (h : Legible attributes) :
    attributesOf (tagContent name attributes) = .ok attributes :=
  attributesOf_eq_ok_iff.mpr (tagHolds_tagContent hname h)

end Xml
end TutorialKit
