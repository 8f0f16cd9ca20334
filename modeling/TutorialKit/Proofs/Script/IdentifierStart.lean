import TutorialKit.Proofs.Script.Names
import TutorialKit.Text.Cased
import TutorialKit.Text.IdentifierStart

/-!
# Where an identifier may begin

The words of a text are capitalized before they become part of a name, and the first one is put in
lower case again.  Both mappings lead from such characters to such characters and from others to
others.  The only exception is the combining iota below a letter: it begins no identifier, and its
capital is a letter.
-/

namespace TutorialKit
namespace Text

def iotaBelow : Nat := 0x345

def circledLetters : Nat × Nat := (0x24B6, 0x24E9)

namespace CaseRun

def inside (set : CodePoints) (run : CaseRun) : Bool :=
  set.holds run.first run.last && set.holds run.image (run.image + (run.last - run.first)) ||
    (List.range (run.last - run.first + 1)).all fun n =>
      n % run.stride != 0 ||
        set.holds (run.first + n) (run.first + n) && set.holds (run.image + n) (run.image + n)

def within (range : Nat × Nat) (run : CaseRun) : Bool :=
  range.1.ble run.first && run.last.ble range.2 && range.1.ble run.image &&
    (run.image + (run.last - run.first)).ble range.2

end CaseRun

/-- A character and its image are both in the set or both outside, but for some strays. -/
structure CaseMapping.Keeps (mapping : CaseMapping) (strays : List Nat) : Prop where
  valid : forall run, run ∈ mapping.runs ->
    run.image + (run.last - run.first) < 0xD800 ∨
      0xDFFF < run.image ∧ run.image + (run.last - run.first) < 0x110000
  runs : forall run, run ∈ mapping.runs ->
    run.first ∈ strays ∧ run.last = run.first ∨ run.inside casedCodePoints = true ∨
      run.within circledLetters = true
  expansions : forall entry, entry ∈ mapping.expansions ->
    casedCodePoints.holds entry.1 entry.1 = true ∧ exists image, image ∈ entry.2.head? ∧
      image < 0xD800 ∧ casedCodePoints.holds image image = true

theorem increasing_identifierStart : CodePoints.increasing 0 identifierStartCodePoints = true := by
  decide +kernel

theorem cased_subset_identifierStart : casedCodePoints ⊆ identifierStartCodePoints := by
  have hsublist : casedCodePoints.Sublist identifierStartCodePoints := by decide +kernel
  exact hsublist.subset

theorem spares_circledLetters :
    identifierStartCodePoints.spares circledLetters.1 circledLetters.2 = true := by
  decide +kernel

theorem keeps_upperCase : upperCase.Keeps [iotaBelow] where
  valid := by decide +kernel
  runs := by decide +kernel
  expansions := by decide +kernel

theorem keeps_lowerCase : lowerCase.Keeps [] where
  valid := by decide +kernel
  runs := by decide +kernel
  expansions := by decide +kernel

theorem member_of_cased {first last n : Nat} (h : casedCodePoints.holds first last = true)
    (hfirst : first <= n) (hlast : n <= last) :
    identifierStartCodePoints.member n = true :=
  CodePoints.member_of_holds increasing_identifierStart cased_subset_identifierStart h hfirst hlast

theorem CaseRun.member_of_inside {run : CaseRun} (h : run.inside casedCodePoints = true) {n : Nat}
    (hlast : run.first + n <= run.last) (hstride : n % run.stride = 0) :
    identifierStartCodePoints.member (run.first + n) = true ∧
      identifierStartCodePoints.member (run.image + n) = true := by
  rw [inside, Bool.or_eq_true, Bool.and_eq_true] at h
  rcases h with ⟨hfirst, himage⟩ | hall
  · exact ⟨member_of_cased hfirst (by omega) (by omega),
      member_of_cased himage (by omega) (by omega)⟩
  · have hone := List.all_eq_true.mp hall n (List.mem_range.mpr (by omega))
    rw [hstride, Bool.or_eq_true, Bool.and_eq_true] at hone
    rcases hone with hne | ⟨hfirst, himage⟩
    · simp at hne
    · exact ⟨member_of_cased hfirst (Nat.le_refl _) (Nat.le_refl _),
        member_of_cased himage (Nat.le_refl _) (Nat.le_refl _)⟩

theorem CaseRun.member_of_within {run : CaseRun} (h : run.within circledLetters = true) {n : Nat}
    (hlast : run.first + n <= run.last) :
    identifierStartCodePoints.member (run.first + n) = false ∧
      identifierStartCodePoints.member (run.image + n) = false := by
  simp only [within, Bool.and_eq_true, Nat.ble_eq] at h
  exact ⟨CodePoints.member_of_spares spares_circledLetters (by omega) (by omega),
    CodePoints.member_of_spares spares_circledLetters (by omega) (by omega)⟩

/-- The first image of a character is where an identifier may begin just if the character is. -/
theorem CaseMapping.Keeps.apply {mapping : CaseMapping} {strays : List Nat}
    (h : mapping.Keeps strays) (c : Char) :
    exists image rest, mapping.apply c = image :: rest ∧
      (c.toNat ∈ strays ∨ isIdentifierStart image = isIdentifierStart c) := by
  rcases mapping.apply_cases c with happly | ⟨images, hentry, happly⟩ |
    ⟨run, hrun, hfirst, hlast, hstride, happly⟩
  · exact ⟨c, [], happly, .inr rfl⟩
  · rcases h.expansions (c.toNat, images) hentry with ⟨hsource, image, hhead, hvalid, himage⟩
    rcases List.head?_eq_some_iff.mp hhead with ⟨rest, rfl⟩
    refine ⟨Char.ofNat image, rest.map Char.ofNat, happly, .inr ?_⟩
    rw [isIdentifierStart, isIdentifierStart, CodePoints.contains, CodePoints.contains,
      toNat_ofNat (.inl hvalid), member_of_cased himage (Nat.le_refl _) (Nat.le_refl _),
      member_of_cased hsource (Nat.le_refl _) (Nat.le_refl _)]
  · refine ⟨_, [], happly, ?_⟩
    have hyields := CaseRun.yields_image hfirst hlast hstride
    have hvalid := CaseRun.isValidChar_of_yields (h.valid run hrun) hyields
    rcases Nat.exists_eq_add_of_le hfirst with ⟨n, hn⟩
    rw [isIdentifierStart, isIdentifierStart, CodePoints.contains, CodePoints.contains,
      toNat_ofNat hvalid, hn, Nat.add_sub_cancel_left]
    rw [hn, Nat.add_sub_cancel_left] at hstride
    rcases h.runs run hrun with hstray | hinside | hwithin
    · have hfirst : run.first = run.first + n := by omega
      exact .inl (hfirst ▸ hstray.1)
    · have hmember := CaseRun.member_of_inside hinside (hn ▸ hlast) hstride
      exact .inr (hmember.2.trans hmember.1.symm)
    · have hmember := CaseRun.member_of_within hwithin (hn ▸ hlast)
      exact .inr (hmember.2.trans hmember.1.symm)

/-!
# Where a name begins

A name begins with the first character of its text that belongs to a word, in upper or lower case.
-/

theorem toUpper_iotaBelow : exists image rest, toUpper (Char.ofNat iotaBelow) = image :: rest ∧
    isIdentifierStart image = true := by
  have himages : toUpper (Char.ofNat iotaBelow) = [Char.ofNat 0x399] := by decide +kernel
  exact ⟨_, _, himages, by decide +kernel⟩

end Text

namespace Script

open Text

def BeginsIdentifier (name : String) : Prop :=
  name.toList.head?.any isIdentifierStart = true

instance (name : String) : Decidable (BeginsIdentifier name) :=
  inferInstanceAs (Decidable (_ = _))

theorem BeginsIdentifier.append {name : String} (h : BeginsIdentifier name) (more : String) :
    BeginsIdentifier (name ++ more) := by
  unfold BeginsIdentifier at *
  rw [String.toList_append]
  cases hname : name.toList with
  | nil =>
      rw [hname] at h
      cases h
  | cons c cs =>
      rw [hname] at h
      exact h

theorem beginsIdentifier_append_iff {name : String} (hname : name ≠ "") (more : String) :
    BeginsIdentifier (name ++ more) ↔ BeginsIdentifier name := by
  refine ⟨fun h => ?_, fun h => h.append more⟩
  unfold BeginsIdentifier at *
  rw [String.toList_append] at h
  cases hcs : name.toList with
  | nil => exact absurd (String.toList_eq_nil_iff.mp hcs) hname
  | cons c cs =>
      rw [hcs] at h
      exact h

/-- The first character of the text that gets into a name may begin one, in whatever case. -/
def LeadsName (text : String) : Prop :=
  forall c, text.toList.find? CamelCase.isWordChar = some c ->
    isIdentifierStart c = true ∨ c.toNat = iotaBelow

/-- A name that is made from a text, with an ending of its own. -/
theorem beginsIdentifier_lowerCamelCase_iff (text : String) {ending : String}
    (hending : BeginsIdentifier ending) :
    BeginsIdentifier (lowerCamelCase text ++ ending) ↔ LeadsName text := by
  unfold LeadsName
  cases hfind : text.toList.find? CamelCase.isWordChar with
  | none =>
      have hname : lowerCamelCase text = "" := by
        rw [lowerCamelCase, CamelCase.lower, upper_of_find?_eq_none hfind]
        rfl
      rw [hname, String.empty_append]
      simp [hending]
  | some c =>
      rcases upper_of_find?_eq_some hfind with ⟨rest, hupper⟩
      rcases keeps_upperCase.apply c with ⟨capital, others, hcapital, hkept⟩
      rcases keeps_lowerCase.apply capital with ⟨small, more, hsmall, hsame⟩
      have hlower : CamelCase.lower text.toList = small :: (more ++ (others ++ rest)) := by
        rw [CamelCase.lower, hupper, toUpper, hcapital, List.cons_append, CamelCase.uncapitalize,
          toLower, hsmall, List.cons_append]
      have hbegins : BeginsIdentifier (lowerCamelCase text ++ ending) ↔
          isIdentifierStart capital = true := by
        rw [BeginsIdentifier, String.toList_append, lowerCamelCase, String.toList_ofList, hlower]
        simpa using hsame
      have hiota : c.toNat = iotaBelow -> isIdentifierStart capital = true := by
        intro hc
        rcases toUpper_iotaBelow with ⟨image, others, himages, himage⟩
        rw [← hc, Char.ofNat_toNat, toUpper, hcapital] at himages
        cases himages
        exact himage
      rw [hbegins]
      constructor
      · rintro h _ ⟨⟩
        rcases hkept with hc | hkept
        · exact .inr (List.mem_singleton.mp hc)
        · exact .inl (hkept.symm.trans h)
      · intro h
        rcases h c rfl with hc | hc
        · rcases hkept with hstray | hkept
          · exact hiota (List.mem_singleton.mp hstray)
          · exact hkept.trans hc
        · exact hiota hc

end Script
end TutorialKit
