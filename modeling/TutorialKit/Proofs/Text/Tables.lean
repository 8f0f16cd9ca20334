import TutorialKit.Text.CodePoints
import TutorialKit.Text.LetterCase

/-!
# Tables of characters

What is known about characters is looked up in tables: in ranges of code points, and in the runs
and expansions of a case mapping.  A table is checked once as a whole, with tests that are quickly
evaluated; the laws here lead from such a test to every character that is looked up.
-/

namespace TutorialKit
namespace Text

/-!
# Characters and code points

Tables hold numbers, and a number that belongs to no character is taken for zero.
-/

theorem toNat_ofNat {n : Nat} (h : n.isValidChar) : (Char.ofNat n).toNat = n := by
  rw [Char.ofNat, dif_pos h]
  rfl

theorem toNat_ofNat_of_pos {n : Nat} (h : 0 < (Char.ofNat n).toNat) : (Char.ofNat n).toNat = n := by
  by_cases hvalid : n.isValidChar
  · exact toNat_ofNat hvalid
  · rw [Char.ofNat, dif_neg hvalid] at h
    cases h

/-!
# Ranges

Ranges are searched from the left, which takes them to be in increasing order.
-/

namespace CodePoints

/-- The ranges are in increasing order and do not overlap. -/
def increasing : (least : Nat) -> CodePoints -> Bool
  | _, [] => true
  | least, (first, last) :: rest => least <= first && first <= last && increasing (last + 1) rest

theorem least_le_of_increasing {least : Nat} {set : CodePoints} (h : increasing least set = true)
    {range : Nat × Nat} (hrange : range ∈ set) : least <= range.1 := by
  induction set generalizing least with
  | nil => cases hrange
  | cons first rest ih =>
      simp only [increasing, Bool.and_eq_true, decide_eq_true_eq] at h
      rcases List.mem_cons.mp hrange with rfl | hrange
      · exact h.1.1
      · have hlater := ih h.2 hrange
        omega

theorem member_of_mem_range {least n : Nat} {set : CodePoints}
    (h : increasing least set = true) {range : Nat × Nat} (hrange : range ∈ set)
    (hfirst : range.1 <= n) (hlast : n <= range.2) : member n set = true := by
  induction set generalizing least with
  | nil => cases hrange
  | cons first rest ih =>
      rw [increasing, Bool.and_eq_true] at h
      rw [member_cons]
      rcases List.mem_cons.mp hrange with rfl | hrange
      · rw [if_neg (by omega), if_pos hlast]
      · have hlater := least_le_of_increasing h.2 hrange
        have hbefore := h.1
        simp only [Bool.and_eq_true, decide_eq_true_eq] at hbefore
        rw [if_neg (by omega), ih h.2 hrange]
        exact ite_self _

def holds (set : CodePoints) (first last : Nat) : Bool :=
  set.any fun range => range.1.ble first && last.ble range.2

theorem holds_within {set : CodePoints} {first last : Nat} (h : set.holds first last = true)
    {n m : Nat} (hfirst : first <= n) (hlast : m <= last) : set.holds n m = true := by
  rcases List.any_eq_true.mp h with ⟨range, hrange, hboth⟩
  rw [Bool.and_eq_true, Nat.ble_eq, Nat.ble_eq] at hboth
  refine List.any_eq_true.mpr ⟨range, hrange, ?_⟩
  rw [Bool.and_eq_true, Nat.ble_eq, Nat.ble_eq]
  exact ⟨Nat.le_trans hboth.1 hfirst, Nat.le_trans hlast hboth.2⟩

theorem member_of_holds {least n first last : Nat} {set part : CodePoints}
    (h : increasing least set = true) (hpart : part ⊆ set) (hholds : part.holds first last = true)
    (hfirst : first <= n) (hlast : n <= last) : member n set = true := by
  rcases List.any_eq_true.mp hholds with ⟨range, hrange, hboth⟩
  rw [Bool.and_eq_true, Nat.ble_eq, Nat.ble_eq] at hboth
  exact member_of_mem_range h (hpart hrange) (Nat.le_trans hboth.1 hfirst)
    (Nat.le_trans hlast hboth.2)

def spares (set : CodePoints) (first last : Nat) : Bool :=
  set.all fun range => last.blt range.1 || range.2.blt first

theorem member_of_spares {n first last : Nat} {set : CodePoints}
    (h : set.spares first last = true) (hfirst : first <= n) (hlast : n <= last) :
    member n set = false := by
  rw [Bool.eq_false_iff]
  intro hmember
  rcases exists_range_of_member hmember with ⟨range, hrange, hboth⟩
  have hbeside := List.all_eq_true.mp h range hrange
  rw [Bool.or_eq_true, Nat.blt_eq, Nat.blt_eq] at hbeside
  omega

end CodePoints

/-!
# Images of characters

A run maps characters at equal distances, and an expansion maps one character to several.
-/

namespace CaseRun

/-- Whether a code point is an image of the run. -/
def yields (run : CaseRun) (n : Nat) : Bool :=
  run.image.ble n && n.ble (run.image + (run.last - run.first)) && (n - run.image) % run.stride == 0

theorem yields_image {run : CaseRun} {n : Nat} (hfirst : run.first <= n) (hlast : n <= run.last)
    (hstride : (n - run.first) % run.stride = 0) :
    run.yields (run.image + (n - run.first)) = true := by
  simp only [yields, Bool.and_eq_true, Nat.ble_eq, beq_iff_eq, Nat.add_sub_cancel_left]
  omega

theorem isValidChar_of_yields {run : CaseRun}
    (h : run.image + (run.last - run.first) < 0xD800 ∨
      0xDFFF < run.image ∧ run.image + (run.last - run.first) < 0x110000)
    {n : Nat} (hyields : run.yields n = true) : n.isValidChar := by
  simp only [yields, Bool.and_eq_true, Nat.ble_eq] at hyields
  rcases h with hlow | hhigh
  · exact .inl (by omega)
  · exact .inr ⟨by omega, by omega⟩

def lands (set : CodePoints) (run : CaseRun) : Bool :=
  set.holds run.image (run.image + (run.last - run.first)) ||
    (List.range (run.last - run.first + 1)).all fun n =>
      n % run.stride != 0 || set.holds (run.image + n) (run.image + n)

theorem holds_of_lands {set : CodePoints} {run : CaseRun} (h : run.lands set = true) {n : Nat}
    (hyields : run.yields n = true) : set.holds n n = true := by
  simp only [yields, Bool.and_eq_true, Nat.ble_eq, beq_iff_eq] at hyields
  rw [lands, Bool.or_eq_true] at h
  rcases h with hall | heach
  · exact CodePoints.holds_within hall hyields.1.1 hyields.1.2
  · have hone := List.all_eq_true.mp heach (n - run.image) (List.mem_range.mpr (by omega))
    rw [hyields.2, Bool.or_eq_true, Nat.add_sub_cancel' hyields.1.1] at hone
    rcases hone with hne | hone
    · simp at hne
    · exact hone

def misses (run other : CaseRun) : Bool :=
  other.last.blt run.image || (run.image + (run.last - run.first)).blt other.first ||
    other.stride == 2 && (run.stride == 2 || run.first == run.last) &&
      (run.image + other.first) % 2 == 1

theorem map?_of_misses {run other : CaseRun} (h : run.misses other = true) {n : Nat}
    (hyields : run.yields n = true) : other.map? n = none := by
  simp only [misses, Bool.or_eq_true, Bool.and_eq_true, Nat.blt_eq, beq_iff_eq] at h
  simp only [yields, Bool.and_eq_true, Nat.ble_eq, beq_iff_eq] at hyields
  rw [map?, if_neg]
  simp only [Bool.and_eq_true, decide_eq_true_eq, beq_iff_eq]
  rintro ⟨⟨hfirst, hlast⟩, hother⟩
  rcases h with (habove | hbelow) | ⟨⟨htwo, heven⟩, hodd⟩
  · omega
  · omega
  · have hstep := hyields.2
    rw [htwo] at hother
    rcases heven with heven | hone
    · rw [heven] at hstep
      omega
    · omega

end CaseRun

namespace CaseMapping

theorem apply_cases (mapping : CaseMapping) (c : Char) :
    mapping.apply c = [c] ∨
      (exists images, (c.toNat, images) ∈ mapping.expansions ∧
        mapping.apply c = images.map Char.ofNat) ∨
      exists run, run ∈ mapping.runs ∧ run.first <= c.toNat ∧ c.toNat <= run.last ∧
        (c.toNat - run.first) % run.stride = 0 ∧
        mapping.apply c = [Char.ofNat (run.image + (c.toNat - run.first))] := by
  unfold CaseMapping.apply
  cases hexpansion : mapping.expansions.lookup c.toNat with
  | some images =>
      rcases List.lookup_eq_some_iff.mp hexpansion with ⟨before, after, hentries, -⟩
      refine .inr (.inl ⟨images, ?_, rfl⟩)
      rw [hentries]
      exact List.mem_append_right _ List.mem_cons_self
  | none =>
      cases hrun : mapping.runs.findSome? fun run => run.map? c.toNat with
      | none => exact .inl rfl
      | some n =>
          rcases List.exists_of_findSome?_eq_some hrun with ⟨run, hmem, hmap⟩
          unfold CaseRun.map? at hmap
          split at hmap
          · rename_i hrange
            simp only [Bool.and_eq_true, decide_eq_true_eq, beq_iff_eq] at hrange
            cases hmap
            exact .inr (.inr ⟨run, hmem, hrange.1.1, hrange.1.2, hrange.2, rfl⟩)
          · cases hmap

theorem apply_of_unmapped {mapping : CaseMapping} {c : Char}
    (hexpansions : forall entry, entry ∈ mapping.expansions -> entry.1 ≠ c.toNat)
    (hruns : forall run, run ∈ mapping.runs -> run.map? c.toNat = none) :
    mapping.apply c = [c] := by
  have hlookup : mapping.expansions.lookup c.toNat = none := by
    rw [List.lookup_eq_none_iff]
    intro entry hentry
    rw [bne_iff_ne]
    exact (hexpansions entry hentry).symm
  have hfind : (mapping.runs.findSome? fun run => run.map? c.toNat) = none :=
    List.findSome?_eq_none_iff.mpr hruns
  unfold CaseMapping.apply
  rw [hlookup, hfind]

end CaseMapping

end Text
end TutorialKit
