import TutorialKit.Editing.Action

/-!
# Places of steps and reactions

Putting something in at a place and taking it out by its key are inverse to each other.  The
relation "one list is the other with an element more" is symmetric in this sense, so it serves for
both directions of an action.
-/

namespace TutorialKit

/-!
# Lists with one element more

What is put in is the only element that satisfies `p`; here `p` is always "has this key".
-/

section Lists

variable {α : Type} {p : α -> Bool}

/-- `more` is `l` with `a`, which alone satisfies `p`, at `index`. -/
def Placed (p : α -> Bool) (l : List α) (index : Nat) (a : α) (more : List α) : Prop :=
  exists before after, before.length = index ∧ l = before ++ after ∧
    more = before ++ a :: after ∧ p a = true ∧ forall b, b ∈ before ++ after -> p b = false

theorem insertIdx_eq_append {index : Nat} {l : List α} (h : index <= l.length) (a : α) :
    l.insertIdx index a = l.take index ++ a :: l.drop index := by
  induction index generalizing l with
  | zero => rfl
  | succ index ih =>
      cases l with
      | nil => simp at h
      | cons b rest =>
          have hrest : index <= rest.length := by simpa using h
          simp [ih hrest]

theorem placed_insertIdx {index : Nat} {l : List α} {a : α} (hindex : index <= l.length)
    (ha : p a = true) (hl : forall b, b ∈ l -> p b = false) :
    Placed p l index a (l.insertIdx index a) := by
  refine ⟨l.take index, l.drop index, ?_, ?_, insertIdx_eq_append hindex a, ha, ?_⟩
  · simp only [List.length_take]
    omega
  · exact (List.take_append_drop index l).symm
  · simpa using hl

namespace Placed

variable {l more : List α} {index : Nat} {a : α}

theorem index_le (h : Placed p l index a more) : index <= l.length := by
  rcases h with ⟨before, after, rfl, rfl, -⟩
  simp

theorem absent (h : Placed p l index a more) : forall b, b ∈ l -> p b = false := by
  rcases h with ⟨_, _, _, rfl, _, _, hl⟩
  exact hl

theorem eq_insertIdx (h : Placed p l index a more) : more = l.insertIdx index a := by
  rcases h with ⟨before, after, rfl, rfl, rfl, -⟩
  rw [insertIdx_eq_append (by simp)]
  simp

theorem length (h : Placed p l index a more) : more.length = l.length + 1 := by
  rcases h with ⟨before, after, rfl, rfl, rfl, -⟩
  simp
  omega

theorem perm (h : Placed p l index a more) : more.Perm (a :: l) := by
  rcases h with ⟨before, after, -, rfl, rfl, -⟩
  exact List.perm_middle

theorem before_absent {before after : List α}
    (hl : forall b, b ∈ before ++ after -> p b = false) :
    forall b, b ∈ before -> ¬ p b = true := by
  intro b hb
  simp [hl b (List.mem_append_left after hb)]

theorem find? (h : Placed p l index a more) : more.find? p = some a := by
  rcases h with ⟨before, after, -, -, rfl, ha, hl⟩
  have hbefore := before_absent hl
  rw [List.find?_append, List.find?_eq_none.mpr hbefore]
  simp [ha]

theorem findIdx? (h : Placed p l index a more) : more.findIdx? p = some index := by
  rcases h with ⟨before, after, rfl, -, rfl, ha, hl⟩
  have hbefore : before.findIdx? p = none := by
    rw [List.findIdx?_eq_none_iff]
    intro b hb
    exact hl b (List.mem_append_left after hb)
  rw [List.findIdx?_append, hbefore]
  simp [List.findIdx?_cons, ha]

theorem eraseP (h : Placed p l index a more) : more.eraseP p = l := by
  rcases h with ⟨before, after, -, rfl, rfl, ha, hl⟩
  rw [List.eraseP_append_right _ (before_absent hl), List.eraseP_cons_of_pos ha]

theorem unique {l' : List α} {index' : Nat} {a' : α} (h : Placed p l index a more)
    (h' : Placed p l' index' a' more) : l = l' ∧ index = index' ∧ a = a' := by
  refine ⟨?_, ?_, ?_⟩
  · rw [← h.eraseP, ← h'.eraseP]
  · have hindex := h.findIdx?
    rw [h'.findIdx?] at hindex
    exact (Option.some.inj hindex).symm
  · have ha := h.find?
    rw [h'.find?] at ha
    exact (Option.some.inj ha).symm

end Placed

theorem exists_placed_of_find? {more : List α} {a : α} (h : more.find? p = some a)
    (hunique : more.Pairwise fun b c => ¬ (p b = true ∧ p c = true)) :
    exists index, Placed p (more.eraseP p) index a more := by
  rcases List.find?_eq_some_iff_append.mp h with ⟨ha, before, after, rfl, hbefore⟩
  have hbefore' : forall b, b ∈ before -> p b = false := by
    intro b hb
    simpa using hbefore b hb
  have hafter : forall b, b ∈ after -> p b = false := by
    intro b hb
    have hpair := (List.pairwise_cons.mp (List.pairwise_append.mp hunique).2.1).1 b hb
    simpa [ha] using hpair
  have herase : (before ++ a :: after).eraseP p = before ++ after := by
    rw [List.eraseP_append_right _ (by simpa using hbefore'), List.eraseP_cons_of_pos ha]
  refine ⟨before.length, before, after, rfl, herase, rfl, ha, ?_⟩
  intro b hb
  rcases List.mem_append.mp hb with hb | hb
  · exact hbefore' b hb
  · exact hafter b hb

/-!
# Replacing the first element

To replace an element that is found moves no other element.
-/

theorem replaceFirst_append {before after : List α} {a : α} (f : α -> α) (ha : p a = true)
    (hbefore : forall b, b ∈ before -> p b = false) :
    replaceFirst p f (before ++ a :: after) = before ++ f a :: after := by
  induction before with
  | nil => simp [replaceFirst, ha]
  | cons b rest ih =>
      have hb : p b = false := hbefore b (List.mem_cons_self)
      have hrest : forall c, c ∈ rest -> p c = false :=
        fun c hc => hbefore c (List.mem_cons_of_mem b hc)
      simp [replaceFirst, hb, ih hrest]

theorem replaceFirst_of_absent {l : List α} (f : α -> α) (hl : forall a, a ∈ l -> p a = false) :
    replaceFirst p f l = l := by
  induction l with
  | nil => rfl
  | cons a rest ih =>
      rw [List.forall_mem_cons] at hl
      simp [replaceFirst, hl.1, ih hl.2]

theorem find?_split {l : List α} {a : α} (h : l.find? p = some a) :
    exists before after, l = before ++ a :: after ∧ p a = true ∧
      forall b, b ∈ before -> p b = false := by
  rcases List.find?_eq_some_iff_append.mp h with ⟨ha, before, after, hl, hbefore⟩
  exact ⟨before, after, hl, ha, by simpa using hbefore⟩

theorem exists_find?_of_findIdx? {l : List α} {index : Nat} (h : l.findIdx? p = some index) :
    exists a, l.find? p = some a := by
  cases hfind : l.find? p with
  | some a => exact ⟨a, rfl⟩
  | none =>
      have hindex : l.findIdx? p = none := by simpa using hfind
      rw [hindex] at h
      cases h

theorem find?_replaceFirst {l : List α} {a : α} {f : α -> α} (h : l.find? p = some a)
    (hf : p (f a) = true) : (replaceFirst p f l).find? p = some (f a) := by
  rcases find?_split h with ⟨before, after, rfl, ha, hbefore⟩
  rw [replaceFirst_append f ha hbefore, List.find?_append,
    List.find?_eq_none.mpr (by simpa using hbefore)]
  simp [hf]

theorem replaceFirst_replaceFirst {l : List α} {a : α} {f g : α -> α} (h : l.find? p = some a)
    (hf : p (f a) = true) (hg : g (f a) = a) :
    replaceFirst p g (replaceFirst p f l) = l := by
  rcases find?_split h with ⟨before, after, rfl, ha, hbefore⟩
  rw [replaceFirst_append f ha hbefore, replaceFirst_append g hf hbefore, hg]

theorem map_replaceFirst {β : Type} {l : List α} {f : α -> α} (g : α -> β)
    (h : forall a, g (f a) = g a) : (replaceFirst p f l).map g = l.map g := by
  induction l with
  | nil => rfl
  | cons a rest ih =>
      by_cases ha : p a = true
      · simp [replaceFirst, ha, h]
      · simp [replaceFirst, ha, ih]

end Lists

end TutorialKit
