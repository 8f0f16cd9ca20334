import Mathlib.Data.List.Induction
import Mathlib.Order.Bounds.Defs
import TutorialKit.Document.Reading
import TutorialKit.Proofs.Text.Pieces
import TutorialKit.Text.Utf8

/-!
# Places of errors

An error in a document is found at an offset in bytes and shown at a line and a column.  Characters
take up to four bytes, so there are offsets at which no character begins, and an offset may lie
beyond the end.  Every offset is shown as the place of the last boundary between characters up to
it, and boundaries have places in the order of the text, so no two of them share one.
-/

namespace TutorialKit

namespace Text

/-!
# Boundaries

An offset is shown as the longest beginning of the text that fits into so many bytes.
-/

/-- The offsets at which a character begins, and that of the end of the text. -/
def IsBoundary (cs : List Char) (offset : Nat) : Prop :=
  exists front rest, cs = front ++ rest ∧ Utf8.size front = offset

theorem size_before_le (offset : Nat) (cs : List Char) :
    Utf8.size (before offset cs) <= offset := by
  induction cs generalizing offset with
  | nil => exact Nat.zero_le offset
  | cons c cs ih =>
      rw [before]
      split
      · rename_i hfits
        have hrest := ih (offset - c.utf8Size)
        rw [Utf8.size_cons]
        omega
      · exact Nat.zero_le offset

theorem isPrefix_before {front : List Char} {offset : Nat} (h : Utf8.size front <= offset)
    (rest : List Char) : front <+: before offset (front ++ rest) := by
  induction front generalizing offset with
  | nil => exact List.nil_prefix
  | cons c front ih =>
      rw [Utf8.size_cons] at h
      have hfits : c.utf8Size <= offset := by omega
      rw [List.cons_append, before, if_pos hfits, List.cons_prefix_cons]
      exact ⟨rfl, ih (by omega)⟩

theorem isGreatest_size_before (offset : Nat) (cs : List Char) :
    IsGreatest {boundary | IsBoundary cs boundary ∧ boundary <= offset}
      (Utf8.size (before offset cs)) := by
  constructor
  · rcases exists_eq_before_append offset cs with ⟨rest, hrest⟩
    exact ⟨⟨_, rest, hrest, rfl⟩, size_before_le offset cs⟩
  · rintro _ ⟨⟨front, rest, rfl, rfl⟩, hfits⟩
    rcases isPrefix_before hfits rest with ⟨more, hmore⟩
    rw [← hmore, Utf8.size_append]
    exact Nat.le_add_right _ _

theorem before_size (front rest : List Char) :
    before (Utf8.size front) (front ++ rest) = front := by
  induction front with
  | nil =>
      cases rest with
      | nil => rfl
      | cons c rest =>
          have hpos := c.utf8Size_pos
          rw [List.nil_append, Utf8.size_nil, before, if_neg (by omega)]
  | cons c front ih =>
      rw [Utf8.size_cons, List.cons_append, before, if_pos (by omega), Nat.add_sub_cancel_left, ih]

/-!
# Reading on

Places are ordered by their lines and, within a line, by their columns.  One more character leads to
a later place.
-/

namespace Place

instance : LT Place where
  lt first second :=
    first.line < second.line ∨ first.line = second.line ∧ first.column < second.column

theorem lt_def {first second : Place} :
    first < second ↔
      first.line < second.line ∨ first.line = second.line ∧ first.column < second.column :=
  Iff.rfl

theorem lt_irrefl (place : Place) : ¬ place < place := by
  rw [lt_def]
  omega

theorem lt_trans {first second third : Place} (hfirst : first < second)
    (hsecond : second < third) : first < third := by
  rw [lt_def] at hfirst hsecond ⊢
  omega

def advance (place : Place) (c : Char) : Place :=
  if c = '\n' then ⟨place.line + 1, 1⟩ else ⟨place.line, place.column + 1⟩

theorem lt_advance (place : Place) (c : Char) : place < place.advance c := by
  unfold advance
  split
  · exact Or.inl (Nat.lt_succ_self _)
  · exact Or.inr ⟨rfl, Nat.lt_succ_self _⟩

theorem after_concat (front : List Char) (c : Char) :
    after (front ++ [c]) = (after front).advance c := by
  unfold after advance
  by_cases hbreak : c = '\n'
  · simp [hbreak]
  · simp [hbreak]

theorem after_lt_after_append (front : List Char) (c : Char) (rest : List Char) :
    after front < after (front ++ c :: rest) := by
  induction rest generalizing front c with
  | nil =>
      rw [after_concat]
      exact lt_advance _ c
  | cons d rest ih =>
      have hstep : after front < after (front ++ [c]) := by
        rw [after_concat]
        exact lt_advance _ c
      have hrest := ih (front ++ [c]) d
      rw [List.append_assoc, List.singleton_append] at hrest
      exact lt_trans hstep hrest

theorem ofOffset_lt_ofOffset {cs : List Char} {first second : Nat} (hfirst : IsBoundary cs first)
    (hsecond : IsBoundary cs second) (h : first < second) :
    ofOffset cs first < ofOffset cs second := by
  rcases hfirst with ⟨front, rest, hcs, rfl⟩
  rcases hsecond with ⟨longer, others, hlonger, rfl⟩
  -- Both begin the same text, and the one with fewer bytes begins the other.
  have hprefix : front <+: longer := by
    rcases List.prefix_or_prefix_of_prefix ⟨rest, hcs.symm⟩ ⟨others, hlonger.symm⟩ with
      hfront | ⟨more, rfl⟩
    · exact hfront
    · rw [Utf8.size_append] at h
      omega
  rw [ofOffset, hcs, before_size, ofOffset, ← hcs, hlonger, before_size]
  rcases hprefix with ⟨_ | ⟨c, more⟩, rfl⟩
  · rw [List.append_nil] at h
    exact absurd h (Nat.lt_irrefl _)
  · exact after_lt_after_append front c more

theorem ofOffset_lt_ofOffset_iff {cs : List Char} {first second : Nat}
    (hfirst : IsBoundary cs first) (hsecond : IsBoundary cs second) :
    ofOffset cs first < ofOffset cs second ↔ first < second := by
  refine ⟨?_, ofOffset_lt_ofOffset hfirst hsecond⟩
  intro hplaces
  rcases Nat.lt_trichotomy first second with h | rfl | h
  · exact h
  · exact absurd hplaces (lt_irrefl _)
  · exact absurd (lt_trans hplaces (ofOffset_lt_ofOffset hsecond hfirst h)) (lt_irrefl _)

theorem ofOffset_inj {cs : List Char} {first second : Nat} (hfirst : IsBoundary cs first)
    (hsecond : IsBoundary cs second) :
    ofOffset cs first = ofOffset cs second ↔ first = second := by
  refine ⟨?_, congrArg (ofOffset cs)⟩
  intro hplaces
  apply Nat.le_antisymm
  · rw [← Nat.not_lt, ← ofOffset_lt_ofOffset_iff hsecond hfirst, hplaces]
    exact lt_irrefl _
  · rw [← Nat.not_lt, ← ofOffset_lt_ofOffset_iff hfirst hsecond, hplaces]
    exact lt_irrefl _

theorem existsUnique_boundary (cs : List Char) (offset : Nat) :
    ∃! boundary, IsBoundary cs boundary ∧ ofOffset cs boundary = ofOffset cs offset := by
  have hfloor := (isGreatest_size_before offset cs).1.1
  rcases exists_eq_before_append offset cs with ⟨rest, hrest⟩
  have hbefore := before_size (before offset cs) rest
  rw [← hrest] at hbefore
  have hplace : ofOffset cs (Utf8.size (before offset cs)) = ofOffset cs offset :=
    congrArg after hbefore
  refine ⟨_, ⟨hfloor, hplace⟩, ?_⟩
  rintro boundary ⟨hboundary, hshown⟩
  exact (ofOffset_inj hboundary hfloor).mp (hshown.trans hplace.symm)

/-!
# Lines and columns

The place of a boundary counts the line feeds before it and the characters since the last of them.
-/

/-- The place of a boundary with `row` between it and the beginning of its line. -/
structure Marks (place : Place) (earlier row : List Char) : Prop where
  line : place.line = (earlier ++ row).count '\n' + 1
  column : place.column = row.length + 1
  starts : earlier = [] ∨ earlier.getLast? = some '\n'
  unbroken : '\n' ∉ row

theorem Marks.advance {place : Place} {earlier row : List Char} (h : place.Marks earlier row)
    (c : Char) :
    exists earlier' row', earlier ++ row ++ [c] = earlier' ++ row' ∧
      (place.advance c).Marks earlier' row' := by
  by_cases hbreak : c = '\n'
  · refine ⟨earlier ++ row ++ [c], [], (List.append_nil _).symm, ?_⟩
    exact {
      line := by simp [Place.advance, hbreak, h.line, Nat.add_assoc]
      column := by simp [Place.advance, hbreak]
      starts := by simp [hbreak]
      unbroken := List.not_mem_nil }
  · refine ⟨earlier, row ++ [c], List.append_assoc _ _ _, ?_⟩
    exact {
      line := by simp [Place.advance, hbreak, h.line]
      column := by simp [Place.advance, hbreak, h.column]
      starts := h.starts
      unbroken := by simp [h.unbroken, Ne.symm hbreak] }

theorem marks_after (front : List Char) :
    exists earlier row, front = earlier ++ row ∧ (after front).Marks earlier row := by
  -- A place is found by reading on, so the last character is the one that is taken away.
  induction front using List.reverseRecOn with
  | nil => exact ⟨[], [], rfl, rfl, rfl, Or.inl rfl, List.not_mem_nil⟩
  | append_singleton front c ih =>
      rcases ih with ⟨earlier, row, hfront, hmarks⟩
      rw [after_concat]
      subst hfront
      exact hmarks.advance c

theorem Marks.getElem?_pieces {place : Place} {earlier row : List Char}
    (h : place.Marks earlier row) (rest : List Char) :
    (pieces (· == '\n') (earlier ++ row ++ rest))[place.line - 1]? =
      some (row ++ rest.takeWhile (· != '\n')) := by
  have hrow : row.count '\n' = 0 := List.count_eq_zero.mpr h.unbroken
  have hfirst : (pieces (· == '\n') (row ++ rest))[0]? =
      some (row ++ rest.takeWhile (· != '\n')) := by
    rw [← List.head?_eq_getElem?, head?_pieces, List.takeWhile_append_of_pos]
    · rfl
    · intro c hc
      rw [uncut_of_no_break h.unbroken c hc]
      rfl
  have hline := h.line
  rcases h.starts with rfl | hlast
  · rw [List.nil_append, hrow] at hline
    rw [hline]
    exact hfirst
  · rcases List.getLast?_eq_some_iff.mp hlast with ⟨above, rfl⟩
    have hlength : place.line - 1 = (pieces (· == '\n') above).length := by
      rw [hline, List.count_append, hrow, List.count_append, length_pieces]
      rfl
    rw [List.append_assoc, List.append_assoc, List.singleton_append, pieces_append_cut rfl,
      hlength, List.getElem?_append_right (Nat.le_refl _), Nat.sub_self]
    exact hfirst

end Place
end Text

namespace Tutorial

open Text

theorem exists_offset_of_malformed {text detail : String} {place : Place}
    (h : ofXml text = .error (.malformed detail place)) :
    exists offset, place = Place.ofOffset text.toList offset := by
  rw [ofXml, readChars] at h
  cases hrun : ReadState.prolog.run (Xml.tokens text.toList).tokens
      (Xml.tokens text.toList).ending with
  | ok tutorial =>
      rw [hrun] at h
      cases h
  | error fault =>
      rw [hrun] at h
      rcases fault with ⟨cause | found, offset⟩
      · cases h
        exact ⟨offset, rfl⟩
      · cases h

/--
Every offset into a text is shown at the line and the column of the last boundary up to it, the
line being one of the text.  Boundaries have places in the order of the text, so that the place of
an error is the place of one boundary only.
-/
theorem error_places_exact (text : String) :
    let cs := text.toList
    (forall offset, exists earlier row rest, cs = earlier ++ row ++ rest ∧
      IsGreatest {boundary | IsBoundary cs boundary ∧ boundary <= offset}
        (Utf8.size (earlier ++ row)) ∧
      (Place.ofOffset cs offset).Marks earlier row ∧
      (pieces (· == '\n') cs)[(Place.ofOffset cs offset).line - 1]? =
        some (row ++ rest.takeWhile (· != '\n'))) ∧
    (forall first second, IsBoundary cs first -> IsBoundary cs second ->
      (Place.ofOffset cs first < Place.ofOffset cs second ↔ first < second) ∧
      (Place.ofOffset cs first = Place.ofOffset cs second ↔ first = second)) ∧
    forall detail place, ofXml text = .error (.malformed detail place) ->
      ∃! boundary, IsBoundary cs boundary ∧ Place.ofOffset cs boundary = place := by
  intro cs
  refine ⟨?_, ?_, ?_⟩
  · intro offset
    rcases Place.marks_after (before offset cs) with ⟨earlier, row, hfront, hmarks⟩
    rcases exists_eq_before_append offset cs with ⟨rest, hrest⟩
    have hfloor := isGreatest_size_before offset cs
    have hline := hmarks.getElem?_pieces rest
    rw [hfront] at hrest hfloor
    rw [← hrest] at hline
    exact ⟨earlier, row, rest, hrest, hfloor, hmarks, hline⟩
  · intro first second hfirst hsecond
    exact ⟨Place.ofOffset_lt_ofOffset_iff hfirst hsecond, Place.ofOffset_inj hfirst hsecond⟩
  · intro detail place herror
    rcases exists_offset_of_malformed herror with ⟨offset, rfl⟩
    exact Place.existsUnique_boundary cs offset

theorem error_places_exact_on_two_lines :
    let text := "<tutorial>é\n</a>"
    let detail := "ill-formed document: expected \x60</tutorial>\x60, but \x60</a>\x60 was found"
    (IsBoundary text.toList 12 ∧ IsBoundary text.toList 13 ∧
      ofXml text = .error (.malformed detail ⟨2, 1⟩)) ∧
      (Place.ofOffset text.toList 12 < Place.ofOffset text.toList 13 ↔ 12 < 13) ∧
      ∃! boundary, IsBoundary text.toList boundary ∧
        Place.ofOffset text.toList boundary = ⟨2, 1⟩ := by
  intro text detail
  have hfirst : IsBoundary text.toList 12 :=
    ⟨"<tutorial>é".toList, "\n</a>".toList, by decide, by decide⟩
  have hsecond : IsBoundary text.toList 13 :=
    ⟨"<tutorial>é\n".toList, "</a>".toList, by decide, by decide⟩
  have herror : ofXml text = .error (.malformed detail ⟨2, 1⟩) := by decide +kernel
  have hexact := error_places_exact text
  exact ⟨⟨hfirst, hsecond, herror⟩, (hexact.2.1 12 13 hfirst hsecond).1,
    hexact.2.2 detail ⟨2, 1⟩ herror⟩

/-- An offset inside a character is shown as the beginning of it, one beyond the end as the end. -/
example :
    Place.ofOffset "aé\nb".toList 2 = ⟨1, 2⟩ ∧ Place.ofOffset "aé\nb".toList 9 = ⟨2, 2⟩ := by
  decide

end Tutorial
end TutorialKit
