import TutorialKit.Text.Pieces

/-!
# Pieces of a text

Where a text is cut does not depend on what stands on the other side of a separator.  These are
the laws of cutting for texts that are put together, and what they say about lines.
-/

namespace TutorialKit
namespace Text

section

variable {cut : Char -> Bool}

theorem pieces_append_cut {c : Char} (hc : cut c = true) (before after : List Char) :
    pieces cut (before ++ c :: after) = pieces cut before ++ pieces cut after := by
  induction before with
  | nil => simp [pieces, hc]
  | cons d rest ih =>
      rw [List.cons_append, pieces, pieces, ih]
      by_cases hd : cut d = true
      · simp [hd]
      · cases hrest : pieces cut rest with
        | nil => exact absurd hrest (pieces_ne_nil cut rest)
        | cons piece more => simp [hd]

theorem head?_pieces (cs : List Char) :
    (pieces cut cs).head? = some (cs.takeWhile fun c => !cut c) := by
  induction cs with
  | nil => rfl
  | cons c rest ih =>
      rw [pieces]
      by_cases hc : cut c = true
      · simp [hc]
      · cases hrest : pieces cut rest with
        | nil => exact absurd hrest (pieces_ne_nil cut rest)
        | cons piece more =>
            rw [hrest, List.head?_cons, Option.some.injEq] at ih
            simp [hc, ih]

theorem pieces_append_left {front : List Char} (hfront : forall c, c ∈ front -> cut c = false)
    (cs : List Char) :
    exists piece more, pieces cut cs = piece :: more ∧
      pieces cut (front ++ cs) = (front ++ piece) :: more := by
  induction front with
  | nil =>
      cases hcs : pieces cut cs with
      | nil => exact absurd hcs (pieces_ne_nil cut cs)
      | cons piece more => exact ⟨piece, more, rfl, hcs⟩
  | cons c rest ih =>
      rw [List.forall_mem_cons] at hfront
      rcases ih hfront.2 with ⟨piece, more, hcs, hrest⟩
      refine ⟨piece, more, hcs, ?_⟩
      rw [List.cons_append, pieces, hfront.1, hrest]
      rfl

theorem pieces_of_uncut {cs : List Char} (hcs : forall c, c ∈ cs -> cut c = false) :
    pieces cut cs = [cs] := by
  rcases pieces_append_left hcs [] with ⟨piece, more, hnil, hpieces⟩
  cases hnil
  simpa using hpieces

/-- What holds no separator may also be the end of the last piece. -/
theorem pieces_append_right {back : List Char} (hback : forall c, c ∈ back -> cut c = false)
    (cs : List Char) :
    exists more piece, pieces cut cs = more ++ [piece] ∧
      pieces cut (cs ++ back) = more ++ [piece ++ back] := by
  induction cs with
  | nil => exact ⟨[], [], rfl, pieces_of_uncut hback⟩
  | cons c rest ih =>
      rcases ih with ⟨more, piece, hrest, hboth⟩
      rw [List.cons_append, pieces, pieces, hrest, hboth]
      by_cases hc : cut c = true
      · exact ⟨[] :: more, piece, by simp [hc], by simp [hc]⟩
      · cases more with
        | nil => exact ⟨[], c :: piece, by simp [hc], by simp [hc]⟩
        | cons first more => exact ⟨(c :: first) :: more, piece, by simp [hc], by simp [hc]⟩

theorem uncut_of_mem_pieces {cs piece : List Char} (h : piece ∈ pieces cut cs) :
    forall c, c ∈ piece -> cut c = false := by
  induction cs generalizing piece with
  | nil =>
      rw [pieces, List.mem_singleton] at h
      rw [h]
      exact List.forall_mem_nil _
  | cons c rest ih =>
      rw [pieces] at h
      by_cases hc : cut c = true
      · rw [if_pos hc, List.mem_cons] at h
        rcases h with rfl | h
        · exact List.forall_mem_nil _
        · exact ih h
      · rw [if_neg hc] at h
        cases hrest : pieces cut rest with
        | nil => exact absurd hrest (pieces_ne_nil cut rest)
        | cons first more =>
            simp only [hrest, List.mem_cons] at h
            rcases h with rfl | h
            · rw [List.forall_mem_cons]
              refine ⟨by simpa using hc, ih ?_⟩
              rw [hrest]
              exact List.mem_cons_self
            · apply ih
              rw [hrest]
              exact List.mem_cons_of_mem first h

end

/-!
# Lines

The pieces between line breaks are the lines.
-/

theorem uncut_of_no_break {cs : List Char} (h : '\n' ∉ cs) :
    forall c, c ∈ cs -> (c == '\n') = false := by
  intro c hc
  rw [beq_eq_false_iff_ne]
  rintro rfl
  exact h hc

theorem break_not_mem_of_mem_pieces {cs piece : List Char} (h : piece ∈ pieces (· == '\n') cs) :
    '\n' ∉ piece := by
  intro hbreak
  simpa using uncut_of_mem_pieces h _ hbreak

theorem pieces_line {line : List Char} (h : '\n' ∉ line) (rest : List Char) :
    pieces (· == '\n') (line ++ '\n' :: rest) = line :: pieces (· == '\n') rest := by
  rw [pieces_append_cut rfl, pieces_of_uncut (uncut_of_no_break h), List.singleton_append]

theorem pieces_flatMap {rows : List (List Char)} (h : forall row, row ∈ rows -> '\n' ∉ row)
    (rest : List Char) :
    pieces (· == '\n') (rows.flatMap (· ++ ['\n']) ++ rest) =
      rows ++ pieces (· == '\n') rest := by
  induction rows with
  | nil => rfl
  | cons row rows ih =>
      rw [List.forall_mem_cons] at h
      rw [List.flatMap_cons, List.append_assoc, List.append_assoc, List.singleton_append,
        pieces_line h.1, ih h.2, List.cons_append]

/-- With a line break behind every piece a text has one more than before. -/
theorem flatMap_pieces (cs : List Char) :
    (pieces (· == '\n') cs).flatMap (· ++ ['\n']) = cs ++ ['\n'] := by
  induction cs with
  | nil => rfl
  | cons c rest ih =>
      rw [pieces]
      by_cases hbreak : c = '\n'
      · simp [hbreak, ih]
      · cases hrest : pieces (· == '\n') rest with
        | nil => exact absurd hrest (pieces_ne_nil _ rest)
        | cons piece more =>
            rw [hrest] at ih
            simpa [hbreak] using ih

end Text
end TutorialKit
