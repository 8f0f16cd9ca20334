/-!
# Cutting a text at separators

`pieces` cuts at every separator and keeps empty pieces, so a text with `n` separators has
`n + 1` pieces.
-/

namespace TutorialKit
namespace Text

def pieces (cut : Char -> Bool) : List Char -> List (List Char)
  | [] => [[]]
  | c :: rest =>
      if cut c then
        [] :: pieces cut rest
      else
        match pieces cut rest with
        | [] => [[c]]
        | piece :: more => (c :: piece) :: more

theorem pieces_ne_nil (cut : Char -> Bool) (cs : List Char) : pieces cut cs ≠ [] := by
  cases cs with
  | nil => simp [pieces]
  | cons c rest =>
      rw [pieces]
      split
      · simp
      · split <;> simp

theorem length_pieces (cut : Char -> Bool) (cs : List Char) :
    (pieces cut cs).length = cs.countP cut + 1 := by
  induction cs with
  | nil => rfl
  | cons c rest ih =>
      rw [pieces]
      by_cases hc : cut c = true
      · simp [hc, ih]
      · rw [if_neg hc, List.countP_cons_of_neg hc]
        cases hrest : pieces cut rest with
        | nil => exact absurd hrest (pieces_ne_nil cut rest)
        | cons piece more =>
            rw [hrest] at ih
            simpa using ih

def linePieces (text : String) : List String :=
  (pieces (· == '\n') text.toList).map String.ofList

end Text
end TutorialKit
