import TutorialKit.Xml.AttributeValue
import TutorialKit.Xml.Escape

/-!
# Escaped characters

A character is written as itself or as a reference that stands for it.  In neither form does it end
what it is written in.
-/

namespace TutorialKit
namespace Xml

/-- The ways in which a character may be written, both in text and in values. -/
inductive Escapes (c : Char) : List Char -> Prop where
  | plain : c ≠ '&' -> c ≠ '<' -> c ≠ '"' -> Escapes c [c]
  | reference (name : List Char) :
      resolve name = .ok c -> (forall d, d ∈ name -> d ≠ '&' ∧ d ≠ ';' ∧ d ≠ '<' ∧ d ≠ '"') ->
      Escapes c ('&' :: name ++ [';'])

theorem escapes_text (c : Char) : Escapes c (escapeTextChar c) := by
  unfold escapeTextChar
  split
  case isTrue h => subst h; exact .reference "lt".toList rfl (by simp)
  split
  case isTrue h => subst h; exact .reference "gt".toList rfl (by simp)
  split
  case isTrue h => subst h; exact .reference "amp".toList rfl (by simp)
  split
  case isTrue h => subst h; exact .reference "apos".toList rfl (by simp)
  split
  case isTrue h => subst h; exact .reference "quot".toList rfl (by simp)
  case isFalse hlt _ hamp _ hquote => exact .plain hamp hlt hquote

theorem escapes_value (c : Char) : Escapes c (escapeValueChar c) := by
  unfold escapeValueChar
  split
  case isTrue h => subst h; exact .reference "#10".toList rfl (by simp)
  split
  case isTrue h => subst h; exact .reference "#13".toList rfl (by simp)
  split
  case isTrue h => subst h; exact .reference "#9".toList rfl (by simp)
  case isFalse => exact escapes_text c

theorem Escapes.clean {c d : Char} {cs : List Char} (h : Escapes c cs) (hd : d ∈ cs) :
    d ≠ '<' ∧ d ≠ '"' := by
  cases h with
  | plain hamp hlt hquote =>
      rw [List.mem_singleton.mp hd]
      exact ⟨hlt, hquote⟩
  | reference name hresolve hname =>
      simp only [List.cons_append, List.mem_cons, List.mem_append, List.not_mem_nil, or_false] at hd
      rcases hd with rfl | hd | rfl
      · decide
      · exact (hname d hd).2.2
      · decide

theorem escapeValue_clean {cs : List Char} {d : Char} (hd : d ∈ escapeValue cs) :
    d ≠ '<' ∧ d ≠ '"' := by
  rcases List.mem_flatMap.mp hd with ⟨c, -, hc⟩
  exact (escapes_value c).clean hc

/-!
# Lengths

Offsets count bytes.
-/

theorem utf8Length_append (cs ds : List Char) :
    utf8Length (cs ++ ds) = utf8Length cs + utf8Length ds := by
  induction cs with
  | nil => simp [utf8Length]
  | cons c cs ih => simp only [List.cons_append, utf8Length, ih, Nat.add_assoc]

end Xml
end TutorialKit
