import Mathlib.Data.List.Forall2

/-!
# Computations that may fail

A chain of computations that may fail comes to a result just if each of them does, and fails where
the first of them fails.  Files, documents and edits are all worked on in such chains, and the laws
stand here so that none of them needs the others.
-/

namespace TutorialKit

section

variable {ε ε' α β : Type}

theorem bind_eq_ok_iff {x : Except ε α} {f : α -> Except ε β} {b : β} :
    x >>= f = .ok b ↔ exists a, x = .ok a ∧ f a = .ok b := by
  cases x with
  | error e =>
      constructor
      · intro h
        cases h
      · intro h
        rcases h with ⟨a, h, -⟩
        cases h
  | ok a =>
      constructor
      · intro h
        exact ⟨a, rfl, h⟩
      · intro h
        rcases h with ⟨_, heq, h⟩
        cases heq
        exact h

theorem bind_eq_error {x : Except ε α} {f : α -> Except ε β} {e : ε}
    (h : x >>= f = .error e) : x = .error e ∨ exists a, x = .ok a ∧ f a = .error e := by
  cases x with
  | error other =>
      cases h
      exact Or.inl rfl
  | ok a => exact Or.inr ⟨a, rfl, h⟩

theorem map_eq_ok_iff {x : Except ε α} {f : α -> β} {b : β} :
    f <$> x = .ok b ↔ exists a, x = .ok a ∧ f a = b := by
  cases x with
  | error e => simp [Functor.map, Except.map]
  | ok a => simp [Functor.map, Except.map]

theorem mapError_eq_ok_iff {x : Except ε α} {f : ε -> ε'} {a : α} :
    x.mapError f = .ok a ↔ x = .ok a := by
  cases x with
  | error e => simp [Except.mapError]
  | ok a => simp [Except.mapError]

theorem mapM_eq_ok_iff {f : α -> Except ε β} {R : α -> β -> Prop}
    (hf : forall a b, f a = .ok b ↔ R a b) {xs : List α} {ys : List β} :
    xs.mapM f = .ok ys ↔ List.Forall₂ R xs ys := by
  induction xs generalizing ys with
  | nil =>
      rw [List.mapM_nil, List.forall₂_nil_left_iff]
      constructor
      · intro h
        cases h
        rfl
      · intro h
        rw [h]
        rfl
  | cons x xs ih =>
      rw [List.mapM_cons, List.forall₂_cons_left_iff, bind_eq_ok_iff]
      constructor
      · intro h
        rcases h with ⟨y, hy, h⟩
        rcases bind_eq_ok_iff.mp h with ⟨later, hlater, h⟩
        cases h
        exact ⟨y, later, (hf x y).mp hy, ih.mp hlater, rfl⟩
      · intro h
        rcases h with ⟨y, later, hy, hlater, rfl⟩
        exact ⟨y, (hf x y).mpr hy, bind_eq_ok_iff.mpr ⟨later, ih.mpr hlater, rfl⟩⟩

end

end TutorialKit
