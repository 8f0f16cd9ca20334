import Mathlib.Data.Nat.Digits.Defs
import TutorialKit.Proofs.Outcomes
import TutorialKit.Proofs.Xml.Escaping

/-!
# What references stand for

A reference names its character by one of five names or by a number.  A reference is resolved
exactly if it stands for a character, and then to that character; a value is resolved exactly if all
of its references are closed and stand for characters.
-/

namespace TutorialKit
namespace Xml

/-!
# Numbers

A number is read digit by digit and given up as soon as it is too large.
-/

/-- The digits and their values, the first one in front. -/
def Numeral (radix : Nat) (digits : List Char) (values : List Nat) : Prop :=
  List.Forall₂ (fun c value => digitValue? radix c = some value) digits values

/-- A number whose first digits have been read already. -/
def continued (radix value : Nat) (values : List Nat) : Nat :=
  values.foldl (fun value digit => value * radix + digit) value

theorem continued_cons (radix value digit : Nat) (rest : List Nat) :
    continued radix value (digit :: rest) = continued radix (value * radix + digit) rest :=
  rfl

theorem continued_zero (radix : Nat) (values : List Nat) :
    continued radix 0 values = Nat.ofDigits radix values.reverse := by
  rw [Nat.ofDigits_eq_foldr, List.foldr_reverse, continued]
  congr 1
  funext value digit
  rw [Nat.cast_id, Nat.mul_comm, Nat.add_comm]

theorem le_continued {radix : Nat} (hradix : 0 < radix) (value : Nat) (values : List Nat) :
    value <= continued radix value values := by
  induction values generalizing value with
  | nil => exact Nat.le_refl value
  | cons digit rest ih =>
      have hnext := ih (value * radix + digit)
      have hgrows := Nat.le_mul_of_pos_right value hradix
      rw [continued_cons]
      omega

theorem numeral_cons_iff {radix digit : Nat} {c : Char} (hdigit : digitValue? radix c = some digit)
    {rest : List Char} {values : List Nat} :
    Numeral radix (c :: rest) values ↔
      exists later, Numeral radix rest later ∧ values = digit :: later := by
  rw [Numeral, List.forall₂_cons_left_iff]
  simp only [hdigit, Option.some.injEq]
  constructor
  · intro h
    rcases h with ⟨_, later, rfl, hlater, hvalues⟩
    exact ⟨later, hlater, hvalues⟩
  · intro h
    rcases h with ⟨later, hlater, hvalues⟩
    exact ⟨digit, later, rfl, hlater, hvalues⟩

theorem not_numeral_cons {radix : Nat} {c : Char} (hnone : digitValue? radix c = none)
    (rest : List Char) (values : List Nat) : ¬ Numeral radix (c :: rest) values := by
  intro h
  cases h with
  | cons hfirst _ =>
      rw [hnone] at hfirst
      cases hfirst

/-- Numbers only grow while they are read, so that it is the last one that has to fit. -/
theorem numberFrom_eq_ok_iff {radix value n : Nat} (hradix : 0 < radix)
    (hvalue : value < numberLimit) {cs : List Char} :
    numberFrom radix value cs = .ok n ↔
      exists values, Numeral radix cs values ∧ continued radix value values = n ∧
        n < numberLimit := by
  induction cs generalizing value with
  | nil =>
      constructor
      · intro h
        cases h
        exact ⟨[], .nil, rfl, hvalue⟩
      · intro h
        rcases h with ⟨values, hnumeral, hn, -⟩
        cases hnumeral
        exact congrArg Except.ok hn
  | cons c rest ih =>
      rw [numberFrom]
      cases hdigit : digitValue? radix c with
      | none =>
          constructor
          · intro h
            cases h
          · intro h
            rcases h with ⟨values, hnumeral, -⟩
            exact absurd hnumeral (not_numeral_cons hdigit rest values)
      | some digit =>
          by_cases hfits : value * radix + digit < numberLimit
          · simp only [hfits, if_true]
            rw [ih hfits]
            constructor
            · intro h
              rcases h with ⟨later, hlater, hn, hlimit⟩
              exact ⟨digit :: later, (numeral_cons_iff hdigit).mpr ⟨later, hlater, rfl⟩, hn, hlimit⟩
            · intro h
              rcases h with ⟨values, hnumeral, hn, hlimit⟩
              rcases (numeral_cons_iff hdigit).mp hnumeral with ⟨later, hlater, rfl⟩
              exact ⟨later, hlater, hn, hlimit⟩
          · simp only [hfits, if_false]
            constructor
            · intro h
              cases h
            · intro h
              rcases h with ⟨values, hnumeral, hn, hlimit⟩
              rcases (numeral_cons_iff hdigit).mp hnumeral with ⟨later, -, rfl⟩
              have hle := le_continued hradix (value * radix + digit) later
              rw [continued_cons] at hn
              omega

theorem digitValue?_of_sign {c : Char} (hsign : c = '+' ∨ c = '-') (radix : Nat) :
    digitValue? radix c = none := by
  rcases hsign with hplus | hminus
  · rw [hplus]
    rfl
  · rw [hminus]
    rfl

theorem number_eq_ok_iff {radix n : Nat} (hradix : 0 < radix) {digits : List Char} :
    number radix digits = .ok n ↔
      digits ≠ [] ∧ exists values, Numeral radix digits values ∧
        Nat.ofDigits radix values.reverse = n ∧ n < numberLimit := by
  cases digits with
  | nil =>
      constructor
      · intro h
        cases h
      · intro h
        exact absurd rfl h.1
  | cons c rest =>
      have hsign : (decide (c = '+') || decide (c = '-')) = true ↔ c = '+' ∨ c = '-' := by
        simp
      rw [number]
      split
      · rename_i h
        have hnone := digitValue?_of_sign (hsign.mp h) radix
        constructor
        · intro h
          cases h
        · intro h
          rcases h with ⟨-, values, hnumeral, -⟩
          exact absurd hnumeral (not_numeral_cons hnone rest values)
      · rw [numberFrom_eq_ok_iff hradix (by decide)]
        simp only [continued_zero, ne_eq, reduceCtorEq, not_false_eq_true, true_and]

theorem characterOfCode_eq_ok_iff {code : Nat} {c : Char} :
    characterOfCode code = .ok c ↔ code = c.toNat ∧ code ≠ 0 := by
  unfold characterOfCode
  by_cases hzero : code = 0
  · simp [hzero]
  by_cases hvalid : code.isValidChar
  · have hnat : (Char.ofNat code).toNat = code := by
      rw [Char.ofNat, dif_pos hvalid]
      rfl
    rw [if_neg hzero, if_pos hvalid, Except.ok.injEq]
    constructor
    · intro h
      rw [← h]
      exact ⟨hnat.symm, hzero⟩
    · intro h
      rw [h.1, Char.ofNat_toNat]
  · rw [if_neg hzero, if_neg hvalid]
    constructor
    · intro h
      cases h
    · intro h
      rw [h.1] at hvalid
      exact absurd c.valid hvalid

/-!
# Names

A reference is a name that is known from the beginning, or a number with a sign in front.
-/

/-- What stands between the `&` and the `;` of a reference to a character. -/
inductive StandsFor (c : Char) : List Char -> Prop where
  | named {name : List Char} : predefined? name = some c -> StandsFor c name
  | decimal {digits : List Char} {values : List Nat} : digits ≠ [] -> Numeral 10 digits values ->
      Nat.ofDigits 10 values.reverse = c.toNat -> c ≠ '\x00' -> StandsFor c ('#' :: digits)
  | hexadecimal {digits : List Char} {values : List Nat} : digits ≠ [] ->
      Numeral 16 digits values -> Nat.ofDigits 16 values.reverse = c.toNat -> c ≠ '\x00' ->
      StandsFor c ('#' :: 'x' :: digits)

theorem toNat_lt_numberLimit (c : Char) : c.toNat < numberLimit := by
  have hlt : c.toNat < 0x110000 := by
    rcases c.valid with h | h
    · exact Nat.lt_trans h (by decide)
    · exact h.2
  exact Nat.lt_trans hlt (by decide)

theorem toNat_ne_zero_iff {c : Char} : c.toNat ≠ 0 ↔ c ≠ '\x00' := by
  constructor
  · intro h hzero
    rw [hzero] at h
    exact h rfl
  · intro h hzero
    apply h
    rw [← Char.ofNat_toNat c, hzero]

theorem number_bind_characterOfCode_iff {radix : Nat} (hradix : 0 < radix) {digits : List Char}
    {c : Char} :
    number radix digits >>= characterOfCode = .ok c ↔
      digits ≠ [] ∧ (exists values, Numeral radix digits values ∧
        Nat.ofDigits radix values.reverse = c.toNat) ∧ c ≠ '\x00' := by
  rw [bind_eq_ok_iff]
  constructor
  · intro h
    rcases h with ⟨code, hnumber, hcode⟩
    rcases characterOfCode_eq_ok_iff.mp hcode with ⟨rfl, hzero⟩
    rcases (number_eq_ok_iff hradix).mp hnumber with ⟨hdigits, values, hnumeral, hvalue, -⟩
    exact ⟨hdigits, ⟨values, hnumeral, hvalue⟩, toNat_ne_zero_iff.mp hzero⟩
  · intro h
    rcases h with ⟨hdigits, ⟨values, hnumeral, hvalue⟩, hzero⟩
    have hnumber : number radix digits = .ok c.toNat :=
      (number_eq_ok_iff hradix).mpr
        ⟨hdigits, values, hnumeral, hvalue, toNat_lt_numberLimit c⟩
    exact ⟨c.toNat, hnumber, characterOfCode_eq_ok_iff.mpr ⟨rfl, toNat_ne_zero_iff.mpr hzero⟩⟩

theorem predefined?_numberSign (digits : List Char) : predefined? ('#' :: digits) = none := by
  simp [predefined?]

theorem numericReference_eq_ok_iff {digits : List Char} {c : Char} :
    numericReference digits = .ok c ↔ StandsFor c ('#' :: digits) := by
  unfold numericReference
  split
  · rename_i hexadecimals
    rw [number_bind_characterOfCode_iff (by decide)]
    constructor
    · intro h
      rcases h with ⟨hdigits, ⟨values, hnumeral, hvalue⟩, hzero⟩
      exact .hexadecimal hdigits hnumeral hvalue hzero
    · intro h
      cases h with
      | named hname =>
          rw [predefined?_numberSign] at hname
          cases hname
      | decimal hdigits hnumeral hvalue hzero =>
          exact absurd hnumeral (not_numeral_cons rfl _ _)
      | hexadecimal hdigits hnumeral hvalue hzero =>
          exact ⟨hdigits, ⟨_, hnumeral, hvalue⟩, hzero⟩
  · rename_i hplain
    rw [number_bind_characterOfCode_iff (by decide)]
    constructor
    · intro h
      rcases h with ⟨hdigits, ⟨values, hnumeral, hvalue⟩, hzero⟩
      exact .decimal hdigits hnumeral hvalue hzero
    · intro h
      cases h with
      | named hname =>
          rw [predefined?_numberSign] at hname
          cases hname
      | decimal hdigits hnumeral hvalue hzero =>
          exact ⟨hdigits, ⟨_, hnumeral, hvalue⟩, hzero⟩
      | hexadecimal hdigits hnumeral hvalue hzero => exact absurd rfl (hplain _)

/-- A reference is resolved exactly if it stands for a character. -/
theorem resolve_eq_ok_iff {name : List Char} {c : Char} :
    resolve name = .ok c ↔ StandsFor c name := by
  unfold resolve
  split
  · rename_i digits
    rw [← numericReference_eq_ok_iff, mapError_eq_ok_iff]
  · rename_i hplain
    constructor
    · intro h
      cases hname : predefined? name with
      | none =>
          rw [hname] at h
          cases h
      | some resolved =>
          rw [hname] at h
          cases h
          exact .named hname
    · intro h
      cases h with
      | named hname => rw [hname]
      | decimal => exact absurd rfl (hplain _)
      | hexadecimal => exact absurd rfl (hplain _)

/-!
# Values

A value is resolved from the left, each reference as soon as it is closed.
-/

/-- The characters that a value stands for.  A reference ends at the first semicolon. -/
inductive Resolves : List Char -> List Char -> Prop where
  | nil : Resolves [] []
  | plain {c : Char} {cs resolved : List Char} : c ≠ '&' -> Resolves cs resolved ->
      Resolves (c :: cs) (c :: resolved)
  | reference {c : Char} {name cs resolved : List Char} :
      (forall d, d ∈ name -> d ≠ '&' ∧ d ≠ ';') -> StandsFor c name -> Resolves cs resolved ->
      Resolves ('&' :: (name ++ ';' :: cs)) (c :: resolved)

theorem resolveInValue_eq_ok_iff {start finish : Nat} {name : List Char} {c : Char} :
    resolveInValue start finish name = .ok c ↔ StandsFor c name := by
  rw [← resolve_eq_ok_iff, resolveInValue]
  split
  · rename_i heq
    simp [heq]
  · rename_i heq
    rw [heq]
    simp
  · rename_i heq
    rw [heq]
    simp

theorem unescapeFrom_name (size start offset : Nat) (held name rest : List Char)
    (hname : forall d, d ∈ name -> d ≠ '&' ∧ d ≠ ';') :
    unescapeFrom size (.reference start held) offset (name ++ ';' :: rest) =
      (do
        let resolved <- resolveInValue start (offset + utf8Length name) (held.reverse ++ name)
        let more <- unescapeFrom size .plain (offset + utf8Length name + 1) rest
        pure (resolved :: more)) := by
  induction name generalizing held offset with
  | nil => simp [unescapeFrom, utf8Length]; rfl
  | cons d name ih =>
      rw [List.forall_mem_cons] at hname
      simp only [List.cons_append, unescapeFrom, hname.1, if_false]
      rw [ih _ _ hname.2]
      simp [utf8Length, Nat.add_assoc]

theorem exists_name_of_unescapeFrom {size start offset : Nat} {held cs resolved : List Char}
    (h : unescapeFrom size (.reference start held) offset cs = .ok resolved) :
    exists name rest, cs = name ++ ';' :: rest ∧ forall d, d ∈ name -> d ≠ '&' ∧ d ≠ ';' := by
  induction cs generalizing held offset with
  | nil => cases h
  | cons c cs ih =>
      rw [unescapeFrom] at h
      by_cases hamp : c = '&'
      · simp [hamp] at h
      by_cases hend : c = ';'
      · exact ⟨[], cs, by rw [hend]; rfl, by simp⟩
      · simp only [hamp, hend, if_false] at h
        rcases ih h with ⟨name, rest, hcs, hname⟩
        refine ⟨c :: name, rest, by rw [hcs]; rfl, ?_⟩
        rw [List.forall_mem_cons]
        exact ⟨⟨hamp, hend⟩, hname⟩

theorem unescapeFrom_of_resolves {cs resolved : List Char} (h : Resolves cs resolved)
    (size offset : Nat) : unescapeFrom size .plain offset cs = .ok resolved := by
  induction h generalizing offset with
  | nil => rfl
  | plain hamp _ ih =>
      rw [unescapeFrom]
      simp only [hamp, if_false, ih]
      rfl
  | reference hname hstands _ ih =>
      rw [unescapeFrom]
      simp only [if_true]
      rw [unescapeFrom_name _ _ _ _ _ _ hname, List.reverse_nil, List.nil_append,
        resolveInValue_eq_ok_iff.mpr hstands, ih]
      rfl

theorem resolves_of_unescapeFrom {size offset : Nat} {cs resolved : List Char}
    (h : unescapeFrom size .plain offset cs = .ok resolved) : Resolves cs resolved := by
  -- A reference takes more than one character at a time, and so the length decides.
  induction hlength : cs.length using Nat.strongRecOn generalizing cs resolved offset with
  | ind n ih =>
      subst hlength
      cases cs with
      | nil =>
          cases h
          exact .nil
      | cons c cs =>
          rw [unescapeFrom] at h
          by_cases hamp : c = '&'
          · simp only [hamp, if_true] at h
            rcases exists_name_of_unescapeFrom h with ⟨name, rest, hcs, hname⟩
            subst hcs
            rw [unescapeFrom_name _ _ _ _ _ _ hname, List.reverse_nil, List.nil_append] at h
            rcases bind_eq_ok_iff.mp h with ⟨d, hd, h⟩
            rcases bind_eq_ok_iff.mp h with ⟨later, hlater, h⟩
            cases h
            have hshorter : rest.length < (c :: (name ++ ';' :: rest)).length := by
              simp only [List.length_cons, List.length_append]
              omega
            rw [hamp]
            exact .reference hname (resolveInValue_eq_ok_iff.mp hd) (ih _ hshorter hlater rfl)
          · simp only [hamp, if_false] at h
            rcases map_eq_ok_iff.mp h with ⟨later, hlater, rfl⟩
            exact .plain hamp (ih _ (Nat.lt_succ_self _) hlater rfl)

theorem unescapeValue_eq_ok_iff {cs resolved : List Char} :
    unescapeValue cs = .ok resolved ↔ Resolves cs resolved := by
  constructor
  · intro h
    exact resolves_of_unescapeFrom h
  · intro h
    exact unescapeFrom_of_resolves h _ _

end Xml
end TutorialKit
