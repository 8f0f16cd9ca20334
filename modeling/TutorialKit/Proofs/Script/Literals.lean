import TutorialKit.Script.Layout
import TutorialKit.Xml.Reference

/-!
# String literals

What a quoted text stands for is decided by whoever runs the script.  A literal is read here as a
double-quoted string is read outside strict code, one character at a time, and its value is a
sequence of code units.  A quoted text is read as one literal that stands for the text if the text
holds no backslash, and never if it does.
-/

namespace TutorialKit
namespace Script

open Xml

/-!
# Reading a literal

The reader goes from character to character; what it has to remember of an escape sequence is its
mode.
-/

namespace Literal

/-- The editions of the language differ in the separators U+2028 and U+2029, which the earlier
one takes for line breaks in a literal, and in escapes with braces. -/
inductive Edition where
  | fifth
  | tenth

def isLineTerminator (c : Char) : Bool :=
  c == '\n' || c == '\r' || c.toNat == 0x2028 || c.toNat == 0x2029

def Edition.breaksOff : Edition -> Char -> Bool
  | fifth, c => isLineTerminator c
  | tenth, c => c == '\n' || c == '\r'

/-- What has been read of the escape sequence that the next character may belong to. -/
inductive Mode where
  | plain
  | escape
  | hex (left value : Nat)
  | unicode
  | code (value : Option Nat)
  | octal (long : Bool) (value : Nat)
  | afterReturn

structure Advance where
  units : List Nat
  next : Option Mode

def unitsOf (n : Nat) : List Nat :=
  if n < 0x10000 then [n]
  else [0xD800 + (n - 0x10000) / 0x400, 0xDC00 + (n - 0x10000) % 0x400]

def charUnits (cs : List Char) : List Nat :=
  cs.flatMap fun c => unitsOf c.toNat

/-- The value of a text. -/
def units (text : String) : List Nat :=
  charUnits text.toList

def controlUnit? : Char -> Option Nat
  | 'b' => some 8
  | 't' => some 9
  | 'n' => some 10
  | 'v' => some 11
  | 'f' => some 12
  | 'r' => some 13
  | _ => none

def plainStep (edition : Edition) (c : Char) : Option Advance :=
  if c = '"' then some ⟨[], none⟩
  else if c = '\\' then some ⟨[], some .escape⟩
  else if edition.breaksOff c then none
  else some ⟨unitsOf c.toNat, some .plain⟩

/-- A character after a backslash.  Before a line break the backslash continues the line; before
a character without a meaning of its own it is dropped. -/
def escapeStep (c : Char) : Advance :=
  match controlUnit? c with
  | some unit => ⟨[unit], some .plain⟩
  | none =>
      if c = '\r' then ⟨[], some .afterReturn⟩
      else if isLineTerminator c then ⟨[], some .plain⟩
      else if c = 'x' then ⟨[], some (.hex 1 0)⟩
      else if c = 'u' then ⟨[], some .unicode⟩
      else
        match digitValue? 8 c with
        | some digit => ⟨[], some (.octal (digit < 4) digit)⟩
        | none => ⟨unitsOf c.toNat, some .plain⟩

def hexStep (left value : Nat) (c : Char) : Option Advance :=
  (digitValue? 16 c).map fun digit =>
    match left with
    | 0 => ⟨[16 * value + digit], some .plain⟩
    | left + 1 => ⟨[], some (.hex left (16 * value + digit))⟩

def unicodeStep : Edition -> Char -> Option Advance
  | .tenth, '{' => some ⟨[], some (.code none)⟩
  | _, c => hexStep 3 0 c

def codeStep (value : Option Nat) (c : Char) : Option Advance :=
  if c = '}' then value.map fun n => ⟨unitsOf n, some .plain⟩
  else
    match digitValue? 16 c with
    | some digit =>
        if 16 * value.getD 0 + digit <= 0x10FFFF then
          some ⟨[], some (.code (some (16 * value.getD 0 + digit)))⟩
        else none
    | none => none

def octalStep (edition : Edition) (long : Bool) (value : Nat) (c : Char) : Option Advance :=
  match digitValue? 8 c with
  | some digit =>
      if long then some ⟨[], some (.octal false (8 * value + digit))⟩
      else some ⟨[8 * value + digit], some .plain⟩
  | none =>
      (plainStep edition c).map fun advance => { advance with units := value :: advance.units }

def returnStep (edition : Edition) (c : Char) : Option Advance :=
  if c = '\n' then some ⟨[], some .plain⟩ else plainStep edition c

def step (edition : Edition) (mode : Mode) (c : Char) : Option Advance :=
  match mode with
  | .plain => plainStep edition c
  | .escape => some (escapeStep c)
  | .hex left value => hexStep left value c
  | .unicode => unicodeStep edition c
  | .code value => codeStep value c
  | .octal long value => octalStep edition long value c
  | .afterReturn => returnStep edition c

/-- The value of a literal, and what follows its closing quote. -/
structure Reading where
  units : List Nat
  rest : List Char
  deriving DecidableEq

def Reading.after (units : List Nat) (reading : Reading) : Reading :=
  { reading with units := units ++ reading.units }

@[simp] theorem Reading.after_nil : Reading.after [] = id := rfl

theorem Reading.after_append (units others : List Nat) :
    Reading.after (units ++ others) = Reading.after units ∘ Reading.after others := by
  funext reading
  simp [Reading.after]

/-- Reads up to the closing quote, which there has to be. -/
def read (edition : Edition) (mode : Mode) : List Char -> Option Reading
  | [] => none
  | c :: rest =>
      match step edition mode c with
      | none => none
      | some ⟨units, none⟩ => some ⟨units, rest⟩
      | some ⟨units, some next⟩ => (read edition next rest).map (Reading.after units)

def readLiteral (edition : Edition) : List Char -> Option Reading
  | '"' :: rest => read edition .plain rest
  | _ => none

/-- Whatever follows, the quoted text is one literal that stands for the text. -/
def StandsFor (edition : Edition) (text : String) : Prop :=
  forall rest, readLiteral edition ((quoted text).toList ++ rest) = some ⟨units text, rest⟩

/-!
# One character after another

What the reader does with one character, and then with what follows it.
-/

section

variable {edition : Edition} {mode next : Mode} {c : Char} {us : List Nat} {rest : List Char}

theorem read_of_closed (h : step edition mode c = some ⟨us, none⟩) :
    read edition mode (c :: rest) = some ⟨us, rest⟩ := by
  rw [read, h]

theorem read_of_step (h : step edition mode c = some ⟨us, some next⟩) :
    read edition mode (c :: rest) = (read edition next rest).map (Reading.after us) := by
  rw [read, h]

theorem read_cons_cases {reading : Reading} (h : read edition mode (c :: rest) = some reading) :
    (exists us, step edition mode c = some ⟨us, none⟩ ∧ reading = ⟨us, rest⟩) ∨
    (exists us next later, step edition mode c = some ⟨us, some next⟩ ∧
      read edition next rest = some later ∧ reading = later.after us) := by
  rw [read] at h
  split at h
  · cases h
  · next us hstep => exact .inl ⟨us, hstep, (Option.some.inj h).symm⟩
  · next us next hstep =>
      rcases Option.map_eq_some_iff.mp h with ⟨later, hlater, hreading⟩
      exact .inr ⟨us, next, later, hstep, hlater, hreading.symm⟩

end

theorem step_quote (edition : Edition) : step edition .plain '"' = some ⟨[], none⟩ := rfl

theorem step_backslash (edition : Edition) :
    step edition .plain '\\' = some ⟨[], some .escape⟩ := rfl

theorem step_escape_backslash (edition : Edition) :
    step edition .escape '\\' = some ⟨unitsOf '\\'.toNat, some .plain⟩ := rfl

/-!
# Texts without backslashes

Each character of such a text is read back on its own, whether or not it was escaped.
-/

/-- Whether a character may be in a quoted text: a line feed may, since it is escaped. -/
def Edition.allows (edition : Edition) (c : Char) : Bool :=
  c == '\n' || !edition.breaksOff c

inductive Escaped : Char -> Char -> Prop where
  | lineFeed : Escaped '\n' 'n'
  | tab : Escaped '\t' 't'
  | quote : Escaped '"' '"'

theorem escapeChar_cases (c : Char) :
    (exists sign, Escaped c sign ∧ escapeChar c = ['\\', sign]) ∨
      (c ≠ '\n' ∧ c ≠ '"' ∧ escapeChar c = [c]) := by
  unfold escapeChar
  by_cases hfeed : c = '\n'
  · rw [if_pos hfeed, hfeed]
    exact .inl ⟨'n', .lineFeed, rfl⟩
  · by_cases htab : c = '\t'
    · rw [if_neg hfeed, if_pos htab, htab]
      exact .inl ⟨'t', .tab, rfl⟩
    · by_cases hquote : c = '"'
      · rw [if_neg hfeed, if_neg htab, if_pos hquote, hquote]
        exact .inl ⟨'"', .quote, rfl⟩
      · rw [if_neg hfeed, if_neg htab, if_neg hquote]
        exact .inr ⟨hfeed, hquote, rfl⟩

theorem Escaped.step_eq {c sign : Char} (h : Escaped c sign) (edition : Edition) :
    step edition .escape sign = some ⟨unitsOf c.toNat, some .plain⟩ := by
  cases h <;> rfl

theorem Escaped.allows {c sign : Char} (h : Escaped c sign) (edition : Edition) :
    edition.allows c = true := by
  cases h <;> cases edition <;> rfl

theorem escapeChars_cons_append (c : Char) (cs rest : List Char) :
    escapeChars (c :: cs) ++ rest = escapeChar c ++ (escapeChars cs ++ rest) := by
  simp [escapeChars]

theorem charUnits_cons (c : Char) (cs : List Char) :
    charUnits (c :: cs) = unitsOf c.toNat ++ charUnits cs := by
  simp [charUnits]

theorem read_escapeChar {edition : Edition} {c : Char} (hc : c ≠ '\\') (rest : List Char) :
    read edition .plain (escapeChar c ++ rest) =
      if edition.allows c then (read edition .plain rest).map (Reading.after (unitsOf c.toNat))
      else none := by
  rcases escapeChar_cases c with ⟨sign, hescaped, hchars⟩ | ⟨hfeed, hquote, hchars⟩
  · rw [hchars, if_pos (hescaped.allows edition), List.cons_append,
      read_of_step (step_backslash edition), List.cons_append,
      read_of_step (hescaped.step_eq edition)]
    simp
  · have hallows : edition.allows c = !edition.breaksOff c := by simp [Edition.allows, hfeed]
    rw [hchars, List.singleton_append, read, hallows]
    cases hbreak : edition.breaksOff c <;> simp [step, plainStep, hquote, hc, hbreak]

theorem read_escapeChars {edition : Edition} {cs : List Char} (hcs : '\\' ∉ cs)
    (rest : List Char) :
    read edition .plain (escapeChars cs ++ rest) =
      if cs.all edition.allows then (read edition .plain rest).map (Reading.after (charUnits cs))
      else none := by
  induction cs with
  | nil => simp [escapeChars, charUnits]
  | cons c cs ih =>
      rw [List.mem_cons, not_or] at hcs
      rw [escapeChars_cons_append, read_escapeChar (Ne.symm hcs.1), ih hcs.2, List.all_cons,
        charUnits_cons, Reading.after_append]
      cases edition.allows c <;> cases cs.all edition.allows <;> simp

/-!
# Texts with backslashes

A backslash takes the next character with it, so that together they stand for less than they are.
What an unfinished escape sequence can still add is bounded by its mode.
-/

/-- How many code units an unfinished escape sequence can add beyond what is still to be read. -/
def Mode.pending : Mode -> Nat
  | .plain => 0
  | .escape => 1
  | .hex .. => 1
  | .unicode => 1
  | .code _ => 2
  | .octal .. => 1
  | .afterReturn => 0

/-- The units that are added and those that are pending come from the character and the mode. -/
def Advance.Within (advance : Advance) (bound : Nat) : Prop :=
  match advance.next with
  | some next => advance.units.length + next.pending <= bound
  | none => advance.units.length + 1 <= bound

theorem Advance.Within.mono {advance : Advance} {bound larger : Nat} (h : advance.Within bound)
    (hle : bound <= larger) : advance.Within larger := by
  cases hnext : advance.next <;> simp only [Advance.Within, hnext] at h ⊢ <;> omega

theorem length_unitsOf (n : Nat) : 1 <= (unitsOf n).length ∧ (unitsOf n).length <= 2 := by
  unfold unitsOf
  split <;> simp

theorem plainStep_within {edition : Edition} {c : Char} {advance : Advance}
    (h : plainStep edition c = some advance) : advance.Within (unitsOf c.toNat).length := by
  have hunits := length_unitsOf c.toNat
  unfold plainStep at h
  split at h
  · cases h
    simpa [Advance.Within] using hunits.1
  · split at h
    · cases h
      simpa [Advance.Within, Mode.pending] using hunits.1
    · split at h
      · cases h
      · cases h
        simp [Advance.Within, Mode.pending]

theorem escapeStep_within (c : Char) : (escapeStep c).Within (unitsOf c.toNat).length := by
  have hunits := length_unitsOf c.toNat
  unfold escapeStep
  repeat' split
  all_goals simp [Advance.Within, Mode.pending]
  all_goals omega

theorem hexStep_within {left value : Nat} {c : Char} {advance : Advance}
    (h : hexStep left value c = some advance) :
    advance.Within (1 + (unitsOf c.toNat).length) := by
  rcases Option.map_eq_some_iff.mp h with ⟨digit, -, rfl⟩
  cases left <;> simp [Advance.Within, Mode.pending]

theorem codeStep_within {value : Option Nat} {c : Char} {advance : Advance}
    (h : codeStep value c = some advance) : advance.Within (2 + (unitsOf c.toNat).length) := by
  unfold codeStep at h
  split at h
  · rcases Option.map_eq_some_iff.mp h with ⟨n, -, rfl⟩
    have hunits := length_unitsOf n
    simp only [Advance.Within, Mode.pending]
    omega
  · split at h
    · split at h
      · cases h
        simp [Advance.Within, Mode.pending]
      · cases h
    · cases h

theorem octalStep_within {edition : Edition} {long : Bool} {value : Nat} {c : Char}
    {advance : Advance} (h : octalStep edition long value c = some advance) :
    advance.Within (1 + (unitsOf c.toNat).length) := by
  unfold octalStep at h
  split at h
  · split at h
    · cases h
      simp [Advance.Within, Mode.pending]
    · cases h
      simp [Advance.Within, Mode.pending]
  · rcases Option.map_eq_some_iff.mp h with ⟨later, hlater, rfl⟩
    have hwithin := plainStep_within hlater
    cases hnext : later.next <;>
      simp only [Advance.Within, hnext, List.length_cons] at hwithin ⊢ <;> omega

theorem unicodeStep_within {edition : Edition} {c : Char} {advance : Advance}
    (h : unicodeStep edition c = some advance) :
    advance.Within (1 + (unitsOf c.toNat).length) := by
  unfold unicodeStep at h
  split at h
  · cases h
    exact Nat.le_refl _
  · exact hexStep_within h

theorem returnStep_within {edition : Edition} {c : Char} {advance : Advance}
    (h : returnStep edition c = some advance) : advance.Within (unitsOf c.toNat).length := by
  unfold returnStep at h
  split at h
  · cases h
    exact Nat.zero_le _
  · exact plainStep_within h

theorem step_within {edition : Edition} {mode : Mode} {c : Char} {advance : Advance}
    (h : step edition mode c = some advance) :
    advance.Within (mode.pending + (unitsOf c.toNat).length) := by
  cases mode with
  | plain =>
      rw [Mode.pending, Nat.zero_add]
      exact plainStep_within h
  | escape =>
      rw [← Option.some.inj h]
      exact (escapeStep_within c).mono (Nat.le_add_left _ _)
  | hex left value => exact hexStep_within h
  | unicode => exact unicodeStep_within h
  | code value => exact codeStep_within h
  | octal long value => exact octalStep_within h
  | afterReturn =>
      rw [Mode.pending, Nat.zero_add]
      exact returnStep_within h

theorem step_backslash_cases {edition : Edition} {mode next : Mode} {us : List Nat}
    (h : step edition mode '\\' = some ⟨us, some next⟩) :
    (next = .escape ∧ us.length <= mode.pending) ∨
      (mode = .escape ∧ next = .plain ∧ us = unitsOf '\\'.toNat) := by
  have hbreak : plainStep edition '\\' = some ⟨[], some .escape⟩ := rfl
  have hdigit (radix : Nat) : digitValue? radix '\\' = none := rfl
  cases mode with
  | plain =>
      cases h
      exact .inl ⟨rfl, Nat.le_refl _⟩
  | escape =>
      cases h
      exact .inr ⟨rfl, rfl, rfl⟩
  | hex left value => simp [step, hexStep, hdigit] at h
  | unicode => cases edition <;> cases h
  | code value => simp [step, codeStep, hdigit] at h
  | octal long value =>
      simp only [step, octalStep, hdigit, hbreak, Option.map_some, Option.some.injEq,
        Advance.mk.injEq] at h
      rcases h with ⟨rfl, rfl⟩
      exact .inl ⟨rfl, Nat.le_refl _⟩
  | afterReturn =>
      cases h
      exact .inl ⟨rfl, Nat.le_refl _⟩

/-- Without its backslash a sign stands for itself, except for the quote, which ends the literal. -/
theorem Escaped.read_plain {edition : Edition} {c sign : Char} {rest : List Char}
    {reading : Reading} (hescaped : Escaped c sign)
    (h : read edition .plain (sign :: rest) = some reading) (hall : reading.rest = [])
    (hrest : rest ≠ []) :
    sign ≠ c ∧ exists later, read edition .plain rest = some later ∧
      reading = later.after (unitsOf sign.toNat) := by
  have hletter (hstep : step edition .plain sign = some ⟨unitsOf sign.toNat, some .plain⟩) :
      exists later, read edition .plain rest = some later ∧
        reading = later.after (unitsOf sign.toNat) := by
    rw [read_of_step hstep] at h
    rcases Option.map_eq_some_iff.mp h with ⟨later, hlater, hreading⟩
    exact ⟨later, hlater, hreading.symm⟩
  cases hescaped with
  | lineFeed | tab =>
      refine ⟨by decide, hletter ?_⟩
      cases edition <;> rfl
  | quote =>
      rw [read_of_closed (step_quote edition)] at h
      cases h
      exact absurd hall hrest

/-- A reading that does not end with what stands for one character goes on after it. -/
theorem read_escapeChar_within {edition : Edition} {mode : Mode} {c : Char} {rest : List Char}
    {reading : Reading} (h : read edition mode (escapeChar c ++ rest) = some reading)
    (hall : reading.rest = []) (hrest : rest ≠ []) :
    exists us next later, read edition next rest = some later ∧ reading = later.after us ∧
      us.length + next.pending <= mode.pending + (unitsOf c.toNat).length := by
  rcases escapeChar_cases c with ⟨sign, hescaped, hchars⟩ | ⟨hfeed, hquote, hchars⟩
  · rw [hchars, List.cons_append, List.cons_append, List.nil_append] at h
    rcases read_cons_cases h with ⟨us, hstep, rfl⟩ | ⟨us, next, later, hstep, hlater, rfl⟩
    · cases hall
    · rcases step_backslash_cases hstep with ⟨rfl, hus⟩ | ⟨rfl, rfl, rfl⟩
      · rw [read_of_step (hescaped.step_eq edition)] at hlater
        rcases Option.map_eq_some_iff.mp hlater with ⟨last, hlast, rfl⟩
        refine ⟨us ++ unitsOf c.toNat, .plain, last, hlast, ?_, ?_⟩
        · rw [Reading.after_append]
          rfl
        · rw [List.length_append, Mode.pending]
          omega
      · rcases hescaped.read_plain hlater hall hrest with ⟨-, last, hlast, rfl⟩
        refine ⟨unitsOf '\\'.toNat ++ unitsOf sign.toNat, .plain, last, hlast, ?_, ?_⟩
        · rw [Reading.after_append]
          rfl
        · cases hescaped <;> decide
  · rw [hchars, List.singleton_append] at h
    rcases read_cons_cases h with ⟨us, hstep, rfl⟩ | ⟨us, next, later, hstep, hlater, rfl⟩
    · exact absurd hall hrest
    · exact ⟨us, next, later, hlater, rfl, step_within hstep⟩

theorem read_escapeChars_length {edition : Edition} {mode : Mode} {cs : List Char}
    {reading : Reading} (h : read edition mode (escapeChars cs ++ ['"']) = some reading)
    (hall : reading.rest = []) :
    reading.units.length <= mode.pending + (charUnits cs).length := by
  induction cs generalizing mode reading with
  | nil =>
      rcases read_cons_cases h with ⟨us, hstep, rfl⟩ | ⟨us, next, later, hstep, hlater, rfl⟩
      · exact Nat.le_of_succ_le_succ (step_within hstep)
      · cases hlater
  | cons c cs ih =>
      rw [escapeChars_cons_append] at h
      rcases read_escapeChar_within h hall (by simp) with ⟨us, next, later, hlater, rfl, hwithin⟩
      have hlength := ih hlater hall
      rw [charUnits_cons, Reading.after, List.length_append, List.length_append]
      omega

/-- What follows a backslash never reads as that backslash and the text that follows it. -/
theorem read_escape_ne (edition : Edition) (cs : List Char) :
    read edition .escape (escapeChars cs ++ ['"']) ≠
      some ⟨unitsOf '\\'.toNat ++ charUnits cs, []⟩ := by
  intro h
  cases cs with
  | nil => cases h
  | cons c cs =>
      rw [escapeChars_cons_append, charUnits_cons] at h
      rcases escapeChar_cases c with ⟨sign, hescaped, hsign⟩ | ⟨hfeed, hquote, hsign⟩
      · -- The backslash takes that of the escaped character, whose sign then stands for itself.
        rw [hsign, List.cons_append, read_of_step (step_escape_backslash edition)]
          at h
        rcases Option.map_eq_some_iff.mp h with ⟨later, hlater, hreading⟩
        have hall : later.rest = [] := congrArg Reading.rest hreading
        rcases hescaped.read_plain hlater hall (by simp) with ⟨hne, last, hlast, rfl⟩
        have hsame := List.append_cancel_left (congrArg Reading.units hreading)
        cases hescaped with
        | lineFeed | tab => cases hsame
        | quote => exact hne rfl
      · -- Otherwise too few units are left.
        rw [hsign, List.singleton_append] at h
        rcases read_cons_cases h with ⟨us, hstep, hreading⟩ |
          ⟨us, next, later, hstep, hlater, hreading⟩
        · simpa using congrArg Reading.rest hreading
        · have hall : later.rest = [] := (congrArg Reading.rest hreading).symm
          have hlater := read_escapeChars_length hlater hall
          have hwithin := escapeStep_within c
          rw [Option.some.inj hstep] at hwithin
          have hlength := congrArg (fun reading => reading.units.length) hreading
          have hbackslash := (length_unitsOf '\\'.toNat).1
          simp only [Advance.Within, Reading.after, List.length_append] at hwithin hlength
          omega

/-- The text that is quoted is read from its opening to its closing quote. -/
theorem readLiteral_quoted (edition : Edition) (text : String) (rest : List Char) :
    readLiteral edition ((quoted text).toList ++ rest) =
      read edition .plain (escapeChars text.toList ++ ('"' :: rest)) := by
  have hquote : "\"".toList = ['"'] := rfl
  simp only [quoted, String.toList_append, String.toList_ofList, hquote, List.append_assoc,
    List.singleton_append, readLiteral]
  rfl

theorem standsFor_of_no_backslash {edition : Edition} {text : String}
    (htext : '\\' ∉ text.toList) (hallowed : text.toList.all edition.allows = true) :
    StandsFor edition text := by
  intro rest
  rw [readLiteral_quoted, read_escapeChars htext, if_pos hallowed,
    read_of_closed (step_quote edition)]
  simp [Reading.after, units]

theorem not_standsFor_of_backslash {edition : Edition} {text : String}
    (htext : '\\' ∈ text.toList) : ¬ StandsFor edition text := by
  intro hstands
  have hread := hstands []
  rcases List.eq_append_cons_of_mem htext with ⟨before, after, hsplit, hbefore⟩
  have hchars : escapeChars text.toList ++ ['"'] =
      escapeChars before ++ ('\\' :: (escapeChars after ++ ['"'])) := by
    rw [hsplit]
    simp [escapeChars, escapeChar]
  have hunits : units text = charUnits before ++ (unitsOf '\\'.toNat ++ charUnits after) := by
    rw [units, hsplit]
    simp [charUnits]
  rw [readLiteral_quoted, hchars, read_escapeChars hbefore,
    read_of_step (step_backslash edition), hunits] at hread
  cases hallowed : before.all edition.allows with
  | false => simp [hallowed] at hread
  | true =>
      rw [if_pos hallowed, Reading.after_nil, Option.map_id, id_eq] at hread
      rcases Option.map_eq_some_iff.mp hread with ⟨later, hlater, hreading⟩
      have hlaterEq : later = ⟨unitsOf '\\'.toNat ++ charUnits after, []⟩ := by
        cases later with
        | mk us rest =>
            have hus := List.append_cancel_left (congrArg Reading.units hreading)
            have hrest : rest = [] := congrArg Reading.rest hreading
            rw [hrest]
            exact congrArg (Reading.mk · []) hus
      exact read_escape_ne edition after (hlaterEq ▸ hlater)

/--
A quoted text is read as one literal that stands for the text, provided that it holds no backslash
and no other line break than line feeds.  With a backslash it never is.
-/
theorem quoted_standsFor (edition : Edition) (text : String) :
    ('\\' ∉ text.toList -> text.toList.all edition.allows = true -> StandsFor edition text) ∧
      ('\\' ∈ text.toList -> ¬ StandsFor edition text) :=
  ⟨standsFor_of_no_backslash, not_standsFor_of_backslash⟩

theorem quoted_lines_standFor :
    let text := "Say \"yes\"\tor\n\"no\""
    '\\' ∉ text.toList ∧ text.toList.all Edition.fifth.allows = true ∧
      StandsFor .fifth text ∧ ¬ StandsFor .fifth (text ++ "\\") := by
  intro text
  have htext : '\\' ∉ text.toList := by decide
  have hallowed : text.toList.all Edition.fifth.allows = true := by decide
  exact ⟨htext, hallowed, (quoted_standsFor .fifth text).1 htext hallowed,
    (quoted_standsFor .fifth (text ++ "\\")).2 (by decide)⟩

/-- A backslash before a quote takes the one that escapes it, and the rest of the text is code. -/
theorem backslash_before_quote_ends_literal :
    let text := "\\\"); quit(); //"
    readLiteral .fifth (quoted text).toList = some ⟨units "\\", "); quit(); //\"".toList⟩ ∧
      ¬ StandsFor .fifth text :=
  ⟨by decide, not_standsFor_of_backslash (by decide)⟩

end Literal

end Script
end TutorialKit
