import Mathlib.Data.List.Basic
import TutorialKit.Xml.Token

/-!
# Scanning without offsets

Offsets serve errors only.  Without them the scanner is an automaton that reads one character after
the other, and what it finds in a text can be put together from what it finds in its parts.  What is
found inside some open elements is found inside any others around them.
-/

namespace TutorialKit
namespace Xml

def TokenStream.found (stream : TokenStream) : Option (List Token) :=
  match stream.ending with
  | .complete _ => some (stream.tokens.map Located.value)
  | .failed .. => none

def textTokens (held : List Char) : List Token :=
  if held.isEmpty then [] else [.text held.reverse]

def Token.opened (outer : List (List Char)) : Token -> List (List Char)
  | .start content => tagName content :: outer
  | .close => outer.tail
  | _ => outer

/-- Where the scanner stands between two characters. -/
structure Cursor where
  mode : TokenMode
  opened : List (List Char)

namespace Cursor

/-!
# The automaton

The state of the scanner is its mode, which holds what has been collected so far, and the names of
the open elements.
-/

def behind : Markup -> Option (List Token × Cursor)
  | .error _ => none
  | .ok (token, opened) => some ([token], ⟨.text [], opened⟩)

/-- The tokens that a character completes, and where the scanner stands after it. -/
def advance (cursor : Cursor) (c : Char) : Option (List Token × Cursor) :=
  let on (mode : TokenMode) : Option (List Token × Cursor) := some ([], ⟨mode, cursor.opened⟩)
  match cursor.mode with
  | .text held =>
      if c = '<' then some (textTokens held, ⟨.opened 0, cursor.opened⟩)
      else if c = '&' then some (textTokens held, ⟨.reference 0 [], cursor.opened⟩)
      else on (.text (c :: held))
  | .reference _ held =>
      if c = ';' then behind (.ok (.reference held.reverse, cursor.opened))
      else if c = '&' || c = '<' then none
      else on (.reference 0 (c :: held))
  | .opened _ =>
      if c = '>' then behind (tagMarkup 0 cursor.opened [])
      else if c = '!' then on (.bang 0)
      else if c = '?' then on (.instruction 0 ['?'])
      else on (.tag 0 (quoteAfter none c) [c])
  | .bang _ =>
      if c = '[' then on (.characterData 0 ['[', '!'])
      else if c = '-' then on (.comment 0 ['-', '!'])
      else if c = 'D' || c = 'd' then on (.doctype 0 0 [c, '!'])
      else none
  | .tag _ quote held =>
      if c = '>' && quote.isNone then behind (tagMarkup 0 cursor.opened held.reverse)
      else on (.tag 0 (quoteAfter quote c) (c :: held))
  | .characterData _ held =>
      if c = '>' && held.take 2 == [']', ']'] then
        behind (characterDataMarkup 0 cursor.opened held.reverse)
      else on (.characterData 0 (c :: held))
  | .comment _ held =>
      if c = '>' && held.take 2 == ['-', '-'] && 5 <= held.length then
        behind (commentMarkup 0 cursor.opened held.reverse)
      else on (.comment 0 (c :: held))
  | .doctype _ depth held =>
      if c = '>' && depth == 0 then behind (doctypeMarkup 0 0 cursor.opened held.reverse)
      else
        on (.doctype 0 (if c = '<' then depth + 1 else if c = '>' then depth - 1 else depth)
          (c :: held))
  | .instruction _ held =>
      if c = '>' && held.head? == some '?' then
        behind (instructionMarkup 0 cursor.opened held.reverse)
      else on (.instruction 0 (c :: held))

def finish (cursor : Cursor) : Option (List Token) :=
  match cursor.mode with
  | .text held => some (textTokens held)
  | _ => none

def scan (cursor : Cursor) : List Char -> Option (List Token × Cursor)
  | [] => some ([], cursor)
  | c :: rest =>
      (cursor.advance c).bind fun step =>
        (step.2.scan rest).map fun later => (step.1 ++ later.1, later.2)

/-- All tokens of a text that ends. -/
def tokens (cursor : Cursor) : List Char -> Option (List Token)
  | [] => cursor.finish
  | c :: rest => (cursor.advance c).bind fun step => (step.2.tokens rest).map (step.1 ++ ·)

theorem scan_append (cursor : Cursor) (cs ds : List Char) :
    cursor.scan (cs ++ ds) = (cursor.scan cs).bind fun step =>
      (step.2.scan ds).map fun later => (step.1 ++ later.1, later.2) := by
  induction cs generalizing cursor with
  | nil => simp [scan]
  | cons c rest ih =>
      rw [List.cons_append, scan, scan]
      cases cursor.advance c with
      | none => rfl
      | some step =>
          rw [Option.bind_some, Option.bind_some, ih]
          cases step.2.scan rest with
          | none => rfl
          | some later => simp [Option.map_map, Function.comp_def]

theorem tokens_append (cursor : Cursor) (cs ds : List Char) :
    cursor.tokens (cs ++ ds) = (cursor.scan cs).bind fun step =>
      (step.2.tokens ds).map (step.1 ++ ·) := by
  induction cs generalizing cursor with
  | nil => simp [scan]
  | cons c rest ih =>
      rw [List.cons_append, tokens, scan]
      cases cursor.advance c with
      | none => rfl
      | some step =>
          rw [Option.bind_some, Option.bind_some, ih]
          cases step.2.scan rest with
          | none => rfl
          | some later => simp [Option.map_map, Function.comp_def]

/-- A text without errors ends where text is read, which its end completes. -/
theorem exists_scan {cursor : Cursor} {cs : List Char} {found : List Token}
    (h : cursor.tokens cs = some found) :
    exists before held opened, cursor.scan cs = some (before, ⟨.text held, opened⟩) ∧
      found = before ++ textTokens held := by
  induction cs generalizing cursor found with
  | nil =>
      rcases cursor with ⟨mode, opened⟩
      cases mode with
      | text held =>
          cases h
          exact ⟨[], held, opened, rfl, rfl⟩
      | _ => cases h
  | cons c rest ih =>
      rcases Option.bind_eq_some_iff.mp h with ⟨step, hadvance, hlater⟩
      rcases Option.map_eq_some_iff.mp hlater with ⟨later, hrest, rfl⟩
      rcases ih hrest with ⟨before, held, opened, hscan, rfl⟩
      refine ⟨step.1 ++ before, held, opened, ?_, (List.append_assoc ..).symm⟩
      rw [scan, hadvance, Option.bind_some, hscan, Option.map_some]

/-!
# The scanner is the automaton

The scanner works with offsets, which are taken away here.
-/

theorem found_cons (token : Token) (offset : Nat) (later : TokenStream) :
    (later.cons token offset).found = later.found.map ([token] ++ ·) := by
  unfold TokenStream.found TokenStream.cons
  cases later.ending <;> rfl

theorem found_consText (held : List Char) (offset : Nat) (later : TokenStream) :
    (TokenStream.consText held offset later).found = later.found.map (textTokens held ++ ·) := by
  unfold TokenStream.consText textTokens
  split
  · simp
  · exact found_cons _ offset later

def unplaced : TokenMode -> TokenMode
  | .text held => .text held
  | .reference _ held => .reference 0 held
  | .opened _ => .opened 0
  | .bang _ => .bang 0
  | .tag _ quote held => .tag 0 quote held
  | .characterData _ held => .characterData 0 held
  | .comment _ held => .comment 0 held
  | .doctype _ depth held => .doctype 0 depth held
  | .instruction _ held => .instruction 0 held

theorem tokens_unplaced (mode : TokenMode) (opened : List (List Char)) (cs : List Char) :
    (Cursor.mk (unplaced mode) opened).tokens cs = (Cursor.mk mode opened).tokens cs := by
  cases mode <;> cases cs <;> rfl

theorem behind_tagMarkup (start : Nat) (opened : List (List Char)) (content : List Char) :
    behind (tagMarkup start opened content) = behind (tagMarkup 0 opened content) := by
  unfold tagMarkup endMarkup
  split
  · cases opened with
    | nil => rfl
    | cons innermost outer =>
        dsimp only
        split_ifs <;> rfl
  · rfl

theorem behind_characterDataMarkup (start : Nat) (opened : List (List Char))
    (content : List Char) :
    behind (characterDataMarkup start opened content) =
      behind (characterDataMarkup 0 opened content) := by
  unfold characterDataMarkup
  dsimp only
  split_ifs <;> rfl

theorem behind_commentMarkup (start : Nat) (opened : List (List Char)) (content : List Char) :
    behind (commentMarkup start opened content) = behind (commentMarkup 0 opened content) := by
  unfold commentMarkup
  split_ifs <;> rfl

theorem behind_doctypeMarkup (start finish : Nat) (opened : List (List Char))
    (content : List Char) :
    behind (doctypeMarkup start finish opened content) =
      behind (doctypeMarkup 0 0 opened content) := by
  unfold doctypeMarkup
  split_ifs <;> rfl

theorem behind_instructionMarkup (start : Nat) (opened : List (List Char))
    (content : List Char) :
    behind (instructionMarkup start opened content) =
      behind (instructionMarkup 0 opened content) := by
  unfold instructionMarkup
  split_ifs <;> rfl

/-!
## One character

Wherever the scanner stands, a character either goes on inside some markup or completes it.  Each
mode is treated on its own, given that the two agree on the text that remains.
-/

/-- The scanner finds what the automaton finds, wherever they stand. -/
def Agree (cs : List Char) : Prop :=
  forall (mode : TokenMode) (opened : List (List Char)) (offset : Nat),
    (scanTokens mode opened offset cs).found = (Cursor.mk mode opened).tokens cs

/-- What is found in the rest of a text, after what has been found before. -/
def tokensAfter (rest : List Char) (step : Option (List Token × Cursor)) : Option (List Token) :=
  step.bind fun step => (step.2.tokens rest).map (step.1 ++ ·)

theorem tokens_cons (cursor : Cursor) (c : Char) (rest : List Char) :
    cursor.tokens (c :: rest) = tokensAfter rest (cursor.advance c) := rfl

namespace Agree

variable {rest : List Char}

theorem behindText (h : Agree rest) (mode : TokenMode) (opened : List (List Char))
    (held : List Char) (offset next : Nat) :
    (TokenStream.consText held offset (scanTokens mode opened next rest)).found =
      tokensAfter rest (some (textTokens held, ⟨unplaced mode, opened⟩)) := by
  rw [found_consText, h, ← tokens_unplaced]
  rfl

theorem inside (h : Agree rest) (mode : TokenMode) (opened : List (List Char)) (next : Nat) :
    (scanTokens mode opened next rest).found =
      tokensAfter rest (some ([], ⟨unplaced mode, opened⟩)) :=
  h.behindText mode opened [] next next

theorem behindMarkup (h : Agree rest) (placed : Markup) {markup : Markup}
    (hbehind : behind placed = behind markup) (next : Nat) :
    (match placed with
      | .error (error, place) => TokenStream.failed error place
      | .ok (token, opened) => (scanTokens (.text []) opened next rest).cons token next).found =
      tokensAfter rest (behind markup) := by
  rw [← hbehind]
  cases placed with
  | error fault => rfl
  | ok found =>
      rw [found_cons, h]
      rfl

section

variable (h : Agree rest) (opened : List (List Char)) (offset start : Nat) (held : List Char)
  (c : Char)

include h

theorem text :
    (scanTokens (.text held) opened offset (c :: rest)).found =
      tokensAfter rest (advance ⟨.text held, opened⟩ c) := by
  simp only [scanTokens, advance]
  split_ifs
  · exact h.behindText (.opened offset) _ _ _ _
  · exact h.behindText (.reference offset []) _ _ _ _
  · exact h.inside (.text _) _ _

theorem reference :
    (scanTokens (.reference start held) opened offset (c :: rest)).found =
      tokensAfter rest (advance ⟨.reference start held, opened⟩ c) := by
  simp only [scanTokens, advance]
  split_ifs
  · exact h.behindMarkup (.ok (.reference held.reverse, opened)) rfl _
  · rfl
  · exact h.inside (.reference start _) _ _

theorem opening :
    (scanTokens (.opened start) opened offset (c :: rest)).found =
      tokensAfter rest (advance ⟨.opened start, opened⟩ c) := by
  simp only [scanTokens, advance]
  split_ifs
  · exact h.behindMarkup _ (behind_tagMarkup start opened []) _
  · exact h.inside (.bang start) _ _
  · exact h.inside (.instruction start _) _ _
  · exact h.inside (.tag start _ _) _ _

theorem bang :
    (scanTokens (.bang start) opened offset (c :: rest)).found =
      tokensAfter rest (advance ⟨.bang start, opened⟩ c) := by
  simp only [scanTokens, advance]
  split_ifs
  · exact h.inside (.characterData start _) _ _
  · exact h.inside (.comment start _) _ _
  · exact h.inside (.doctype start _ _) _ _
  · rfl

theorem tag (quote : Option Char) :
    (scanTokens (.tag start quote held) opened offset (c :: rest)).found =
      tokensAfter rest (advance ⟨.tag start quote held, opened⟩ c) := by
  simp only [scanTokens, advance]
  split_ifs
  · exact h.behindMarkup _ (behind_tagMarkup start opened held.reverse) _
  · exact h.inside (.tag start _ _) _ _

theorem characterData :
    (scanTokens (.characterData start held) opened offset (c :: rest)).found =
      tokensAfter rest (advance ⟨.characterData start held, opened⟩ c) := by
  simp only [scanTokens, advance]
  split_ifs
  · exact h.behindMarkup _ (behind_characterDataMarkup start opened held.reverse) _
  · exact h.inside (.characterData start _) _ _

theorem comment :
    (scanTokens (.comment start held) opened offset (c :: rest)).found =
      tokensAfter rest (advance ⟨.comment start held, opened⟩ c) := by
  simp only [scanTokens, advance]
  split_ifs
  · exact h.behindMarkup _ (behind_commentMarkup start opened held.reverse) _
  · exact h.inside (.comment start _) _ _

theorem doctype (depth : Nat) :
    (scanTokens (.doctype start depth held) opened offset (c :: rest)).found =
      tokensAfter rest (advance ⟨.doctype start depth held, opened⟩ c) := by
  simp only [scanTokens, advance]
  split_ifs
  · exact h.behindMarkup _ (behind_doctypeMarkup start offset opened held.reverse) _
  all_goals exact h.inside (.doctype start _ _) _ _

theorem instruction :
    (scanTokens (.instruction start held) opened offset (c :: rest)).found =
      tokensAfter rest (advance ⟨.instruction start held, opened⟩ c) := by
  simp only [scanTokens, advance]
  split_ifs
  · exact h.behindMarkup _ (behind_instructionMarkup start opened held.reverse) _
  · exact h.inside (.instruction start _) _ _

end

end Agree

theorem agree (cs : List Char) : Agree cs := by
  induction cs with
  | nil =>
      intro mode opened offset
      cases mode with
      | text held =>
          rw [scanTokens, TokenMode.finish, found_consText]
          simp [TokenStream.found, tokens, finish]
      | _ => rfl
  | cons c rest ih =>
      intro mode opened offset
      rw [tokens_cons]
      cases mode with
      | text held => exact ih.text opened offset held c
      | reference start held => exact ih.reference opened offset start held c
      | opened start => exact ih.opening opened offset start c
      | bang start => exact ih.bang opened offset start c
      | tag start quote held => exact ih.tag opened offset start held c quote
      | characterData start held => exact ih.characterData opened offset start held c
      | comment start held => exact ih.comment opened offset start held c
      | doctype start depth held => exact ih.doctype opened offset start held c depth
      | instruction start held => exact ih.instruction opened offset start held c

theorem found_scanTokens (cs : List Char) (mode : TokenMode) (opened : List (List Char))
    (offset : Nat) :
    (scanTokens mode opened offset cs).found = (Cursor.mk mode opened).tokens cs :=
  agree cs mode opened offset

/-!
# Open elements

Elements that are open around a text are neither closed nor looked at by what closes its own
elements.
-/

def within (cursor : Cursor) (outer : List (List Char)) : Cursor :=
  { cursor with opened := cursor.opened ++ outer }

/--
What is found tells which elements are open behind it, and is found inside any other elements as
well.
-/
def Nests (read : List (List Char) -> Option (List Token × Cursor)) : Prop :=
  forall (opened : List (List Char)) (found : List Token) (next : Cursor),
    read opened = some (found, next) ->
      next.opened = found.foldl Token.opened opened ∧
        forall outer, read (opened ++ outer) = some (found, next.within outer)

theorem nests_none : Nests fun _ => none := by
  intro opened found next h
  cases h

theorem nests_some {found : List Token}
    (hfound : forall opened, found.foldl Token.opened opened = opened) (mode : TokenMode) :
    Nests fun opened => some (found, ⟨mode, opened⟩) := by
  intro opened found next h
  cases h
  exact ⟨(hfound opened).symm, fun outer => rfl⟩

theorem nests_text (held : List Char) (mode : TokenMode) :
    Nests fun opened => some (textTokens held, ⟨mode, opened⟩) := by
  apply nests_some
  intro opened
  unfold textTokens
  split <;> rfl

theorem nests_ite {read other : List (List Char) -> Option (List Token × Cursor)} (p : Prop)
    [Decidable p] (hread : Nests read) (hother : Nests other) :
    Nests fun opened => if p then read opened else other opened := by
  by_cases hp : p
  · simpa only [hp, if_true] using hread
  · simpa only [hp, if_false] using hother

theorem behind_ite (p : Prop) [Decidable p] (markup other : Markup) :
    behind (if p then markup else other) = if p then behind markup else behind other :=
  apply_ite behind p markup other

theorem nests_tagMarkup (content : List Char) :
    Nests fun opened => behind (tagMarkup 0 opened content) := by
  unfold tagMarkup
  split
  · intro opened found next h
    cases opened with
    | nil => cases h
    | cons innermost others =>
        simp only [endMarkup, behind_ite] at h
        simp only [List.cons_append, endMarkup, behind_ite]
        split_ifs at h ⊢
        · cases h
          exact ⟨rfl, fun outer => rfl⟩
        · cases h
  · simp only [behind_ite]
    apply nests_ite
    · exact nests_some (fun opened => rfl) _
    · intro opened found next h
      cases h
      exact ⟨rfl, fun outer => rfl⟩

theorem nests_characterDataMarkup (content : List Char) :
    Nests fun opened => behind (characterDataMarkup 0 opened content) := by
  simp only [characterDataMarkup, behind_ite]
  exact nests_ite _ (nests_some (fun opened => rfl) _) nests_none

theorem nests_commentMarkup (content : List Char) :
    Nests fun opened => behind (commentMarkup 0 opened content) := by
  simp only [commentMarkup, behind_ite]
  exact nests_ite _ (nests_some (fun opened => rfl) _) nests_none

theorem nests_doctypeMarkup (content : List Char) :
    Nests fun opened => behind (doctypeMarkup 0 0 opened content) := by
  simp only [doctypeMarkup, behind_ite]
  exact nests_ite _ (nests_ite _ nests_none (nests_some (fun opened => rfl) _)) nests_none

theorem nests_instructionMarkup (content : List Char) :
    Nests fun opened => behind (instructionMarkup 0 opened content) := by
  simp only [instructionMarkup, behind_ite]
  exact nests_ite _ nests_none
    (nests_ite _ (nests_some (fun opened => rfl) _) (nests_some (fun opened => rfl) _))

theorem nests_advance (mode : TokenMode) (c : Char) :
    Nests fun opened => (Cursor.mk mode opened).advance c := by
  have hon (mode : TokenMode) : Nests fun opened => some ([], ⟨mode, opened⟩) :=
    nests_some (fun opened => rfl) mode
  cases mode with
  | text held =>
      exact nests_ite _ (nests_text held _) (nests_ite _ (nests_text held _) (hon _))
  | reference start held =>
      exact nests_ite _ (nests_some (fun opened => rfl) _) (nests_ite _ nests_none (hon _))
  | opened start =>
      exact nests_ite _ (nests_tagMarkup []) (nests_ite _ (hon _) (nests_ite _ (hon _) (hon _)))
  | bang start =>
      exact nests_ite _ (hon _) (nests_ite _ (hon _) (nests_ite _ (hon _) nests_none))
  | tag start quote held => exact nests_ite _ (nests_tagMarkup _) (hon _)
  | characterData start held => exact nests_ite _ (nests_characterDataMarkup _) (hon _)
  | comment start held => exact nests_ite _ (nests_commentMarkup _) (hon _)
  | doctype start depth held => exact nests_ite _ (nests_doctypeMarkup _) (hon _)
  | instruction start held => exact nests_ite _ (nests_instructionMarkup _) (hon _)

theorem nests_scan (mode : TokenMode) (cs : List Char) :
    Nests fun opened => (Cursor.mk mode opened).scan cs := by
  intro opened found next h
  induction cs generalizing mode opened found with
  | nil =>
      cases h
      exact ⟨rfl, fun outer => rfl⟩
  | cons c rest ih =>
      rcases Option.bind_eq_some_iff.mp h with ⟨step, hadvance, hlater⟩
      rcases Option.map_eq_some_iff.mp hlater with ⟨later, hrest, heq⟩
      cases heq
      rcases nests_advance mode c opened step.1 step.2 hadvance with ⟨hopened, hwithin⟩
      rcases ih step.2.mode step.2.opened later.1 hrest with ⟨hlast, hlater'⟩
      constructor
      · rw [hlast, hopened, List.foldl_append]
      · intro outer
        exact Option.bind_eq_some_iff.mpr
          ⟨_, hwithin outer, Option.map_eq_some_iff.mpr ⟨_, hlater' outer, rfl⟩⟩

/-- What is found where nothing is open is found inside any elements. -/
theorem scan_within {mode : TokenMode} {cs : List Char} {found : List Token} {next : Cursor}
    (h : (Cursor.mk mode []).scan cs = some (found, next)) (opened : List (List Char)) :
    (Cursor.mk mode opened).scan cs = some (found, next.within opened) :=
  (nests_scan mode cs [] found next h).2 opened

end Cursor

theorem found_tokens (cs : List Char) :
    (tokens cs).found = (Cursor.mk (.text []) []).tokens (dropByteOrderMark cs) :=
  Cursor.found_scanTokens _ _ _ _

end Xml
end TutorialKit
