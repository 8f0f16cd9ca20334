import TutorialKit.Document.Reading
import TutorialKit.Document.Written
import TutorialKit.Proofs.Xml.Attributes
import TutorialKit.Proofs.Xml.Closing

/-!
# Passages of a document

Reading goes on from where the scanner and the reader stand.  What a passage of written markup does
to both is said once for every kind of tag and for escaped text, whatever may follow, so that
passages can be joined.
-/

namespace TutorialKit

open Xml

namespace ReadState

def readFrom (state : ReadState) (mode : TokenMode) (opened : List (List Char)) (offset : Nat)
    (cs : List Char) : Except (Located ReadFault) Tutorial :=
  let stream := scanTokens mode opened offset cs
  state.run stream.tokens stream.ending

def proceed (result : Except ReadFault ReadState) (offset : Nat)
    (next : ReadState -> Except (Located ReadFault) Tutorial) :
    Except (Located ReadFault) Tutorial :=
  match result with
  | .error fault => .error ⟨fault, offset⟩
  | .ok state => next state

/-!
# Text

Escaped text is read character by character, and is added as it was before it was escaped.
-/

theorem readFrom_plain (state : ReadState) (held : List Char) (opened : List (List Char))
    (offset : Nat) {c : Char} (hlt : c ≠ '<') (hamp : c ≠ '&') (rest : List Char) :
    state.readFrom (.text held) opened offset (c :: rest) =
      state.readFrom (.text (c :: held)) opened (offset + c.utf8Size) rest := by
  simp only [readFrom, scanTokens_plain held opened offset hlt hamp]

theorem readFrom_plains (state : ReadState) (held : List Char) (opened : List (List Char))
    (offset : Nat) {cs : List Char} (hcs : forall c, c ∈ cs -> c ≠ '<' ∧ c ≠ '&')
    (rest : List Char) :
    state.readFrom (.text held) opened offset (cs ++ rest) =
      state.readFrom (.text (cs.reverse ++ held)) opened (offset + utf8Length cs) rest := by
  induction cs generalizing held offset with
  | nil => simp [utf8Length]
  | cons c cs ih =>
      rw [List.forall_mem_cons] at hcs
      rw [List.cons_append, readFrom_plain _ _ _ _ hcs.1.1 hcs.1.2, ih _ _ hcs.2]
      simp [utf8Length, Nat.add_assoc]

theorem addText_nothing (frames : List Frame) : addText "" frames = frames := by
  cases frames with
  | nil => rfl
  | cons top below => cases top <;> simp [addText, Frame.addText]

theorem addText_addText (first second : String) (frames : List Frame) :
    addText second (addText first frames) = addText (first ++ second) frames := by
  cases frames with
  | nil => rfl
  | cons top below => cases top <;> simp [addText, Frame.addText, String.append_assoc]

theorem readFrom_consText (tutorial : Tutorial) (frames : List Frame) (held : List Char)
    (offset : Nat) (later : TokenStream) :
    (inside tutorial frames).run (TokenStream.consText held offset later).tokens
        (TokenStream.consText held offset later).ending =
      (inside tutorial (addText (String.ofList held.reverse) frames)).run later.tokens
        later.ending := by
  cases held with
  | nil => rw [List.reverse_nil, String.ofList_nil, addText_nothing]; rfl
  | cons c held => rfl

theorem readFrom_lessThan (tutorial : Tutorial) (frames : List Frame) (held : List Char)
    (opened : List (List Char)) (offset : Nat) (rest : List Char) :
    (inside tutorial frames).readFrom (.text held) opened offset ('<' :: rest) =
      (inside tutorial (addText (String.ofList held.reverse) frames)).readFrom (.opened offset)
        opened (offset + 1) rest := by
  simp only [readFrom, scanTokens, if_true, readFrom_consText]
  rfl

theorem readFrom_ampersand (tutorial : Tutorial) (frames : List Frame) (held : List Char)
    (opened : List (List Char)) (offset : Nat) (rest : List Char) :
    (inside tutorial frames).readFrom (.text held) opened offset ('&' :: rest) =
      (inside tutorial (addText (String.ofList held.reverse) frames)).readFrom
        (.reference offset []) opened (offset + 1) rest := by
  simp only [readFrom, scanTokens, if_true, show ('&' = '<') = False from by decide, if_false,
    readFrom_consText]
  rfl

theorem readFrom_reference (tutorial : Tutorial) (frames : List Frame) (start : Nat)
    (held : List Char) (opened : List (List Char)) (offset : Nat) {name : List Char} {c : Char}
    (hname : forall d, d ∈ name -> d ≠ '&' ∧ d ≠ ';' ∧ d ≠ '<')
    (hresolve : resolve (held.reverse ++ name) = .ok c) (rest : List Char) :
    (inside tutorial frames).readFrom (.reference start held) opened offset
        (name ++ ';' :: rest) =
      (inside tutorial (addText (String.ofList [c]) frames)).readFrom (.text []) opened
        (offset + utf8Length name + 1) rest := by
  induction name generalizing held offset with
  | nil =>
      rw [List.append_nil] at hresolve
      simp only [readFrom, List.nil_append, scanTokens, if_true, TokenStream.cons, run, takeToken,
        Event.ofToken, hresolve]
      rfl
  | cons d name ih =>
      rw [List.forall_mem_cons] at hname
      have hnext := ih (d :: held) (offset + d.utf8Size) hname.2 (by simpa using hresolve)
      simp only [readFrom] at hnext ⊢
      simp only [List.cons_append, scanTokens, hname.1, decide_false, Bool.or_self,
        Bool.false_eq_true, if_false, hnext]
      simp only [utf8Length, Nat.add_assoc]

/-- Escaped text is added as it was before it was escaped. -/
theorem readFrom_escapeText (tutorial : Tutorial) (frames : List Frame) (held : List Char)
    (opened : List (List Char)) (offset : Nat) (cs rest : List Char) :
    (inside tutorial frames).readFrom (.text held) opened offset
        (escapeText cs ++ '<' :: rest) =
      (inside tutorial (addText (String.ofList (held.reverse ++ cs)) frames)).readFrom
        (.opened (offset + utf8Length (escapeText cs))) opened
        (offset + utf8Length (escapeText cs) + 1) rest := by
  induction cs generalizing frames held offset with
  | nil =>
      rw [List.append_nil]
      exact readFrom_lessThan tutorial frames held opened offset rest
  | cons c cs ih =>
      have hescaped := escapes_text c
      rw [escapeText, List.flatMap_cons, ← escapeText, List.append_assoc, utf8Length_append,
        ← Nat.add_assoc]
      generalize escapeTextChar c = piece at hescaped ⊢
      cases hescaped with
      | plain hamp hlt hquote =>
          rw [List.singleton_append, readFrom_plain _ _ _ _ hlt hamp, ih]
          simp [utf8Length]
      | reference name hresolve hname =>
          have hname' : forall d, d ∈ name -> d ≠ '&' ∧ d ≠ ';' ∧ d ≠ '<' :=
            fun d hd => ⟨(hname d hd).1, (hname d hd).2.1, (hname d hd).2.2.1⟩
          have hlength : offset + 1 + utf8Length name + 1 =
              offset + utf8Length ('&' :: name ++ [';']) := by
            simp only [utf8Length, utf8Length_append, List.cons_append]
            rw [show '&'.utf8Size = 1 from rfl, show ';'.utf8Size = 1 from rfl]
            omega
          rw [List.cons_append, List.cons_append, List.append_assoc, List.singleton_append,
            readFrom_ampersand, readFrom_reference _ _ _ [] _ _ hname' hresolve, hlength, ih,
            addText_addText, addText_addText]
          simp

/-!
# Tags

A written tag leaves no quote open, so that it ends where it was written to end.
-/

theorem readFrom_inTag {quote quote' : Option Char} {cs : List Char}
    (h : quoteBehind quote cs = some quote') (state : ReadState) (start : Nat) (held : List Char)
    (opened : List (List Char)) (offset : Nat) (rest : List Char) :
    state.readFrom (.tag start quote held) opened offset (cs ++ rest) =
      state.readFrom (.tag start quote' (cs.reverse ++ held)) opened (offset + utf8Length cs)
        rest := by
  induction cs generalizing quote held offset with
  | nil =>
      cases h
      simp [utf8Length]
  | cons c cs ih =>
      rw [quoteBehind] at h
      split at h
      · cases h
      · rename_i hends
        have hnext := ih h (c :: held) (offset + c.utf8Size)
        simp only [readFrom] at hnext ⊢
        simp only [List.cons_append, scanTokens, hends, Bool.false_eq_true, if_false, hnext]
        simp [utf8Length, Nat.add_assoc]

theorem unquoted_of_isAlpha {c : Char} (h : c.isAlpha = true) : Unquoted c :=
  ⟨ne_of_isAlpha h rfl, ne_of_isAlpha h rfl, ne_of_isAlpha h rfl⟩

theorem closed_tagContent {name : String} {attributes : List Attribute}
    (hname : IsName name.toList) (hattributes : Legible attributes) :
    Closed (tagContent name attributes) := by
  have hsplit := takeWhile_tagContent hname attributes
  have hlist := Attribute.attributeList_write hattributes.names
  rw [← hsplit.2] at hlist
  apply closed_of_unquoted ?_ hlist
  · intro raw hraw c hc
    rcases List.mem_map.mp hraw with ⟨a, ha, rfl⟩
    exact unquoted_of_isAlpha ((hattributes.names a ha).2 c hc)
  · rw [hsplit.1]
    exact fun c hc => unquoted_of_isAlpha (hname.2 c hc)

theorem readFrom_opened (state : ReadState) (start : Nat) (opened : List (List Char))
    (offset : Nat) {c : Char} (hc : c ≠ '>' ∧ c ≠ '!' ∧ c ≠ '?') (rest : List Char) :
    state.readFrom (.opened start) opened offset (c :: rest) =
      state.readFrom (.tag start none []) opened offset (c :: rest) := by
  simp [readFrom, scanTokens, hc]

theorem readFrom_tag (state : ReadState) (start : Nat) {opened opened' : List (List Char)}
    (offset : Nat) {c : Char} {cs : List Char} {token : Token}
    (hc : c ≠ '>' ∧ c ≠ '!' ∧ c ≠ '?') (hclosed : Closed (c :: cs))
    (hmarkup : tagMarkup start opened (c :: cs) = .ok (token, opened')) (rest : List Char) :
    state.readFrom (.opened start) opened offset (c :: cs ++ '>' :: rest) =
      proceed (state.takeToken token) (offset + utf8Length (c :: cs) + 1) fun state =>
        state.readFrom (.text []) opened' (offset + utf8Length (c :: cs) + 1) rest := by
  rw [List.cons_append, readFrom_opened state start opened offset hc, ← List.cons_append,
    readFrom_inTag hclosed, List.append_nil]
  simp only [readFrom, scanTokens, Option.isNone_none, decide_true, Bool.and_self, if_true,
    List.reverse_reverse, hmarkup, TokenStream.cons, run, proceed]
  cases state.takeToken token <;> rfl

theorem endName_of_isName {name : List Char} (hname : IsName name) : endName name = name := by
  rcases hname.exists_cons with ⟨c, cs, rfl, hc, -⟩
  have hall : (c :: cs).all isSpace = false := by
    simp [isSpace_of_isAlpha hc]
  have hlast : (c :: cs).reverse.dropWhile isSpace = (c :: cs).reverse := by
    cases hreverse : (c :: cs).reverse with
    | nil => rfl
    | cons d ds =>
        have hd : d ∈ c :: cs := by
          rw [← List.mem_reverse, hreverse]
          exact List.mem_cons_self
        simp [isSpace_of_isAlpha (hname.2 d hd)]
  rw [endName, hall, dropTrailingSpace, hlast, List.reverse_reverse]
  rfl

theorem tagMarkup_end {name : String} (hname : IsName name.toList) (start : Nat)
    (opened : List (List Char)) :
    tagMarkup start (name.toList :: opened) ('/' :: name.toList) = .ok (.close, opened) := by
  rw [tagMarkup, endMarkup, endName_of_isName hname]
  simp

theorem getLast?_tagContent {name : String} (attributes : List Attribute)
    (hname : IsName name.toList) : (tagContent name attributes).getLast? ≠ some '/' := by
  rcases List.eq_nil_or_concat attributes with rfl | ⟨init, last, rfl⟩
  · intro hlast
    have hmem : '/' ∈ name.toList := List.mem_of_getLast? (by simpa [tagContent] using hlast)
    exact ne_of_isAlpha (hname.2 '/' hmem) rfl rfl
  · rw [tagContent, List.concat_eq_append, List.flatMap_append, List.flatMap_singleton,
      Attribute.write, ← List.append_assoc, ← List.append_assoc, List.getLast?_concat]
    decide

theorem exists_cons_tagContent {name : String} (attributes : List Attribute)
    (hname : IsName name.toList) :
    exists c cs, tagContent name attributes = c :: cs ∧ c.isAlpha = true := by
  rcases hname.exists_cons with ⟨c, cs, heq, hc, -⟩
  exact ⟨c, cs ++ attributes.flatMap Attribute.write, by rw [tagContent, heq]; rfl, hc⟩

theorem opensTag_of_isAlpha {c : Char} (hc : c.isAlpha = true) (cs : List Char) :
    OpensTag (c :: cs) := by
  intro d hd
  cases hd
  simp [ne_of_isAlpha hc]

theorem tagMarkup_start {name : String} (attributes : List Attribute)
    (hname : IsName name.toList) (start : Nat) (opened : List (List Char)) :
    tagMarkup start opened (tagContent name attributes) =
      .ok (.start (tagContent name attributes), name.toList :: opened) := by
  have hlast := getLast?_tagContent attributes hname
  have hsplit := (takeWhile_tagContent hname attributes).1
  rcases exists_cons_tagContent attributes hname with ⟨c, cs, heq, hc⟩
  rw [heq] at hlast hsplit ⊢
  rw [tagMarkup_of_opensTag (opensTag_of_isAlpha hc cs), if_neg hlast, hsplit]

theorem tagMarkup_empty {name : String} (attributes : List Attribute)
    (hname : IsName name.toList) (start : Nat) (opened : List (List Char)) :
    tagMarkup start opened (tagContent name attributes ++ ['/']) =
      .ok (.empty (tagContent name attributes), opened) := by
  rcases exists_cons_tagContent attributes hname with ⟨c, cs, heq, hc⟩
  rw [heq, List.cons_append, tagMarkup_of_opensTag (opensTag_of_isAlpha hc _),
    ← List.cons_append, List.getLast?_concat, if_pos rfl, List.dropLast_concat]

/-!
# Events

The tags of a document stand for the events that they were written for.
-/

section

variable {name : String} {attributes : List Attribute}

theorem ofToken_start (hname : IsName name.toList) (hattributes : Legible attributes) :
    Event.ofToken (.start (tagContent name attributes)) = .ok (.start name attributes) := by
  rw [Event.ofToken, attributesOf_tagContent hname hattributes, Event.elementName,
    (takeWhile_tagContent hname attributes).1, String.ofList_toList]
  rfl

theorem ofToken_empty (hname : IsName name.toList) (hattributes : Legible attributes) :
    Event.ofToken (.empty (tagContent name attributes)) = .ok (.empty name attributes) := by
  rw [Event.ofToken, attributesOf_tagContent hname hattributes, Event.elementName,
    (takeWhile_tagContent hname attributes).1, String.ofList_toList]
  rfl

theorem readFrom_startTag (hname : IsName name.toList) (hattributes : Legible attributes)
    (state : ReadState) (start : Nat) (opened : List (List Char)) (offset : Nat)
    (rest : List Char) :
    state.readFrom (.opened start) opened offset (tagContent name attributes ++ '>' :: rest) =
      proceed (state.take (.start name attributes))
        (offset + utf8Length (tagContent name attributes) + 1) fun state =>
          state.readFrom (.text []) (name.toList :: opened)
            (offset + utf8Length (tagContent name attributes) + 1) rest := by
  have hmarkup := tagMarkup_start attributes hname start opened
  have hclosed := closed_tagContent hname hattributes
  have htoken : state.takeToken (.start (tagContent name attributes)) =
      state.take (.start name attributes) := by
    rw [takeToken, ofToken_start hname hattributes]
  rcases exists_cons_tagContent attributes hname with ⟨c, cs, heq, hc⟩
  rw [← htoken]
  rw [heq] at hmarkup hclosed ⊢
  exact readFrom_tag state start offset
    ⟨ne_of_isAlpha hc rfl, ne_of_isAlpha hc rfl, ne_of_isAlpha hc rfl⟩ hclosed hmarkup rest

theorem readFrom_emptyTag (hname : IsName name.toList) (hattributes : Legible attributes)
    (state : ReadState) (start : Nat) (opened : List (List Char)) (offset : Nat)
    (rest : List Char) :
    state.readFrom (.opened start) opened offset
        (tagContent name attributes ++ '/' :: '>' :: rest) =
      proceed (state.take (.empty name attributes))
        (offset + utf8Length (tagContent name attributes) + 2) fun state =>
          state.readFrom (.text []) opened
            (offset + utf8Length (tagContent name attributes) + 2) rest := by
  have hmarkup := tagMarkup_empty attributes hname start opened
  have hslash : Closed ['/'] := by decide
  have hclosed := (closed_tagContent hname hattributes).append hslash
  have htoken : state.takeToken (.empty (tagContent name attributes)) =
      state.take (.empty name attributes) := by
    rw [takeToken, ofToken_empty hname hattributes]
  have hlength : utf8Length (tagContent name attributes ++ ['/']) =
      utf8Length (tagContent name attributes) + 1 := by
    rw [utf8Length_append]
    rfl
  rcases exists_cons_tagContent attributes hname with ⟨c, cs, heq, hc⟩
  have hfirst : c ≠ '>' ∧ c ≠ '!' ∧ c ≠ '?' :=
    ⟨ne_of_isAlpha hc rfl, ne_of_isAlpha hc rfl, ne_of_isAlpha hc rfl⟩
  rw [← htoken]
  rw [heq, List.cons_append] at hmarkup hclosed hlength
  have htag := readFrom_tag state start offset hfirst hclosed hmarkup rest
  rw [hlength, ← Nat.add_assoc] at htag
  rw [heq]
  simpa using htag

theorem readFrom_endTag (hname : IsName name.toList) (state : ReadState) (start : Nat)
    (opened : List (List Char)) (offset : Nat) (rest : List Char) :
    state.readFrom (.opened start) (name.toList :: opened) offset
        ('/' :: name.toList ++ '>' :: rest) =
      proceed (state.take .close) (offset + utf8Length name.toList + 2) fun state =>
        state.readFrom (.text []) opened (offset + utf8Length name.toList + 2) rest := by
  have hmarkup := tagMarkup_end hname start opened
  have hletters : Closed name.toList :=
    quoteBehind_unquoted fun c hc => unquoted_of_isAlpha (hname.2 c hc)
  have hslash : Closed ['/'] := by decide
  have hclosed : Closed ('/' :: name.toList) := hslash.append hletters
  have htag := readFrom_tag state start offset (by decide) hclosed hmarkup rest
  have hlength : offset + utf8Length ('/' :: name.toList) + 1 =
      offset + utf8Length name.toList + 2 := by
    rw [utf8Length, show '/'.utf8Size = 1 from rfl]
    omega
  rw [hlength] at htag
  exact htag

end

/-!
# Passages

What a passage does is said for whatever follows it, so that passages can be put together.
-/

/--
Whatever follows it, a passage leads the reader and the scanner from one place between tags to
another if something `fits`, and is refused as nested too deep if it does not.
-/
def Reads (fits : Prop) (opened : List (List Char)) (state : ReadState) (cs : List Char)
    (opened' : List (List Char)) (state' : ReadState) : Prop :=
  forall offset rest,
    (fits -> state.readFrom (.text []) opened offset (cs ++ rest) =
      state'.readFrom (.text []) opened' (offset + utf8Length cs) rest) ∧
    (¬ fits -> exists place, state.readFrom (.text []) opened offset (cs ++ rest) =
      .error ⟨.malformed .tooDeep, place⟩)

variable {fits fits' : Prop} {opened opened' opened'' : List (List Char)}
  {state state' state'' : ReadState} {cs ds : List Char}

theorem reads_nil (opened : List (List Char)) (state : ReadState) :
    Reads True opened state [] opened state := by
  intro offset rest
  exact ⟨fun _ => rfl, fun h => absurd trivial h⟩

theorem Reads.congr (h : Reads fits opened state cs opened' state') (hfits : fits ↔ fits') :
    Reads fits' opened state cs opened' state' := by
  intro offset rest
  rw [← hfits]
  exact h offset rest

theorem Reads.append (hcs : Reads fits opened state cs opened' state')
    (hds : fits -> Reads fits' opened' state' ds opened'' state'') :
    Reads (fits ∧ fits') opened state (cs ++ ds) opened'' state'' := by
  intro offset rest
  rw [List.append_assoc, utf8Length_append, ← Nat.add_assoc]
  constructor
  · rintro ⟨hfits, hfits'⟩
    rw [(hcs offset (ds ++ rest)).1 hfits, (hds hfits _ rest).1 hfits']
  · intro hnot
    by_cases hfits : fits
    · rw [(hcs offset (ds ++ rest)).1 hfits]
      exact (hds hfits _ rest).2 fun hfits' => hnot ⟨hfits, hfits'⟩
    · exact (hcs offset (ds ++ rest)).2 hfits

theorem Reads.then (hcs : Reads True opened state cs opened' state')
    (hds : Reads fits opened' state' ds opened'' state'') :
    Reads fits opened state (cs ++ ds) opened'' state'' :=
  (hcs.append fun _ => hds).congr (Iff.of_eq (true_and fits))

theorem Reads.thenAll (hcs : Reads fits opened state cs opened' state')
    (hds : Reads True opened' state' ds opened'' state'') :
    Reads fits opened state (cs ++ ds) opened'' state'' :=
  (hcs.append fun _ => hds).congr (Iff.of_eq (and_true fits))

/-!
# Tags on lines of their own

The line break in front of a tag is text, of which an element without text takes no notice.
-/

def Deaf (frames : List Frame) : Prop :=
  forall content, addText content frames = frames

/-- The element inside the frames opens, unless it is a condition too deep inside others. -/
def Opens (fits : Prop) (tutorial : Tutorial) (frames : List Frame) (name : String)
    (attributes : List Attribute) (tutorial' : Tutorial) (frames' : List Frame) : Prop :=
  (fits -> openElement tutorial frames name attributes = .ok (inside tutorial' frames')) ∧
    (¬ fits -> openElement tutorial frames name attributes = .error (.malformed .tooDeep))

section

variable {tutorial tutorial' : Tutorial} {frames frames' : List Frame} {name : String}
  {attributes : List Attribute}

theorem lineBreak_plain {level : Nat} {c : Char} (hc : c ∈ lineBreak level) :
    c ≠ '<' ∧ c ≠ '&' := by
  rcases List.mem_cons.mp hc with rfl | hc
  · decide
  · rw [(List.mem_replicate.mp hc).2]
    decide

theorem readFrom_lineBreak (hdeaf : Deaf frames) (opened : List (List Char)) (offset level : Nat)
    (rest : List Char) :
    (inside tutorial frames).readFrom (.text []) opened offset (lineBreak level ++ '<' :: rest) =
      (inside tutorial frames).readFrom (.opened (offset + utf8Length (lineBreak level))) opened
        (offset + utf8Length (lineBreak level) + 1) rest := by
  rw [readFrom_plains _ _ _ _ (fun c hc => lineBreak_plain hc), readFrom_lessThan, hdeaf]

theorem utf8Length_startTag (name : String) (attributes : List Attribute) :
    utf8Length (startTag name attributes) = 1 + utf8Length (tagContent name attributes) + 1 := by
  rw [startTag, utf8Length_append, utf8Length]
  rfl

theorem utf8Length_emptyTag (name : String) (attributes : List Attribute) :
    utf8Length (emptyTag name attributes) = 1 + utf8Length (tagContent name attributes) + 2 := by
  rw [emptyTag, utf8Length_append, utf8Length]
  rfl

theorem utf8Length_endTag (name : String) :
    utf8Length (endTag name) = 1 + utf8Length name.toList + 2 := by
  rw [endTag, utf8Length_append, utf8Length_append]
  simp only [show utf8Length "</".toList = 2 from rfl, show utf8Length ['>'] = 1 from rfl]
  omega

theorem reads_startTag (hname : IsName name.toList) (hattributes : Legible attributes)
    (hdeaf : Deaf frames) (hopens : Opens fits tutorial frames name attributes tutorial' frames')
    (opened : List (List Char)) (level : Nat) :
    Reads fits opened (inside tutorial frames) (lineBreak level ++ startTag name attributes)
      (name.toList :: opened) (inside tutorial' frames') := by
  intro offset rest
  have htag : lineBreak level ++ startTag name attributes ++ rest =
      lineBreak level ++ '<' :: (tagContent name attributes ++ '>' :: rest) := by
    simp [startTag]
  have htake : (inside tutorial frames).take (.start name attributes) =
      openElement tutorial frames name attributes := rfl
  rw [htag, readFrom_lineBreak hdeaf, readFrom_startTag hname hattributes, htake,
    utf8Length_append, utf8Length_startTag]
  constructor
  · intro hfits
    simp only [hopens.1 hfits, proceed, Nat.add_assoc]
  · intro hfits
    rw [hopens.2 hfits]
    exact ⟨_, rfl⟩

theorem reads_emptyTag (hname : IsName name.toList) (hattributes : Legible attributes)
    (hdeaf : Deaf frames) (hopens : Opens fits tutorial frames name attributes tutorial' frames')
    (opened : List (List Char)) (level : Nat) :
    Reads fits opened (inside tutorial frames) (lineBreak level ++ emptyTag name attributes)
      opened (closeElement tutorial' frames') := by
  intro offset rest
  have htag : lineBreak level ++ emptyTag name attributes ++ rest =
      lineBreak level ++ '<' :: (tagContent name attributes ++ '/' :: '>' :: rest) := by
    simp [emptyTag]
  rw [htag, readFrom_lineBreak hdeaf, readFrom_emptyTag hname hattributes, utf8Length_append,
    utf8Length_emptyTag, take, inRoot]
  constructor
  · intro hfits
    rw [hopens.1 hfits]
    simp only [bind, Except.bind, pure, Except.pure, proceed, Nat.add_assoc]
  · intro hfits
    rw [hopens.2 hfits]
    exact ⟨_, rfl⟩

theorem reads_endTag (hname : IsName name.toList) (hdeaf : Deaf frames)
    (opened : List (List Char)) (level : Nat) :
    Reads True (name.toList :: opened) (inside tutorial frames) (lineBreak level ++ endTag name)
      opened (closeElement tutorial frames) := by
  intro offset rest
  have htag : lineBreak level ++ endTag name ++ rest =
      lineBreak level ++ '<' :: ('/' :: name.toList ++ '>' :: rest) := by
    simp [endTag]
  have htake : (inside tutorial frames).take .close = .ok (closeElement tutorial frames) := rfl
  rw [htag, readFrom_lineBreak hdeaf, readFrom_endTag hname, htake, utf8Length_append,
    utf8Length_endTag]
  refine ⟨fun _ => ?_, fun h => absurd trivial h⟩
  simp only [proceed, Nat.add_assoc]

theorem reads_text (hname : IsName name.toList) (hdeaf : Deaf frames)
    (hopens : Opens True tutorial frames name [] tutorial' frames')
    (opened : List (List Char)) (level : Nat) (content : String) :
    Reads True opened (inside tutorial frames) ((Element.text name content).write level) opened
      (closeElement tutorial' (addText content frames')) := by
  rw [Element.write_text, List.append_assoc]
  apply (reads_startTag hname legible_nil hdeaf hopens opened level).then
  intro offset rest
  have htag : escapeText content.toList ++ endTag name ++ rest =
      escapeText content.toList ++ '<' :: ('/' :: name.toList ++ '>' :: rest) := by
    simp [endTag]
  have htake : (inside tutorial' (addText content frames')).take .close =
      .ok (closeElement tutorial' (addText content frames')) := rfl
  rw [htag, readFrom_escapeText, List.reverse_nil, List.nil_append, String.ofList_toList,
    readFrom_endTag hname, htake, utf8Length_append, utf8Length_endTag]
  refine ⟨fun _ => ?_, fun h => absurd trivial h⟩
  simp only [proceed, Nat.add_assoc]

end

end ReadState
end TutorialKit
