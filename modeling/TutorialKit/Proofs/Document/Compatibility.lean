import TutorialKit.Proofs.Document.Containers
import TutorialKit.Proofs.Document.Lookups

/-!
# Documents with more in them

A document may hold things that are not known.  To put nodes that are not known between others, to
add attributes that are not known and to write attributes in another order changes nothing in what
is read, except where all text is collected.
-/

namespace TutorialKit

open Xml Xml.Node

/-!
# Reading from the middle

Reading may stop behind a piece of text that holds no error, and goes on from there.
-/

namespace ReadState

def takeTokens (state : ReadState) (tokens : List Token) : Option ReadState :=
  tokens.foldlM (fun state token => (state.takeToken token).toOption) state

def follow (state : ReadState) (cursor : Cursor) (cs : List Char) : Option ReadState :=
  (cursor.tokens cs).bind state.takeTokens

theorem takeTokens_append (state : ReadState) (tokens others : List Token) :
    state.takeTokens (tokens ++ others) =
      (state.takeTokens tokens).bind fun state => state.takeTokens others :=
  List.foldlM_append

theorem takeTokens_cons (state : ReadState) (token : Token) (rest : List Token) :
    state.takeTokens (token :: rest) =
      (state.takeToken token).toOption.bind fun state => state.takeTokens rest :=
  List.foldlM_cons

theorem takeTokens_eq_some_iff {state later : ReadState} {tokens : List Token} :
    state.takeTokens tokens = some later ↔
      exists events, List.Forall₂ Token.Means tokens events ∧ state.takeAll events = .ok later := by
  induction tokens generalizing state with
  | nil => simp [takeTokens, takeAll]
  | cons token rest ih =>
      have htoken : state.takeTokens (token :: rest) = some later ↔
          exists next, state.takeToken token = .ok next ∧ next.takeTokens rest = some later := by
        rw [takeTokens_cons]
        cases state.takeToken token with
        | error fault => simp [Except.toOption]
        | ok next => simp [Except.toOption]
      simp only [htoken, takeToken_eq_ok_iff, ih, List.forall₂_cons_left_iff]
      constructor
      · intro h
        rcases h with ⟨next, ⟨event, hevent, hnext⟩, events, hevents, htake⟩
        exact ⟨event :: events, ⟨event, events, hevent, hevents, rfl⟩,
          takeAll_cons_eq_ok_iff.mpr ⟨next, hnext, htake⟩⟩
      · intro h
        rcases h with ⟨_, ⟨event, events, hevent, hevents, rfl⟩, htake⟩
        rcases takeAll_cons_eq_ok_iff.mp htake with ⟨next, hnext, hrest⟩
        exact ⟨next, ⟨event, hevent, hnext⟩, events, hevents, hrest⟩

theorem readChars_eq_ok_iff {cs : List Char} {tutorial : Tutorial} :
    Tutorial.readChars cs = .ok tutorial ↔
      prolog.follow ⟨.text [], []⟩ (dropByteOrderMark cs) = some (epilog tutorial) := by
  rw [Tutorial.readChars, mapError_eq_ok_iff, run_eq_ok_iff, ← takeTokens_eq_some_iff, follow,
    ← found_tokens, TokenStream.found]
  cases (Xml.tokens cs).ending with
  | complete offset => simp
  | failed error offset => simp

theorem follow_append (state : ReadState) (cursor : Cursor) (cs ds : List Char) :
    state.follow cursor (cs ++ ds) = (cursor.scan cs).bind fun step =>
      (state.takeTokens step.1).bind fun state => state.follow step.2 ds := by
  rw [follow, Cursor.tokens_append]
  cases cursor.scan cs with
  | none => rfl
  | some step =>
      rw [Option.bind_some, Option.bind_some, Option.bind_map]
      cases htokens : step.2.tokens ds with
      | none => simp [follow, htokens]
      | some later => simp [follow, htokens, takeTokens_append]

/-!
# Text between two nodes

Text that the scanner still holds belongs to what comes before it.
-/

theorem takeTokens_text (tutorial : Tutorial) (frames : List Frame) (held : List Char) :
    (inside tutorial frames).takeTokens (textTokens held) =
      some (inside tutorial (addText (String.ofList held.reverse) frames)) := by
  cases held with
  | nil =>
      rw [List.reverse_nil, String.ofList_nil, addText_nothing]
      rfl
  | cons c held => rfl

theorem follow_cons (state : ReadState) (cursor : Cursor) (c : Char) (rest : List Char) :
    state.follow cursor (c :: rest) = (cursor.advance c).bind fun step =>
      (state.takeTokens step.1).bind fun state => state.follow step.2 rest := by
  have hscan : cursor.scan [c] = cursor.advance c := by
    cases hadvance : cursor.advance c with
    | none => simp [Cursor.scan, hadvance]
    | some step => simp [Cursor.scan, hadvance]
  rw [← List.singleton_append, follow_append, hscan]

theorem follow_text (tutorial : Tutorial) (frames : List Frame) (held : List Char)
    (opened : List (List Char)) (cs : List Char) :
    (inside tutorial frames).follow ⟨.text held, opened⟩ cs =
      (inside tutorial (addText (String.ofList held.reverse) frames)).follow ⟨.text [], opened⟩
        cs := by
  induction cs generalizing frames held with
  | nil =>
      rw [follow, follow, Cursor.tokens, Cursor.tokens]
      exact takeTokens_text tutorial frames held
  | cons c rest ih =>
      rw [follow_cons, follow_cons, Cursor.advance, Cursor.advance]
      dsimp only
      split_ifs with hlt hamp
      · rw [Option.bind_some, Option.bind_some, takeTokens_text]
        rfl
      · rw [Option.bind_some, Option.bind_some, takeTokens_text]
        rfl
      · change (inside tutorial frames).follow ⟨.text (c :: held), opened⟩ rest =
          (inside tutorial (addText _ frames)).follow ⟨.text [c], opened⟩ rest
        rw [ih frames (c :: held), ih _ [c], addText_addText]
        simp

/-!
# What is open

After any tokens it is known which elements are open, and so is what reading is inside of.
-/

theorem agrees_takeTokens {state later : ReadState} {tokens : List Token}
    {opened : List (List Char)} (hagrees : Agrees opened state)
    (h : state.takeTokens tokens = some later) :
    Agrees (tokens.foldl Token.opened opened) later := by
  induction tokens generalizing state opened with
  | nil =>
      cases h
      exact hagrees
  | cons token rest ih =>
      rw [takeTokens_cons] at h
      cases htake : state.takeToken token with
      | error fault =>
          rw [htake] at h
          cases h
      | ok next =>
          rw [htake] at h
          exact ih (agrees_takeToken hagrees htake) h

theorem exists_inside {state : ReadState} {opened : List (List Char)}
    (hagrees : Agrees opened state) (hopened : opened ≠ []) :
    exists tutorial frames, state = inside tutorial frames := by
  cases state with
  | prolog => exact absurd hagrees hopened
  | inside tutorial frames => exact ⟨tutorial, frames, rfl⟩
  | epilog tutorial => exact absurd hagrees hopened

theorem length_along (opened : List (List Char)) :
    (Container.along opened).length = opened.length := by
  induction opened with
  | nil => rfl
  | cons name outer ih =>
      rw [Container.along, List.length_cons, ← ih]
      cases Container.along outer with
      | nil => rfl
      | cons container others => rfl

end ReadState

/-!
# Nodes put between others

A text that holds whole nodes leads back to where it began.
-/

/-- A text that by itself holds these nodes and nothing else. -/
def Spells (cs : List Char) (nodes : List Node) : Prop :=
  exists tokens, (scanTokens (.text []) [] 0 cs).found = some tokens ∧
    List.Forall₂ Token.Means tokens (eventsAll nodes)

theorem spells_of_mapM {cs : List Char} {nodes : List Node} {tokens : List Token}
    (hfound : (scanTokens (.text []) [] 0 cs).found = some tokens)
    (hevents : tokens.mapM Event.ofToken = .ok (eventsAll nodes)) : Spells cs nodes :=
  ⟨tokens, hfound, (mapM_eq_ok_iff fun _ _ => ofToken_eq_ok_iff).mp hevents⟩

def Container.behind? (cs : List Char) : Option Container :=
  (Xml.tokens cs).found.bind fun tokens => (along (tokens.foldl Token.opened [])).head?

namespace ReadState

theorem follow_fragment {tutorial : Tutorial} {frames : List Frame} {opened : List (List Char)}
    {container : Container} {fragment : List Char} {nodes : List Node}
    (hagrees : Agrees opened (inside tutorial frames))
    (hcontainer : (Container.along opened).head? = some container)
    (hcollected : container ≠ .collected) (hspells : Spells fragment nodes)
    (hignores : container.Ignores nodes) (held post : List Char) :
    (inside tutorial frames).follow ⟨.text held, opened⟩ (fragment ++ post) =
      (inside tutorial frames).follow ⟨.text held, opened⟩ post := by
  rcases List.head?_eq_some_iff.mp hcontainer with ⟨others, hothers⟩
  have hcontainers : containers frames = container :: others := hagrees.1.trans hothers
  have hopened : opened ≠ [] := by
    rintro rfl
    cases hothers
  have hsilent := addText_of_not_collected hcontainers hcollected
  rcases hspells with ⟨tokens, hfound, hmeans⟩
  rw [Cursor.found_scanTokens] at hfound
  rcases Cursor.exists_scan hfound with ⟨before, last, inner, hscan, rfl⟩
  have hwithin := Cursor.scan_within hscan opened
  -- The nodes lead from here to here; the text at their end may come with what follows.
  have htake : (inside tutorial frames).takeTokens (before ++ textTokens last) =
      some (inside tutorial frames) :=
    takeTokens_eq_some_iff.mpr
      ⟨_, hmeans, takeAll_of_ignores hcontainers hagrees.2 hcollected hignores⟩
  rw [takeTokens_append] at htake
  rcases Option.bind_eq_some_iff.mp htake with ⟨between, hbetween, hlast⟩
  have hbehind := agrees_takeTokens hagrees hbetween
  have hinner : inner ++ opened = before.foldl Token.opened opened :=
    (Cursor.nests_scan _ _ opened _ _ hwithin).1
  rw [← hinner] at hbehind
  rcases exists_inside hbehind (by simp [hopened]) with ⟨tutorial', frames', rfl⟩
  rw [takeTokens_text, Option.some.injEq] at hlast
  have hsame := agrees_addText hbehind (String.ofList last.reverse)
  rw [hlast] at hsame
  have hnil : inner = [] := by
    have hlength := congrArg List.length (hsame.1.symm.trans hagrees.1)
    rw [length_along, length_along, List.length_append] at hlength
    exact List.eq_nil_of_length_eq_zero (by omega)
  rw [hnil] at hwithin
  rw [follow_text _ _ held, follow_text _ _ held, hsilent, follow_append, hwithin,
    Option.bind_some, hbetween, Option.bind_some]
  change (inside tutorial' frames').follow ⟨.text last, opened⟩ post = _
  rw [follow_text, hlast]

end ReadState

/-!
# Documents that go further than others

Each way in which a text may go further than another one is a case of `Extends`, and is followed
through the reader.
-/

structure IsStartTag (content : List Char) : Prop where
  opens : OpensTag content
  closed : Closed content
  last : content.getLast? ≠ some '/'

structure IsEmptyTag (content : List Char) : Prop where
  opens : OpensTag content
  closed : Closed content
  nonempty : content ≠ []

/--
The second text has more in it than the first one, or other orders of attributes.  Nodes may be put
wherever text is not collected, and attributes may be added to any tag.
-/
inductive Extends : List Char -> List Char -> Prop
  | nodes {before fragment after : List Char} {container : Container} {nodes : List Node} :
      Container.behind? before = some container -> container ≠ .collected ->
      Spells fragment nodes -> container.Ignores nodes ->
      Extends (before ++ after) (before ++ (fragment ++ after))
  | startTag {before content content' after : List Char} :
      (Xml.tokens before).found.isSome = true -> IsStartTag content -> IsStartTag content' ->
      Elaborates content content' ->
      Extends (before ++ '<' :: (content ++ '>' :: after))
        (before ++ '<' :: (content' ++ '>' :: after))
  | emptyTag {before content content' after : List Char} :
      (Xml.tokens before).found.isSome = true -> IsEmptyTag content -> IsEmptyTag content' ->
      Elaborates content content' ->
      Extends (before ++ '<' :: (content ++ '/' :: '>' :: after))
        (before ++ '<' :: (content' ++ '/' :: '>' :: after))

theorem IsStartTag.tagMarkup {content : List Char} (h : IsStartTag content)
    (opened : List (List Char)) :
    Xml.tagMarkup 0 opened content = .ok (.start content, tagName content :: opened) := by
  rw [tagMarkup_of_opensTag h.opens, if_neg h.last]

theorem IsEmptyTag.opens_slash {content : List Char} (h : IsEmptyTag content) :
    OpensTag (content ++ ['/']) := by
  cases content with
  | nil => exact absurd rfl h.nonempty
  | cons c rest => exact h.opens

theorem IsEmptyTag.closed_slash {content : List Char} (h : IsEmptyTag content) :
    Closed (content ++ ['/']) :=
  h.closed.append (by decide)

theorem IsEmptyTag.tagMarkup {content : List Char} (h : IsEmptyTag content)
    (opened : List (List Char)) :
    Xml.tagMarkup 0 opened (content ++ ['/']) = .ok (.empty content, opened) := by
  rw [tagMarkup_of_opensTag h.opens_slash, if_pos List.getLast?_concat, List.dropLast_concat]

theorem dropByteOrderMark_append {before after : List Char}
    (h : before = [] -> dropByteOrderMark after = after) :
    dropByteOrderMark (before ++ after) = dropByteOrderMark before ++ after := by
  cases before with
  | nil => exact h rfl
  | cons c rest =>
      unfold dropByteOrderMark
      split
      · rename_i heq
        cases heq
        rfl
      · rename_i hne
        split
        · rename_i heq
          cases heq
          exact absurd rfl (hne _)
        · rfl

namespace ReadState

theorem exists_follow {before : List Char} {found : List Token}
    (hbefore : (Xml.tokens before).found = some found) :
    exists earlier held opened, opened = found.foldl Token.opened [] ∧
      opened = earlier.foldl Token.opened [] ∧
      forall after, (before = [] -> dropByteOrderMark after = after) ->
        prolog.follow ⟨.text [], []⟩ (dropByteOrderMark (before ++ after)) =
          (prolog.takeTokens earlier).bind fun state =>
            state.follow ⟨.text held, opened⟩ after := by
  rw [found_tokens] at hbefore
  rcases Cursor.exists_scan hbefore with ⟨earlier, held, opened, hscan, rfl⟩
  have hopened := (Cursor.nests_scan _ _ [] _ _ hscan).1
  refine ⟨earlier, held, opened, ?_, hopened, ?_⟩
  · rw [List.foldl_append, ← hopened]
    cases held <;> rfl
  · intro after hafter
    rw [dropByteOrderMark_append hafter, follow_append, hscan]
    rfl

theorem follow_tag {content : List Char} {token : Token} {opened opened' : List (List Char)}
    (hopens : OpensTag content) (hclosed : Closed content)
    (hmarkup : tagMarkup 0 opened content = .ok (token, opened')) (state : ReadState)
    (held after : List Char) :
    state.follow ⟨.text held, opened⟩ ('<' :: (content ++ '>' :: after)) =
      (state.takeTokens (textTokens held)).bind fun state =>
        (state.takeToken token).toOption.bind fun state =>
          state.follow ⟨.text [], opened'⟩ after := by
  have htag : '<' :: (content ++ '>' :: after) = '<' :: (content ++ ['>']) ++ after := by simp
  rw [htag, follow_append, Cursor.scan_tag hopens hclosed, hmarkup]
  change ((state.takeTokens (textTokens held ++ [token])).bind _) = _
  rw [takeTokens_append, Option.bind_assoc]
  congr 1
  funext state
  rw [takeTokens_cons, Option.bind_assoc]
  rfl

theorem follow_tag_of_takeToken {before content content' : List Char} {token token' : Token}
    (hbefore : (Xml.tokens before).found.isSome = true) (hopens : OpensTag content)
    (hclosed : Closed content) (hopens' : OpensTag content') (hclosed' : Closed content')
    (hmarkup : forall opened, exists opened', tagMarkup 0 opened content = .ok (token, opened') ∧
      tagMarkup 0 opened content' = .ok (token', opened'))
    (htoken : forall state next : ReadState,
      state.takeToken token = .ok next -> state.takeToken token' = .ok next)
    {after : List Char} {later : ReadState}
    (h : prolog.follow ⟨.text [], []⟩
      (dropByteOrderMark (before ++ '<' :: (content ++ '>' :: after))) = some later) :
    prolog.follow ⟨.text [], []⟩
      (dropByteOrderMark (before ++ '<' :: (content' ++ '>' :: after))) = some later := by
  rcases Option.isSome_iff_exists.mp hbefore with ⟨found, hfound⟩
  rcases exists_follow hfound with ⟨earlier, held, opened, _, _, hfollow⟩
  rcases hmarkup opened with ⟨opened', hcontent, hcontent'⟩
  rw [hfollow _ fun _ => rfl] at h ⊢
  rcases Option.bind_eq_some_iff.mp h with ⟨state, hstate, hafter⟩
  rw [follow_tag hopens hclosed hcontent] at hafter
  rcases Option.bind_eq_some_iff.mp hafter with ⟨between, hbetween, hlater⟩
  rw [hstate, Option.bind_some, follow_tag hopens' hclosed' hcontent', hbetween, Option.bind_some]
  cases htake : between.takeToken token with
  | error fault =>
      rw [htake] at hlater
      cases hlater
  | ok next =>
      rw [htake] at hlater
      rw [htoken between next htake]
      exact hlater

theorem follow_fragment_of_behind? {before fragment : List Char} {container : Container}
    {nodes : List Node} (hcontainer : Container.behind? before = some container)
    (hcollected : container ≠ .collected) (hspells : Spells fragment nodes)
    (hignores : container.Ignores nodes) {after : List Char} {later : ReadState}
    (h : prolog.follow ⟨.text [], []⟩ (dropByteOrderMark (before ++ after)) = some later) :
    prolog.follow ⟨.text [], []⟩ (dropByteOrderMark (before ++ (fragment ++ after))) =
      some later := by
  rcases Option.bind_eq_some_iff.mp hcontainer with ⟨found, hfound, hcontainer⟩
  rcases exists_follow hfound with ⟨earlier, held, opened, hopened, hearlier, hfollow⟩
  rw [← hopened] at hcontainer
  have hne : opened ≠ [] := by
    rintro rfl
    cases hcontainer
  have hbefore : before ≠ [] := by
    rintro rfl
    cases hfound
    exact hne hopened
  rw [hfollow _ fun h => absurd h hbefore] at h ⊢
  rcases Option.bind_eq_some_iff.mp h with ⟨state, hstate, hafter⟩
  have hprolog : Agrees [] prolog := rfl
  have hagrees := agrees_takeTokens hprolog hstate
  rw [← hearlier] at hagrees
  rcases exists_inside hagrees hne with ⟨tutorial, frames, rfl⟩
  rw [hstate, Option.bind_some,
    follow_fragment hagrees hcontainer hcollected hspells hignores]
  exact hafter

end ReadState

namespace Tutorial

open ReadState

theorem readChars_of_extends {cs cs' : List Char} {tutorial : Tutorial} (h : Extends cs cs')
    (hread : readChars cs = .ok tutorial) : readChars cs' = .ok tutorial := by
  rw [readChars_eq_ok_iff] at hread ⊢
  cases h with
  | nodes hcontainer hcollected hspells hignores =>
      exact follow_fragment_of_behind? hcontainer hcollected hspells hignores hread
  | startTag hbefore htag htag' helaborates =>
      refine follow_tag_of_takeToken hbefore htag.opens htag.closed htag'.opens htag'.closed ?_
        (fun _ _ => takeToken_start_of_elaborates helaborates) hread
      intro opened
      refine ⟨_, htag.tagMarkup opened, ?_⟩
      rw [htag'.tagMarkup, helaborates.name]
  | emptyTag hbefore htag htag' helaborates =>
      rename_i before content content' after
      have hslash : forall content : List Char,
          content ++ '/' :: '>' :: after = content ++ ['/'] ++ '>' :: after := by simp
      rw [hslash] at hread ⊢
      refine follow_tag_of_takeToken hbefore htag.opens_slash htag.closed_slash htag'.opens_slash
        htag'.closed_slash ?_ (fun _ _ => takeToken_empty_of_elaborates helaborates) hread
      intro opened
      exact ⟨_, htag.tagMarkup opened, htag'.tagMarkup opened⟩

/-- What is not known changes nothing, however much of it there is. -/
theorem ofXml_of_extends {text text' : String} {tutorial : Tutorial}
    (h : Relation.ReflTransGen Extends text.toList text'.toList)
    (hread : ofXml text = .ok tutorial) : ofXml text' = .ok tutorial := by
  rw [ofXml] at hread ⊢
  generalize text'.toList = cs at h ⊢
  induction h with
  | refl => exact hread
  | tail _ hlast ih => exact readChars_of_extends hlast ih

/-- A step, and what it grows to: first by nodes, then by attributes. -/
def sparseText : String :=
  "<tutorial><step id='s'><reaction/></step></tutorial>"

def fullerText : String :=
  "<tutorial><step id='s'>1&lt;<a><text/></a><reaction/></step></tutorial>"

def fullestText : String :=
  "<tutorial><step b='&gt;' id='s'>1&lt;<a><text/></a><reaction c=''/></step></tutorial>"

theorem extends_fuller : Extends sparseText.toList fullerText.toList := by
  have hspells : Spells "1&lt;<a><text/></a>".toList
      [.single (.text "1") rfl, .single (.reference '<') rfl,
        .paired ⟨"a", []⟩ [.empty ⟨"text", []⟩]] :=
    spells_of_mapM rfl (by decide +kernel)
  have hcontainer : Container.behind? "<tutorial><step id='s'>".toList = some .step := by
    decide +kernel
  have hextends : Extends _ (_ ++ (_ ++ "<reaction/></step></tutorial>".toList)) :=
    .nodes hcontainer (by decide) hspells (by decide)
  have hsparse : sparseText.toList =
      "<tutorial><step id='s'>".toList ++ "<reaction/></step></tutorial>".toList := by
    decide +kernel
  have hfuller : fullerText.toList = "<tutorial><step id='s'>".toList ++
      ("1&lt;<a><text/></a>".toList ++ "<reaction/></step></tutorial>".toList) := by
    decide +kernel
  rw [hsparse, hfuller]
  exact hextends

theorem extends_fullest :
    Relation.ReflTransGen Extends fullerText.toList fullestText.toList := by
  have hstep : Elaborates "step id='s'".toList "step b='&gt;' id='s'".toList :=
    elaborates_of_rawAttributes [⟨['b'], "&gt;".toList⟩] (by decide +kernel) (by decide +kernel)
      (by decide +kernel) (by decide +kernel) (by decide +kernel)
  have hreaction : Elaborates "reaction".toList "reaction c=''".toList :=
    elaborates_of_rawAttributes [⟨['c'], []⟩] (by decide +kernel) (by decide +kernel)
      (by decide +kernel) (by decide +kernel) (by decide +kernel)
  have hfirst : Extends _ (_ ++ '<' :: (_ ++ '>' ::
      "1&lt;<a><text/></a><reaction/></step></tutorial>".toList)) :=
    .startTag (show (Xml.tokens "<tutorial>".toList).found.isSome = true by decide +kernel)
      ⟨by decide, by decide, by decide⟩ ⟨by decide, by decide, by decide⟩ hstep
  have hsecond : Extends _ (_ ++ '<' :: (_ ++ '/' :: '>' :: "</step></tutorial>".toList)) :=
    .emptyTag (show (Xml.tokens ("<tutorial><step b='&gt;' id='s'>1&lt;<a><text/></a>").toList
      ).found.isSome = true by decide +kernel)
      ⟨by decide, by decide, by decide⟩ ⟨by decide, by decide, by decide⟩ hreaction
  have hfuller : fullerText.toList = "<tutorial>".toList ++ '<' :: ("step id='s'".toList ++
      '>' :: "1&lt;<a><text/></a><reaction/></step></tutorial>".toList) := by
    decide +kernel
  have hbetween : "<tutorial>".toList ++ '<' :: ("step b='&gt;' id='s'".toList ++
      '>' :: "1&lt;<a><text/></a><reaction/></step></tutorial>".toList) =
        "<tutorial><step b='&gt;' id='s'>1&lt;<a><text/></a>".toList ++ '<' ::
          ("reaction".toList ++ '/' :: '>' :: "</step></tutorial>".toList) := by
    decide +kernel
  have hfullest : fullestText.toList =
      "<tutorial><step b='&gt;' id='s'>1&lt;<a><text/></a>".toList ++ '<' ::
        ("reaction c=''".toList ++ '/' :: '>' :: "</step></tutorial>".toList) := by
    decide +kernel
  rw [← hbetween] at hsecond
  rw [hfuller, hfullest]
  exact .tail (.single hfirst) hsecond

theorem ofXml_of_extends_fullest :
    Relation.ReflTransGen Extends sparseText.toList fullestText.toList ∧
      ofXml sparseText = .ok { steps := [{ id := "s", reactions := [{}] }] } ∧
      ofXml fullestText = .ok { steps := [{ id := "s", reactions := [{}] }] } := by
  have hextends := extends_fullest.head extends_fuller
  have hread : ofXml sparseText = .ok { steps := [{ id := "s", reactions := [{}] }] } := by
    decide +kernel
  exact ⟨hextends, hread, ofXml_of_extends hextends hread⟩

/--
Text counts in a step that is part of a description.  Where a name holds a quote, attributes in
another order may make a tag end elsewhere.
-/
theorem ofXml_of_collected_or_quoted :
    ((Xml.tokens "<tutorial><description><step>".toList).found.map (List.foldl Token.opened []) =
        some ["step".toList, "description".toList, "tutorial".toList] ∧
      Spells ['x'] [.single (.text "x") rfl] ∧
      ofXml "<tutorial><description><step></step></description></tutorial>" = .ok {} ∧
      ofXml "<tutorial><description><step>x</step></description></tutorial>" =
        .ok { description := "x" }) ∧
    (Elaborates "tutorial x'=\"1\" z'=\"2\" y='3>4'".toList
        "tutorial x'=\"1\" y='3>4' z'=\"2\"".toList ∧
      ofXml "<tutorial x'=\"1\" z'=\"2\" y='3>4'/>" = .ok {} ∧
      ofXml "<tutorial x'=\"1\" y='3>4' z'=\"2\"/>" ≠ .ok {}) := by
  have hspells : Spells ['x'] [.single (.text "x") rfl] := spells_of_mapM rfl (by decide +kernel)
  have helaborates : Elaborates "tutorial x'=\"1\" z'=\"2\" y='3>4'".toList
      "tutorial x'=\"1\" y='3>4' z'=\"2\"".toList :=
    elaborates_of_rawAttributes [] (by decide +kernel) (by decide +kernel) (by decide +kernel)
      (by decide +kernel) (by decide +kernel)
  exact ⟨⟨by decide +kernel, hspells, by decide +kernel, by decide +kernel⟩, helaborates,
    by decide +kernel, by decide +kernel⟩

end Tutorial

end TutorialKit
