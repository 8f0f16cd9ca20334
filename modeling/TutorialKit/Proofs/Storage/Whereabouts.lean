import TutorialKit.Proofs.Outcomes
import TutorialKit.Proofs.Text.Pieces
import TutorialKit.Storage.Files

/-!
# Where a path ends

A path is followed through directories that have to be there.  Without links, where it ends can be
told from its segments alone: a name goes down, two dots go up.  So the end of a path is a place
that stays the same whatever happens to the files, and every path that can be followed is followed
to there.  The place of a path with a name at its end is beside that of the path with another name
there, and below that of its parent.
-/

namespace TutorialKit

open Text

/-!
# Walks

A walk goes from place to place, and two dots at the root stay there.
-/

namespace Location

def step (location : Location) (segment : String) : Location :=
  if segment = "." then location
  else if segment = ".." then location.dropLast
  else location ++ [segment]

def follow (location : Location) (segments : List String) : Location :=
  segments.foldl step location

theorem step_name {segment : String} (hdot : segment ≠ ".") (hdots : segment ≠ "..")
    (location : Location) : step location segment = location ++ [segment] := by
  rw [step, if_neg hdot, if_neg hdots]

theorem follow_append (location : Location) (front back : List String) :
    follow location (front ++ back) = follow (follow location front) back :=
  List.foldl_append

end Location

namespace Path

def steps (path : Path) : List String :=
  path.segments.filter (· != "")

end Path

/-!
# The place of a path

A path that can be followed ends where its segments lead.
-/

namespace Files

/-- Where a path ends, whatever is there. -/
def whereabouts (path : Path) (files : Files) : Location :=
  Location.follow (files.start path) path.steps

theorem whereabouts_congr {before after : Files} (h : after.here = before.here) (path : Path) :
    after.whereabouts path = before.whereabouts path := by
  simp only [whereabouts, start, h]

namespace Place

def location : Place -> Location
  | directory location => location
  | named parent name _ => parent ++ [name]

theorem location_placeIn (directory : Location) (slash : Bool) (last : String) :
    (placeIn directory slash last).location = directory.step last := by
  unfold placeIn Location.step
  split
  · rfl
  · split <;> rfl

end Place

theorem eq_step_of_enter {files : Files} {directory entered : Location} {segment : String}
    (h : files.enter directory segment = .ok entered) : entered = directory.step segment := by
  unfold enter at h
  unfold Location.step
  split at h
  · simp_all
  · split at h
    · simp_all
    · split at h <;> simp_all

theorem eq_follow_of_foldlM {files : Files} {segments : List String} :
    forall {directory entered : Location},
      segments.foldlM files.enter directory = .ok entered ->
        entered = directory.follow segments := by
  induction segments with
  | nil =>
      intro directory entered h
      cases h
      rfl
  | cons segment segments ih =>
      intro directory entered h
      rw [List.foldlM_cons] at h
      rcases bind_eq_ok_iff.mp h with ⟨next, hstep, hrest⟩
      rw [ih hrest, eq_step_of_enter hstep]
      rfl

/-- Whatever way there is to follow a path, it leads to its whereabouts. -/
theorem location_of_place {files : Files} {path : Path} {place : Place}
    (h : files.place path = .ok place) : place.location = files.whereabouts path := by
  unfold Files.place at h
  split at h
  · cases h
  · split at h
    · cases h
    · split at h
      · cases h
      · rw [← Path.steps] at h
        cases hlast : path.steps.getLast? with
        | none =>
            simp only [hlast, Except.ok.injEq] at h
            rw [← h, whereabouts, List.getLast?_eq_none_iff.mp hlast]
            rfl
        | some last =>
            rcases List.getLast?_eq_some_iff.mp hlast with ⟨front, hsteps⟩
            simp only [hlast] at h
            rw [hsteps, List.dropLast_concat] at h
            rcases bind_eq_ok_iff.mp h with ⟨directory, hfront, hplace⟩
            cases hplace
            rw [Place.location_placeIn, whereabouts, hsteps, Location.follow_append,
              eq_follow_of_foldlM hfront]
            rfl

end Files

/-!
# Segments

Paths are texts, and are cut at slashes into segments.
-/

namespace Path

def Whole (segment : String) : Prop :=
  forall c, c ∈ segment.toList -> (c == '/') = false

theorem whole_of_all {segment : String} (h : (segment.toList.all fun c => c != '/') = true) :
    Whole segment := by
  intro c hc
  simpa using List.all_eq_true.mp h c hc

theorem whole_of_mem_segments {path : Path} {segment : String} (h : segment ∈ path.segments) :
    Whole segment := by
  rcases List.mem_map.mp h with ⟨piece, hpiece, rfl⟩
  intro c hc
  rw [String.toList_ofList] at hc
  exact uncut_of_mem_pieces hpiece c hc

theorem segments_append (front back : List Char) :
    segments ⟨String.ofList (front ++ '/' :: back)⟩ =
      segments ⟨String.ofList front⟩ ++ segments ⟨String.ofList back⟩ := by
  simp only [segments, String.toList_ofList, ← List.map_append]
  rw [pieces_append_cut (by decide)]

theorem segments_of_whole {segment : String} (h : Whole segment) :
    segments ⟨segment⟩ = [segment] := by
  rw [segments, pieces_of_uncut h, List.map_singleton, String.ofList_toList]

theorem segments_ofSegments {names : List String} (hne : names ≠ [])
    (h : forall name, name ∈ names -> Whole name) : (ofSegments names).segments = names := by
  induction names with
  | nil => exact absurd rfl hne
  | cons name rest ih =>
      rw [List.forall_mem_cons] at h
      cases rest with
      | nil => rw [ofSegments, String.intercalate_singleton, segments_of_whole h.1]
      | cons second more =>
          have htext : "/".intercalate (name :: second :: more) =
              String.ofList (name.toList ++ '/' :: ("/".intercalate (second :: more)).toList) := by
            apply String.toList_injective
            simp [String.intercalate_cons_cons]
          have hrest := ih (by simp) h.2
          rw [ofSegments] at hrest ⊢
          rw [htext, segments_append, String.ofList_toList, String.ofList_toList, hrest,
            segments_of_whole h.1]
          rfl

theorem stepsDown_cons {segment : String} {earlier : List String} (h : earlier ≠ []) :
    stepsDown (segment :: earlier) =
      if isStep segment earlier then ofSegments (segment :: earlier).reverse :: stepsDown earlier
      else stepsDown earlier := by
  cases earlier with
  | nil => exact absurd rfl h
  | cons second more =>
      rw [stepsDown]
      simp

theorem isAbsolute_iff (path : Path) :
    path.isAbsolute = true ↔ path.text ≠ "" ∧ path.segments.head? = some "" := by
  rw [isAbsolute, segments]
  cases hcs : path.text.toList with
  | nil =>
      have htext : path.text = "" := String.toList_injective (by rw [hcs]; rfl)
      simp [htext]
  | cons c rest =>
      have htext : path.text ≠ "" := by
        intro h
        rw [h] at hcs
        cases hcs
      rw [pieces]
      by_cases hc : c = '/'
      · simp [hc, htext]
      · cases hrest : pieces (· == '/') rest with
        | nil => exact absurd hrest (pieces_ne_nil _ rest)
        | cons piece more => simp [hc]

end Path

/-!
# Segments from the root or from the working directory

The segments of a path are followed in order, and those before the last one lead to the directory of
it.
-/

namespace Files

/-- Where segments lead; those that begin with an empty one lead down from the root. -/
def lead (segments : List String) (files : Files) : Location :=
  Location.follow (if segments.head? = some "" then [] else files.here)
    (segments.filter (· != ""))

theorem whereabouts_eq_lead {path : Path} (h : path.text ≠ "") (files : Files) :
    files.whereabouts path = files.lead path.segments := by
  have habsolute := path.isAbsolute_iff
  rw [whereabouts, lead, start, Path.steps]
  by_cases hhead : path.segments.head? = some ""
  · rw [if_pos hhead, if_pos (habsolute.mpr ⟨h, hhead⟩)]
  · rw [if_neg hhead, if_neg fun hpath => hhead (habsolute.mp hpath).2]

theorem lead_snoc {segment : String} (h : segment ≠ "") (front : List String) (files : Files) :
    files.lead (front ++ [segment]) = (files.lead front).step segment := by
  have hfilter : (front ++ [segment]).filter (· != "") = front.filter (· != "") ++ [segment] := by
    simp [h]
  have hhead : (front ++ [segment]).head? = some "" ↔ front.head? = some "" := by
    cases front with
    | nil => simp [h]
    | cons first rest => simp
  simp only [lead, hfilter, hhead, Location.follow_append]
  rfl

theorem lead_snoc_empty {front : List String} (h : front ≠ []) (files : Files) :
    files.lead (front ++ [""]) = files.lead front := by
  cases front with
  | nil => exact absurd rfl h
  | cons first rest =>
      have hfilter : (first :: rest ++ [""]).filter (· != "") =
          (first :: rest).filter (· != "") := by
        simp only [List.filter_append, bne_self_eq_false, Bool.false_eq_true, not_false_eq_true,
          List.filter_cons_of_neg, List.filter_nil, List.append_nil]
      rw [lead, hfilter]
      rfl

theorem lead_snoc_of_not_step {segment : String} {earlier : List String}
    (h : Path.isStep segment earlier = false) (hne : earlier ≠ []) (files : Files) :
    files.lead (segment :: earlier).reverse = files.lead earlier.reverse := by
  rw [List.reverse_cons]
  by_cases hempty : segment = ""
  · rw [hempty, lead_snoc_empty (by simpa using hne)]
  · have hdot : segment = "." := by
      simpa [Path.isStep, hempty, hne] using h
    rw [lead_snoc hempty, hdot]
    rfl

theorem head_stepsDown {segments : List String} (hne : segments ≠ [])
    (h : forall segment, segment ∈ segments -> Path.Whole segment) :
    exists path, (Path.stepsDown segments).head? = some path ∧
      forall files : Files, files.whereabouts path = files.lead segments.reverse := by
  induction segments with
  | nil => exact absurd rfl hne
  | cons segment earlier ih =>
      cases earlier with
      | nil =>
          by_cases hempty : segment = ""
          · subst hempty
            exact ⟨⟨"/"⟩, rfl, fun files => rfl⟩
          · refine ⟨⟨segment⟩, by simp [Path.stepsDown, hempty], fun files => ?_⟩
            rw [whereabouts_eq_lead hempty, Path.segments_of_whole (h segment List.mem_cons_self)]
            rfl
      | cons second more =>
          rw [Path.stepsDown_cons (by simp)]
          by_cases hstep : Path.isStep segment (second :: more) = true
          · rw [if_pos hstep]
            refine ⟨_, rfl, fun files => ?_⟩
            have hsegments := Path.segments_ofSegments (by simp) fun name hname =>
              h name (List.mem_reverse.mp hname)
            have htext : (Path.ofSegments (segment :: second :: more).reverse).text ≠ "" := by
              intro htext
              have hlength := congrArg List.length hsegments
              rw [Path.segments, htext] at hlength
              simp [pieces] at hlength
            rw [whereabouts_eq_lead htext, hsegments]
          · rw [if_neg hstep]
            rw [List.forall_mem_cons] at h
            rcases ih (by simp) h.2 with ⟨path, hhead, hpath⟩
            refine ⟨path, hhead, fun files => ?_⟩
            rw [hpath]
            exact (lead_snoc_of_not_step (eq_false_of_ne_true hstep) (by simp) files).symm

theorem above_lastStep {segments earlier : List String} {last : String}
    (h : Path.lastStep? segments = some (last, earlier))
    (hwhole : forall segment, segment ∈ segments -> Path.Whole segment) :
    exists parent, (Path.stepsDown segments).tail.head? = some parent ∧
      last ≠ "" ∧ Path.Whole last ∧
      forall files : Files, files.lead segments.reverse = (files.whereabouts parent).step last := by
  induction segments with
  | nil => cases h
  | cons segment rest ih =>
      rw [List.forall_mem_cons] at hwhole
      rw [Path.lastStep?] at h
      by_cases hstep : Path.isStep segment rest = true
      · rw [if_pos hstep] at h
        cases h
        have hlast : last ≠ "" := by
          intro hlast
          simp [Path.isStep, hlast] at hstep
        by_cases hrest : earlier = []
        · -- A step with nothing before it leads down from the working directory.
          subst hrest
          refine ⟨⟨""⟩, by simp [Path.stepsDown, hlast], hlast, hwhole.1, fun files => ?_⟩
          rw [List.reverse_singleton, ← List.nil_append [last], lead_snoc hlast]
          rfl
        · rcases head_stepsDown hrest hwhole.2 with ⟨parent, hhead, hparent⟩
          refine ⟨parent, ?_, hlast, hwhole.1, fun files => ?_⟩
          · rw [Path.stepsDown_cons hrest, if_pos hstep]
            exact hhead
          · rw [List.reverse_cons, lead_snoc hlast, hparent]
      · rw [if_neg hstep] at h
        have hrest : rest ≠ [] := by
          intro hrest
          rw [hrest] at h
          cases h
        rcases ih h hwhole.2 with ⟨parent, hhead, hlast, hwholeLast, hparent⟩
        refine ⟨parent, ?_, hlast, hwholeLast, fun files => ?_⟩
        · rw [Path.stepsDown_cons hrest, if_neg hstep]
          exact hhead
        · rw [lead_snoc_of_not_step (eq_false_of_ne_true hstep) hrest, hparent]

end Files

/-!
# Names

A name goes down from the place of its parent.
-/

namespace Path

/-- What can be the name of a file beside others. -/
structure IsName (name : String) : Prop where
  ne_empty : name ≠ ""
  ne_dot : name ≠ "."
  ne_dots : name ≠ ".."
  whole : Whole name

theorem IsName.append {name : String} (h : IsName name) {ending : String}
    (hlong : 2 <= ending.length) (hwhole : Whole ending) : IsName (name ++ ending) := by
  have hlonger : forall short : String, short.length <= 2 -> name ++ ending ≠ short := by
    intro short hshort heq
    have hname : name.length ≠ 0 := fun hzero => h.ne_empty (by simpa using hzero)
    have hlength := congrArg String.length heq
    rw [String.length_append] at hlength
    omega
  refine ⟨hlonger "" (by decide), hlonger "." (by decide), hlonger ".." (by decide), ?_⟩
  intro c hc
  rw [String.toList_append, List.mem_append] at hc
  exact hc.elim (h.whole c) (hwhole c)

theorem IsName.step_eq {name : String} (h : IsName name) (location : Location) :
    location.step name = location ++ [name] :=
  Location.step_name h.ne_dot h.ne_dots location

theorem suffix_of_lastStep? {segments earlier : List String} {last : String}
    (h : lastStep? segments = some (last, earlier)) : last :: earlier <:+ segments := by
  induction segments with
  | nil => cases h
  | cons segment rest ih =>
      rw [lastStep?] at h
      split at h
      · cases h
        exact List.suffix_refl _
      · exact (ih h).trans (List.suffix_cons _ _)

theorem segments_ne_nil (path : Path) : path.segments ≠ [] := by
  rw [segments, Ne, List.map_eq_nil_iff]
  exact pieces_ne_nil _ _

theorem text_ne_empty {path : Path} {segment : String} (h : segment ∈ path.segments)
    (hne : segment ≠ "") : path.text ≠ "" := by
  intro hempty
  rw [segments, hempty] at h
  exact hne (List.mem_singleton.mp h)

theorem name?_eq_some_iff {path : Path} {name : String} :
    path.name? = some name ↔ name ≠ "." ∧ name ≠ ".." ∧
      exists earlier, lastStep? path.segments.reverse = some (name, earlier) := by
  rw [name?]
  cases lastStep? path.segments.reverse with
  | none => simp
  | some found =>
      rcases found with ⟨last, earlier⟩
      dsimp only
      constructor
      · intro h
        split at h
        · cases h
        · rename_i hdots
          cases h
          rw [Bool.or_eq_true, decide_eq_true_eq, decide_eq_true_eq, not_or] at hdots
          exact ⟨hdots.1, hdots.2, earlier, rfl⟩
      · rintro ⟨hdot, hdots, others, hlast⟩
        cases hlast
        rw [if_neg (by simp [hdot, hdots])]

/-- A path with a name at its end leads to that name in the place of its parent. -/
theorem whereabouts_of_name {path : Path} {name : String} (h : path.name? = some name) :
    IsName name ∧ exists parent, path.parent? = some parent ∧
      forall files : Files, files.whereabouts path = files.whereabouts parent ++ [name] := by
  rcases name?_eq_some_iff.mp h with ⟨hdot, hdots, earlier, hlast⟩
  rcases Files.above_lastStep hlast fun segment hsegment =>
      whole_of_mem_segments (List.mem_reverse.mp hsegment) with
    ⟨parent, hparent, hne, hwhole, hlead⟩
  have htext : path.text ≠ "" := by
    have hmem := (suffix_of_lastStep? hlast).subset List.mem_cons_self
    exact text_ne_empty (List.mem_reverse.mp hmem) hne
  refine ⟨⟨hne, hdot, hdots, hwhole⟩, parent, ?_, fun files => ?_⟩
  · rw [parent?, ancestors, if_neg htext]
    exact hparent
  · rw [Files.whereabouts_eq_lead htext, ← List.reverse_reverse path.segments, hlead,
      Location.step_name hdot hdots]

theorem whereabouts_child {name : String} (h : IsName name) (path : Path) (files : Files) :
    files.whereabouts (path.child name) = files.whereabouts path ++ [name] := by
  -- Below a slash the name is a segment of its own.
  have hbelow : forall front : List Char,
      files.whereabouts ⟨String.ofList (front ++ '/' :: name.toList)⟩ =
        files.lead (segments ⟨String.ofList front⟩) ++ [name] := by
    intro front
    rw [Files.whereabouts_eq_lead (by simp), segments_append, String.ofList_toList,
      segments_of_whole h.whole, Files.lead_snoc h.ne_empty, h.step_eq]
  rw [child]
  by_cases htext : path.text = ""
  · rw [if_pos htext, Files.whereabouts_eq_lead h.ne_empty, segments_of_whole h.whole,
      ← List.nil_append [name], Files.lead_snoc h.ne_empty, h.step_eq]
    cases path
    cases htext
    rfl
  · rw [if_neg htext, Files.whereabouts_eq_lead htext]
    by_cases hslash : path.hasTrailingSlash = true
    · rw [if_pos hslash]
      rw [hasTrailingSlash, beq_iff_eq] at hslash
      rcases List.getLast?_eq_some_iff.mp hslash with ⟨front, hfront⟩
      have hpath : path.segments = segments ⟨String.ofList front⟩ ++ [""] := by
        have hsplit : path = ⟨String.ofList (front ++ '/' :: [])⟩ := by
          cases path
          simp [← hfront]
        rw [hsplit, segments_append]
        rfl
      have hchild : path.text ++ name = String.ofList (front ++ '/' :: name.toList) := by
        apply String.toList_injective
        simp [hfront]
      rw [hchild, hbelow, hpath, Files.lead_snoc_empty (segments_ne_nil _)]
    · rw [if_neg hslash]
      have hchild : path.text ++ "/" ++ name =
          String.ofList (path.text.toList ++ '/' :: name.toList) := by
        apply String.toList_injective
        simp
      rw [hchild, hbelow, String.ofList_toList]

theorem whereabouts_withName {path : Path} {old : String} (h : path.name? = some old) :
    IsName old ∧ exists parent : Files -> Location,
      (forall files, files.whereabouts path = parent files ++ [old]) ∧
      forall name, IsName name -> forall files,
        files.whereabouts (path.withName name) = parent files ++ [name] := by
  rcases whereabouts_of_name h with ⟨hold, parent, hparent, hpath⟩
  refine ⟨hold, fun files => files.whereabouts parent, hpath, fun name hname files => ?_⟩
  rw [withName, h, Option.isSome_some, if_pos rfl, hparent, Option.getD_some,
    whereabouts_child hname]

end Path

end TutorialKit
