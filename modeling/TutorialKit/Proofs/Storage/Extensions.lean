import TutorialKit.Proofs.Storage.Whereabouts

/-!
# Paths with another extension

The extension of a name is what comes after its last dot, unless that is its first character.  To
give a path another one changes its last name, so both paths lead to one directory.  The names
differ unless the extension was there already, and neither is that of the temporary file for the
other.
-/

namespace TutorialKit

/-!
# Extensions

A name is cut at its last dot, and a dot in front does not count.
-/

namespace Path

theorem splitAtLastDot_eq_some {cs stem extension : List Char}
    (h : splitAtLastDot cs = some (stem, extension)) :
    cs = stem ++ '.' :: extension ∧ '.' ∉ extension := by
  unfold splitAtLastDot at h
  dsimp only at h
  cases hdrop : cs.reverse.dropWhile (· != '.') with
  | nil =>
      rw [hdrop] at h
      cases h
  | cons dot front =>
      rw [hdrop] at h
      cases h
      have hdot : dot = '.' := by
        have hhead := List.head?_dropWhile_not (· != '.') cs.reverse
        rw [hdrop] at hhead
        simpa using hhead
      have hcs := List.takeWhile_append_dropWhile (p := (· != '.')) (l := cs.reverse)
      rw [hdrop, hdot] at hcs
      constructor
      · have hreversed := congrArg List.reverse hcs
        simpa using hreversed.symm
      · intro hmem
        have hall := List.all_takeWhile (p := (· != '.')) (l := cs.reverse)
        simpa using List.all_eq_true.mp hall '.' (List.mem_reverse.mp hmem)

/-- What comes after the last dot of a name that does not begin with it. -/
def nameExtension? (name : String) : Option String :=
  match splitAtLastDot name.toList with
  | some (_ :: _, extension) => some (String.ofList extension)
  | _ => none

def extension? (path : Path) : Option String :=
  path.name?.bind nameExtension?

theorem renameExtension_cases (name extension : String) :
    nameExtension? name = none ∧ renameExtension name extension = name ++ "." ++ extension ∨
      exists stem old, '.' ∉ old ∧ stem ≠ [] ∧
        name = String.ofList stem ++ "." ++ String.ofList old ∧
        nameExtension? name = some (String.ofList old) ∧
        renameExtension name extension =
          if stem = ['.'] then ".." else String.ofList stem ++ "." ++ extension := by
  unfold nameExtension? renameExtension
  cases hsplit : splitAtLastDot name.toList with
  | none => exact .inl ⟨rfl, rfl⟩
  | some parts =>
      rcases parts with ⟨stem, old⟩
      rcases splitAtLastDot_eq_some hsplit with ⟨hname, hold⟩
      cases stem with
      | nil => exact .inl ⟨rfl, rfl⟩
      | cons c rest =>
          refine .inr ⟨c :: rest, old, hold, nofun, ?_, rfl, ?_⟩
          · apply String.toList_injective
            simp [hname]
          · by_cases hdot : c :: rest = ['.']
            · cases hdot
              rfl
            · rw [if_neg hdot]
              split
              · contradiction
              · rename_i heq
                cases heq
              · rename_i heq
                cases heq
                exact absurd rfl hdot
              · rename_i heq
                cases heq
                rfl

/-- A name that is left as it is has the extension already. -/
theorem nameExtension?_of_renameExtension_eq {name extension : String} (hdots : name ≠ "..")
    (h : renameExtension name extension = name) : nameExtension? name = some extension := by
  rcases renameExtension_cases name extension with ⟨-, hrenamed⟩ |
    ⟨stem, old, -, -, hname, hold, hrenamed⟩
  · have hlength := congrArg String.length (h.symm.trans hrenamed)
    rw [String.length_append, String.length_append, show ".".length = 1 from rfl] at hlength
    omega
  · split at hrenamed
    · exact absurd (h.symm.trans hrenamed) hdots
    · rw [hold, Option.some.injEq]
      exact (String.append_right_inj _).mp (hname.symm.trans (h.symm.trans hrenamed))

theorem renameExtension_of_nameExtension?_eq {name extension : String}
    (h : nameExtension? name = some extension) :
    renameExtension name extension = name ∨ renameExtension name extension = ".." := by
  rcases renameExtension_cases name extension with ⟨hnone, -⟩ |
    ⟨stem, old, -, -, hname, hold, hrenamed⟩
  · rw [hnone] at h
    cases h
  · rw [hold, Option.some.injEq] at h
    rw [hrenamed]
    split
    · exact .inr rfl
    · exact .inl (by rw [hname, h])

/-- No name is that of the temporary file for its own script. -/
theorem renameExtension_append_ne {name extension : String}
    (h : renameExtension name extension ≠ "..") :
    renameExtension name extension ++ ".tmp" ≠ name := by
  intro heq
  rcases renameExtension_cases name extension with ⟨-, hrenamed⟩ |
    ⟨stem, old, hold, -, hname, -, hrenamed⟩
  · rw [hrenamed] at heq
    have hlength := congrArg String.length heq
    rw [String.length_append, String.length_append, String.length_append,
      show ".".length = 1 from rfl] at hlength
    omega
  · split at hrenamed
    · exact h hrenamed
    · rw [hrenamed, hname, String.append_assoc, String.append_right_inj] at heq
      have htext := congrArg String.toList heq
      rw [String.toList_ofList] at htext
      apply hold
      rw [← htext]
      simp

theorem isName_of_length {name : String} (hlong : 3 <= name.length) (hwhole : Whole name) :
    IsName name := by
  have hlonger : forall short : String, short.length <= 2 -> name ≠ short := by
    rintro short hshort rfl
    omega
  exact ⟨hlonger "" (by decide), hlonger "." (by decide), hlonger ".." (by decide), hwhole⟩

theorem whole_append {front back : String} :
    Whole (front ++ back) ↔ Whole front ∧ Whole back := by
  unfold Whole
  rw [String.toList_append]
  exact List.forall_mem_append

theorem isName_renameExtension {name extension : String} (h : IsName name)
    (hlong : 1 <= extension.length) (hwhole : Whole extension) :
    renameExtension name extension = ".." ∨ IsName (renameExtension name extension) := by
  have hdot : Whole "." := whole_of_all (by decide)
  have hlength : 2 <= ("." ++ extension).length := by
    rw [String.length_append]
    exact Nat.add_le_add_left hlong 1
  rcases renameExtension_cases name extension with ⟨-, hrenamed⟩ |
    ⟨stem, old, -, hstem, hname, -, hrenamed⟩
  · rw [hrenamed, String.append_assoc]
    exact .inr (h.append hlength (whole_append.mpr ⟨hdot, hwhole⟩))
  · split at hrenamed
    · exact .inl hrenamed
    · have hbefore : Whole (String.ofList stem) := by
        have hall := h.whole
        rw [hname, String.append_assoc, whole_append] at hall
        exact hall.1
      have hpositive := List.length_pos_iff.mpr hstem
      have hafter : Whole ("." ++ extension) := whole_append.mpr ⟨hdot, hwhole⟩
      rw [hrenamed, String.append_assoc]
      refine .inr (isName_of_length ?_ (whole_append.mpr ⟨hbefore, hafter⟩))
      rw [String.length_append, String.length_ofList]
      omega

/-!
# Paths with another extension

The last segment of a path is its name, and only this one is changed.
-/

theorem lead_lastStep? {segments earlier : List String} {last : String}
    (h : lastStep? segments = some (last, earlier)) (files : Files) :
    last ≠ "" ∧ files.lead segments.reverse = (files.lead earlier.reverse).step last := by
  induction segments with
  | nil => cases h
  | cons segment rest ih =>
      rw [lastStep?] at h
      by_cases hstep : isStep segment rest = true
      · rw [if_pos hstep] at h
        cases h
        have hlast : last ≠ "" := by
          rintro rfl
          simp [isStep] at hstep
        rw [List.reverse_cons, Files.lead_snoc hlast]
        exact ⟨hlast, rfl⟩
      · rw [if_neg hstep] at h
        have hrest : rest ≠ [] := by
          rintro rfl
          cases h
        rw [Files.lead_snoc_of_not_step (eq_false_of_ne_true hstep) hrest]
        exact ih h

theorem lastStep?_ofSegments {last : String} {earlier : List String} (hne : last ≠ "")
    (hdot : last ≠ ".") (hwhole : forall segment, segment ∈ last :: earlier -> Whole segment) :
    (ofSegments (last :: earlier).reverse).segments = (last :: earlier).reverse ∧
      lastStep? (ofSegments (last :: earlier).reverse).segments.reverse = some (last, earlier) := by
  have hreversed : (last :: earlier).reverse ≠ [] := by simp
  have hsegments := segments_ofSegments hreversed fun segment hsegment =>
    hwhole segment (List.mem_reverse.mp hsegment)
  have hstep : isStep last earlier = true := by
    simp [isStep, hne, hdot]
  refine ⟨hsegments, ?_⟩
  rw [hsegments, List.reverse_reverse, lastStep?, if_pos hstep]

/-- A path that is put together from a name and segments before it leads to that name. -/
theorem whereabouts_ofSegments {name : String} {earlier : List String} (h : IsName name)
    (hwhole : forall segment, segment ∈ earlier -> Whole segment) :
    (ofSegments (name :: earlier).reverse).name? = some name ∧
      forall files : Files, files.whereabouts (ofSegments (name :: earlier).reverse) =
        files.lead earlier.reverse ++ [name] := by
  rcases lastStep?_ofSegments h.ne_empty h.ne_dot
    (List.forall_mem_cons.mpr ⟨h.whole, hwhole⟩) with ⟨hsegments, hlast⟩
  have hmem : name ∈ (ofSegments (name :: earlier).reverse).segments := by
    rw [hsegments]
    simp
  refine ⟨name?_eq_some_iff.mpr ⟨h.ne_dot, h.ne_dots, earlier, hlast⟩, fun files => ?_⟩
  rw [Files.whereabouts_eq_lead (text_ne_empty hmem h.ne_empty), hsegments, List.reverse_cons,
    Files.lead_snoc h.ne_empty, h.step_eq]

theorem name?_ofSegments_dots {earlier : List String}
    (hwhole : forall segment, segment ∈ earlier -> Whole segment) :
    (ofSegments (".." :: earlier).reverse).name? = none := by
  have hdots : Whole ".." := whole_of_all (by decide)
  have hlast := (lastStep?_ofSegments (by decide) (by decide)
    (List.forall_mem_cons.mpr ⟨hdots, hwhole⟩)).2
  rw [name?, hlast]
  rfl

/-- A path with a name at its end and the one with another extension lead to one directory. -/
theorem whereabouts_withExtension {path : Path} {name extension : String}
    (h : path.name? = some name) (hlong : 1 <= extension.length) (hwhole : Whole extension) :
    IsName name ∧ exists parent : Files -> Location,
      (forall files, files.whereabouts path = parent files ++ [name]) ∧
      (renameExtension name extension = ".." ∧ (path.withExtension extension).name? = none ∨
        (path.withExtension extension).name? = some (renameExtension name extension) ∧
          renameExtension name extension ≠ ".." ∧
          forall files, files.whereabouts (path.withExtension extension) =
            parent files ++ [renameExtension name extension]) := by
  have hname := (whereabouts_of_name h).1
  rcases name?_eq_some_iff.mp h with ⟨-, -, earlier, hlast⟩
  have hmem {segment : String} (hsegment : segment ∈ name :: earlier) : segment ∈ path.segments :=
    List.mem_reverse.mp ((suffix_of_lastStep? hlast).subset hsegment)
  have htext : path.text ≠ "" := text_ne_empty (hmem List.mem_cons_self) hname.ne_empty
  have hearlier : forall segment, segment ∈ earlier -> Whole segment := fun segment hsegment =>
    whole_of_mem_segments (hmem (List.mem_cons_of_mem _ hsegment))
  have htarget : path.withExtension extension =
      ofSegments (renameExtension name extension :: earlier).reverse := by
    rw [withExtension, h, hlast]
  rw [htarget]
  refine ⟨hname, fun files => files.lead earlier.reverse, fun files => ?_, ?_⟩
  · rw [Files.whereabouts_eq_lead htext, ← List.reverse_reverse path.segments,
      (lead_lastStep? hlast files).2, hname.step_eq]
  · rcases isName_renameExtension hname hlong hwhole with hdots | hrenamed
    · rw [hdots]
      exact .inl ⟨rfl, name?_ofSegments_dots hearlier⟩
    · have htarget := whereabouts_ofSegments hrenamed hearlier
      exact .inr ⟨htarget.1, hrenamed.ne_dots, htarget.2⟩

end Path

end TutorialKit
