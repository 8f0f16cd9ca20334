import TutorialKit.Proofs.Storage.Whereabouts

/-!
# What the requests change

A request that is served changes what is at the place of its path and nothing else; only a renaming
changes two places.  Directories are made where nothing is, and never go away.
-/

namespace TutorialKit
namespace Files

/-!
# Entries

What is stored at a place is looked up there, and a change at one place is seen there only.
-/

theorem lookup_filter_ne {entries : List (Location × Entry)} {location other : Location} :
    (entries.filter fun entry => entry.1 != location).lookup other =
      if other = location then none else entries.lookup other := by
  induction entries with
  | nil => simp
  | cons entry rest ih =>
      rcases entry with ⟨there, what⟩
      by_cases hthere : there = location
      · subst hthere
        rw [List.filter_cons_of_neg (by simp), ih, List.lookup_cons]
        by_cases hother : other = there
        · simp [hother]
        · simp [hother, beq_eq_false_iff_ne.mpr hother]
      · rw [List.filter_cons_of_pos (by simpa using hthere), List.lookup_cons, List.lookup_cons, ih]
        by_cases hother : other = there
        · subst hother
          simp [hthere]
        · simp [beq_eq_false_iff_ne.mpr hother]

/-- The only place where something else may be afterwards, and what is there. -/
structure Sets (location : Location) (entry : Option Entry) (before after : Files) : Prop where
  here_eq : after.here = before.here
  entry_eq : forall other,
    after.entry? other = if other = location then entry else before.entry? other

theorem Sets.at_place {location : Location} {entry : Option Entry} {before after : Files}
    (h : Sets location entry before after) : after.entry? location = entry := by
  rw [h.entry_eq, if_pos rfl]

theorem Sets.elsewhere {location other : Location} {entry : Option Entry} {before after : Files}
    (h : Sets location entry before after) (hother : other ≠ location) :
    after.entry? other = before.entry? other := by
  rw [h.entry_eq, if_neg hother]

theorem sets_put {location : Location} (h : location ≠ []) (entry : Entry) (files : Files) :
    Sets location (some entry) files (files.put location entry) := by
  refine ⟨rfl, fun other => ?_⟩
  unfold entry? put
  by_cases hroot : other = []
  · rw [if_pos hroot, if_pos hroot, if_neg (by rw [hroot]; exact h.symm)]
  · rw [if_neg hroot, if_neg hroot, List.lookup_cons, lookup_filter_ne]
    by_cases hother : other = location
    · simp [hother]
    · simp [hother, beq_eq_false_iff_ne.mpr hother]

theorem sets_erase {location : Location} (h : location ≠ []) (files : Files) :
    Sets location none files (files.erase location) := by
  refine ⟨rfl, fun other => ?_⟩
  unfold entry? erase
  rw [lookup_filter_ne]
  by_cases hroot : other = []
  · rw [if_pos hroot, if_pos hroot, if_neg (by rw [hroot]; exact h.symm)]
  · rw [if_neg hroot, if_neg hroot]

/-!
# Names that a file can have

A path that is written to, removed or renamed has to end in a name.
-/

theorem entry?_of_child? {files : Files} {directory : Location} {name : String}
    {found : Option Entry} (h : files.child? directory name = .ok found) :
    files.entry? (directory ++ [name]) = found := by
  rw [child?] at h
  split at h
  · cases h
  · cases h
    rfl

theorem not_long_of_child? {files : Files} {directory : Location} {name : String}
    {found : Option Entry} (h : files.child? directory name = .ok found) :
    ¬ name.utf8ByteSize > maxNameBytes := by
  intro hlong
  rw [child?, if_pos hlong] at h
  cases h

/-- The path ends in a name, and a file may have that name. -/
def Nameable (path : Path) (files : Files) : Prop :=
  exists directory name, files.place path = .ok (.named directory name false) ∧
    ¬ name.utf8ByteSize > maxNameBytes

theorem Nameable.whereabouts_ne_nil {path : Path} {files : Files} (h : Nameable path files) :
    files.whereabouts path ≠ [] := by
  rcases h with ⟨directory, name, hplace, -⟩
  rw [← location_of_place hplace]
  simp [Place.location]

/-- The working directory is the same, and what was a directory is one. -/
structure KeepsDirectories (before after : Files) : Prop where
  here_eq : after.here = before.here
  directories : forall location, before.entry? location = some .directory ->
    after.entry? location = some .directory

theorem KeepsDirectories.refl (files : Files) : KeepsDirectories files files :=
  ⟨rfl, fun _ h => h⟩

theorem KeepsDirectories.trans {before between after : Files}
    (hfirst : KeepsDirectories before between) (hsecond : KeepsDirectories between after) :
    KeepsDirectories before after :=
  ⟨hsecond.here_eq.trans hfirst.here_eq,
    fun location h => hsecond.directories location (hfirst.directories location h)⟩

theorem Sets.keepsDirectories {location : Location} {entry : Option Entry} {before after : Files}
    (h : Sets location entry before after) (hfile : before.entry? location ≠ some .directory) :
    KeepsDirectories before after := by
  refine ⟨h.here_eq, fun other hdirectory => ?_⟩
  rw [h.elsewhere, hdirectory]
  intro heq
  rw [heq] at hdirectory
  exact hfile hdirectory

section

variable {before after : Files}

theorem enter_of_keepsDirectories (hkeeps : KeepsDirectories before after)
    {directory entered : Location} {segment : String}
    (h : before.enter directory segment = .ok entered) :
    after.enter directory segment = .ok entered := by
  unfold enter at h ⊢
  split
  · rename_i hdot
    rw [if_pos hdot] at h
    exact h
  · rename_i hdot
    rw [if_neg hdot] at h
    split
    · rename_i hdots
      rw [if_pos hdots] at h
      exact h
    · rename_i hdots
      rw [if_neg hdots] at h
      split at h
      · cases h
      · cases h
      · cases h
      · rename_i hchild
        have hthere := hkeeps.directories _ (entry?_of_child? hchild)
        rw [child?] at hchild ⊢
        split at hchild
        · cases hchild
        · rename_i hlong
          rw [if_neg hlong, hthere]
          exact h

theorem foldlM_enter_of_keepsDirectories (hkeeps : KeepsDirectories before after)
    {segments : List String} :
    forall {directory entered : Location},
      segments.foldlM before.enter directory = .ok entered ->
        segments.foldlM after.enter directory = .ok entered := by
  induction segments with
  | nil =>
      intro directory entered h
      exact h
  | cons segment segments ih =>
      intro directory entered h
      rw [List.foldlM_cons] at h ⊢
      rcases bind_eq_ok_iff.mp h with ⟨next, hstep, hrest⟩
      exact bind_eq_ok_iff.mpr ⟨next, enter_of_keepsDirectories hkeeps hstep, ih hrest⟩

/-- A path can be followed as long as the directories on its way are there. -/
theorem place_of_keepsDirectories (hkeeps : KeepsDirectories before after)
    {path : Path} {place : Place} (h : before.place path = .ok place) :
    after.place path = .ok place := by
  have hstart : after.start path = before.start path := by
    simp only [start, hkeeps.here_eq]
  unfold Files.place at h ⊢
  rw [hstart]
  split at h
  · cases h
  · rename_i hnul
    split at h
    · cases h
    · rename_i hempty
      split at h
      · cases h
      · rename_i hlong
        rw [if_neg hnul, if_neg hempty, if_neg hlong]
        dsimp only at h ⊢
        split
        · rename_i hlast
          rw [hlast] at h
          exact h
        · rename_i last hlast
          rw [hlast] at h
          rcases bind_eq_ok_iff.mp h with ⟨directory, hfront, hplace⟩
          exact bind_eq_ok_iff.mpr
            ⟨directory, foldlM_enter_of_keepsDirectories hkeeps hfront, hplace⟩

theorem Nameable.of_keepsDirectories (hkeeps : KeepsDirectories before after)
    {path : Path} (h : Nameable path before) : Nameable path after := by
  rcases h with ⟨directory, name, hplace, hlong⟩
  exact ⟨directory, name, place_of_keepsDirectories hkeeps hplace, hlong⟩

end

section

variable {path : Path} {files : Files} {bytes : Text.Bytes}

theorem read_of_nameable (h : Nameable path files)
    (hentry : files.entry? (files.whereabouts path) = some (.file bytes)) :
    files.read path = .ok bytes := by
  rcases h with ⟨directory, name, hplace, hlong⟩
  rw [← location_of_place hplace, Place.location] at hentry
  rw [read, hplace]
  simp only [bind, Except.bind, child?, if_neg hlong, hentry]
  rfl

theorem remove_of_nameable (h : Nameable path files)
    (hentry : files.entry? (files.whereabouts path) = some (.file bytes)) :
    exists gone, files.remove path = .ok gone := by
  rcases h with ⟨directory, name, hplace, hlong⟩
  rw [← location_of_place hplace, Place.location] at hentry
  rw [remove, hplace]
  simp only [bind, Except.bind, child?, if_neg hlong, hentry]
  exact ⟨_, rfl⟩

theorem read_ok (h : files.read path = .ok bytes) :
    Nameable path files ∧ files.entry? (files.whereabouts path) = some (.file bytes) := by
  rw [read] at h
  rcases bind_eq_ok_iff.mp h with ⟨place, hplace, hread⟩
  rw [← location_of_place hplace]
  cases place with
  | directory location => cases hread
  | named directory name slash =>
      rcases bind_eq_ok_iff.mp hread with ⟨found, hchild, hfound⟩
      rw [Place.location, entry?_of_child? hchild]
      split at hfound
      · cases hfound
      · cases hfound
      · split at hfound
        · cases hfound
        · rename_i hslash
          rw [Bool.not_eq_true] at hslash
          cases hfound
          exact ⟨⟨directory, name, by rw [hplace, hslash], not_long_of_child? hchild⟩, rfl⟩

end

/-!
# Requests that are served

For every request it is told what it changes, given that it is served.
-/

section

variable {path : Path} {before after : Files}

theorem makeDirectory_ok (h : before.makeDirectory path = .ok after) :
    before.entry? (before.whereabouts path) = none ∧
      Sets (before.whereabouts path) (some .directory) before after := by
  rw [makeDirectory] at h
  rcases bind_eq_ok_iff.mp h with ⟨place, hplace, hmade⟩
  rw [← location_of_place hplace]
  cases place with
  | directory location => cases hmade
  | named directory name slash =>
      rcases bind_eq_ok_iff.mp hmade with ⟨found, hchild, hfound⟩
      split at hfound
      · cases hfound
      · cases hfound
        exact ⟨entry?_of_child? hchild, sets_put (by simp [Place.location]) _ _⟩

theorem writable_ok {location : Location} {present : Option Text.Bytes}
    (h : before.writable path = .ok (location, present)) :
    Nameable path before ∧ location = before.whereabouts path ∧
      before.entry? (before.whereabouts path) = present.map Entry.file := by
  rw [writable] at h
  rcases bind_eq_ok_iff.mp h with ⟨place, hplace, hopen⟩
  rw [← location_of_place hplace]
  cases place with
  | directory location => cases hopen
  | named directory name slash =>
      dsimp only at hopen
      split at hopen
      · cases hopen
      · rename_i hslash
        rw [Bool.not_eq_true] at hslash
        rcases bind_eq_ok_iff.mp hopen with ⟨found, hchild, hfound⟩
        have hnameable : Nameable path before :=
          ⟨directory, name, by rw [hplace, hslash], not_long_of_child? hchild⟩
        refine ⟨hnameable, ?_⟩
        rw [Place.location, entry?_of_child? hchild]
        split at hfound
        · cases hfound
        · cases hfound
          exact ⟨rfl, rfl⟩
        · cases hfound
          exact ⟨rfl, rfl⟩

theorem create_ok (h : before.create path = .ok after) :
    Nameable path before ∧ before.entry? (before.whereabouts path) ≠ some .directory ∧
      Sets (before.whereabouts path) (some (.file [])) before after := by
  rw [create] at h
  rcases bind_eq_ok_iff.mp h with ⟨⟨location, present⟩, hwritable, hput⟩
  rcases writable_ok hwritable with ⟨hnameable, rfl, hentry⟩
  cases hput
  refine ⟨hnameable, ?_, sets_put hnameable.whereabouts_ne_nil _ _⟩
  rw [hentry]
  cases present <;> simp

theorem write_ok {bytes : Text.Bytes} (h : before.write path bytes = .ok after) :
    Nameable path before ∧ before.entry? (before.whereabouts path) ≠ some .directory ∧
      Sets (before.whereabouts path) (some (.file bytes)) before after := by
  rw [write] at h
  rcases bind_eq_ok_iff.mp h with ⟨⟨location, present⟩, hwritable, hput⟩
  rcases writable_ok hwritable with ⟨hnameable, rfl, hentry⟩
  split at hput
  · cases hput
  · rename_i present hpair
    cases hpair
    cases hput
    refine ⟨hnameable, ?_, sets_put hnameable.whereabouts_ne_nil _ _⟩
    simp [hentry]

theorem remove_ok (h : before.remove path = .ok after) :
    before.entry? (before.whereabouts path) ≠ some .directory ∧
      Sets (before.whereabouts path) none before after := by
  rw [remove] at h
  rcases bind_eq_ok_iff.mp h with ⟨place, hplace, hgone⟩
  rw [← location_of_place hplace]
  cases place with
  | directory location => cases hgone
  | named directory name slash =>
      rcases bind_eq_ok_iff.mp hgone with ⟨found, hchild, hfound⟩
      rw [Place.location, entry?_of_child? hchild]
      split at hfound
      · cases hfound
      · cases hfound
      · split at hfound
        · cases hfound
        · cases hfound
          have hsets : Sets (directory ++ [name]) none before _ := sets_erase (by simp) before
          exact ⟨by simp, hsets.here_eq, hsets.entry_eq⟩

/-- The file takes the place of the target, whatever file was there. -/
theorem rename_ok {source target : Path} (h : before.rename source target = .ok after) :
    after.here = before.here ∧ Nameable target before ∧
      before.entry? (before.whereabouts target) ≠ some .directory ∧
      exists bytes, before.entry? (before.whereabouts source) = some (.file bytes) ∧
        forall other, after.entry? other =
          if other = before.whereabouts target then some (.file bytes)
          else if other = before.whereabouts source then none
          else before.entry? other := by
  rw [rename] at h
  rcases bind_eq_ok_iff.mp h with ⟨from_, hfrom, hmoved⟩
  rcases bind_eq_ok_iff.mp hmoved with ⟨to_, hto, hboth⟩
  rw [← location_of_place hfrom, ← location_of_place hto]
  cases from_ with
  | directory location => cases hboth
  | named fromDirectory fromName fromSlash =>
      cases to_ with
      | directory location => cases hboth
      | named toDirectory toName toSlash =>
          rcases bind_eq_ok_iff.mp hboth with ⟨found, hsource, hrest⟩
          rcases bind_eq_ok_iff.mp hrest with ⟨present, hpresent, hchanged⟩
          rw [Place.location, Place.location, entry?_of_child? hsource, entry?_of_child? hpresent]
          cases found with
          | none => cases hchanged
          | some entry =>
              cases entry with
              | directory => cases hchanged
              | file bytes =>
                  dsimp only at hchanged
                  split at hchanged
                  · cases hchanged
                  · rename_i hslash
                    split at hchanged
                    · cases hchanged
                    · rename_i hfile
                      cases hchanged
                      have hslash : toSlash = false := by
                        cases toSlash
                        · rfl
                        · simp at hslash
                      refine ⟨rfl, ⟨toDirectory, toName, by rw [hto, hslash],
                        not_long_of_child? hpresent⟩, hfile, bytes, rfl, fun other => ?_⟩
                      have herase : Sets (fromDirectory ++ [fromName]) none before _ :=
                        sets_erase (by simp) before
                      rw [← herase.entry_eq]
                      exact (sets_put (by simp) (.file bytes) _).entry_eq other

theorem keepsDirectories_of_rename {source target : Path}
    (h : before.rename source target = .ok after) : KeepsDirectories before after := by
  rcases rename_ok h with ⟨hhere, -, hfile, moved, hmoved, hentries⟩
  refine ⟨hhere, fun location hdirectory => ?_⟩
  rw [hentries, if_neg, if_neg, hdirectory]
  · intro heq
    rw [heq, hmoved] at hdirectory
    cases hdirectory
  · intro heq
    rw [heq] at hdirectory
    exact hfile hdirectory

theorem read_of_rename {source target : Path} {bytes : Text.Bytes}
    (h : before.rename source target = .ok after)
    (hsource : before.entry? (before.whereabouts source) = some (.file bytes)) :
    after.read target = .ok bytes := by
  rcases rename_ok h with ⟨hhere, hnameable, -, moved, hmoved, hentries⟩
  rw [hsource] at hmoved
  cases hmoved
  apply read_of_nameable (hnameable.of_keepsDirectories (keepsDirectories_of_rename h))
  rw [whereabouts_congr hhere, hentries, if_pos rfl]

theorem keepsDirectories_of_openLog (h : before.openLog path = .ok after) :
    KeepsDirectories before after := by
  rw [openLog] at h
  rcases bind_eq_ok_iff.mp h with ⟨⟨location, present⟩, hwritable, hput⟩
  rcases writable_ok hwritable with ⟨hnameable, rfl, hentry⟩
  have hfile : before.entry? (before.whereabouts path) ≠ some .directory := by
    rw [hentry]
    cases present <;> simp
  have hsets := sets_put hnameable.whereabouts_ne_nil (.file (present.getD [])) before
  cases hput
  exact ⟨rfl, (hsets.keepsDirectories hfile).directories⟩

theorem keepsDirectories_appendToLog (bytes : Text.Bytes) (files : Files) :
    KeepsDirectories files (files.appendToLog bytes) := by
  rw [appendToLog]
  split
  · exact .refl files
  · rename_i location hlog
    split
    · rename_i present hpresent
      have hne : location ≠ [] := by
        intro heq
        unfold entry? at hpresent
        rw [if_pos heq] at hpresent
        cases hpresent
      apply (sets_put hne _ files).keepsDirectories
      simp [hpresent]
    · exact .refl files

end

end Files
end TutorialKit
