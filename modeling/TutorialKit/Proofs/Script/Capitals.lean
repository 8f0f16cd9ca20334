import TutorialKit.Proofs.Script.IdentifierStart

/-!
# Capitals

Words are made of letters, digits and low lines, and a name is put together from words whose first
letters have become capitals.  Most capitals are letters again; a few letters have a capital that is
written with a mark of its own, which belongs to no word.  A name in camel case consists of word
characters, and is its own camel case, if and only if no word of the text begins with one of those
letters.
-/

namespace TutorialKit
namespace Text

open CamelCase

/-- The letters whose capital is a letter with a mark behind it. -/
def markedLetters : List Nat :=
  [0x1F0, 0x390, 0x3B0, 0x1E96, 0x1E97, 0x1E98, 0x1E99, 0x1F50, 0x1F52, 0x1F54, 0x1F56, 0x1FB6,
   0x1FB7, 0x1FC6, 0x1FC7, 0x1FD2, 0x1FD3, 0x1FD6, 0x1FD7, 0x1FE2, 0x1FE3, 0x1FE4, 0x1FE6, 0x1FE7,
   0x1FF6, 0x1FF7]

/-- The capital whose small letter has a mark behind it. -/
def dottedCapital : Nat := 0x130

/-!
# Images of letters

The mappings are checked run by run, as tables: what comes first of an image is a word character,
and is mapped no further.
-/

theorem isWordChar_of_letters {n : Nat} (hvalid : n.isValidChar)
    (h : letterCodePoints.holds n n = true) : isWordChar (Char.ofNat n) = true := by
  have hincreasing : CodePoints.increasing 0 alphanumericCodePoints = true := by decide +kernel
  have hsublist : letterCodePoints.Sublist alphanumericCodePoints := by decide +kernel
  have hmember := CodePoints.member_of_holds hincreasing hsublist.subset h (Nat.le_refl n)
    (Nat.le_refl n)
  rw [isWordChar, isAlphanumeric, CodePoints.contains, toNat_ofNat hvalid, hmember, Bool.true_or]

namespace CaseMapping

/-- The images of word characters are word characters, but for marks behind those of some. -/
structure Lettered (mapping : CaseMapping) (marked : List Nat) : Prop where
  valid : forall run, run ∈ mapping.runs ->
    run.image + (run.last - run.first) < 0xD800 ∨
      0xDFFF < run.image ∧ run.image + (run.last - run.first) < 0x110000
  runs : (mapping.runs.all (CaseRun.lands letterCodePoints)) = true
  first : forall entry, entry ∈ mapping.expansions -> exists image, image ∈ entry.2.head? ∧
    image < 0xD800 ∧ letterCodePoints.holds image image = true
  unmarked : forall entry, entry ∈ mapping.expansions -> entry.1 ∉ marked ->
    forall image, image ∈ entry.2 -> image < 0xD800 ∧ letterCodePoints.holds image image = true
  marked : forall n, n ∈ marked -> exists images, images ∈ mapping.expansions.lookup n ∧
    exists image, image ∈ images.tail ∧ isWordChar (Char.ofNat image) = false

/-- No first image is mapped any further. -/
structure Settles (mapping : CaseMapping) : Prop where
  runs : (mapping.runs.all fun run => mapping.runs.all fun other => run.misses other) = true
  expansions : (mapping.runs.all fun run =>
    mapping.expansions.all fun entry => !run.yields entry.1) = true
  first : forall entry, entry ∈ mapping.expansions -> exists image, image ∈ entry.2.head? ∧
    ((mapping.runs.any fun run => run.yields image) = true ∨
      mapping.apply (Char.ofNat image) = [Char.ofNat image])

theorem lettered_upperCase : upperCase.Lettered markedLetters where
  valid := keeps_upperCase.valid
  runs := by decide +kernel
  first := by decide +kernel
  unmarked := by decide +kernel
  marked := by decide +kernel

theorem lettered_lowerCase : lowerCase.Lettered [dottedCapital] where
  valid := keeps_lowerCase.valid
  runs := by decide +kernel
  first := by decide +kernel
  unmarked := by decide +kernel
  marked := by decide +kernel

theorem settles_upperCase : upperCase.Settles where
  runs := by decide +kernel
  expansions := by decide +kernel
  first := by decide +kernel

theorem Lettered.valid_of_yields {mapping : CaseMapping} {marked : List Nat}
    (h : mapping.Lettered marked) {run : CaseRun} (hrun : run ∈ mapping.runs) {n : Nat}
    (hyields : run.yields n = true) : n.isValidChar :=
  CaseRun.isValidChar_of_yields (h.valid run hrun) hyields

theorem Lettered.exists_first {mapping : CaseMapping} {marked : List Nat}
    (h : mapping.Lettered marked) {n : Nat} {images : List Nat}
    (hentry : (n, images) ∈ mapping.expansions) :
    exists image rest, images = image :: rest ∧ image.isValidChar ∧
      isWordChar (Char.ofNat image) = true := by
  rcases h.first (n, images) hentry with ⟨image, hhead, hlow, hletter⟩
  rcases List.head?_eq_some_iff.mp hhead with ⟨rest, himages⟩
  exact ⟨image, rest, himages, .inl hlow, isWordChar_of_letters (.inl hlow) hletter⟩

theorem Lettered.apply {mapping : CaseMapping} {marked : List Nat} (h : mapping.Lettered marked)
    {c : Char} (hc : isWordChar c = true) :
    exists image rest, mapping.apply c = image :: rest ∧ isWordChar image = true ∧
      ((forall d, d ∈ rest -> isWordChar d = true) ↔ c.toNat ∉ marked) := by
  by_cases hmarked : c.toNat ∈ marked
  · rcases h.marked c.toNat hmarked with ⟨images, hlookup, mark, hmark, hword⟩
    rcases List.lookup_eq_some_iff.mp hlookup with ⟨before, after, hentries, -⟩
    have hentry : (c.toNat, images) ∈ mapping.expansions := by
      rw [hentries]
      exact List.mem_append_right before List.mem_cons_self
    rcases h.exists_first hentry with ⟨image, rest, rfl, -, hfirst⟩
    have happly : mapping.apply c = (image :: rest).map Char.ofNat := by
      unfold CaseMapping.apply
      rw [hlookup]
    refine ⟨Char.ofNat image, rest.map Char.ofNat, happly, hfirst, ?_⟩
    -- One of the other images is the mark.
    refine iff_of_false ?_ (not_not_intro hmarked)
    intro hall
    have hmem : Char.ofNat mark ∈ rest.map Char.ofNat := List.mem_map_of_mem hmark
    rw [hall _ hmem] at hword
    cases hword
  · rcases mapping.apply_cases c with happly | ⟨images, hentry, happly⟩ |
      ⟨run, hrun, hfirst, hlast, hstride, happly⟩
    · exact ⟨c, [], happly, hc, iff_of_true (List.forall_mem_nil _) hmarked⟩
    · rcases h.exists_first hentry with ⟨image, rest, rfl, -, hfirst⟩
      have hall := h.unmarked (c.toNat, image :: rest) hentry hmarked
      refine ⟨Char.ofNat image, rest.map Char.ofNat, happly, hfirst, ?_⟩
      refine iff_of_true ?_ hmarked
      intro d hd
      rcases List.mem_map.mp hd with ⟨n, hn, rfl⟩
      have hletter := hall n (List.mem_cons_of_mem image hn)
      exact isWordChar_of_letters (.inl hletter.1) hletter.2
    · have hyields := CaseRun.yields_image hfirst hlast hstride
      have hholds := CaseRun.holds_of_lands (List.all_eq_true.mp h.runs run hrun) hyields
      exact ⟨_, [], happly, isWordChar_of_letters (h.valid_of_yields hrun hyields) hholds,
        iff_of_true (List.forall_mem_nil _) hmarked⟩

theorem Settles.apply_yielded {mapping : CaseMapping} (h : mapping.Settles) {run : CaseRun}
    (hrun : run ∈ mapping.runs) {n : Nat} (hvalid : n.isValidChar) (hyields : run.yields n = true) :
    mapping.apply (Char.ofNat n) = [Char.ofNat n] := by
  apply apply_of_unmapped
  · intro entry hentry hsame
    have hexpansions := List.all_eq_true.mp (List.all_eq_true.mp h.expansions run hrun) entry hentry
    rw [hsame, toNat_ofNat hvalid, hyields] at hexpansions
    cases hexpansions
  · intro other hother
    rw [toNat_ofNat hvalid]
    have hruns := List.all_eq_true.mp (List.all_eq_true.mp h.runs run hrun) other hother
    exact CaseRun.map?_of_misses hruns hyields

theorem Settles.apply_first {mapping : CaseMapping} {marked : List Nat} (h : mapping.Settles)
    (hlettered : mapping.Lettered marked) {c image : Char} {rest : List Char}
    (happly : mapping.apply c = image :: rest) : mapping.apply image = [image] := by
  rcases mapping.apply_cases c with hself | ⟨images, hentry, himages⟩ |
    ⟨run, hrun, hfirst, hlast, hstride, himage⟩
  · rw [hself] at happly
    cases happly
    exact hself
  · rcases hlettered.exists_first hentry with ⟨n, others, rfl, hvalid, -⟩
    rcases h.first (c.toNat, n :: others) hentry with ⟨_, ⟨⟩, hsettled⟩
    rw [himages, List.map_cons] at happly
    cases happly
    rcases hsettled with hyielded | hfixed
    · rcases List.any_eq_true.mp hyielded with ⟨run, hrun, hyields⟩
      exact h.apply_yielded hrun hvalid hyields
    · exact hfixed
  · rw [himage] at happly
    cases happly
    have hyields := CaseRun.yields_image hfirst hlast hstride
    exact h.apply_yielded hrun (hlettered.valid_of_yields hrun hyields) hyields

end CaseMapping

/-- A capital is a word character that stays as it is, with marks behind it in a few cases. -/
theorem exists_capital {c : Char} (hc : isWordChar c = true) :
    exists capital rest, toUpper c = capital :: rest ∧ isWordChar capital = true ∧
      toUpper capital = [capital] ∧
      ((forall d, d ∈ rest -> isWordChar d = true) ↔ c.toNat ∉ markedLetters) := by
  rcases CaseMapping.lettered_upperCase.apply hc with ⟨capital, rest, happly, hword, hrest⟩
  have hsettled := CaseMapping.settles_upperCase.apply_first CaseMapping.lettered_upperCase happly
  exact ⟨capital, rest, happly, hword, hsettled, hrest⟩

theorem eq_dottedCapital_iff {c capital : Char} {rest : List Char}
    (h : toUpper c = capital :: rest) :
    capital.toNat = dottedCapital ↔ c.toNat = dottedCapital := by
  constructor
  · intro hcapital
    have hexpansions : forall entry, entry ∈ upperCase.expansions ->
        entry.2.head? ≠ some dottedCapital := by
      decide +kernel
    have hruns : (upperCase.runs.all fun run => !run.yields dottedCapital) = true := by
      decide +kernel
    rcases upperCase.apply_cases c with hself | ⟨images, hentry, himages⟩ |
      ⟨run, hrun, hfirst, hlast, hstride, himage⟩
    · rw [toUpper, hself] at h
      cases h
      exact hcapital
    · rcases CaseMapping.lettered_upperCase.exists_first hentry with ⟨n, others, rfl, hvalid, -⟩
      rw [toUpper, himages, List.map_cons] at h
      cases h
      rw [toNat_ofNat hvalid] at hcapital
      exact absurd (congrArg some hcapital) (hexpansions _ hentry)
    · have hyields := CaseRun.yields_image hfirst hlast hstride
      rw [toUpper, himage] at h
      cases h
      rw [toNat_ofNat (CaseMapping.lettered_upperCase.valid_of_yields hrun hyields)] at hcapital
      have hno := List.all_eq_true.mp hruns run hrun
      rw [← hcapital, hyields] at hno
      cases hno
  · intro hc
    have hself : toUpper (Char.ofNat dottedCapital) = [Char.ofNat dottedCapital] := by
      decide +kernel
    rw [← hc, Char.ofNat_toNat, h] at hself
    cases hself
    exact hc

/-!
# Names

Only the first letters of words are mapped, so only these can spoil a name.
-/

/-- No word of the text begins with a letter whose capital has a mark. -/
def BeginsUnmarked (cs : List Char) : Prop :=
  forall c rest, c :: rest ∈ words cs -> c.toNat ∉ markedLetters

theorem capitalize_closed_iff {c : Char} {rest : List Char}
    (h : forall d, d ∈ c :: rest -> isWordChar d = true) :
    (forall d, d ∈ capitalize (c :: rest) -> isWordChar d = true) ↔ c.toNat ∉ markedLetters := by
  rw [List.forall_mem_cons] at h
  rcases exists_capital h.1 with ⟨capital, marks, hcapital, hword, -, hmarks⟩
  rw [capitalize, hcapital, List.cons_append, List.forall_mem_cons, List.forall_mem_append, hmarks]
  constructor
  · rintro ⟨-, hunmarked, -⟩
    exact hunmarked
  · intro hunmarked
    exact ⟨hword, hunmarked, h.2⟩

theorem upper_closed_iff (cs : List Char) :
    (forall d, d ∈ upper cs -> isWordChar d = true) ↔ BeginsUnmarked cs := by
  constructor
  · intro hclosed c rest hmem
    apply (capitalize_closed_iff (isWordChar_of_mem_words hmem)).mp
    intro d hd
    exact hclosed d (List.mem_flatMap.mpr ⟨c :: rest, hmem, hd⟩)
  · intro hunmarked d hd
    rcases List.mem_flatMap.mp hd with ⟨word, hmem, hd⟩
    cases word with
    | nil => cases hd
    | cons c rest =>
        have hclosed := capitalize_closed_iff (isWordChar_of_mem_words hmem)
        exact hclosed.mpr (hunmarked c rest hmem) d hd

theorem head?_upper {cs : List Char} (capital : Char) (h : (upper cs).head? = some capital) :
    isWordChar capital = true ∧ toUpper capital = [capital] := by
  cases hfind : cs.find? isWordChar with
  | none =>
      rw [upper_of_find?_eq_none hfind] at h
      cases h
  | some c =>
      rcases upper_of_find?_eq_some hfind with ⟨rest, hupper⟩
      rcases exists_capital (List.find?_some hfind) with ⟨first, marks, hfirst, hword, hsettled, -⟩
      rw [hupper, hfirst] at h
      cases h
      exact ⟨hword, hsettled⟩

theorem upper_of_capital {c : Char} {rest : List Char} (hcapital : toUpper c = [c])
    (h : forall d, d ∈ c :: rest -> isWordChar d = true) : upper (c :: rest) = c :: rest := by
  rw [upper, words_of_word (List.cons_ne_nil c rest) h, List.flatMap_singleton, capitalize,
    hcapital]
  rfl

/-- A name is its own camel case just if it is a word. -/
theorem upper_upper_iff (cs : List Char) :
    upper (upper cs) = upper cs ↔ forall d, d ∈ upper cs -> isWordChar d = true := by
  cases hupper : upper cs with
  | nil => exact iff_of_true rfl (List.forall_mem_nil _)
  | cons capital rest =>
      rcases head?_upper capital (by rw [hupper]; rfl) with ⟨hword, hcapital⟩
      constructor
      · intro hsame
        have hfront :
            forall d, d ∈ capital :: rest.takeWhile isWordChar -> isWordChar d = true := by
          rw [List.forall_mem_cons]
          exact ⟨hword, List.all_eq_true.mp List.all_takeWhile⟩
        have hrest := List.takeWhile_append_dropWhile (p := isWordChar) (l := rest)
        cases hback : rest.dropWhile isWordChar with
        | nil =>
            rw [hback, List.append_nil] at hrest
            rwa [hrest] at hfront
        | cons mark back =>
            have hmark := List.head?_dropWhile_not isWordChar rest
            rw [hback] at hmark
            -- The mark cuts the name, so it would have to begin the camel case of what follows it.
            have hcut : capital :: rest = capital :: rest.takeWhile isWordChar ++ mark :: back := by
              rw [List.cons_append, ← hback, hrest]
            rw [hcut, upper_append_cons (by simpa using hmark), upper_of_capital hcapital hfront,
              List.append_cancel_left_eq] at hsame
            have hbegins := (head?_upper mark (by rw [hsame]; rfl)).1
            simp [hbegins] at hmark
      · exact upper_of_capital hcapital

theorem lower_closed_iff (cs : List Char) :
    (forall d, d ∈ lower cs -> isWordChar d = true) ↔
      BeginsUnmarked cs ∧ cs.find? isWordChar ≠ some (Char.ofNat dottedCapital) := by
  rw [← upper_closed_iff]
  cases hfind : cs.find? isWordChar with
  | none =>
      rw [lower, upper_of_find?_eq_none hfind]
      simp [uncapitalize]
  | some c =>
      rcases upper_of_find?_eq_some hfind with ⟨rest, hupper⟩
      rcases exists_capital (List.find?_some hfind) with ⟨capital, marks, hcapital, hword, -, -⟩
      rcases CaseMapping.lettered_lowerCase.apply hword with ⟨small, dot, hsmall, hletter, hdot⟩
      have hlower : lower cs = small :: (dot ++ (marks ++ rest)) := by
        rw [lower, hupper, hcapital, List.cons_append, uncapitalize, toLower, hsmall,
          List.cons_append]
      have hdotted : c.toNat = dottedCapital ↔ c = Char.ofNat dottedCapital := by
        constructor
        · intro hc
          rw [← hc, Char.ofNat_toNat]
        · rintro rfl
          rfl
      rw [hlower, hupper, hcapital, List.cons_append, List.forall_mem_cons, List.forall_mem_cons,
        List.forall_mem_append, hdot, List.mem_singleton, eq_dottedCapital_iff hcapital, hdotted]
      simp [hletter, hword, and_comm]

/--
A text gives a name of word characters only, and one that is its own camel case, if and only if no
word of it begins with a letter whose capital has a mark; the name that begins small does if its
first letter is not the capital with a dot, either.
-/
theorem camelCase_closed_iff (text : String) :
    ((forall c, c ∈ (upperCamelCase text).toList -> isWordChar c = true) ↔
      BeginsUnmarked text.toList) ∧
    (upperCamelCase (upperCamelCase text) = upperCamelCase text ↔ BeginsUnmarked text.toList) ∧
    ((forall c, c ∈ (lowerCamelCase text).toList -> isWordChar c = true) ↔
      BeginsUnmarked text.toList ∧
        text.toList.find? isWordChar ≠ some (Char.ofNat dottedCapital)) := by
  rw [upperCamelCase, lowerCamelCase, upperCamelCase, String.toList_ofList, String.toList_ofList,
    String.ofList_inj, upper_upper_iff, upper_closed_iff, lower_closed_iff]
  exact ⟨Iff.rfl, Iff.rfl, Iff.rfl⟩

/-- The mark above the first letter of a name cuts off what follows it. -/
theorem marked_capital_splits_name :
    upperCamelCase "\u01f0x" = "J\u030cx" ∧ isWordChar '\u030c' = false ∧
      '\u030c' ∈ (upperCamelCase "\u01f0x").toList ∧
      '\u030c' ∈ (lowerCamelCase "\u01f0x").toList ∧
      upperCamelCase (upperCamelCase "\u01f0x") = "JX" := by
  decide +kernel

end Text
end TutorialKit
