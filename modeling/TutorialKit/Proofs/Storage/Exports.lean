import TutorialKit.CommandLine.Commands
import TutorialKit.Proofs.Document.Passage
import TutorialKit.Proofs.Script.Exporting
import TutorialKit.Proofs.Script.License
import TutorialKit.Proofs.Storage.Extensions
import TutorialKit.Proofs.Storage.Saving

/-!
# Exporting beside the source

Without an output, a script goes to the path of its tutorial with another extension.  A tutorial
that has this extension itself is replaced by its script, which cannot be read as a tutorial; any
other one is left alone, and so is every one if the export fails.
-/

namespace TutorialKit

open Text

/-!
# Scripts are no documents

A document may begin with white space and with tags.  A script begins with neither.
-/

namespace ReadState

theorem run_consText_prolog {held : List Char} (h : Xml.isBlank held.reverse = false)
    (offset : Nat) (later : Xml.TokenStream) :
    exists fault, prolog.run (Xml.TokenStream.consText held offset later).tokens
      (Xml.TokenStream.consText held offset later).ending = .error fault := by
  have hfilled : held.isEmpty = false := by
    cases held with
    | nil => cases h
    | cons c held => rfl
  rw [Xml.TokenStream.consText, hfilled]
  simp [Xml.TokenStream.cons, run, takeToken, Xml.Event.ofToken, take, inProlog, h]

theorem readFrom_prolog {held : List Char} (h : Xml.isBlank held.reverse = false)
    (opened : List (List Char)) (offset : Nat) (cs : List Char) :
    exists fault, prolog.readFrom (.text held) opened offset cs = .error fault := by
  induction cs generalizing held offset with
  | nil => exact run_consText_prolog h offset _
  | cons c cs ih =>
      by_cases hlt : c = '<'
      · rw [readFrom, Xml.scanTokens]
        simp only [if_pos hlt]
        exact run_consText_prolog h offset _
      · by_cases hamp : c = '&'
        · rw [readFrom, Xml.scanTokens]
          simp only [if_neg hlt, if_pos hamp]
          exact run_consText_prolog h offset _
        · rw [readFrom_plain _ _ _ _ hlt hamp]
          refine ih ?_ _
          rw [Xml.isBlank] at h ⊢
          rw [List.reverse_cons, List.all_append, h, Bool.false_and]

end ReadState

theorem Tutorial.ofXml_error {text : String} {c : Char} {rest : List Char}
    (htext : text.toList = c :: rest) (hmark : c ≠ '\uFEFF') (hlt : c ≠ '<') (hamp : c ≠ '&')
    (hblank : Xml.isBlankChar c = false) : exists error, Tutorial.ofXml text = .error error := by
  have hheld : Xml.isBlank [c].reverse = false := by
    simp [Xml.isBlank, hblank]
  rcases ReadState.readFrom_prolog hheld [] c.utf8Size rest with ⟨fault, hfault⟩
  have hstart : Xml.dropByteOrderMark (c :: rest) = c :: rest := by
    unfold Xml.dropByteOrderMark
    split
    · rename_i heq
      cases heq
      exact absurd rfl hmark
    · rfl
  have hread : ReadState.prolog.readFrom (.text []) [] 0 (c :: rest) = .error fault := by
    rw [ReadState.readFrom_plain _ _ _ _ hlt hamp, Nat.zero_add]
    exact hfault
  rw [ReadState.readFrom] at hread
  rw [Tutorial.ofXml, Tutorial.readChars, htext, Xml.tokens, hstart]
  simp only [hread]
  exact ⟨_, rfl⟩

theorem Tutorial.toScript_cons (tutorial : Tutorial) :
    exists c rest, tutorial.toScript.toList = c :: rest ∧ (c = '/' ∨ c = 't') := by
  have hfirst : exists block blocks c rest, tutorial.scriptBlocks = block :: blocks ∧
      block.text.toList = c :: rest ∧ (c = '/' ∨ c = 't') := by
    rw [scriptBlocks, headBlocks]
    by_cases hlicense : tutorial.license = ""
    · rw [if_pos hlicense]
      exact ⟨_, _, 't', _, rfl, by rw [Script.Block.text]; rfl, .inr rfl⟩
    · rw [if_neg hlicense]
      exact ⟨_, _, _, _, rfl, String.toList_ofList.trans (Script.box_eq _), .inl rfl⟩
  rcases hfirst with ⟨block, blocks, c, rest, hblocks, htext, hc⟩
  refine ⟨c, rest ++ (Script.blocksText blocks).toList, ?_, hc⟩
  rw [toScript, hblocks, Script.blocksText_cons, String.toList_append, htext, List.cons_append]

theorem decodeText_cons {c : Char} {b : UInt8} (hb : Utf8.Lead.ofByte b = .alone)
    (hc : Char.ofNat b.toNat = c) {bytes : Bytes} {text : String}
    (h : Utf8.decodeText (b :: bytes) = .ok text) : exists rest, text.toList = c :: rest := by
  rw [Utf8.decodeText, Utf8.decode, Utf8.decodeFrom, hb] at h
  dsimp only at h
  cases hrest : Utf8.decodeFrom (0 + 1) .idle bytes with
  | error fault =>
      rw [hrest] at h
      cases h
  | ok rest =>
      rw [hrest, hc] at h
      cases h
      exact ⟨rest, String.toList_ofList⟩

/-- No bytes stand for both a tutorial and a script. -/
theorem Tutorial.ofBytes_encode_toScript (path : Path) (tutorial : Tutorial) :
    exists error, Tutorial.ofBytes path (Utf8.encodeText tutorial.toScript) = .error error := by
  rcases tutorial.toScript_cons with ⟨c, rest, hscript, hc⟩
  have hbyte : exists b, String.utf8EncodeChar c = [b] ∧ Utf8.Lead.ofByte b = .alone ∧
      Char.ofNat b.toNat = c := by
    rcases hc with rfl | rfl
    · exact ⟨0x2F, by decide, rfl, by decide⟩
    · exact ⟨0x74, by decide, rfl, by decide⟩
  have hplain : c ≠ '\uFEFF' ∧ c ≠ '<' ∧ c ≠ '&' ∧ Xml.isBlankChar c = false := by
    rcases hc with rfl | rfl <;> decide
  rcases hbyte with ⟨b, hencode, hlead, hdecode⟩
  rw [ofBytes, Utf8.encodeText, hscript, Utf8.encode, List.flatMap_cons, hencode,
    List.singleton_append]
  cases htext : Utf8.decodeText (b :: rest.flatMap String.utf8EncodeChar) with
  | error fault => exact ⟨_, rfl⟩
  | ok text =>
      rcases decodeText_cons hlead hdecode htext with ⟨others, hothers⟩
      rcases ofXml_error hothers hplain.1 hplain.2.1 hplain.2.2.1 hplain.2.2.2 with ⟨error, herror⟩
      exact ⟨.document path error, by simp [bind, Except.bind, Except.mapError, herror]⟩

/-!
# Commands

An error of a task is reported by its command, and warnings go to the log.
-/

namespace CommandLine

variable {α β : Type} {fails : FileRequest -> Prop} {always : Files -> Prop}

/-- The end of a command, with one property for values and one for all errors. -/
def Ends (good : α -> Files -> Prop) (bad : Files -> Prop) :
    Except CommandError α -> Files -> Prop
  | .ok value => good value
  | .error _ => bad

variable {good : α -> Files -> Prop} {bad : Files -> Prop} {files : Files}

theorem ensures_then {task : CommandTask β} {f : β -> CommandTask α} {mid : β -> Files -> Prop}
    (htask : FileTask.Ensures fails always (Ends mid bad) task files)
    (hthen : forall value later, mid value later ->
      FileTask.Ensures fails always (Ends good bad) (f value) later) :
    FileTask.Ensures fails always (Ends good bad) (task >>= f : CommandTask α) files := by
  refine FileTask.ensures_bind.mpr (htask.mono (fun _ h => h) ?_)
  intro result later h
  cases result with
  | ok value => exact hthen value later h
  | error error => exact h

theorem ensures_stored {task : StorageTask α}
    (h : FileTask.Ensures fails always (StorageTask.Ends good fun _ => bad) task files) :
    FileTask.Ensures fails always (Ends good bad) (stored task) files := by
  refine FileTask.ensures_bind.mpr (h.mono (fun _ h => h) ?_)
  intro result later h
  cases result <;> exact h

theorem ensures_logWarnings (messages : List String) :
    FileTask.Ensures fails always (Ends (fun _ later => later = files) bad)
      (logWarnings messages) files := by
  induction messages with
  | nil => rfl
  | cons message rest ih =>
      have hlogged : FileTask.Ensures fails always (Ends (fun _ later => later = files) bad)
          (logEvent .warn message []) files := rfl
      refine ensures_then hlogged fun _ later hsame => ?_
      rw [hsame]
      exact ih

end CommandLine

/-!
# Loading

The result of loading is known from the files as they were.
-/

/-- The file at the path stands for the tutorial. -/
def Loads (files : Files) (path : Path) (tutorial : Tutorial) : Prop :=
  exists bytes, files.read path = .ok bytes ∧ Tutorial.ofBytes path bytes = .ok tutorial

section

variable {fails : FileRequest -> Prop} {always : Files -> Prop} {path : Path} {before : Files}
variable {tutorial : Tutorial}

theorem Loads.unique {other : Tutorial} (h : Loads before path tutorial)
    (hother : Loads before path other) : other = tutorial := by
  rcases h with ⟨bytes, hread, hbytes⟩
  rcases hother with ⟨others, hreadOther, hbytesOther⟩
  rw [hread] at hreadOther
  cases hreadOther
  rw [hbytes] at hbytesOther
  exact (Except.ok.inj hbytesOther).symm

theorem Loads.not_script (h : Loads before path tutorial) (other : Tutorial) :
    before.read path ≠ .ok (Utf8.encodeText other.toScript) := by
  rcases h with ⟨bytes, hread, hbytes⟩
  intro hscript
  rcases other.ofBytes_encode_toScript path with ⟨error, herror⟩
  rw [hread] at hscript
  rw [Except.ok.inj hscript, herror] at hbytes
  cases hbytes

theorem ensures_readFile (hkept : always before) :
    FileTask.Ensures fails always
      (StorageTask.Ends (fun bytes later => before.read path = .ok bytes ∧ later = before)
        fun _ later => later = before) (Tutorial.readFile path) before := by
  unfold Tutorial.readFile
  split
  · rfl
  · refine StorageTask.ensures_bind.mpr (StorageTask.ensures_lift.mpr ⟨hkept, ?_⟩)
    intro changed answer hanswer
    have heffect : changed = before := hanswer.effect
    subst heffect
    cases answer with
    | true => rfl
    | false =>
        refine StorageTask.ensures_demand.mpr ⟨hkept, fun later answer hanswer => ?_⟩
        cases hanswer with
        | served request =>
            change StorageTask.Ends _ _ ((changed.read path).mapError _) changed
            cases changed.read path with
            | ok bytes => exact ⟨rfl, rfl⟩
            | error error => rfl
        | refused request error may => rfl

theorem ensures_load (hkept : always before) :
    FileTask.Ensures fails always
      (StorageTask.Ends (fun loaded later => Loads before path loaded ∧ later = before)
        fun _ later => later = before) (Tutorial.load path) before := by
  refine StorageTask.ensures_then (ensures_readFile hkept) fun bytes later hbytes => ?_
  rcases hbytes with ⟨hread, rfl⟩
  cases hloaded : Tutorial.ofBytes path bytes with
  | ok loaded => exact ⟨⟨bytes, hread, hloaded⟩, rfl⟩
  | error error => rfl

theorem loads_of_run (h : (FileTask.run before (Tutorial.load path)).value = .ok tutorial) :
    Loads before path tutorial := by
  have hreach := FileTask.reaches_run (fun _ => False) (Tutorial.load path) before
  have hensured := @ensures_load (fun _ => False) (fun _ => True) path before trivial
  have hend := hensured.of_reaches hreach
  rw [h] at hend
  exact hend.1

end

/-!
# Exporting

An export loads its tutorial and replaces its target.  The two paths meet only in what follows.
-/

theorem Underway.refl (target : Path) (before : Files) : Underway target before before :=
  ⟨rfl, fun location _ => Undisturbed.refl target before location⟩

namespace CommandLine

theorem ensures_saveScript (fails : FileRequest -> Prop) (target : Path) (tutorial : Tutorial)
    (before : Files) :
    FileTask.Ensures fails (Underway target before)
      (Ends
        (fun _ later => target.name? ≠ none ∧
          Replaced target (Utf8.encodeText tutorial.toScript) before later)
        (Underway target before))
      (stored (tutorial.saveScript .javascript target)) before := by
  apply ensures_stored
  by_cases hname : target.name? = none
  · unfold Tutorial.saveScript replaceFile
    rw [hname]
    exact Underway.refl target before
  · have hscript : Script.Format.javascript.render tutorial = tutorial.toScript :=
      congrArg Prod.snd (Script.Exporter.run_eq_toScript {} tutorial)
    have hreplaces := tutorial.replaces_saveScript fails target .javascript before
    rw [hscript] at hreplaces
    refine FileTask.Ensures.mono hreplaces (fun _ h => h) ?_
    intro result later hend
    cases result with
    | ok script => exact ⟨hname, hend.2⟩
    | error error =>
        have hgaveUp : GaveUp fails target before error later := hend
        exact hgaveUp.toUnderway

/-- What exporting a tutorial to its default place comes to, whatever fails. -/
theorem ensures_exportScript (fails : FileRequest -> Prop) {input : Path} {before : Files}
    {tutorial : Tutorial} (hloads : Loads before input tutorial) {target : Path}
    (htarget : input.withExtension "js" = target) (type : String) :
    FileTask.Ensures fails (Underway target before)
      (Ends
        (fun _ later => target.name? ≠ none ∧
          Replaced target (Utf8.encodeText tutorial.toScript) before later)
        (Underway target before))
      (exportScript input none type) before := by
  have hbefore := Underway.refl target before
  have hchosen : FileTask.Ensures fails (Underway target before)
      (Ends (fun format later => format = .javascript ∧ later = before) (Underway target before))
      (chosenFormat type) before := by
    unfold chosenFormat
    cases Script.Format.ofEntry type with
    | error error => exact hbefore
    | ok format =>
        cases format
        exact ⟨rfl, rfl⟩
  have hloaded : FileTask.Ensures fails (Underway target before)
      (Ends (fun loaded later => loaded = tutorial ∧ later = before) (Underway target before))
      (stored (Tutorial.load input)) before := by
    refine ensures_stored ((ensures_load hbefore).mono (fun _ h => h) ?_)
    intro result later hend
    cases result with
    | ok loaded => exact ⟨hloads.unique hend.1, hend.2⟩
    | error error =>
        have hsame : later = before := hend
        rw [hsame]
        exact hbefore
  unfold exportScript
  refine ensures_then hchosen fun format chosen hformat => ?_
  rw [hformat.1, hformat.2, Option.getD_none]
  refine ensures_then hloaded fun loaded later hlater => ?_
  rw [hlater.1, hlater.2, show Script.Format.javascript.extension = "js" from rfl, htarget]
  have hsaved := ensures_saveScript fails target tutorial before
  refine ensures_then hsaved fun script later hlater => ?_
  refine ensures_then (ensures_logWarnings _) fun _ logged hlogged => ?_
  rw [hlogged]
  exact hlater

end CommandLine

/-!
# The source

The source is read through its path, so its place is compared with that of the target and with that
of the temporary file.
-/

section

variable {path target : Path} {before later : Files}

theorem Undisturbed.read_eq {bytes : Bytes} (hkeeps : Files.KeepsDirectories before later)
    (hread : before.read path = .ok bytes)
    (h : Undisturbed target before later (before.whereabouts path)) :
    later.read path = before.read path := by
  rcases Files.read_ok hread with ⟨hnameable, hentry⟩
  rw [hread]
  apply Files.read_of_nameable (hnameable.of_keepsDirectories hkeeps)
  rw [Files.whereabouts_congr hkeeps.here_eq]
  rcases h with heq | ⟨hnone, -⟩
  · rw [heq, hentry]
  · rw [hnone] at hentry
    cases hentry

/-- Nothing is lost under the name of the temporary file. -/
theorem temporaryPlace?_withExtension_ne {extension : String} (hlong : 1 <= extension.length)
    (hwhole : Path.Whole extension) (path : Path) (files : Files) :
    files.temporaryPlace? (path.withExtension extension) ≠ some (files.whereabouts path) := by
  cases hname : path.name? with
  | none =>
      rw [Path.withExtension, hname, Files.temporaryPlace?, hname]
      simp
  | some name =>
      rcases Path.whereabouts_withExtension hname hlong hwhole with
        ⟨hold, parent, hpath, ⟨-, hnameless⟩ | ⟨hnew, hdots, htarget⟩⟩
      · rw [Files.temporaryPlace?, hnameless]
        simp
      · rcases Path.whereabouts_withName hnew with ⟨hrenamed, place, hplace, hwith⟩
        have hbeside : place files = parent files := by
          have heq := (hplace files).symm.trans (htarget files)
          exact List.append_inj_left' heq rfl
        have htemporary : Path.IsName (Path.renameExtension name extension ++ ".tmp") :=
          hrenamed.append (by decide) (Path.whole_of_all (by decide))
        rw [Files.temporaryPlace?, hnew, Option.map_some, temporaryPath, hwith _ htemporary, hpath,
          hbeside, Ne, Option.some.injEq, List.append_right_inj, List.cons.injEq]
        exact fun heq => Path.renameExtension_append_ne hdots heq.1

theorem whereabouts_withExtension_eq_iff {extension : String} (hlong : 1 <= extension.length)
    (hwhole : Path.Whole extension) (path : Path)
    (hnamed : (path.withExtension extension).name? ≠ none) (files : Files) :
    files.whereabouts path = files.whereabouts (path.withExtension extension) ↔
      path.extension? = some extension := by
  cases hname : path.name? with
  | none =>
      rw [Path.withExtension, hname] at hnamed
      exact absurd hname hnamed
  | some name =>
      rcases Path.whereabouts_withExtension hname hlong hwhole with
        ⟨hold, parent, hpath, ⟨-, hnameless⟩ | ⟨-, hdots, htarget⟩⟩
      · exact absurd hnameless hnamed
      · rw [hpath, htarget, List.append_right_inj, List.cons.injEq, Path.extension?, hname,
          Option.bind_some]
        constructor
        · rintro ⟨heq, -⟩
          exact Path.nameExtension?_of_renameExtension_eq hold.ne_dots heq.symm
        · intro hextension
          rcases Path.renameExtension_of_nameExtension?_eq hextension with heq | heq
          · exact ⟨heq.symm, rfl⟩
          · exact absurd heq hdots

variable {extension : String} {bytes contents : Bytes}

theorem Underway.read_source (hlong : 1 <= extension.length) (hwhole : Path.Whole extension)
    (hkeeps : Files.KeepsDirectories before later) (hread : before.read path = .ok bytes)
    (h : Underway (path.withExtension extension) before later) :
    later.read path = before.read path :=
  (h.elsewhere _ (temporaryPlace?_withExtension_ne hlong hwhole path before)).read_eq hkeeps hread

/-- A file is replaced if it has the extension already, and otherwise left alone. -/
theorem Replaced.read_source (hlong : 1 <= extension.length) (hwhole : Path.Whole extension)
    (hkeeps : Files.KeepsDirectories before later) (hread : before.read path = .ok bytes)
    (hnamed : (path.withExtension extension).name? ≠ none)
    (h : Replaced (path.withExtension extension) contents before later) :
    later.read path =
      if path.extension? = some extension then .ok contents else before.read path := by
  have hplace := whereabouts_withExtension_eq_iff hlong hwhole path hnamed before
  split
  · rename_i hextension
    have hheld := h.whole
    rw [Files.held, Files.whereabouts_congr hkeeps.here_eq, ← hplace.mpr hextension,
      <- Files.whereabouts_congr hkeeps.here_eq] at hheld
    exact Files.read_of_nameable ((Files.read_ok hread).1.of_keepsDirectories hkeeps) hheld
  · rename_i hextension
    have htemporary := temporaryPlace?_withExtension_ne hlong hwhole path before
    exact (h.elsewhere _ (mt hplace.mp hextension) htemporary).read_eq hkeeps hread

end

namespace CommandLine

/--
At every stage of an export that has no output, the tutorial can be read as before, unless its
extension is that of scripts: then it may have been replaced by its script, and has been if the
export succeeds.
-/
theorem export_spares_input_unless_script (fails : FileRequest -> Prop) {input : Path}
    {before later : Files} {tutorial : Tutorial} {type : String} {rest : CommandTask Printed}
    (hload : (FileTask.run before (Tutorial.load input)).value = .ok tutorial)
    (hreach : Reaches fails before (exportScript input none type) later rest) :
    (later.read input = before.read input ∨
      input.extension? = some "js" ∧
        later.read input = .ok (Utf8.encodeText tutorial.toScript)) ∧
    (forall error, rest = .done (.error error) -> later.read input = before.read input) ∧
    forall printed, rest = .done (.ok printed) ->
      (later.read input = before.read input ↔ input.extension? ≠ some "js") := by
  have hloads := loads_of_run hload
  have hnotScript := hloads.not_script tutorial
  have hrest := (ensures_exportScript fails hloads rfl type).of_reaches hreach
  have hkeeps := hreach.keepsDirectories
  have hlong : 1 <= "js".length := by decide
  have hwhole : Path.Whole "js" := Path.whole_of_all (by decide)
  rcases hloads with ⟨bytes, hread, -⟩
  have hunderway : Underway (input.withExtension "js") before later ->
      later.read input = before.read input := Underway.read_source hlong hwhole hkeeps hread
  have hreplaced : (input.withExtension "js").name? ≠ none ∧
      Replaced (input.withExtension "js") (Utf8.encodeText tutorial.toScript) before later ->
      later.read input =
        if input.extension? = some "js" then .ok (Utf8.encodeText tutorial.toScript)
        else before.read input :=
    fun h => Replaced.read_source hlong hwhole hkeeps hread h.1 h.2
  refine ⟨?_, ?_, ?_⟩
  · rcases hrest.always_or_finally with h | ⟨result, hend⟩
    · exact .inl (hunderway h)
    · cases result with
      | error error => exact .inl (hunderway hend)
      | ok printed =>
          rw [hreplaced hend]
          split
          · rename_i hextension
            exact .inr ⟨hextension, rfl⟩
          · exact .inl rfl
  · rintro error rfl
    exact hunderway hrest
  · rintro printed rfl
    rw [hreplaced hrest]
    split
    · rename_i hextension
      exact iff_of_false hnotScript.symm (not_not.mpr hextension)
    · rename_i hextension
      exact iff_of_true rfl hextension

theorem export_spares_xml :
    let before := (Files.empty []).put ["a.xml"] (.file (Utf8.encodeText "<tutorial/>"))
    let finished := FileTask.run before (exportScript ⟨"a.xml"⟩ none "*.js")
    (FileTask.run before (Tutorial.load ⟨"a.xml"⟩)).value = .ok {} ∧
      finished.value = .ok ⟨"Exported a.xml to a.js\n", 0⟩ ∧
      finished.files.read ⟨"a.xml"⟩ = before.read ⟨"a.xml"⟩ := by
  intro before finished
  have hload : (FileTask.run before (Tutorial.load ⟨"a.xml"⟩)).value = .ok {} := by
    decide +kernel
  have hvalue : finished.value = .ok ⟨"Exported a.xml to a.js\n", 0⟩ := by
    decide +kernel
  have hreach := FileTask.reaches_run (fun _ => False)
    (exportScript ⟨"a.xml"⟩ none "*.js") before
  rw [show (FileTask.run before (exportScript ⟨"a.xml"⟩ none "*.js")).value = _ from hvalue]
    at hreach
  have hspared := (export_spares_input_unless_script _ hload hreach).2.2 _ rfl
  exact ⟨hload, hvalue, hspared.mpr (by decide +kernel)⟩

/-- A tutorial is lost if its name is that of a script. -/
theorem export_replaces_js :
    let before := (Files.empty []).put ["a.js"] (.file (Utf8.encodeText "<tutorial/>"))
    let finished := FileTask.run before (exportScript ⟨"a.js"⟩ none "*.js")
    (FileTask.run before (Tutorial.load ⟨"a.js"⟩)).value = .ok {} ∧
      finished.value = .ok ⟨"Exported a.js to a.js\n", 0⟩ ∧
      finished.files.read ⟨"a.js"⟩ = .ok (Utf8.encodeText ({} : Tutorial).toScript) ∧
      finished.files.read ⟨"a.js"⟩ ≠ before.read ⟨"a.js"⟩ := by
  intro before finished
  have hload : (FileTask.run before (Tutorial.load ⟨"a.js"⟩)).value = .ok {} := by
    decide +kernel
  have hscript : finished.files.read ⟨"a.js"⟩ = .ok (Utf8.encodeText ({} : Tutorial).toScript) := by
    decide +kernel
  refine ⟨hload, by decide +kernel, hscript, ?_⟩
  rw [hscript]
  exact ((loads_of_run hload).not_script {}).symm

end CommandLine
end TutorialKit
