import Mathlib
import Storyboard.CommandLine.Run
import Storyboard.Proofs.Failing

/-!
# What a request makes of a storyboard

A request to write a storyboard or a picture of it can be met if three things come together: its
script builds a storyboard, the path has the suffix of a format that the storyboard can be brought
to, and a file can be opened there.  Each of them is said here without the order in which they are
looked at, and the file is given with all that it holds.
-/

namespace Storyboard

/-! ## Outputs -/

/-- A file can be opened for writing at a path. -/
structure FileSystem.Takes (files : FileSystem) (path : String) : Prop where
  named : path ≠ ""
  no_null : '\x00' ∉ path.toList
  accepted : files.refusal? path = none

theorem OutputFormat.ofSuffix?_eq_some_iff {suffix : List Char} {format : OutputFormat} :
    ofSuffix? suffix = some format ↔ suffix = format.suffix.toList := by
  constructor
  · intro h
    unfold ofSuffix? at h
    have hsuffix := List.find?_some h
    exact (of_decide_eq_true hsuffix).symm
  · rintro rfl
    cases format <;> decide +kernel

namespace Output

variable {files : FileSystem} {path : String} {content : Content} {file : File} {output : Output}
  {b : Board}

theorem write_eq_ok_iff :
    write files path content = .ok file ↔ files.Takes path ∧ file = ⟨path, content⟩ := by
  unfold write
  by_cases hempty : path.isEmpty
  · rw [if_pos hempty]
    constructor
    · intro h
      cases h
    · rintro ⟨htakes, -⟩
      exact absurd (String.isEmpty_iff.mp hempty) htakes.named
  by_cases hnull : '\x00' ∈ path.toList
  · rw [if_neg hempty, if_pos hnull]
    constructor
    · intro h
      cases h
    · rintro ⟨htakes, -⟩
      exact absurd hnull htakes.no_null
  rw [if_neg hempty, if_neg hnull]
  cases hrefusal : files.refusal? path with
  | some refusal =>
      constructor
      · intro h
        cases h
      · rintro ⟨htakes, -⟩
        rw [htakes.accepted] at hrefusal
        cases hrefusal
  | none =>
      constructor
      · intro h
        cases h
        exact ⟨⟨fun hpath => hempty (String.isEmpty_iff.mpr hpath), hnull, hrefusal⟩, rfl⟩
      · rintro ⟨-, rfl⟩
        rfl

theorem save_eq_ok_iff :
    output.save files b = .ok file ↔
      ∃ content, output.encode b = .ok content ∧ files.Takes output.path ∧
        file = ⟨output.path, content⟩ := by
  constructor
  · intro h
    obtain ⟨content, hencode, hwrite⟩ := exists_of_bind_eq_ok h
    exact ⟨content, hencode, write_eq_ok_iff.mp hwrite⟩
  · rintro ⟨content, hencode, hwrite⟩
    unfold save
    rw [hencode]
    exact write_eq_ok_iff.mpr hwrite

theorem encode_picture_eq_ok_iff {time : Int} {grid : Bool} :
    (Output.picture path time grid).encode b = .ok content ↔
      ∃ picture, b.frame time grid = .ok picture ∧ content = .picture picture := by
  have hencode : (Output.picture path time grid).encode b =
      (do return .picture (← b.frame time grid)) := rfl
  rw [hencode]
  cases b.frame time grid with
  | error failure =>
      constructor
      · intro h
        cases h
      · rintro ⟨picture, h, -⟩
        cases h
  | ok picture =>
      constructor
      · intro h
        cases h
        exact ⟨picture, rfl, rfl⟩
      · rintro ⟨_, h, rfl⟩
        cases h
        rfl

/-- Without options, a script is written as it is and a picture shows the start with a grid. -/
theorem resolve_eq_ok_iff :
    resolve path ⟨none, none⟩ = .ok output ↔
      (Text.lowercase (Path.suffix path) = ".osb".toList ∧ output = .script path) ∨
        (Text.lowercase (Path.suffix path) = ".png".toList ∧ output = .picture path 0 true) := by
  have hformats : OutputFormat.script.suffix = ".osb" ∧ OutputFormat.picture.suffix = ".png" := by
    decide +kernel
  rw [← hformats.1, ← hformats.2, ← OutputFormat.ofSuffix?_eq_some_iff,
    ← OutputFormat.ofSuffix?_eq_some_iff]
  unfold resolve OutputFormat.ofPath
  dsimp only
  cases OutputFormat.ofSuffix? (Text.lowercase (Path.suffix path)) with
  | none =>
      constructor
      · intro h
        cases h
      · rintro (⟨h, -⟩ | ⟨h, -⟩) <;> cases h
  | some format =>
      cases format with
      | script =>
          constructor
          · intro h
            cases h
            exact Or.inl ⟨rfl, rfl⟩
          · rintro (⟨-, rfl⟩ | ⟨h, -⟩)
            · rfl
            · cases h
      | picture =>
          constructor
          · intro h
            cases h
            exact Or.inr ⟨rfl, rfl⟩
          · rintro (⟨h, -⟩ | ⟨-, rfl⟩)
            · cases h
            · rfl

end Output

/-- A script leads to a storyboard in one case: the entry point is a function that builds one. -/
theorem Script.load_eq_ok_iff {path entrypoint : String} {script : Option Script} {b : Board} :
    Script.load path script entrypoint = .ok b ↔
      ∃ names, script = some (.defining names) ∧
        names.lookup entrypoint = some (.function (.storyboard b)) := by
  rcases script with - | (names | message)
  · exact iff_of_false nofun nofun
  · have hnames : (∃ names', some (Script.defining names) = some (.defining names') ∧
        names'.lookup entrypoint = some (.function (.storyboard b))) ↔
          names.lookup entrypoint = some (.function (.storyboard b)) := by
      constructor
      · rintro ⟨names', hsame, hlookup⟩
        cases hsame
        exact hlookup
      · intro hlookup
        exact ⟨names, rfl, hlookup⟩
    rw [hnames]
    unfold Script.load
    dsimp only
    rcases names.lookup entrypoint with - | ((built | typeName | message) | -)
    · exact iff_of_false nofun nofun
    · constructor
      · intro h
        cases h
        rfl
      · intro h
        cases h
        rfl
    all_goals exact iff_of_false nofun nofun
  · exact iff_of_false nofun nofun

namespace CommandLine

/-! ## What a request asks for -/

def Request.entrypoint? : Request → Option String
  | .render _ _ entrypoint | .preview _ _ _ entrypoint _ => entrypoint
  | .easings => none

/-- The text of the storyboard is to go to the standard output. -/
def Request.Prints : Request → Prop
  | .render _ none _ => True
  | _ => False

/-- A function of the file at a path builds a storyboard. -/
structure World.Builds (w : World) (script entrypoint : String) (b : Board) : Prop where
  no_null : '\x00' ∉ script.toList
  found : w.files.isFile (Path.normal script) = .ok true
  defined : ∃ names, w.runFile (Path.normal script) = .defining names ∧
    names.lookup entrypoint = some (.function (.storyboard b))

/--
The script of a request builds a storyboard, by the function that the request names, or else the
environment.
-/
def World.Loads (w : World) (request : Request) (b : Board) : Prop :=
  ∃ script, request.script? = some script ∧
    w.Builds script
      (request.entrypoint?.getD (if w.entrypoint.isEmpty then "storyboard" else w.entrypoint)) b

/-- What a request makes of a storyboard: one file, or none if the text is to be printed. -/
inductive Yields (b : Board) : Request → Option File → Prop where
  | text {script : String} {entrypoint : Option String} :
      Yields b (.render script none entrypoint) none
  | script {script path : String} {entrypoint : Option String}
      (suffix : Text.lowercase (Path.suffix path) = ".osb".toList) :
      Yields b (.render script (some path) entrypoint) (some ⟨path, .text b.text⟩)
  | picture {script path : String} {entrypoint : Option String} {picture : Picture}
      (suffix : Text.lowercase (Path.suffix path) = ".png".toList)
      (drawn : b.frame 0 true = .ok picture) :
      Yields b (.render script (some path) entrypoint) (some ⟨path, .picture picture⟩)
  | preview {script path : String} {time : Int} {output entrypoint : Option String} {grid : Bool}
      {picture : Picture}
      (named : output.getD (String.ofList (Path.stem script) ++ s!"-{time}.png") = path)
      (suffix : Text.lowercase (Path.suffix path) = ".png".toList)
      (drawn : b.frame time grid = .ok picture) :
      Yields b (.preview script time output entrypoint grid) (some ⟨path, .picture picture⟩)

/-- Nothing is in the way of a request. -/
structure World.Allows (w : World) (request : Request) (b : Board) (file? : Option File) :
    Prop where
  loads : w.Loads request b
  yields : Yields b request file?
  takes : ∀ file ∈ file?, w.files.Takes file.path

/-! ## Storyboards and files -/

/-- The output to which the path of a request leads, if it leads to one. -/
def Request.output? : Request → Option Output
  | .render _ (some path) _ => (Output.resolve path ⟨none, none⟩).toOption
  | .preview script time path _ grid =>
      let path := path.getD (previewPath script time)
      if OutputFormat.ofSuffix? (Text.lowercase (Path.suffix path)) = some .picture then
        some (.picture path time grid)
      else none
  | .render _ none _ | .easings => none

theorem yields_some_iff {b : Board} {request : Request} {file : File} :
    Yields b request (some file) ↔
      ∃ output content, request.output? = some output ∧ output.encode b = .ok content ∧
        file = ⟨output.path, content⟩ := by
  constructor
  · intro h
    cases h with
    | script suffix =>
        refine ⟨.script _, _, ?_, rfl, rfl⟩
        exact toOption_eq_some_iff.mpr (Output.resolve_eq_ok_iff.mpr (Or.inl ⟨suffix, rfl⟩))
    | picture suffix drawn =>
        refine ⟨.picture _ 0 true, _, ?_, Output.encode_picture_eq_ok_iff.mpr ⟨_, drawn, rfl⟩, rfl⟩
        exact toOption_eq_some_iff.mpr (Output.resolve_eq_ok_iff.mpr (Or.inr ⟨suffix, rfl⟩))
    | @preview script path time output entrypoint grid picture named suffix drawn =>
        refine ⟨.picture path time grid, _, ?_,
          Output.encode_picture_eq_ok_iff.mpr ⟨_, drawn, rfl⟩, rfl⟩
        have hformat : OutputFormat.ofSuffix? (Text.lowercase (Path.suffix path)) =
            some .picture :=
          OutputFormat.ofSuffix?_eq_some_iff.mpr suffix
        unfold Request.output? previewPath
        dsimp only
        rw [named, if_pos hformat]
  · rintro ⟨output, content, houtput, hencode, rfl⟩
    cases request with
    | easings => cases houtput
    | render script path entrypoint =>
        cases path with
        | none => cases houtput
        | some path =>
            have hresolve : Output.resolve path ⟨none, none⟩ = .ok output :=
              toOption_eq_some_iff.mp houtput
            rcases Output.resolve_eq_ok_iff.mp hresolve with ⟨suffix, rfl⟩ | ⟨suffix, rfl⟩
            · cases hencode
              exact .script suffix
            · obtain ⟨picture, drawn, rfl⟩ := Output.encode_picture_eq_ok_iff.mp hencode
              exact .picture suffix drawn
    | preview script time path entrypoint grid =>
        unfold Request.output? at houtput
        dsimp only at houtput
        split at houtput
        next hformat =>
          cases houtput
          obtain ⟨picture, drawn, rfl⟩ := Output.encode_picture_eq_ok_iff.mp hencode
          exact .preview rfl (OutputFormat.ofSuffix?_eq_some_iff.mp hformat) drawn
        next => cases houtput

theorem Yields.prints {b : Board} {request : Request} (h : Yields b request none) :
    request.Prints := by
  cases h
  exact True.intro

theorem Request.Prints.output?_eq_none {request : Request} (h : request.Prints) :
    request.output? = none := by
  cases request with
  | easings => cases h
  | preview script time path entrypoint grid => cases h
  | render script path entrypoint =>
      cases path with
      | none => rfl
      | some path => cases h

namespace World

variable {w : World} {script entrypoint : String} {b b' : Board}

theorem scriptAt_eq_some_iff {found : Script} :
    w.scriptAt script = .ok (some found) ↔
      '\x00' ∉ script.toList ∧ w.files.isFile (Path.normal script) = .ok true ∧
        w.runFile (Path.normal script) = found := by
  unfold scriptAt
  by_cases hnull : '\x00' ∈ script.toList
  · rw [if_pos hnull]
    exact iff_of_false nofun fun h => h.1 hnull
  rw [if_neg hnull]
  cases w.files.isFile (Path.normal script) with
  | error refusal => exact iff_of_false nofun nofun
  | ok isFile =>
      cases isFile with
      | false => exact iff_of_false nofun nofun
      | true =>
          constructor
          · intro h
            cases h
            exact ⟨hnull, rfl, rfl⟩
          · rintro ⟨-, -, rfl⟩
            rfl

theorem builds_iff :
    w.Builds script entrypoint b ↔
      ∃ found, w.scriptAt script = .ok found ∧ Script.load script found entrypoint = .ok b := by
  constructor
  · rintro ⟨hnull, hfile, names, hrun, hlookup⟩
    refine ⟨_, scriptAt_eq_some_iff.mpr ⟨hnull, hfile, rfl⟩, ?_⟩
    exact Script.load_eq_ok_iff.mpr ⟨names, congrArg some hrun, hlookup⟩
  · rintro ⟨found, hfound, hload⟩
    obtain ⟨names, rfl, hlookup⟩ := Script.load_eq_ok_iff.mp hload
    obtain ⟨hnull, hfile, hrun⟩ := scriptAt_eq_some_iff.mp hfound
    exact ⟨hnull, hfile, names, hrun, hlookup⟩

theorem loads_unique {request : Request} (h : w.Loads request b) (h' : w.Loads request b') :
    b = b' := by
  obtain ⟨script, hscript, hbuilds⟩ := h
  obtain ⟨script', hscript', hbuilds'⟩ := h'
  cases hscript.symm.trans hscript'
  obtain ⟨names, hrun, hlookup⟩ := hbuilds.defined
  obtain ⟨names', hrun', hlookup'⟩ := hbuilds'.defined
  cases hrun.symm.trans hrun'
  cases hlookup.symm.trans hlookup'
  rfl

end World

end CommandLine
end Storyboard
