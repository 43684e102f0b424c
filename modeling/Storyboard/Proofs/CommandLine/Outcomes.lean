import Mathlib
import Storyboard.Proofs.CommandLine.Requests

/-!
# What a run leaves behind

A request to write a storyboard or a picture of it can fail in many places: the path may have the
wrong suffix, the script may not lead to a storyboard, the state of a sprite may be out of the range
of numbers, and the file system may refuse the file.  The two commands even look for these failures
in different orders.  In each of them, all that can fail comes before the first output.  So a run
either leaves the whole output or none of it.
-/

namespace Storyboard
namespace CommandLine

/-! ## Progress -/

def World.progress (w : World) (request : Request) : List String :=
  (request.script?.map fun script =>
      loadingLine script (w.entrypointOf request.entrypoint?)).toList ++
    (request.output?.map fun output => [makingLine output, madeLine output]).getD []

/-- The console can show every line about the progress of a request. -/
def World.CanShow (w : World) (request : Request) : Prop :=
  ∀ line ∈ w.progress request, (w.console line).isOk = true

instance (w : World) (request : Request) : Decidable (w.CanShow request) :=
  inferInstanceAs (Decidable (∀ line ∈ w.progress request, (w.console line).isOk = true))

/-- The text shows how far a request has come, and nothing else. -/
def World.ShowsProgress (w : World) (request : Request) (text : String) : Prop :=
  ∃ lines shown, lines <+: w.progress request ∧
    List.Forall₂ (fun line piece => w.console line = .ok piece) lines shown ∧
      text = String.join shown

theorem World.CanShow.exists_shown {w : World} {request : Request} {line : String}
    (h : w.CanShow request) (hline : line ∈ w.progress request) :
    ∃ text, w.console line = .ok text :=
  exists_of_isOk (h line hline)

/-! ## Steps of a run -/

section

variable {α β : Type} {x : Run α} {t t' : Trace}

theorem run_bind_of_ok {f : α → Run β} {a : α} (h : x.run.run t = (.ok a, t')) :
    (x >>= f).run.run t = (f a).run.run t' := by
  rw [ExceptT.run_bind, StateT.run_bind, h]
  rfl

theorem run_bind_of_error {f : α → Run β} {stop : Stop} (h : x.run.run t = (.error stop, t')) :
    (x >>= f).run.run t = (.error stop, t') := by
  rw [ExceptT.run_bind, StateT.run_bind, h]
  rfl

end

namespace World

variable {w : World} {t : Trace}

theorem run_say {stream : Stream} {line text : String} (h : w.console line = .ok text) :
    (w.say stream line).run.run t = (.ok (), t.print stream text) := by
  unfold say
  rw [h]
  rfl

theorem run_load {stream : Stream} {script entrypoint shown : String}
    (h : w.console (loadingLine script entrypoint) = .ok shown) :
    (∃ b, w.Builds script entrypoint b ∧
        (w.load stream script entrypoint).run.run t = (.ok b, t.print stream shown)) ∨
      ((∀ b, ¬ w.Builds script entrypoint b) ∧
        ∃ stop, (w.load stream script entrypoint).run.run t =
          (.error stop, t.print stream shown)) := by
  unfold load
  rw [run_bind_of_ok (run_say h)]
  cases hfound : w.scriptAt script with
  | error refusal =>
      apply Or.inr
      refine ⟨?_, _, rfl⟩
      intro b hbuilds
      obtain ⟨found, hother, -⟩ := builds_iff.mp hbuilds
      cases hfound.symm.trans hother
  | ok found =>
      dsimp only
      cases hload : Script.load script found entrypoint with
      | error e =>
          apply Or.inr
          refine ⟨?_, _, rfl⟩
          intro b hbuilds
          obtain ⟨other, hother, hbuilt⟩ := builds_iff.mp hbuilds
          cases hfound.symm.trans hother
          cases hload.symm.trans hbuilt
      | ok b => exact Or.inl ⟨b, builds_iff.mpr ⟨found, hfound, hload⟩, rfl⟩

theorem run_make {output : Output} {b : Board} {making made : String}
    (hmaking : w.console (makingLine output) = .ok making)
    (hmade : w.console (madeLine output) = .ok made) :
    (∃ file, output.save w.files b = .ok file ∧ (w.make output b).run.run t =
        (.ok (), ((t.print .stdout making).write file).print .stdout made)) ∨
      ((∀ file, output.save w.files b ≠ .ok file) ∧
        ∃ stop, (w.make output b).run.run t = (.error stop, t.print .stdout making)) := by
  unfold make
  rw [run_bind_of_ok (run_say hmaking)]
  cases hsave : output.save w.files b with
  | error e =>
      apply Or.inr
      refine ⟨?_, _, rfl⟩
      intro file hother
      cases hother
  | ok file =>
      refine Or.inl ⟨file, rfl, ?_⟩
      exact run_say hmade

theorem conclude_of_ok {x : Run Unit} (h : x.run.run .empty = (.ok (), t)) :
    w.conclude x = .finished 0 t := by
  unfold conclude
  rw [h]

/-- What is printed about an early stop goes to the other stream. -/
theorem conclude_of_error {x : Run Unit} {stop : Stop} (h : x.run.run .empty = (.error stop, t)) :
    ∃ trace, w.conclude x = .finished 1 trace ∧ trace.stdout = t.stdout ∧
      trace.files = t.files := by
  unfold conclude
  rw [h]
  dsimp only
  cases w.console stop.line with
  | error failure => exact ⟨t, rfl, rfl, rfl⟩
  | ok text => exact ⟨t.print .stderr text, rfl, rfl, rfl⟩

/-! ## The commands -/

/-- How a run that makes what a request asks for may end. -/
inductive Leaves (w : World) (request : Request) : Except Stop Unit × Trace → Prop where
  /-- The text of the storyboard was printed. -/
  | printed {b : Board} {t : Trace} (allowed : w.Allows request b none)
      (stdout : t.stdout = b.text) (files : t.files = []) : Leaves w request (.ok (), t)
  /-- The file was written. -/
  | written {b : Board} {file : File} {t : Trace} (allowed : w.Allows request b (some file))
      (stdout : w.ShowsProgress request t.stdout) (files : t.files = [file]) :
      Leaves w request (.ok (), t)
  /-- Something failed before the first output. -/
  | stopped {stop : Stop} {t : Trace} (reason : ∀ b file?, ¬ w.Allows request b file?)
      (silent : request.Prints → t.stdout = "") (stdout : w.ShowsProgress request t.stdout)
      (files : t.files = []) : Leaves w request (.error stop, t)

variable {request : Request} {script shown : String}

theorem loadingLine_mem_progress (hscript : request.script? = some script) :
    loadingLine script (w.entrypointOf request.entrypoint?) ∈ w.progress request := by
  unfold progress
  rw [hscript]
  exact List.mem_cons_self

theorem progress_eq {output : Output} (hscript : request.script? = some script)
    (houtput : request.output? = some output) :
    w.progress request = [loadingLine script (w.entrypointOf request.entrypoint?),
      makingLine output, madeLine output] := by
  unfold progress
  rw [hscript, houtput]
  rfl

theorem showsProgress_nil : w.ShowsProgress request "" :=
  ⟨[], [], List.nil_prefix, .nil, rfl⟩

theorem showsProgress_loading (hscript : request.script? = some script)
    (hshown : w.console (loadingLine script (w.entrypointOf request.entrypoint?)) = .ok shown)
    (stream : Stream) : w.ShowsProgress request (Trace.empty.print stream shown).stdout := by
  cases stream with
  | stderr => exact showsProgress_nil
  | stdout =>
      refine ⟨[_], [shown], ?_, .cons hshown .nil, rfl⟩
      unfold progress
      rw [hscript]
      exact List.prefix_append _ _

/-- After loading, a run fails before the first output or goes on with the storyboard. -/
theorem leaves_bind_load {stream : Stream} {rest : Board → Run Unit}
    (hscript : request.script? = some script) (hstream : request.Prints → stream = .stderr)
    (hshown : w.console (loadingLine script (w.entrypointOf request.entrypoint?)) = .ok shown)
    (hrest : ∀ b, w.Loads request b →
      w.Leaves request ((rest b).run.run (Trace.empty.print stream shown))) :
    w.Leaves request
      ((w.load stream script (w.entrypointOf request.entrypoint?) >>= rest).run.run .empty) := by
  rcases run_load hshown with ⟨b, hbuilds, hrun⟩ | ⟨hfails, stop, hrun⟩
  · rw [run_bind_of_ok hrun]
    exact hrest b ⟨script, hscript, hbuilds⟩
  · rw [run_bind_of_error hrun]
    apply Leaves.stopped
    · rintro b file? ⟨⟨other, hother, hbuilds⟩, -, -⟩
      cases hscript.symm.trans hother
      exact hfails b hbuilds
    · intro hprints
      rw [hstream hprints]
      rfl
    · exact showsProgress_loading hscript hshown stream
    · cases stream <;> rfl

theorem leaves_make {output : Output} {b : Board} (hscript : request.script? = some script)
    (houtput : request.output? = some output) (hconsole : w.CanShow request)
    (hshown : w.console (loadingLine script (w.entrypointOf request.entrypoint?)) = .ok shown)
    (hloads : w.Loads request b) :
    w.Leaves request ((w.make output b).run.run (Trace.empty.print .stdout shown)) := by
  have hprints : ¬ request.Prints := by
    intro h
    rw [h.output?_eq_none] at houtput
    cases houtput
  have hprogress := progress_eq (w := w) hscript houtput
  have hmakingLine : makingLine output ∈ w.progress request := by simp [hprogress]
  have hmadeLine : madeLine output ∈ w.progress request := by simp [hprogress]
  obtain ⟨making, hmaking⟩ := hconsole.exists_shown hmakingLine
  obtain ⟨made, hmade⟩ := hconsole.exists_shown hmadeLine
  rcases run_make hmaking hmade with ⟨file, hsave, hrun⟩ | ⟨hfails, stop, hrun⟩
  · obtain ⟨content, hencode, htakes, rfl⟩ := Output.save_eq_ok_iff.mp hsave
    rw [hrun]
    refine .written ⟨hloads, yields_some_iff.mpr ⟨output, content, houtput, hencode, rfl⟩, ?_⟩ ?_ rfl
    · rintro file hfile
      cases hfile
      exact htakes
    · refine ⟨_, [shown, making, made], ?_, .cons hshown (.cons hmaking (.cons hmade .nil)), rfl⟩
      rw [hprogress]
  · rw [hrun]
    apply Leaves.stopped
    · rintro b' file? ⟨hloads', hyields, htakes⟩
      cases loads_unique hloads hloads'
      cases file? with
      | none => exact hprints hyields.prints
      | some file =>
          obtain ⟨other, content, hother, hencode, rfl⟩ := yields_some_iff.mp hyields
          cases houtput.symm.trans hother
          have htaken := htakes _ rfl
          exact hfails _ (Output.save_eq_ok_iff.mpr ⟨content, hencode, htaken, rfl⟩)
    · intro h
      exact absurd h hprints
    · refine ⟨_, [shown, making], ?_, .cons hshown (.cons hmaking .nil), rfl⟩
      rw [hprogress]
      exact List.prefix_append [_, _] [_]
    · rfl

theorem leaves_of_no_output {stop : Stop} {t : Trace} (hprints : ¬ request.Prints)
    (houtput : request.output? = none) (hstdout : w.ShowsProgress request t.stdout)
    (hfiles : t.files = []) : w.Leaves request (.error stop, t) := by
  apply Leaves.stopped
  · rintro b file? ⟨-, hyields, -⟩
    cases file? with
    | none => exact hprints hyields.prints
    | some file =>
        obtain ⟨output, content, hsome, -⟩ := yields_some_iff.mp hyields
        rw [houtput] at hsome
        cases hsome
  · intro h
    exact absurd h hprints
  · exact hstdout
  · exact hfiles

theorem leaves_print {asked : Option String}
    (hconsole : w.CanShow (.render script none asked)) :
    w.Leaves (.render script none asked)
      ((w.print script (w.entrypointOf asked)).run.run .empty) := by
  have hscript : (Request.render script none asked).script? = some script := rfl
  obtain ⟨shown, hshown⟩ := hconsole.exists_shown (loadingLine_mem_progress hscript)
  apply leaves_bind_load hscript (fun _ => rfl) hshown
  intro b hloads
  exact .printed ⟨hloads, .text, nofun⟩ rfl rfl

theorem leaves_render {path : String} {asked : Option String}
    (hconsole : w.CanShow (.render script (some path) asked)) :
    w.Leaves (.render script (some path) asked)
      ((w.render script path (w.entrypointOf asked)).run.run .empty) := by
  have hscript : (Request.render script (some path) asked).script? = some script := rfl
  have hprints : ¬ (Request.render script (some path) asked).Prints := id
  obtain ⟨shown, hshown⟩ := hconsole.exists_shown (loadingLine_mem_progress hscript)
  apply leaves_bind_load hscript (fun h => absurd h hprints) hshown
  intro b hloads
  cases hresolve : Output.resolve path ⟨none, none⟩ with
  | error e =>
      apply leaves_of_no_output hprints
      · show (Output.resolve path ⟨none, none⟩).toOption = none
        rw [hresolve]
        rfl
      · exact showsProgress_loading hscript hshown .stdout
      · rfl
  | ok output =>
      exact leaves_make hscript (toOption_eq_some_iff.mpr hresolve) hconsole hshown hloads

theorem leaves_preview {time : Int} {path asked : Option String} {grid : Bool}
    (hconsole : w.CanShow (.preview script time path asked grid)) :
    w.Leaves (.preview script time path asked grid)
      ((w.preview script time (path.getD (previewPath script time)) (w.entrypointOf asked)
        grid).run.run .empty) := by
  have hscript : (Request.preview script time path asked grid).script? = some script := rfl
  have hprints : ¬ (Request.preview script time path asked grid).Prints := id
  unfold preview
  split
  next hsuffix =>
    obtain ⟨shown, hshown⟩ := hconsole.exists_shown (loadingLine_mem_progress hscript)
    apply leaves_bind_load hscript (fun h => absurd h hprints) hshown
    intro b hloads
    exact leaves_make hscript (if_pos hsuffix) hconsole hshown hloads
  next hsuffix =>
    exact leaves_of_no_output hprints (if_neg hsuffix) showsProgress_nil rfl

theorem perform_eq_conclude (hcommand : request ≠ .easings)
    (hconsole : w.CanShow request) :
    ∃ x, w.perform request = w.conclude x ∧ w.Leaves request (x.run.run .empty) := by
  cases request with
  | easings => exact absurd rfl hcommand
  | render script path asked =>
      cases path with
      | none => exact ⟨_, rfl, leaves_print hconsole⟩
      | some path => exact ⟨_, rfl, leaves_render hconsole⟩
  | preview script time path asked grid => exact ⟨_, rfl, leaves_preview hconsole⟩

end World

/-! ## Main result -/

/--
A request to write a storyboard or a picture ends with the exit status zero or one.  With status one
something was in the way, and there is nothing but lines about the progress.  With status zero
nothing was: the one file that the request makes of the storyboard is written, or its text printed.
-/
theorem run_leaves_all_or_nothing (w : World) {args : List String} {request : Request}
    (hrequest : Request.ofArguments? args = some request) (hcommand : request ≠ .easings)
    (hconsole : w.CanShow request) :
    ∃ exit trace, run w args = .finished exit trace ∧ (exit = 0 ∨ exit = 1) ∧
      (exit = 1 → (∀ b file?, ¬ w.Allows request b file?) ∧ trace.files = [] ∧
        w.ShowsProgress request trace.stdout ∧ (request.Prints → trace.stdout = "")) ∧
      (exit = 0 → ∃ b file?, w.Allows request b file? ∧ trace.files = file?.toList ∧
        match file? with
        | some _ => w.ShowsProgress request trace.stdout
        | none => trace.stdout = b.text) := by
  obtain ⟨x, hperform, hleaves⟩ := World.perform_eq_conclude hcommand hconsole
  have hrun : run w args = w.conclude x := by
    unfold run
    rw [hrequest]
    exact hperform
  rw [hrun]
  generalize hresult : x.run.run Trace.empty = result at hleaves
  cases hleaves with
  | printed allowed stdout files =>
      refine ⟨0, _, World.conclude_of_ok hresult, Or.inl rfl, nofun, ?_⟩
      intro _
      exact ⟨_, none, allowed, files, stdout⟩
  | written allowed stdout files =>
      refine ⟨0, _, World.conclude_of_ok hresult, Or.inl rfl, nofun, ?_⟩
      intro _
      exact ⟨_, some _, allowed, files, stdout⟩
  | stopped reason silent stdout files =>
      obtain ⟨trace, hconclude, hstdout, hfiles⟩ := World.conclude_of_error (w := w) hresult
      rw [← hstdout] at silent stdout
      rw [← hfiles] at files
      refine ⟨1, trace, hconclude, Or.inr rfl, ?_, nofun⟩
      intro _
      exact ⟨reason, files, stdout, silent⟩

/-- One sprite that fades in. -/
def introBoard : Board :=
  Board.empty.run [.bundle .overlay, .place 0,
    .sprite ⟨"star.png", .centre, Figure.defaultPosition, none⟩, .enlist 0 0,
    .issue 0 ⟨⟨0, .linear, .scalar .fade (.change 1000 0 1)⟩, 0⟩]

/-- The script lies elsewhere, and only one place, above the current directory, can be written. -/
def introWorld : World where
  entrypoint := ""
  tree _ := none
  script? _ := none
  files :=
    { isFile := fun path => .ok (path = "/maps/intro.py")
      refusal? := fun path =>
        if path = "../out/intro.png" then none else some ⟨13, "Permission denied"⟩ }
  runFile _ := .defining [("storyboard", .function (.storyboard introBoard)),
    ("outro", .function (.failure "no beatmap"))]

def introArguments (path : String) : List String :=
  ["preview", "/maps/./intro.py", "-t", "500", "-o", path]

def introRequest (path : String) : Request :=
  .preview "/maps/./intro.py" 500 (some path) none true

theorem introWorld_loads (path : String) : introWorld.Loads (introRequest path) introBoard := by
  refine ⟨"/maps/./intro.py", rfl, ?_, ?_, _, rfl, rfl⟩
  · decide +kernel
  · decide +kernel

theorem introWorld_takes : introWorld.files.Takes "../out/intro.png" := by
  refine ⟨?_, ?_, ?_⟩ <;> decide +kernel

theorem not_introWorld_takes : ¬ introWorld.files.Takes "/out/intro.png" := by
  intro h
  exact absurd h.accepted (by decide +kernel)

theorem run_of_intro :
    (Request.ofArguments? (introArguments "../out/intro.png") =
          some (introRequest "../out/intro.png") ∧
        introWorld.CanShow (introRequest "../out/intro.png") ∧
        ∃ picture trace, introBoard.frame 500 true = .ok picture ∧
          run introWorld (introArguments "../out/intro.png") = .finished 0 trace ∧
          trace.files = [⟨"../out/intro.png", .picture picture⟩]) ∧
      ∃ trace, run introWorld (introArguments "/out/intro.png") = .finished 1 trace ∧
        trace.files = [] := by
  have hrequest : ∀ path ∈ ["../out/intro.png", "/out/intro.png"],
      Request.ofArguments? (introArguments path) = some (introRequest path) ∧
        introWorld.CanShow (introRequest path) := by
    decide +kernel
  have hcommand : ∀ path, introRequest path ≠ .easings := nofun
  constructor
  · obtain ⟨hparsed, hconsole⟩ := hrequest "../out/intro.png" (by decide)
    refine ⟨hparsed, hconsole, ?_⟩
    obtain ⟨exit, trace, hrun, hexit, hone, hzero⟩ :=
      run_leaves_all_or_nothing introWorld hparsed (hcommand _) hconsole
    have hframe : (introBoard.frame 500 true).isOk = true := by decide +kernel
    obtain ⟨picture, hpicture⟩ := exists_of_isOk hframe
    have hallowed : introWorld.Allows (introRequest "../out/intro.png") introBoard
        (some ⟨"../out/intro.png", .picture picture⟩) := by
      refine ⟨introWorld_loads _, .preview rfl (by decide +kernel) hpicture, ?_⟩
      rintro file hfile
      cases hfile
      exact introWorld_takes
    rcases hexit with rfl | rfl
    · obtain ⟨b, file?, ⟨hloads, hyields, -⟩, hfiles, -⟩ := hzero rfl
      cases World.loads_unique (introWorld_loads _) hloads
      cases hyields with
      | preview named suffix drawn =>
          cases named
          exact ⟨_, trace, drawn, hrun, hfiles⟩
    · exact absurd hallowed ((hone rfl).1 _ _)
  · obtain ⟨hparsed, hconsole⟩ := hrequest "/out/intro.png" (by decide)
    obtain ⟨exit, trace, hrun, hexit, hone, hzero⟩ :=
      run_leaves_all_or_nothing introWorld hparsed (hcommand _) hconsole
    rcases hexit with rfl | rfl
    · obtain ⟨b, file?, ⟨-, hyields, htakes⟩, -⟩ := hzero rfl
      cases hyields with
      | preview named suffix drawn =>
          cases named
          exact absurd (htakes _ rfl) not_introWorld_takes
    · exact ⟨trace, hrun, (hone rfl).2.1⟩

end CommandLine
end Storyboard
