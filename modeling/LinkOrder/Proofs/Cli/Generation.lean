/-
What `generate` does to the files, where its records go to none of them.
Up to the last step a run only looks: the arguments, the configuration and
the two inputs are read off the surroundings, and whatever is wrong with
them ends the run with all files as they were. The last step saves the
order file; it may be refused, but then directories have been made at
most.

So there are five ways for a run to end, of which one leaves an order file
behind (`Ends`). They are read off the steps of the command once
(`ends_execute`). What an order file says is settled before it is written,
so it does not matter whether its path is that of an input.
-/
import LinkOrder.Proofs.Cli.Validity
import LinkOrder.Proofs.Pipeline.Failure
import LinkOrder.Proofs.Storage.Growth

namespace LinkOrder

open Storage.FileSystem (Grown Saved)

namespace Simulation

variable {s : Surroundings}

-- ============================================================== looking

/-- A step that only looks hands on what it was given. -/
theorem Looks.run_eq {α : Type} {step : Simulation α} (h : Looks step)
    (s : Surroundings) : step s = ((step s).1, s) :=
  Prod.ext rfl (h s)

theorem looks_demand (path : String)
    (missing : String → Cli.ArgumentError) :
    Looks (Cli.demand path missing).run := by
  unfold Cli.demand
  refine (looks_occupied path).perform.bindOk fun there => ?_
  split
  · exact looks_throw _
  · exact looks_pure _

theorem looks_validateMap (arguments : Cli.MapArguments) :
    Looks arguments.validate.run := by
  unfold Cli.MapArguments.validate
  refine (looks_demand _ _).bindOk fun _ => ?_
  cases arguments.config with
  | none => exact looks_pure _
  | some path => exact looks_demand _ _

theorem looks_validate (arguments : Cli.GenerateArguments) :
    Looks arguments.validate.run := by
  have hkind : Looks (Host.kind? arguments.output) := fun _ => rfl
  unfold Cli.GenerateArguments.validate
  refine (looks_validateMap _).bindOk fun _ => ?_
  refine (looks_demand _ _).bindOk fun _ => ?_
  refine hkind.perform.bindOk fun kind => ?_
  split
  · exact looks_throw _
  · exact looks_pure _

theorem looks_generateConfig (arguments : Cli.GenerateArguments) :
    Looks arguments.resolveConfig.run :=
  (Cli.looks_resolveConfig arguments.map).bindOk fun _ => looks_pure _

-- ================================================================ steps

/-- What a failed request did is not undone. -/
theorem run_attempt_of_error {ε δ α : Type} {tell : ε → δ}
    {request : Simulation (Except ε α)} {e : ε} {t : Surroundings}
    (h : request s = (.error e, t)) :
    (attempt tell request).run s = (.error (tell e), t) := by
  show ((request s).1.mapError tell, (request s).2) = _
  rw [h]
  rfl

theorem run_perform_now {ε : Type} (s : Surroundings) :
    (perform Host.now : ExceptT ε Simulation Nat).run s
      = (.ok s.moment, s) := rfl

-- =============================================================== saving

/-- A file is saved, or its path is refused. -/
theorem save_cases (file : OrderFile) (path : String) (s : Surroundings) :
    let run := (file.save path : ExceptT Storage.Failure Simulation _).run s
    (run.1 = .ok ()
        ∧ Saved path (Utf8.encode file.text.toList) s.files run.2.files)
      ∨ ∃ failure, run.1 = .error failure
        ∧ Grown (Path.ancestors (Path.parent path)) s.files
          run.2.files := by
  intro run
  have hgrown := grown_makeDirectories (Path.parent path) s
  generalize hmake : (Host.makeDirectories (Path.parent path)
    : Simulation _) s = made at hgrown
  obtain ⟨answer, t⟩ := made
  have hstep : (ExceptT.mk (Host.makeDirectories (Path.parent path))
      : ExceptT Storage.Failure Simulation Unit).run s = (answer, t) := by
    rw [ExceptT.run_mk, hmake]
  cases answer with
  | error failure =>
      refine .inr ⟨failure, ?_⟩
      have hrun : run = (.error failure, t) := run_bind_of_error hstep
      rw [hrun]
      exact ⟨rfl, hgrown⟩
  | ok =>
      -- the directories were made, and only the file is left to write
      have hrun : run = ((t.files.write path
          (Utf8.encode file.text.toList)).1, { t with files :=
            (t.files.write path (Utf8.encode file.text.toList)).2 }) := by
        rw [← file.bytes_eq]
        exact run_bind_of_ok hstep
      rw [hrun]
      unfold Storage.FileSystem.write
      cases htarget : t.files.target path with
      | error failure => exact .inr ⟨failure, rfl, hgrown⟩
      | ok place => exact .inl ⟨rfl, hgrown.saved htarget⟩

end Simulation

namespace Cli

open Simulation

variable {arguments : GenerateArguments} {manner : Manner}
  {s : Surroundings}

-- ================================================================ ends

/-- The arguments, the configuration or one of the inputs is not as it has
to be. -/
inductive GenerateArguments.Unfit (arguments : GenerateArguments)
    (sink : Log.Sink) (s : Surroundings) : Prop
  | arguments {e : ArgumentError}
      (h : ((arguments.validate
        : ExceptT ArgumentError Simulation Unit).run s).1 = .error e)
  | config {e : Config.Error}
      (h : ((arguments.resolveConfig
        : ExceptT Config.Error Simulation Config).run s).1 = .error e)
  | linkMap {rule : Eligibility} {e : LinkMap.Error}
      (h : ((LinkMap.load sink rule arguments.map.linkMap
        : ExceptT LinkMap.Error Simulation LinkMap.Scan).run s).1
          = .error e)
  | capture {e : Capture.Error}
      (h : ((Capture.load sink arguments.capture
        : ExceptT Capture.Error Simulation Capture).run s).1 = .error e)

/-- The ways in which `generate` ends: its result, and the files after
it. -/
inductive GenerateArguments.Ends (arguments : GenerateArguments)
    (sink : Log.Sink) (s : Surroundings) :
    Except CommandError Unit → Storage.FileSystem → Prop
  | arguments {e : ArgumentError}
      (harguments : ((arguments.validate
        : ExceptT ArgumentError Simulation Unit).run s).1 = .error e) :
      Ends arguments sink s (.error (.arguments e)) s.files
  | config {e : Config.Error}
      (hconfig : ((arguments.resolveConfig
        : ExceptT Config.Error Simulation Config).run s).1 = .error e) :
      Ends arguments sink s (.error (.config e)) s.files
  | pipeline {config : Config} {e : Pipeline.Error}
      (hconfig : ((arguments.resolveConfig
        : ExceptT Config.Error Simulation Config).run s).1 = .ok config)
      (hrun : ((Pipeline.run sink config arguments.map.linkMap
        arguments.capture : ExceptT Pipeline.Error Simulation _).run s).1
          = .error e) :
      Ends arguments sink s (.error (.pipeline e)) s.files
  | unsaved {config : Config} {output : Pipeline.Output}
      {failure : Storage.Failure} {files : Storage.FileSystem}
      (harguments : ((arguments.validate
        : ExceptT ArgumentError Simulation Unit).run s).1 = .ok ())
      (hconfig : ((arguments.resolveConfig
        : ExceptT Config.Error Simulation Config).run s).1 = .ok config)
      (hrun : ((Pipeline.run sink config arguments.map.linkMap
        arguments.capture : ExceptT Pipeline.Error Simulation _).run s).1
          = .ok output)
      (hgrown : Grown (Path.ancestors (Path.parent arguments.output))
        s.files files) :
      Ends arguments sink s (.error (.io failure)) files
  | saved {config : Config} {output : Pipeline.Output}
      {files : Storage.FileSystem}
      (harguments : ((arguments.validate
        : ExceptT ArgumentError Simulation Unit).run s).1 = .ok ())
      (hconfig : ((arguments.resolveConfig
        : ExceptT Config.Error Simulation Config).run s).1 = .ok config)
      (hrun : ((Pipeline.run sink config arguments.map.linkMap
        arguments.capture : ExceptT Pipeline.Error Simulation _).run s).1
          = .ok output)
      (hsaved : Saved arguments.output
        (Utf8.encode output.file.text.toList) s.files files) :
      Ends arguments sink s (.ok ()) files

/-- Lines for the user are printed or held back, and no file is touched. -/
theorem files_tell (manner : Manner) (lines : List String)
    (s : Surroundings) :
    ((manner.tell lines : Simulation Unit) s).2.files = s.files := by
  unfold Manner.tell
  split
  · rfl
  · rw [run_printLines]

/-- The steps of the command follow the rules. -/
theorem ends_execute (arguments : GenerateArguments)
    (hsink : manner.sink.Fileless) (s : Surroundings) :
    arguments.Ends manner.sink s
      ((arguments.execute manner
        : ExceptT CommandError Simulation Unit).run s).1
      ((arguments.execute manner
        : ExceptT CommandError Simulation Unit).run s).2.files := by
  unfold GenerateArguments.execute
  have hvalidate := (looks_validate arguments).run_eq s
  cases harguments : ((arguments.validate
      : ExceptT ArgumentError Simulation Unit).run s).1 with
  | error e =>
      rw [harguments] at hvalidate
      rw [run_bind_of_error (run_attempt_of_error hvalidate)]
      exact .arguments harguments
  | ok =>
  rw [harguments] at hvalidate
  rw [run_bind_of_ok (run_attempt_of_ok hvalidate)]
  -- up to here nothing but looks, so the surroundings are the same
  have hresolve := (looks_generateConfig arguments).run_eq s
  cases hconfig : ((arguments.resolveConfig
      : ExceptT Config.Error Simulation Config).run s).1 with
  | error e =>
      rw [hconfig] at hresolve
      rw [run_bind_of_error (run_attempt_of_error hresolve)]
      exact .config hconfig
  | ok config =>
  rw [hconfig] at hresolve
  rw [run_bind_of_ok (run_attempt_of_ok hresolve),
    run_bind_of_ok (run_perform_now s)]
  -- the pipeline may tell, but its records go to no file
  obtain ⟨-, htold⟩ := yields_run_outcome config
    (hsink.avoids s.files arguments.map.linkMap)
    (hsink.avoids s.files arguments.capture)
  have hfiles := htold.files hsink
  generalize hpipeline : (Pipeline.run manner.sink config
    arguments.map.linkMap arguments.capture
      : ExceptT Pipeline.Error Simulation _).run s = run at hfiles
  have hrun := congrArg Prod.fst hpipeline
  obtain ⟨result, t⟩ := run
  cases result with
  | error e =>
      rw [run_bind_of_error (run_attempt_of_error hpipeline)]
      dsimp only at hfiles ⊢
      rw [hfiles]
      exact .pipeline hconfig hrun
  | ok output =>
  rw [run_bind_of_ok (run_attempt_of_ok hpipeline)]
  have hsave := save_cases output.file arguments.output t
  generalize hsaving : (output.file.save arguments.output
      : ExceptT Storage.Failure Simulation _).run t = saving at hsave
  obtain ⟨answer, u⟩ := saving
  dsimp only at hfiles hsave
  rw [hfiles] at hsave
  obtain ⟨rfl, hsaved⟩ | ⟨failure, rfl, hgrown⟩ := hsave
  · rw [run_bind_of_ok (run_attempt_of_ok hsaving),
      run_bind_of_ok (run_perform_now u), run_perform, files_tell]
    exact .saved harguments hconfig hrun hsaved
  · rw [run_bind_of_error (run_attempt_of_error hsaving)]
    exact .unsaved harguments hconfig hrun hgrown

-- ============================================================== inputs

/-- A configuration that can be had is valid. -/
theorem validate_of_resolveConfig {config : Config}
    (h : ((arguments.resolveConfig
      : ExceptT Config.Error Simulation Config).run s).1 = .ok config) :
    config.validate = .ok () :=
  (ensures_generateConfig arguments s).1 config h

/-- Reading the inputs and the pipeline go by what stands at the paths. -/
theorem standing_of_run (arguments : GenerateArguments) {sink : Log.Sink}
    (hsink : sink.Fileless) (s : Surroundings) (config : Config) :
    ∃ map? capture?,
      (∀ rule, ((LinkMap.load sink rule arguments.map.linkMap
        : ExceptT LinkMap.Error Simulation _).run s).1
          = LinkMap.ofStanding rule arguments.map.linkMap map?)
      ∧ ((Capture.load sink arguments.capture
        : ExceptT Capture.Error Simulation _).run s).1
          = Capture.ofStanding arguments.capture capture?
      ∧ Pipeline.ComesTo config arguments.map.linkMap arguments.capture
        map? capture? ((Pipeline.run sink config arguments.map.linkMap
          arguments.capture
            : ExceptT Pipeline.Error Simulation _).run s).1 := by
  have hmap := hsink.avoids s.files arguments.map.linkMap
  have hcapture := hsink.avoids s.files arguments.capture
  refine ⟨s.files.stands? arguments.map.linkMap,
    s.files.stands? arguments.capture,
    fun rule => (yields_loadLinkMap_ofStanding rule hmap).1,
    (yields_loadCapture_ofStanding hcapture).1, ?_⟩
  rw [(yields_run_outcome config hmap hcapture).1]
  exact Pipeline.comesTo_outcome _ _ _ _ _

section
variable {sink : Log.Sink} {config : Config} (hsink : sink.Fileless)
  (hconfig : ((arguments.resolveConfig
    : ExceptT Config.Error Simulation Config).run s).1 = .ok config)
include hsink hconfig

/-- Where the pipeline has a result, nothing was wrong. -/
theorem not_unfit_of_run {output : Pipeline.Output}
    (harguments : ((arguments.validate
      : ExceptT ArgumentError Simulation Unit).run s).1 = .ok ())
    (hrun : ((Pipeline.run sink config arguments.map.linkMap
      arguments.capture : ExceptT Pipeline.Error Simulation _).run s).1
        = .ok output) :
    ¬ arguments.Unfit sink s := by
  obtain ⟨map?, capture?, hmap, hcapture, hcomes⟩ :=
    standing_of_run arguments hsink s config
  rw [hrun] at hcomes
  cases hcomes with
  | assembled hvalid hdecode hspelled =>
      have hjson := Capture.ofJson_eq_ok_iff_spelledBy.2 hspelled
      intro hunfit
      cases hunfit with
      | arguments h =>
          rw [harguments] at h
          cases h
      | config h =>
          rw [hconfig] at h
          cases h
      | linkMap h =>
          rw [hmap] at h
          cases h
      | capture h =>
          rw [hcapture, Capture.ofStanding_file hdecode, hjson] at h
          cases h

/-- Where the pipeline fails on a configuration that could be had, it was
one of the inputs that could not. -/
theorem unfit_of_run {e : Pipeline.Error}
    (hrun : ((Pipeline.run sink config arguments.map.linkMap
      arguments.capture : ExceptT Pipeline.Error Simulation _).run s).1
        = .error e) :
    arguments.Unfit sink s := by
  obtain ⟨map?, capture?, hmap, hcapture, hcomes⟩ :=
    standing_of_run arguments hsink s config
  rw [hrun] at hcomes
  cases hcomes with
  | invalid hinvalid =>
      rw [validate_of_resolveConfig hconfig] at hinvalid
      cases hinvalid
  | mapMissing => exact .linkMap (hmap config.eligibility)
  | mapDirectory => exact .linkMap (hmap config.eligibility)
  | captureMissing => exact .capture hcapture
  | captureDirectory => exact .capture hcapture
  | illEncoded hvalid hdecode =>
      rw [Capture.ofStanding, textOf, hdecode] at hcapture
      exact .capture hcapture
  | noCapture hvalid hdecode hnone hjson =>
      rw [Capture.ofStanding_file hdecode, hjson] at hcapture
      exact .capture hcapture

end

-- ============================================================== results

/-- For all arguments and surroundings, where records go to no file: if
the arguments, the configuration, the link map or the capture is not as it
has to be, `generate` fails and all files are as they were. If it ends
well, the order file that the pipeline makes of what was there before the
run has been saved, and nothing else was done. And if all is as it has to
be, it fails for no other reason than that storage refuses the output, and
then directories above the output were made at most. -/
theorem generate_saves_or_spares (arguments : GenerateArguments)
    {manner : Manner} (hsink : manner.sink.Fileless) (s : Surroundings) :
    let run := (arguments.execute manner
      : ExceptT CommandError Simulation Unit).run s
    (arguments.Unfit manner.sink s →
        (∃ e, run.1 = .error e) ∧ run.2.files = s.files)
      ∧ (run.1 = .ok () →
        ∃ config output, ((arguments.resolveConfig
            : ExceptT Config.Error Simulation _).run s).1 = .ok config
          ∧ ((Pipeline.run manner.sink config arguments.map.linkMap
            arguments.capture
              : ExceptT Pipeline.Error Simulation _).run s).1 = .ok output
          ∧ Saved arguments.output (Utf8.encode output.file.text.toList)
            s.files run.2.files)
      ∧ (¬ arguments.Unfit manner.sink s → ∀ e, run.1 = .error e →
        (∃ failure, e = .io failure)
          ∧ Grown (Path.ancestors (Path.parent arguments.output)) s.files
            run.2.files) := by
  intro run
  have hends := ends_execute arguments hsink s
  change arguments.Ends manner.sink s run.1 run.2.files at hends
  generalize run.1 = result at *
  generalize run.2.files = files at *
  cases hends with
  | arguments h =>
      refine ⟨fun _ => ⟨⟨_, rfl⟩, rfl⟩, nofun, fun hfit => ?_⟩
      exact absurd (.arguments h) hfit
  | config h =>
      refine ⟨fun _ => ⟨⟨_, rfl⟩, rfl⟩, nofun, fun hfit => ?_⟩
      exact absurd (.config h) hfit
  | pipeline hconfig hrun =>
      refine ⟨fun _ => ⟨⟨_, rfl⟩, rfl⟩, nofun, fun hfit => ?_⟩
      exact absurd (unfit_of_run hsink hconfig hrun) hfit
  | unsaved harguments hconfig hrun hgrown =>
      have hfit := not_unfit_of_run hsink hconfig harguments hrun
      refine ⟨fun h => absurd h hfit, nofun, fun _ e he => ?_⟩
      cases he
      exact ⟨⟨_, rfl⟩, hgrown⟩
  | saved harguments hconfig hrun hsaved =>
      have hfit := not_unfit_of_run hsink hconfig harguments hrun
      refine ⟨fun h => absurd h hfit, fun _ => ?_, nofun⟩
      exact ⟨_, _, hconfig, hrun, hsaved⟩

/-- Asks for an order file in the place of the link map. -/
def overLinkMap : GenerateArguments :=
  { map := { linkMap := "/map" }, capture := "/capture", output := "/map" }

/-- A link map without symbols, and a capture without addresses. -/
def idleSurroundings : Surroundings where
  files :=
    { nodes :=
        [(["map"], .file []),
          (["capture"], .file (Utf8.encode
            "\x7b\"addresses\":[],\"loadedImages\":[]\x7d".toList))]
      workingDirectory := [] }

/-- A capture that is none spares the link map; a sound one lets it be
replaced, by what the pipeline made of it. -/
theorem generate_saves_or_spares_overLinkMap :
    let spared := (overLinkMap.execute {}
      : ExceptT CommandError Simulation Unit).run
        Pipeline.strayByteSurroundings
    let saved := (overLinkMap.execute {}
      : ExceptT CommandError Simulation Unit).run idleSurroundings
    ((∃ e, spared.1 = .error e)
        ∧ spared.2.files = Pipeline.strayByteSurroundings.files)
      ∧ saved.1 = .ok ()
      ∧ ∃ output : Pipeline.Output,
        ((Pipeline.run .nowhere {} "/map" "/capture"
          : ExceptT Pipeline.Error Simulation _).run
            idleSurroundings).1 = .ok output
        ∧ saved.2.files.read "/map"
          = .ok (Utf8.encode output.file.text.toList) := by
  have hsink : ({} : Manner).sink.Fileless := trivial
  have hload : ((Capture.load .nowhere "/capture"
      : ExceptT Capture.Error Simulation _).run
        Pipeline.strayByteSurroundings).1 = .error (.io .notText) := by
    decide +kernel
  have hok : ((overLinkMap.execute {}
      : ExceptT CommandError Simulation Unit).run
        idleSurroundings).1 = .ok () := by decide +kernel
  have hdefault : ((overLinkMap.resolveConfig
      : ExceptT Config.Error Simulation _).run idleSurroundings).1
        = .ok {} := by decide +kernel
  obtain ⟨hspared, -, -⟩ := generate_saves_or_spares overLinkMap hsink
    Pipeline.strayByteSurroundings
  obtain ⟨-, hsaved, -⟩ := generate_saves_or_spares overLinkMap hsink
    idleSurroundings
  obtain ⟨config, output, hconfig, hrun, hfile⟩ := hsaved hok
  rw [hdefault, Except.ok.injEq] at hconfig
  subst hconfig
  exact ⟨hspared (.capture hload), hok, output, hrun, hfile.read⟩

end Cli

end LinkOrder
