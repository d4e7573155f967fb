/-
Runs of the pipeline and of the commands on surroundings. What the
pipeline comes to is settled by the configuration and by what stands at
the paths of its inputs (`yields_run_outcome`); where the inputs are there,
it is what the pipeline makes of them in memory (`yields_run`), and
`resolve` prints the symbols that it finds, one a line (`prints_resolve`).
Whatever is told on the way changes nothing of this. Configurations are
only looked at (`looks_resolveConfig`).
-/
import LinkOrder.Cli.Execution
import LinkOrder.Proofs.Storage.Telling

namespace LinkOrder

/-- What the pipeline comes to, by what stands at the paths of its
inputs. -/
def Pipeline.outcome (config : Config) (mapPath capturePath : String)
    (map? capture? : Option Storage.Node) : Except Error Output := do
  config.validate.mapError fun reason => .config (.invalid reason)
  let scan ← (LinkMap.ofStanding config.eligibility mapPath map?).mapError
    .linkMap
  let capture ← (Capture.ofStanding capturePath capture?).mapError .capture
  return assemble config scan capture

namespace Simulation

-- ============================================================= looking

/-- A step that leaves the surroundings as they are. -/
def Looks {α : Type} (step : Simulation α) : Prop := ∀ s, (step s).2 = s

section
variable {α β ε δ : Type}

theorem looks_pure (a : α) : Looks (pure a) := fun _ => rfl

theorem Looks.bind {step : Simulation α} {next : α → Simulation β}
    (hstep : Looks step) (hnext : ∀ a, Looks (next a)) :
    Looks (step >>= next) := by
  intro s
  show ((next (step s).1) (step s).2).2 = s
  rw [hnext, hstep]

theorem Looks.bindOk {step : ExceptT ε Simulation α}
    {next : α → ExceptT ε Simulation β} (hstep : Looks step.run)
    (hnext : ∀ a, Looks (next a).run) : Looks (step >>= next).run := by
  show Looks (step.run >>= ExceptT.bindCont next)
  refine hstep.bind fun answer => ?_
  cases answer with
  | ok a => exact hnext a
  | error e => exact looks_pure _

theorem Looks.perform {step : Simulation α} (h : Looks step) :
    Looks (perform step : ExceptT ε Simulation α).run :=
  h.bind fun _ => looks_pure _

theorem Looks.attempt {tell : ε → δ} {step : Simulation (Except ε α)}
    (h : Looks step) : Looks (attempt tell step).run :=
  h.bind fun _ => looks_pure _

theorem looks_occupied (path : String) : Looks (Host.occupied path) :=
  fun _ => rfl

theorem looks_readText (path : String) : Looks (Host.readText path).run := by
  unfold Host.readText
  refine Looks.bindOk (fun _ => rfl) fun bytes => ?_
  split
  · exact looks_pure _
  · exact looks_pure _

theorem looks_throw (e : ε) :
    Looks (throw e : ExceptT ε Simulation α).run :=
  looks_pure _

theorem looks_loadConfig (path : String) : Looks (Config.load path).run := by
  unfold Config.load
  refine (looks_occupied path).perform.bindOk fun there => ?_
  have hrest : Looks (do
      let text ← LinkOrder.attempt Config.Error.io (Host.readText path).run
      ExceptT.mk (pure (Config.ofText text))
        : ExceptT Config.Error Simulation Config).run :=
    (looks_readText path).attempt.bindOk fun _ => looks_pure _
  split
  · exact (looks_throw _).bindOk fun _ => hrest
  · exact hrest

end

-- ====================================================== the pipeline

section
variable {sink : Log.Sink} {s : Surroundings} {mapPath capturePath : String}
  {bytes contents : List UInt8} {text : List Char} {capture : Capture}

/-- Telling of the steps does not change what is assembled. -/
theorem yields_assembleTelling (sink : Log.Sink) (s : Surroundings)
    (config : Config) (scan : LinkMap.Scan) (capture : Capture) :
    Yields sink (Pipeline.assembleTelling sink config scan capture) s
      (Pipeline.assemble config scan capture) := by
  unfold Pipeline.assembleTelling
  have hresolve : ∀ t, Yields sink (sink.timed "resolve addresses" (do
      sink.sendAll (capture.resolve scan.table).records
      pure (capture.resolve scan.table))) t (capture.resolve scan.table) :=
    fun t => Yields.timed fun u _ =>
      (yields_sendAll sink _ u).bind fun v _ => yields_pure sink v _
  have hplan : ∀ (plan : Order.Plan) t,
      Yields sink (sink.timed "generate order file" (do
        sink.sendAll plan.records
        pure plan)) t plan :=
    fun plan t => Yields.timed fun u _ =>
      (yields_sendAll sink _ u).bind fun v _ => yields_pure sink v _
  split
  · refine (yields_send sink _ s).bind fun t _ => ?_
    refine (hresolve t).bind fun u _ => ?_
    exact (hplan _ u).bind fun v _ => yields_pure sink v _
  · refine (hresolve s).bind fun u _ => ?_
    exact (hplan _ u).bind fun v _ => yields_pure sink v _

/-- The pipeline comes to that, whatever records are sent elsewhere. -/
theorem yields_run_outcome (config : Config)
    (hmap : sink.Avoids s.files mapPath)
    (hcapture : sink.Avoids s.files capturePath) :
    Yields sink (Pipeline.run sink config mapPath capturePath).run s
      (Pipeline.outcome config mapPath capturePath
        (s.files.stands? mapPath) (s.files.stands? capturePath)) := by
  unfold Pipeline.run Pipeline.outcome
  refine (yields_pure sink s _).attempt.bindRun fun _ _ t ht => ?_
  have hscan : Yields sink
      (Pipeline.loadLinkMap sink config mapPath).run t
      ((LinkMap.ofStanding config.eligibility mapPath
        (s.files.stands? mapPath)).mapError .linkMap) := by
    refine Yields.attempt (Yields.timed fun u hu => ?_)
    obtain ⟨havoids, hstands⟩ := (ht.trans hu).stands mapPath hmap
    rw [← hstands]
    exact yields_loadLinkMap_ofStanding _ havoids
  refine hscan.bindRun fun scan _ u hu => ?_
  obtain ⟨havoids, hstands⟩ := (ht.trans hu).stands capturePath hcapture
  rw [← hstands]
  refine (yields_loadCapture_ofStanding havoids).attempt.bindRun
    fun capture _ v _ => ?_
  exact (yields_assembleTelling sink v _ _ _).perform

/-- Where the inputs are there and records leave them alone, the pipeline
yields what it would make of them in memory. -/
theorem yields_run {config : Config} (hvalid : config.validate = .ok ())
    (hmap : sink.Keeps s.files mapPath bytes)
    (hcontents : sink.Keeps s.files capturePath contents)
    (htext : Utf8.decode? contents = some text)
    (hcapture : Capture.ofJson (String.ofList text) = .ok capture) :
    Yields sink (Pipeline.run sink config mapPath capturePath).run s
      (.ok (Pipeline.assemble config
        (LinkMap.scanBytes config.eligibility bytes) capture)) := by
  obtain ⟨hmapThere, hmapAvoids⟩ := Log.Sink.keeps_iff.1 hmap
  obtain ⟨hthere, havoids⟩ := Log.Sink.keeps_iff.1 hcontents
  have hrun := yields_run_outcome config hmapAvoids havoids
  rw [hmapThere, hthere, Pipeline.outcome, hvalid,
    Capture.ofStanding_file htext, hcapture] at hrun
  exact hrun

end

-- ============================================================ printing

/-- Lines are printed one behind the other. -/
theorem run_printLines (lines : List String) (s : Surroundings) :
    (Host.printLines lines : Simulation Unit) s
      = ((), { s with
          output := s.output ++ String.join (lines.map (· ++ "\n")) }) := by
  induction lines generalizing s with
  | nil =>
      show ((), s) = _
      rw [List.map_nil, String.join_nil, String.append_empty]
  | cons line rest ih =>
      show (Host.printLines rest : Simulation Unit)
        { s with output := s.output ++ (line ++ "\n") } = _
      rw [ih, List.map_cons, String.join_cons, String.append_assoc]

theorem output_complainLines (lines : List String) (s : Surroundings) :
    ((Host.complainLines lines : Simulation Unit) s).2.output
      = s.output := by
  induction lines generalizing s with
  | nil => rfl
  | cons line rest ih => exact ih _

-- ============================================================= results

section
variable {ε δ α β : Type} {sink : Log.Sink} {s t : Surroundings}
  {step : ExceptT ε Simulation α} {next : α → ExceptT ε Simulation β} {a : α}

/-- What follows a step that is not refused. -/
theorem run_bind_of_ok (h : step.run s = (.ok a, t)) :
    (step >>= next).run s = (next a).run t := by
  show ExceptT.bindCont next (step.run s).1 (step.run s).2 = _
  rw [h]
  rfl

/-- What follows a step that is refused does not happen. -/
theorem run_bind_of_error {e : ε} (h : step.run s = (.error e, t)) :
    (step >>= next).run s = (.error e, t) := by
  show ExceptT.bindCont next (step.run s).1 (step.run s).2 = _
  rw [h]
  rfl

/-- What ends well has passed its first step. -/
theorem exists_of_run_bind {b : β}
    (h : ((step >>= next).run s).1 = .ok b) :
    ∃ a t, step.run s = (.ok a, t) ∧ ((next a).run t).1 = .ok b := by
  cases hstep : step.run s with
  | mk answer t =>
      cases answer with
      | error e =>
          rw [run_bind_of_error hstep] at h
          cases h
      | ok a =>
          rw [run_bind_of_ok hstep] at h
          exact ⟨a, t, rfl, h⟩

theorem run_attempt_of_ok {tell : ε → δ} {request : Simulation (Except ε α)}
    (h : request s = (.ok a, t)) :
    (attempt tell request).run s = (.ok a, t) := by
  show ((request s).1.mapError tell, (request s).2) = _
  rw [h]
  rfl

theorem run_perform (step : Simulation α) (s : Surroundings) :
    (perform step : ExceptT ε Simulation α).run s
      = (.ok (step s).1, (step s).2) := rfl

theorem run_perform_occupied (path : String) (s : Surroundings) :
    (perform (Host.occupied path) : ExceptT ε Simulation Bool).run s
      = (.ok (s.files.kind? path).isSome, s) := rfl

/-- A command ends well, and has printed the text. -/
def Prints (command : ExceptT ε Simulation Unit) (s : Surroundings)
    (text : String) : Prop :=
  (command.run s).1 = .ok () ∧ (command.run s).2.output = s.output ++ text

/-- What a command prints after a look is all that it prints. -/
theorem prints_of_run {next : α → ExceptT ε Simulation Unit}
    {text : String} (hrun : step.run s = (.ok a, s))
    (hnext : Prints (next a) s text) : Prints (step >>= next) s text := by
  unfold Prints
  rw [run_bind_of_ok hrun]
  exact hnext

/-- Records do not go to the output, so that what a command prints after
some of them is all that it prints. -/
theorem Yields.prints {next : α → ExceptT ε Simulation Unit}
    {text : String} (hstep : Yields sink step.run s (.ok a))
    (hnext : ∀ t, Told sink s t → Prints (next a) t text) :
    Prints (step >>= next) s text := by
  obtain ⟨hresult, htold⟩ := hstep
  have hlast := hnext _ htold
  unfold Prints at hlast ⊢
  rw [run_bind_of_ok (Prod.ext hresult rfl), ← htold.output]
  exact hlast

end

end Simulation

namespace Cli

open Simulation

variable {s : Surroundings}

-- =========================================================== arguments

/-- What is demanded and there is accepted. -/
theorem run_demand {path : String} (missing : String → ArgumentError)
    (h : (s.files.kind? path).isSome) :
    (demand path missing : ExceptT ArgumentError Simulation Unit).run s
      = (.ok (), s) := by
  unfold demand
  rw [run_bind_of_ok (run_perform_occupied path s), h]
  rfl

/-- A configuration that can be had is there. -/
theorem isSome_kind?_of_loadConfig {path : String} {config : Config}
    (h : ((Config.load path : ExceptT Config.Error Simulation Config).run
      s).1 = .ok config) :
    (s.files.kind? path).isSome := by
  obtain ⟨contents, -, hread, -⟩ := loadConfig_eq_ok_iff.1 h
  rw [Storage.FileSystem.kind?_of_read hread]
  rfl

/-- What is made of a base: the configuration that the arguments ask for,
which must be valid. -/
def MapArguments.settle (arguments : MapArguments) (base : Config) :
    ExceptT Config.Error Simulation Config := do
  attempt .invalid (pure (arguments.adapt base).validate)
  return arguments.adapt base

theorem MapArguments.resolveConfig_of_none {arguments : MapArguments}
    (h : arguments.config = none) :
    arguments.resolveConfig = arguments.settle {} := by
  unfold resolveConfig
  rw [h]
  rfl

theorem MapArguments.resolveConfig_of_some {arguments : MapArguments}
    {path : String} (h : arguments.config = some path) :
    arguments.resolveConfig = Config.load path >>= arguments.settle := by
  unfold resolveConfig
  rw [h]
  rfl

theorem looks_resolveConfig (arguments : MapArguments) :
    Looks arguments.resolveConfig.run := by
  have hsettle : ∀ base, Looks (arguments.settle base).run :=
    fun _ => (looks_pure _).attempt.bindOk fun _ => looks_pure _
  cases hconfig : arguments.config with
  | none =>
      rw [MapArguments.resolveConfig_of_none hconfig]
      exact hsettle _
  | some path =>
      rw [MapArguments.resolveConfig_of_some hconfig]
      exact (looks_loadConfig path).bindOk hsettle

/-- A configuration is had without changing anything. -/
theorem run_resolveConfig {arguments : MapArguments} {config : Config}
    (h : ((arguments.resolveConfig
      : ExceptT Config.Error Simulation Config).run s).1 = .ok config) :
    (arguments.resolveConfig
      : ExceptT Config.Error Simulation Config).run s = (.ok config, s) :=
  Prod.ext h (looks_resolveConfig arguments s)

/-- Arguments with a configuration that can be had are accepted, if the
link map is there. -/
theorem run_validate {arguments : MapArguments} {config : Config}
    (hmap : (s.files.kind? arguments.linkMap).isSome)
    (hconfig : ((arguments.resolveConfig
      : ExceptT Config.Error Simulation Config).run s).1 = .ok config) :
    (arguments.validate : ExceptT ArgumentError Simulation Unit).run s
      = (.ok (), s) := by
  unfold MapArguments.validate
  rw [run_bind_of_ok (run_demand _ hmap)]
  cases hpath : arguments.config with
  | none => rfl
  | some path =>
      refine run_demand _ ?_
      rw [MapArguments.resolveConfig_of_some hpath] at hconfig
      obtain ⟨base, t, hload, -⟩ := exists_of_run_bind hconfig
      exact isSome_kind?_of_loadConfig (congrArg Prod.fst hload)

-- ============================================================= resolve

/-- Where the inputs are there and records leave them alone, `resolve`
prints the symbols that it finds, one a line. -/
theorem prints_resolve {arguments : ResolveArguments} {manner : Manner}
    {config : Config} {bytes contents : List UInt8} {text : List Char}
    {capture : Capture}
    (hconfig : ((arguments.map.resolveConfig
      : ExceptT Config.Error Simulation Config).run s).1 = .ok config)
    (hmap : manner.sink.Keeps s.files arguments.map.linkMap bytes)
    (hcontents : manner.sink.Keeps s.files arguments.capture contents)
    (htext : Utf8.decode? contents = some text)
    (hcapture : Capture.ofJson (String.ofList text) = .ok capture) :
    Prints (arguments.execute manner) s
      (String.join (((capture.resolve (LinkMap.scanBytes config.eligibility
        bytes).table).symbols.map arguments.line).map (· ++ "\n"))) := by
  have hvalidate : (arguments.validate
      : ExceptT ArgumentError Simulation Unit).run s = (.ok (), s) := by
    have hkind := Storage.FileSystem.kind?_of_read hmap.read
    have hkind' := Storage.FileSystem.kind?_of_read hcontents.read
    unfold ResolveArguments.validate
    rw [run_bind_of_ok (run_validate (by rw [hkind]; rfl) hconfig)]
    exact run_demand _ (by rw [hkind']; rfl)
  unfold ResolveArguments.execute
  refine prints_of_run (run_attempt_of_ok hvalidate) ?_
  refine prints_of_run (run_attempt_of_ok (run_resolveConfig hconfig)) ?_
  have hscan : Yields manner.sink
      (Pipeline.loadLinkMap manner.sink config arguments.map.linkMap).run s
        (.ok (LinkMap.scanBytes config.eligibility bytes)) :=
    Yields.attempt (Yields.timed fun t ht =>
      yields_loadLinkMap _ (ht.keeps _ _ hmap))
  -- from here on records are told between the steps
  refine hscan.attempt.prints fun t ht => ?_
  have hkeeps := ht.keeps _ _ hcontents
  refine (yields_loadCapture hkeeps htext hcapture).attempt.prints
    fun u _ => ?_
  refine (yields_sendAll manner.sink _ u).perform.prints fun v _ => ?_
  unfold Prints
  rw [run_bind_of_ok (run_perform _ v), run_printLines]
  split
  · refine ⟨rfl, ?_⟩
    rw [run_perform, output_complainLines]
  · exact ⟨rfl, rfl⟩

end Cli

end LinkOrder
