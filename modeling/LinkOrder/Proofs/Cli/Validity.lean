/-
Only valid configurations reach the pipeline. However a configuration is
had, it is checked after the last change that could spoil it: what a file
gives when it is read, and what the arguments make of it when they have
been heeded. What is changed later, the order of the symbols that were not
observed, is nothing that a check looks at. So the pipeline, which checks
once more, never refuses its configuration (`configs_usable`).

What all ends of a step have in common, over all surroundings, is
followed through the commands by rules for their steps (`Ensures`).
-/
import LinkOrder.Proofs.Cli.Running
import LinkOrder.Proofs.Config.Validity
import LinkOrder.Proofs.Storage.Growth
import Mathlib.Control.Monad.Basic

namespace LinkOrder

namespace Simulation

-- ================================================================ ends

/-- Wherever the step is made, its result is one of the good ones, or its
error one of the bad ones. -/
def Ensures {ε α : Type} (step : ExceptT ε Simulation α)
    (good : α → Prop) (bad : ε → Prop) : Prop :=
  ∀ s, (∀ a, (step.run s).1 = .ok a → good a)
    ∧ ∀ e, (step.run s).1 = .error e → bad e

section
variable {ε δ α β : Type} {good : α → Prop} {bad : ε → Prop}
  {result : β → Prop}

theorem ensures_pure {a : α} (h : good a) :
    Ensures (pure a : ExceptT ε Simulation α) good bad := by
  refine fun s => ⟨fun a ha => ?_, nofun⟩
  cases ha
  exact h

/-- What is never refused ensures nothing of its result. -/
theorem ensures_perform (step : Simulation α) :
    Ensures (perform step : ExceptT ε Simulation α) (fun _ => True) bad :=
  fun _ => ⟨fun _ _ => trivial, nofun⟩

/-- A last step that is made on some condition only. -/
theorem ensures_optional {condition : Prop} [Decidable condition]
    (step : Simulation Unit) :
    Ensures (if condition then perform step else pure ()
      : ExceptT ε Simulation Unit) (fun _ => True) bad := by
  split
  · exact ensures_perform step
  · exact ensures_pure trivial

/-- What the first step ensures is what the second may rely on. -/
theorem Ensures.bind {step : ExceptT ε Simulation α}
    {next : α → ExceptT ε Simulation β} (hstep : Ensures step good bad)
    (hnext : ∀ a, good a → Ensures (next a) result bad) :
    Ensures (step >>= next) result bad := by
  intro s
  obtain ⟨hgood, hbad⟩ := hstep s
  cases hrun : step.run s with
  | mk answer t =>
      rw [hrun] at hgood hbad
      cases answer with
      | ok a =>
          rw [run_bind_of_ok hrun]
          exact hnext a (hgood a rfl) t
      | error e =>
          rw [run_bind_of_error hrun]
          refine ⟨nofun, fun e he => ?_⟩
          cases he
          exact hbad e rfl

/-- A refusal that is told in other words. -/
theorem Ensures.attempt {step : ExceptT ε Simulation α} {tell : ε → δ}
    {bad' : δ → Prop} (h : Ensures step good bad)
    (htell : ∀ e, bad e → bad' (tell e)) :
    Ensures (LinkOrder.attempt tell step.run) good bad' := by
  intro s
  obtain ⟨hgood, hbad⟩ := h s
  show (∀ a, (step.run s).1.mapError tell = .ok a → good a)
    ∧ ∀ e, (step.run s).1.mapError tell = .error e → bad' e
  cases hanswer : (step.run s).1 with
  | ok a =>
      refine ⟨fun b hb => ?_, nofun⟩
      cases hb
      exact hgood a hanswer
  | error e =>
      refine ⟨nofun, fun f hf => ?_⟩
      cases hf
      exact htell e (hbad e hanswer)

/-- An answer that is known from the start. -/
theorem ensures_answer {answer : Except ε α} :
    Ensures (ExceptT.mk (pure answer) : ExceptT ε Simulation α)
      (fun a => answer = .ok a) (fun e => answer = .error e) :=
  fun _ => ⟨fun _ h => h, fun _ h => h⟩

/-- Such an answer, if a refusal is told in other words. -/
theorem ensures_told {tell : ε → δ} {bad : δ → Prop} (answer : Except ε α)
    (h : ∀ e, answer = .error e → bad (tell e)) :
    Ensures (LinkOrder.attempt tell (pure answer))
      (fun a => answer = .ok a) bad :=
  ensures_answer.attempt h

/-- Whatever a step comes to, it is something. -/
theorem ensures_any (step : ExceptT ε Simulation α) :
    Ensures step (fun _ => True) (fun _ => True) :=
  fun _ => ⟨fun _ _ => trivial, fun _ _ => trivial⟩

end

end Simulation

open Simulation

-- ======================================================= configurations

namespace Config

theorem ensures_load (path : String) :
    Ensures (load path) (fun config => config.validate = .ok ())
      (fun _ => True) := by
  refine fun s => ⟨fun config hload => ?_, fun _ _ => trivial⟩
  obtain ⟨_, _, -, -, htext⟩ := loadConfig_eq_ok_iff.1 hload
  exact (ofText_eq_ok_iff.1 htext).2

theorem validate_default : validate {} = .ok () := rfl

/-- The default stands in for a file that is not usable, and is itself
valid. -/
theorem validate_loadOrDefault (path : String) (s : Surroundings) :
    ((loadOrDefault path : Simulation Config) s).1.validate = .ok () := by
  have hload := (ensures_load path s).1
  unfold loadOrDefault
  rw [run_bind]
  cases hanswer : ((load path : ExceptT Error Simulation Config).run s).1 with
  | error e => exact validate_default
  | ok config => exact hload config hanswer

end Config

namespace Cli

/-- Arguments are validated together with what they adapt. -/
theorem ensures_mapConfig (arguments : MapArguments) :
    Ensures arguments.resolveConfig
      (fun config => config.validate = .ok ()) (fun _ => True) := by
  have hsettle : ∀ base, Ensures (arguments.settle base)
      (fun config => config.validate = .ok ()) (fun _ => True) := by
    intro base
    refine (ensures_told _ fun _ _ => trivial).bind fun _ hvalid => ?_
    exact ensures_pure hvalid
  cases hconfig : arguments.config with
  | none =>
      rw [MapArguments.resolveConfig_of_none hconfig]
      exact hsettle _
  | some path =>
      rw [MapArguments.resolveConfig_of_some hconfig]
      exact (ensures_any _).bind fun base _ => hsettle base

/-- The order of what remains is nothing that a check looks at. -/
theorem validate_adapt (arguments : GenerateArguments) (config : Config) :
    (arguments.adapt config).validate = config.validate := by
  unfold GenerateArguments.adapt
  split <;> rfl

theorem ensures_generateConfig (arguments : GenerateArguments) :
    Ensures arguments.resolveConfig
      (fun config => config.validate = .ok ()) (fun _ => True) := by
  unfold GenerateArguments.resolveConfig
  refine (ensures_mapConfig arguments.map).bind fun config hvalid => ?_
  exact ensures_pure ((validate_adapt arguments config).trans hvalid)

end Cli

-- ============================================================= commands

/-- The error does not put the blame on the configuration. -/
def Pipeline.Error.SparesConfig (error : Error) : Prop :=
  ∀ reason, error ≠ .config reason

def Cli.CommandError.SparesConfig (error : CommandError) : Prop :=
  ∀ reason, error ≠ .pipeline (.config reason)

/-- A refusal that is told so as to spare the configuration. -/
theorem ensures_attempt {ε δ α : Type} {tell : ε → δ}
    {bad : δ → Prop} (htell : ∀ e, bad (tell e))
    (request : Simulation (Except ε α)) :
    Ensures (attempt tell request) (fun _ => True) bad :=
  (ensures_any (ExceptT.mk request)).attempt fun e _ => htell e

namespace Pipeline

theorem ensures_loadLinkMap (sink : Log.Sink) (config : Config)
    (path : String) :
    Ensures (loadLinkMap sink config path) (fun _ => True)
      Error.SparesConfig :=
  ensures_attempt (fun _ _ => nofun) _

/-- A pipeline with a valid configuration does not fail on it. -/
theorem ensures_run (sink : Log.Sink) {config : Config}
    (hvalid : config.validate = .ok ()) (mapPath capturePath : String) :
    Ensures (run sink config mapPath capturePath) (fun _ => True)
      Error.SparesConfig := by
  unfold run
  refine (ensures_told _ (by rw [hvalid]; nofun)).bind fun _ _ => ?_
  refine (ensures_loadLinkMap sink config mapPath).bind fun scan _ => ?_
  refine (ensures_attempt (fun _ _ => nofun) _).bind fun capture _ => ?_
  exact ensures_perform _

end Pipeline

namespace Cli

section
variable (manner : Manner)

/-- The first two steps of every command: arguments are accepted, and a
configuration is had, which is valid. -/
theorem ensures_begin {accept : ExceptT ArgumentError Simulation Unit}
    {request : ExceptT Config.Error Simulation Config}
    {next : Config → ExceptT CommandError Simulation Unit}
    (hrequest : Ensures request (fun config => config.validate = .ok ())
      (fun _ => True))
    (hnext : ∀ config, config.validate = .ok () →
      Ensures (next config) (fun _ => True) CommandError.SparesConfig) :
    Ensures (do
      attempt CommandError.arguments accept.run
      let config ← attempt CommandError.config request.run
      next config) (fun _ => True) CommandError.SparesConfig := by
  refine (ensures_attempt (fun _ _ => nofun) _).bind fun _ _ => ?_
  exact (hrequest.attempt fun _ _ _ => nofun).bind hnext

/-- An error of the pipeline that spares the configuration is one of the
command that does. -/
theorem ensures_pipeline {α : Type}
    {step : ExceptT Pipeline.Error Simulation α}
    (h : Ensures step (fun _ => True) Pipeline.Error.SparesConfig) :
    Ensures (attempt CommandError.pipeline step.run) (fun _ => True)
      CommandError.SparesConfig :=
  h.attempt fun _ hspares reason heq =>
    hspares reason (CommandError.pipeline.inj heq)

/-- A configuration that got this far is not refused by the pipeline. -/
theorem ensures_generate (arguments : GenerateArguments) :
    Ensures (arguments.execute manner) (fun _ => True)
      CommandError.SparesConfig := by
  refine ensures_begin (ensures_generateConfig arguments)
    fun config hvalid => ?_
  refine (ensures_perform _).bind fun start _ => ?_
  have hrun := Pipeline.ensures_run manner.sink hvalid
    arguments.map.linkMap arguments.capture
  refine (ensures_pipeline hrun).bind fun output _ => ?_
  refine (ensures_attempt (fun _ _ => nofun) _).bind fun _ _ => ?_
  exact (ensures_perform _).bind fun stop _ => ensures_perform _

theorem ensures_resolve (arguments : ResolveArguments) :
    Ensures (arguments.execute manner) (fun _ => True)
      CommandError.SparesConfig := by
  refine ensures_begin (ensures_mapConfig arguments.map)
    fun config hvalid => ?_
  have hscan := Pipeline.ensures_loadLinkMap manner.sink config
    arguments.map.linkMap
  refine (ensures_pipeline hscan).bind fun scan _ => ?_
  refine (ensures_attempt (fun _ _ => nofun) _).bind fun capture _ => ?_
  refine (ensures_perform _).bind fun _ _ => ?_
  exact (ensures_perform _).bind fun _ _ => ensures_optional _

theorem ensures_addresses (arguments : AddressesArguments) :
    Ensures (arguments.execute manner) (fun _ => True)
      CommandError.SparesConfig := by
  refine ensures_begin (ensures_mapConfig arguments.map)
    fun config hvalid => ?_
  have hscan := Pipeline.ensures_loadLinkMap manner.sink config
    arguments.map.linkMap
  refine (ensures_pipeline hscan).bind fun scan _ => ?_
  dsimp only
  split
  · exact ensures_perform _
  · refine (ensures_attempt (fun _ _ => nofun) _).bind fun _ _ => ?_
    exact ensures_perform _

theorem ensures_stats (arguments : StatsArguments) :
    Ensures (arguments.execute manner) (fun _ => True)
      CommandError.SparesConfig := by
  refine ensures_begin (ensures_mapConfig arguments.map)
    fun config hvalid => ?_
  refine (ensures_attempt (fun _ _ => nofun) _).bind fun scan _ => ?_
  refine (ensures_perform _).bind fun _ _ => ?_
  dsimp only
  split
  · exact (ensures_perform _).bind fun _ _ => ensures_optional _
  · exact ensures_optional _

/-- No command fails on a configuration in the pipeline. -/
theorem ensures_execute (command : Command) :
    Ensures (command.execute manner) (fun _ => True)
      CommandError.SparesConfig := by
  cases command with
  | generate arguments => exact ensures_generate manner arguments
  | resolve arguments => exact ensures_resolve manner arguments
  | addresses arguments => exact ensures_addresses manner arguments
  | stats arguments => exact ensures_stats manner arguments

end

end Cli

-- ============================================================== results

open Log (Threshold)

/-- The configurations that are had in one of the four ways there are. -/
inductive Config.Obtained (s : Surroundings) : Config → Prop
  | loaded {path : String} {config : Config}
      (h : ((load path : ExceptT Error Simulation Config).run s).1
        = .ok config) : Obtained s config
  | settled (path : String) :
      Obtained s ((loadOrDefault path : Simulation Config) s).1
  | mapped {arguments : Cli.MapArguments} {config : Config}
      (h : ((arguments.resolveConfig
        : ExceptT Error Simulation Config).run s).1 = .ok config) :
      Obtained s config
  | generated {arguments : Cli.GenerateArguments} {config : Config}
      (h : ((arguments.resolveConfig
        : ExceptT Error Simulation Config).run s).1 = .ok config) :
      Obtained s config

/-- Whatever the files and the arguments, a configuration that is had is
valid: no exclusion of it is empty, and its level is one for which there is
a threshold. No command fails on its configuration in the pipeline. An
empty exclusion would exclude whatever is in a library. And a level is
accepted exactly if there is a threshold of that name, in whatever way
letters beyond ASCII are put in lower case. -/
theorem configs_usable :
    (∀ (s : Surroundings) (config : Config), config.Obtained s →
        config.Usable)
      ∧ (∀ (command : Cli.Command) (manner : Cli.Manner)
          (s : Surroundings) (reason : Config.Error),
        ((command.execute manner
          : ExceptT Cli.CommandError Simulation Unit).run s).1
            ≠ .error (.pipeline (.config reason)))
      ∧ (∀ (rule : Eligibility) (object : ObjectFile),
        "" ∈ rule.excludedLibraries →
          rule.excludes object = object.library.isSome)
      ∧ ∀ (config : Config) (level : String),
        "" ∉ config.excludedLibraries →
          let accepted :=
            Config.validate { config with logLevel := level } = .ok ()
          (accepted ↔ (Threshold.ofName? level).isSome)
            ∧ ∀ fold, FoldsCase fold →
              (accepted ↔ fold level ∈ Config.knownLevels)
                ∧ Threshold.named? (fold level) = Threshold.ofName? level := by
  refine ⟨fun s config hconfig => ?_, fun command manner s reason => ?_,
    fun rule object h => Eligibility.excludes_of_empty h object,
    fun config level hexclusions => ?_⟩
  · rw [Config.usable_iff]
    -- one case for each way to come by a configuration
    cases hconfig with
    | loaded h => exact (Config.ensures_load _ s).1 config h
    | settled path => exact Config.validate_loadOrDefault path s
    | mapped h => exact (Cli.ensures_mapConfig _ s).1 config h
    | generated h => exact (Cli.ensures_generateConfig _ s).1 config h
  · intro herror
    exact (Cli.ensures_execute manner command s).2 _ herror reason rfl
  · have hlevel := Config.validate_level_iff hexclusions level
    refine ⟨hlevel, fun fold hfold => ⟨?_, hfold.named?_eq level⟩⟩
    rw [hlevel, ← hfold.named?_eq, Config.isSome_named?_iff]

/-- A configuration file that excludes a library and names a level. -/
def warningConfig : String :=
  "\x7b\"excluded_library_prefixes\":[\"Ads\"],\"log_level\":\"WARN\"\x7d"

/-- The file in a place of its own. -/
def configSurroundings : Surroundings where
  files :=
    { nodes := [(["config"], .file (Utf8.encode warningConfig.toList))]
      workingDirectory := [] }

/-- Asks for one more exclusion, and for the symbols to be sorted. -/
def sortingArguments : Cli.GenerateArguments where
  map :=
    { linkMap := "/map"
      config := some "/config"
      excludedLibraries := ["Beta"] }
  capture := "/capture"
  sortRemaining := true

/-- The file is adapted to a configuration that is valid and names its
level in capitals. -/
theorem configs_usable_sorting :
    let config : Config := ⟨["Ads", "Beta"], .address, "WARN"⟩
    ((sortingArguments.resolveConfig
        : ExceptT Config.Error Simulation Config).run configSurroundings).1
          = .ok config
      ∧ config.Usable
      ∧ FoldsCase lowerCase
      ∧ "" ∉ config.excludedLibraries
      ∧ Threshold.named? (lowerCase "WARN") = Threshold.ofName? "WARN" := by
  intro config
  obtain ⟨husable, -, -, hlevels⟩ := configs_usable
  have hconfig : ((sortingArguments.resolveConfig
      : ExceptT Config.Error Simulation Config).run configSurroundings).1
        = .ok config := by decide +kernel
  have hexclusions : "" ∉ config.excludedLibraries := by decide
  obtain ⟨-, hfold⟩ := hlevels config "WARN" hexclusions
  exact ⟨hconfig, husable _ config (.generated hconfig),
    foldsCase_lowerCase, hexclusions, (hfold _ foldsCase_lowerCase).2⟩

end LinkOrder
