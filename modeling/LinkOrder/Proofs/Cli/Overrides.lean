/-
What the arguments make of the configuration. The exclusions that they ask
for come behind those of the configuration file, or behind the built-in
ones where the file gives none. A file that cannot be read as a record of
fields gives no configuration at all, so whatever is resolved comes from
the fields that the file gives (`Cli.MapArguments.Gives`).

`--no-default-exclusions` is to drop the built-in exclusions. What it drops
is whatever stood there, the list of the file included. So the exclusions
are those of the file and of the arguments exactly if the flag is not set
or the file lists nothing (`resolveConfig_overrides`).
-/
import LinkOrder.Proofs.Cli.Validity
import LinkOrder.Proofs.Config.Decoding

namespace LinkOrder

open Json (Document)

-- ========================================================= what is given

namespace Cli

open Simulation

variable {s : Surroundings} {config base : Config}

/-- The configuration file of the arguments gives these fields and no
others; without such a file none are given. -/
def MapArguments.Gives (arguments : MapArguments) (s : Surroundings)
    (given : Config.Partial) : Prop :=
  match arguments.config with
  | none => given = {}
  | some path => ∃ contents text tree,
      s.files.read path = .ok contents
        ∧ Utf8.decode? contents = some text
        ∧ Document text tree ∧ tree.IsConfig given

/-- What a configuration file gives settles the configuration that is
had from it. -/
theorem MapArguments.gives_of_load {arguments : MapArguments} {path : String}
    (hpath : arguments.config = some path)
    (h : ((Config.load path : ExceptT Config.Error Simulation Config).run
      s).1 = .ok base) :
    (∃ given, arguments.Gives s given)
      ∧ ∀ given, arguments.Gives s given → given.complete = base := by
  obtain ⟨contents, text, hread, htext, hbase⟩ := loadConfig_eq_ok_iff.1 h
  have hjson := (Config.ofText_eq_ok_iff.1 hbase).1
  unfold Gives
  rw [hpath]
  refine ⟨?_, ?_⟩
  · obtain ⟨tree, given, hspells, hgiven, -⟩ := Config.exists_of_ofJson hjson
    rw [String.toList_ofList] at hspells
    exact ⟨given, contents, text, tree, hread, htext, hspells, hgiven⟩
  · rintro given ⟨contents', text', tree, hread', htext', hspells, hgiven⟩
    cases hread.symm.trans hread'
    cases htext.symm.trans htext'
    rw [← String.toList_ofList (l := text)] at hspells
    have hcomplete := (Config.ofJson_eq_ok_iff hspells).2 ⟨given, hgiven, rfl⟩
    exact Except.ok.inj (hcomplete.symm.trans hjson)

/-- A configuration comes from one that the fields that are given settle. -/
theorem MapArguments.exists_of_resolveConfig {arguments : MapArguments}
    (h : ((arguments.resolveConfig
      : ExceptT Config.Error Simulation Config).run s).1 = .ok config) :
    ∃ base, arguments.adapt base = config
      ∧ (∃ given, arguments.Gives s given)
      ∧ ∀ given, arguments.Gives s given → given.complete = base := by
  -- validation returns the adapted configuration or nothing
  have hsettle : ∀ {base : Config} {t : Surroundings},
      ((arguments.settle base).run t).1 = .ok config →
        arguments.adapt base = config := by
    intro base t hrun
    obtain ⟨_, _, -, hresult⟩ := exists_of_run_bind hrun
    exact Except.ok.inj hresult
  cases hpath : arguments.config with
  | none =>
      rw [resolveConfig_of_none hpath] at h
      refine ⟨{}, hsettle h, ?_⟩
      unfold Gives
      rw [hpath]
      exact ⟨⟨_, rfl⟩, fun _ hgiven => hgiven ▸ rfl⟩
  | some path =>
      rw [resolveConfig_of_some hpath] at h
      obtain ⟨base, t, hbase, hrun⟩ := exists_of_run_bind h
      refine ⟨base, hsettle hrun, gives_of_load hpath ?_⟩
      exact congrArg Prod.fst hbase

-- ============================================================ adaptation

/-- Exclusions are added behind those there are, one by one. -/
theorem foldl_exclude (starts : List String) (config : Config) :
    starts.foldl Config.exclude config
      = { config with
          excludedLibraries := config.excludedLibraries ++ starts } := by
  induction starts generalizing config with
  | nil => simp
  | cons start starts ih =>
      rw [List.foldl_cons, ih]
      simp [Config.exclude]

/-- The exclusions that are asked for come last; those in front of them are
dropped as a whole or not at all. -/
theorem MapArguments.adapt_eq (arguments : MapArguments) (config : Config) :
    arguments.adapt config
      = { config with
          excludedLibraries :=
            (if arguments.noDefaultExclusions then []
              else config.excludedLibraries)
            ++ arguments.excludedLibraries } := by
  unfold adapt
  rw [foldl_exclude]
  cases arguments.noDefaultExclusions with
  | true => rfl
  | false => rfl

/-- Only the order of the remaining symbols is for this command alone to
change. -/
theorem GenerateArguments.adapt_eq (arguments : GenerateArguments)
    (config : Config) :
    arguments.adapt config
      = { config with
          remainingOrder :=
            if arguments.sortRemaining then .address
            else config.remainingOrder } := by
  unfold adapt
  split <;> rfl

/-- What is resolved is made of a base that the fields that are given
settle. -/
theorem GenerateArguments.exists_of_resolveConfig
    {arguments : GenerateArguments}
    (h : ((arguments.resolveConfig
      : ExceptT Config.Error Simulation Config).run s).1 = .ok config) :
    ∃ base, arguments.adapt (arguments.map.adapt base) = config
      ∧ (∃ given, arguments.map.Gives s given)
      ∧ ∀ given, arguments.map.Gives s given → given.complete = base := by
  obtain ⟨middle, t, hmiddle, hresult⟩ := exists_of_run_bind h
  obtain ⟨base, hadapt, hgives⟩ :=
    arguments.map.exists_of_resolveConfig (congrArg Prod.fst hmiddle)
  refine ⟨base, ?_, hgives⟩
  rw [hadapt]
  exact Except.ok.inj hresult

end Cli

-- ============================================================== results

section
variable {α : Type} (dropped : Bool) (given : Option (List α))
  (builtIn asked : List α)

/-- To drop what stands in front is to drop what is built in, unless
something is given. -/
theorem dropAll_append_eq_iff :
    (if dropped then [] else given.getD builtIn) ++ asked
        = given.getD (if dropped then [] else builtIn) ++ asked
      ↔ (dropped → given.getD [] = []) := by
  cases dropped with
  | false => simp
  | true =>
      simp only [if_true, true_implies, List.append_cancel_right_eq]
      exact eq_comm

/-- What a file gives survives the dropping only where it is asked for
again. -/
theorem forall_mem_dropAll_append_iff :
    (∀ a ∈ given.getD [],
        a ∈ (if dropped then [] else given.getD builtIn) ++ asked)
      ↔ (dropped → given.getD [] ⊆ asked) := by
  cases dropped with
  | true =>
      simp only [if_true, true_implies, List.nil_append]
      exact Iff.rfl
  | false =>
      refine iff_of_true (fun a ha => ?_) nofun
      cases given with
      | none => cases ha
      | some starts => exact List.mem_append_left _ ha

end

/-- What is resolved comes from the fields that the configuration file
gives, and from the arguments. The exclusions that are asked for come last.
In front of them are those of the file, or the built-in ones where the file
gives none, but nothing at all with `--no-default-exclusions`; so this is
what it would be if the flag dropped the built-in ones only exactly if it
is not set or the file lists nothing, and of what the file lists just the
exclusions that are asked for again remain. The rest is sorted by address
if the file or the flag says so, and the level is that of the file or the
default. -/
theorem resolveConfig_overrides {arguments : Cli.GenerateArguments}
    {s : Surroundings} {config : Config}
    (h : ((arguments.resolveConfig
      : ExceptT Config.Error Simulation Config).run s).1 = .ok config) :
    (∃ given, arguments.map.Gives s given)
      ∧ ∀ given, arguments.map.Gives s given →
        let builtIn := ({} : Config).excludedLibraries
        let asked := arguments.map.excludedLibraries
        let dropped := arguments.map.noDefaultExclusions
        let listed := given.excludedLibraries.getD []
        config.excludedLibraries
            = (if dropped then []
                else given.excludedLibraries.getD builtIn) ++ asked
          ∧ (config.excludedLibraries
              = given.excludedLibraries.getD
                (if dropped then [] else builtIn) ++ asked
            ↔ (dropped → listed = []))
          ∧ ((∀ start ∈ listed, start ∈ config.excludedLibraries)
            ↔ (dropped → listed ⊆ asked))
          ∧ (config.remainingOrder = .address
            ↔ arguments.sortRemaining
              ∨ given.remainingOrder = some .address)
          ∧ config.logLevel
            = given.logLevel.getD ({} : Config).logLevel := by
  obtain ⟨base, rfl, hexists, hbase⟩ := arguments.exists_of_resolveConfig h
  refine ⟨hexists, fun given hgiven => ?_⟩
  cases hbase given hgiven
  intro builtIn asked dropped listed
  rw [Cli.GenerateArguments.adapt_eq, Cli.MapArguments.adapt_eq]
  refine ⟨rfl, dropAll_append_eq_iff _ _ _ _,
    forall_mem_dropAll_append_iff _ _ _ _, ?_, rfl⟩
  show (if arguments.sortRemaining then RemainingOrder.address
    else given.remainingOrder.getD .unspecified) = .address ↔ _
  cases arguments.sortRemaining with
  | true => simp
  | false =>
      cases given.remainingOrder with
      | none => simp
      | some order => simp

/-- A configuration file that excludes a library. -/
def listingConfig : String :=
  "\x7b\"excluded_library_prefixes\":[\"Ads\"]\x7d"

/-- The file in a place of its own. -/
def listingSurroundings : Surroundings where
  files :=
    { nodes := [(["config"], .file (Utf8.encode listingConfig.toList))]
      workingDirectory := [] }

/-- Goes by the file as it is. -/
def listingArguments : Cli.GenerateArguments where
  map := { linkMap := "/map", config := some "/config" }
  capture := "/capture"

/-- The exclusion that is asked for stands behind the one of the file, and
the flag decides the order. -/
theorem resolveConfig_overrides_sorting :
    let arguments : Cli.GenerateArguments :=
      { listingArguments with
        map.excludedLibraries := ["Beta"]
        sortRemaining := true }
    ((arguments.resolveConfig
        : ExceptT Config.Error Simulation Config).run
          listingSurroundings).1
        = .ok ⟨["Ads", "Beta"], .address, "info"⟩
      ∧ ∃ given, arguments.map.Gives listingSurroundings given
        ∧ ["Ads", "Beta"]
          = given.excludedLibraries.getD ({} : Config).excludedLibraries
            ++ ["Beta"] := by
  intro arguments
  have hconfig : ((arguments.resolveConfig
      : ExceptT Config.Error Simulation Config).run listingSurroundings).1
        = .ok ⟨["Ads", "Beta"], .address, "info"⟩ := by decide +kernel
  obtain ⟨⟨given, hgiven⟩, hall⟩ := resolveConfig_overrides hconfig
  exact ⟨hconfig, given, hgiven, (hall given hgiven).1⟩

/-- The library that the file lists is not excluded where only the built-in
exclusions are to be dropped. -/
theorem listed_exclusion_dropped :
    let arguments : Cli.GenerateArguments :=
      { listingArguments with map.noDefaultExclusions := true }
    let config : Config := ⟨[], .unspecified, "info"⟩
    ((arguments.resolveConfig
        : ExceptT Config.Error Simulation Config).run
          listingSurroundings).1 = .ok config
      ∧ ∃ given, arguments.map.Gives listingSurroundings given
        ∧ given.excludedLibraries = some ["Ads"]
        ∧ config.excludedLibraries
          ≠ given.excludedLibraries.getD
              (if arguments.map.noDefaultExclusions then []
                else ({} : Config).excludedLibraries)
            ++ arguments.map.excludedLibraries := by
  intro arguments config
  have hload : ((Config.load "/config"
      : ExceptT Config.Error Simulation Config).run listingSurroundings).1
        = .ok ⟨["Ads"], .unspecified, "info"⟩ := by decide +kernel
  have hpath : arguments.map.config = some "/config" := rfl
  obtain ⟨⟨given, hgiven⟩, hbase⟩ :=
    Cli.MapArguments.gives_of_load hpath hload
  have hstarts : given.excludedLibraries = some ["Ads"] := by
    have hlisted : given.excludedLibraries.getD ["GoogleMobileAds"]
        = ["Ads"] := congrArg Config.excludedLibraries (hbase given hgiven)
    cases hgives : given.excludedLibraries with
    | none =>
        rw [hgives] at hlisted
        exact absurd hlisted (by decide)
    | some starts =>
        rw [hgives, Option.getD_some] at hlisted
        rw [hlisted]
  refine ⟨by decide +kernel, given, hgiven, hstarts, ?_⟩
  rw [hstarts]
  decide

end LinkOrder
