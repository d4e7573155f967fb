/-
What `stats` prints, and how it goes with the counts of a layout. Where
the link map is there, `stats` prints a summary of its scan, the groups of
several symbols if they are asked for, and a word on a missing text
section unless it is to be quiet (`prints_stats`). The number of groups in
the summary is that of the table alone; a layout of the table, made from
whatever trace, counts as many collisions (`stats_planOf`).
-/
import LinkOrder.Proofs.Cli.Running
import LinkOrder.Proofs.Order.Counts

namespace LinkOrder

open Simulation

-- ============================================================ printing

/-- Lines that are printed first come first. -/
theorem Simulation.prints_lines {ε : Type} (lines : List String)
    {more : List String} {next : Unit → ExceptT ε Simulation Unit}
    {s : Surroundings}
    (h : ∀ t, Prints (next ()) t (String.join (more.map (· ++ "\n")))) :
    Prints (perform (Host.printLines lines) >>= next) s
      (String.join ((lines ++ more).map (· ++ "\n"))) := by
  unfold Prints
  rw [run_bind_of_ok (run_perform _ s), run_printLines, List.map_append,
    String.join_append, ← String.append_assoc]
  exact h _

namespace Cli

/-- What is to be told unless something holds is told unless it holds or
the command is to be quiet. -/
theorem prints_tell (manner : Manner) (held : Bool) (lines : List String)
    (s : Surroundings) :
    Prints (if !held then perform (manner.tell lines) else pure ()
      : ExceptT CommandError Simulation Unit) s
      (String.join ((if held || manner.quiet then [] else lines).map
        (· ++ "\n"))) := by
  cases held with
  | true => exact ⟨rfl, String.append_empty.symm⟩
  | false =>
      have htell : (manner.tell lines : Simulation Unit) s = ((), { s with
          output := s.output ++ String.join
            ((if manner.quiet then [] else lines).map (· ++ "\n")) }) := by
        unfold Manner.tell
        cases manner.quiet with
        | true =>
            show ((), s) = _
            simp
        | false => exact run_printLines lines s
      unfold Prints
      rw [if_pos (show (!false) = true from rfl), run_perform, htell,
        Bool.false_or]
      exact ⟨rfl, rfl⟩

/-- The lines of `stats`, all of them. -/
def StatsArguments.report (arguments : StatsArguments) (manner : Manner)
    (rule : Eligibility) (scan : LinkMap.Scan) : List String :=
  let groups := Order.collisionGroups rule scan.table.symbols
  summary manner.coloured scan groups.length
    ++ (if arguments.collisions then collisionLines manner.coloured groups
      else [])
    ++ (if scan.stats.textSectionFound || manner.quiet then []
      else [manner.status
        "No __TEXT,__text section found; no symbols were recorded"])

/-- Where the link map is there and records leave it alone, `stats` prints
these lines. -/
theorem prints_stats {s : Surroundings} {arguments : StatsArguments}
    {manner : Manner} {config : Config} {bytes : List UInt8}
    (hconfig : ((arguments.map.resolveConfig
      : ExceptT Config.Error Simulation Config).run s).1 = .ok config)
    (hmap : manner.sink.Keeps s.files arguments.map.linkMap bytes) :
    Prints (arguments.execute manner) s
      (String.join ((arguments.report manner config.eligibility
        (LinkMap.scanBytes config.eligibility bytes)).map (· ++ "\n"))) := by
  have hvalidate : (arguments.map.validate
      : ExceptT ArgumentError Simulation Unit).run s = (.ok (), s) := by
    have hkind := Storage.FileSystem.kind?_of_read hmap.read
    exact run_validate (by rw [hkind]; rfl) hconfig
  unfold StatsArguments.execute StatsArguments.report
  refine prints_of_run (run_attempt_of_ok hvalidate) ?_
  refine prints_of_run (run_attempt_of_ok (run_resolveConfig hconfig)) ?_
  refine (yields_loadLinkMap _ hmap).attempt.prints fun t _ => ?_
  dsimp only
  generalize LinkMap.scanBytes config.eligibility bytes = scan
  rw [List.append_assoc]
  refine prints_lines _ fun u => ?_
  by_cases hlisted : arguments.collisions
  · rw [if_pos hlisted, if_pos hlisted]
    exact prints_lines _ (prints_tell manner _ _)
  · rw [if_neg hlisted, if_neg hlisted]
    exact prints_tell manner _ _ u

/-- One line of it is the number of groups. -/
theorem mem_report (arguments : StatsArguments) (manner : Manner)
    (rule : Eligibility) (scan : LinkMap.Scan) :
    "  Collision groups: " ++ toString
        (Order.collisionGroups rule scan.table.symbols).length
      ∈ arguments.report manner rule scan := by
  unfold StatsArguments.report summary
  simp

end Cli

-- ============================================================= counts

namespace Order

/-- For every rule and table, any two enumerations of the table, one to be
laid out and one to be listed, both orders of the tail, and every trace of
the table's symbols: the sections have as many lines as is counted; as
many collisions are counted as groups are listed, and that is the number
that `stats` prints for a link map with the table; counted as prefixed are
the entries whose lines are; of each group one member emits, once, and
counted as unprefixed are the groups of which the object file of that
member has no form to give. -/
theorem stats_planOf {rule : Eligibility} {order : RemainingOrder}
    {table : Table} {entries listed : List (UInt64 × Symbol)}
    {trace : List Symbol} (hentries : entries.Perm table.toList)
    (hlisted : listed.Perm table.toList)
    (htrace : ∀ s ∈ trace, s ∈ table.symbols) :
    let plan := planOf rule order entries trace
    let groups := collisionGroups rule (listed.map Prod.snd)
    (plan.stats.observed = plan.file.observed.length
        ∧ plan.stats.remaining = plan.file.remaining.length)
      ∧ plan.stats.collisionsPrefixed + plan.stats.collisionsUnprefixed
        = groups.length
      ∧ (∀ (s : Surroundings) (arguments : Cli.StatsArguments)
          (manner : Cli.Manner) (config : Config) (bytes : List UInt8),
        ((arguments.map.resolveConfig
          : ExceptT Config.Error Simulation Config).run s).1 = .ok config →
        manner.sink.Keeps s.files arguments.map.linkMap bytes →
        config.eligibility = rule →
        (LinkMap.scanBytes rule bytes).table = table →
          ∃ lines : List String, Prints (arguments.execute manner) s
              (String.join (lines.map (· ++ "\n")))
            ∧ ("  Collision groups: " ++ toString groups.length) ∈ lines)
      ∧ plan.stats.collisionsPrefixed
        = plan.entries.countP Entry.isPrefixed
      ∧ (∀ group ∈ groups,
        plan.entries.countP (·.symbol ∈ group.2) = 1)
      ∧ plan.stats.collisionsUnprefixed
        = groups.countP fun group => ∃ e ∈ plan.entries,
            e.symbol ∈ group.2 ∧ e.symbol.object.qualifier? = none := by
  intro plan groups
  have hcollisions : plan.stats.collisions = groups.length :=
    collisions_planOf hentries hlisted htrace
  refine ⟨⟨?_, ?_⟩, hcollisions, ?_, plan.collisionsPrefixed_eq,
    fun group hgroup => ?_, unprefixed_planOf hentries hlisted htrace⟩
  · exact (List.length_map _).symm
  · exact (List.length_map _).symm
  · intro s arguments manner config bytes hconfig hmap hrule htable
    subst hrule
    refine ⟨_, Cli.prints_stats hconfig hmap, ?_⟩
    -- the command lists the table itself, and not another enumeration of it
    have hprinted : (collisionGroups config.eligibility
        (LinkMap.scanBytes config.eligibility bytes).table.symbols).length
          = groups.length := by
      rw [htable]
      exact (collisions_planOf hentries (.refl _) htrace).symm.trans
        hcollisions
    rw [← hprinted]
    exact Cli.mem_report _ _ _ _
  · exact countP_emits_planOf hentries hlisted htrace hgroup

/-- The trace of the table of shared names emits for one group only, and
one is all that is listed. -/
theorem stats_planOf_sharedName :
    let rule : Eligibility := ⟨["libAds"]⟩
    let entries := sharedNameTable.toList.reverse
    let plan := planOf rule .unspecified entries sharedNameTrace
    entries.Perm sharedNameTable.toList
      ∧ sharedNameTable.toList.Perm sharedNameTable.toList
      ∧ (∀ s ∈ sharedNameTrace, s ∈ sharedNameTable.symbols)
      ∧ plan.stats.collisions = 1
      ∧ (collisionGroups rule sharedNameTable.symbols).length = 1 := by
  intro rule entries plan
  have hentries := List.reverse_perm sharedNameTable.toList
  have hself := List.Perm.refl sharedNameTable.toList
  have htrace : ∀ s ∈ sharedNameTrace, s ∈ sharedNameTable.symbols := by
    decide +kernel
  obtain ⟨-, hgroups, -⟩ :=
    @stats_planOf rule .unspecified _ _ _ _ hentries hself htrace
  have hone : plan.stats.collisions = 1 := by
    show plan.stats.collisionsPrefixed + plan.stats.collisionsUnprefixed = 1
    rw [Plan.collisions_eq]
    show ((Order.plan rule _ _ _).observed
      ++ (Order.plan rule _ _ _).remaining).countP _ = 1
    rw [plan_observed, plan_remaining]
    decide +kernel
  exact ⟨hentries, hself, htrace, hone, hgroups.symm.trans hone⟩

end Order

end LinkOrder
