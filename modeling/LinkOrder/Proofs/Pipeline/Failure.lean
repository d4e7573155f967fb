/-
When the pipeline fails, and with what. A run stops at the first thing
that is wrong, in a fixed order: the configuration, the link map, the
capture. What is wrong is settled by the configuration and by what stands
at the two paths before the run, a directory, a file with its bytes, or
nothing; what a run tells of itself on the way does not matter as long as
its records go elsewhere.

The two inputs are not treated alike. Any bytes make a link map, so that
no content of a file that is there is an error; a capture has to be well
encoded and to be one. What is one is said by the grammar of JSON
(`Capture.SpelledBy`), not by what a reader accepts. Beyond that nothing
goes wrong (`settled_run`).

The order is that of the rules of `ComesTo`, which are read off the steps
of the pipeline once (`comesTo_outcome`).
-/
import LinkOrder.Proofs.Capture.RoundTrip
import LinkOrder.Proofs.Cli.Running

namespace LinkOrder.Pipeline

open Storage (Node)

-- ============================================================== results

/-- What the pipeline comes to, given what stands at the paths of the link
map and of the capture. -/
inductive ComesTo (config : Config) (mapPath capturePath : String) :
    Option Node → Option Node → Except Error Output → Prop
  | invalid {map? capture? : Option Node} {reason : Config.Invalid}
      (hinvalid : config.validate = .error reason) :
      ComesTo config mapPath capturePath map? capture?
        (.error (.config (.invalid reason)))
  | mapMissing {capture? : Option Node} (hvalid : config.validate = .ok ()) :
      ComesTo config mapPath capturePath none capture?
        (.error (.linkMap (.notFound mapPath)))
  | mapDirectory {capture? : Option Node}
      (hvalid : config.validate = .ok ()) :
      ComesTo config mapPath capturePath (some .directory) capture?
        (.error (.linkMap (.io .isDirectory)))
  | captureMissing {bytes : List UInt8}
      (hvalid : config.validate = .ok ()) :
      ComesTo config mapPath capturePath (some (.file bytes)) none
        (.error (.capture (.notFound capturePath)))
  | captureDirectory {bytes : List UInt8}
      (hvalid : config.validate = .ok ()) :
      ComesTo config mapPath capturePath (some (.file bytes))
        (some .directory) (.error (.capture (.io .isDirectory)))
  | illEncoded {bytes contents : List UInt8}
      (hvalid : config.validate = .ok ())
      (hdecode : Utf8.decode? contents = none) :
      ComesTo config mapPath capturePath (some (.file bytes))
        (some (.file contents)) (.error (.capture (.io .notText)))
  | noCapture {bytes contents : List UInt8} {text : List Char}
      {e : Json.Error} (hvalid : config.validate = .ok ())
      (hdecode : Utf8.decode? contents = some text)
      (hnone : ∀ capture : Capture,
        ¬ capture.SpelledBy (String.ofList text))
      (hjson : Capture.ofJson (String.ofList text) = .error e) :
      ComesTo config mapPath capturePath (some (.file bytes))
        (some (.file contents)) (.error (.capture (.parse e)))
  | assembled {bytes contents : List UInt8} {text : List Char}
      {capture : Capture} (hvalid : config.validate = .ok ())
      (hdecode : Utf8.decode? contents = some text)
      (hspelled : capture.SpelledBy (String.ofList text)) :
      ComesTo config mapPath capturePath (some (.file bytes))
        (some (.file contents))
        (.ok (assemble config (LinkMap.scanBytes config.eligibility bytes)
          capture))

/-- Which failures there are and when, and when there is none. -/
structure Settled (config : Config) (mapPath capturePath : String)
    (map? capture? : Option Node) (result : Except Error Output) :
    Prop where
  /-- The configuration comes first, whatever the files are. -/
  invalid : ∀ reason, result = .error (.config (.invalid reason))
    ↔ config.validate = .error reason
  mapNotFound : config.validate = .ok () → ∀ path,
    (result = .error (.linkMap (.notFound path))
      ↔ map? = none ∧ path = mapPath)
  mapIo : config.validate = .ok () → ∀ failure,
    (result = .error (.linkMap (.io failure))
      ↔ map? = some .directory ∧ failure = .isDirectory)
  captureNotFound : config.validate = .ok () → ∀ bytes,
    map? = some (.file bytes) → ∀ path,
      (result = .error (.capture (.notFound path))
        ↔ capture? = none ∧ path = capturePath)
  captureIo : config.validate = .ok () → ∀ bytes,
    map? = some (.file bytes) → ∀ failure,
      (result = .error (.capture (.io failure))
        ↔ (capture? = some .directory ∧ failure = .isDirectory)
          ∨ ∃ contents, capture? = some (.file contents)
            ∧ Utf8.decode? contents = none ∧ failure = .notText)
  /-- A file that is well encoded is refused exactly if its text spells no
  capture. -/
  captureRefused : config.validate = .ok () → ∀ bytes,
    map? = some (.file bytes) →
      ((∃ e, result = .error (.capture (.parse e)))
        ↔ ∃ contents text, capture? = some (.file contents)
          ∧ Utf8.decode? contents = some text
          ∧ ∀ capture : Capture, ¬ capture.SpelledBy (String.ofList text))
  /-- What is said then is what the reader of captures finds wrong. -/
  captureParse : config.validate = .ok () → ∀ bytes,
    map? = some (.file bytes) → ∀ e,
      (result = .error (.capture (.parse e))
        ↔ ∃ contents text, capture? = some (.file contents)
          ∧ Utf8.decode? contents = some text
          ∧ Capture.ofJson (String.ofList text) = .error e)
  /-- Otherwise there is an order file, of the capture that the text
  spells, whatever the bytes of the link map. -/
  succeeds : config.validate = .ok () → ∀ bytes,
    map? = some (.file bytes) → ∀ output,
      (result = .ok output
        ↔ ∃ contents text capture, capture? = some (.file contents)
          ∧ Utf8.decode? contents = some text
          ∧ capture.SpelledBy (String.ofList text)
          ∧ output = assemble config
            (LinkMap.scanBytes config.eligibility bytes) capture)

section
variable {config : Config} {mapPath capturePath : String}
  {map? capture? : Option Node}

/-- The steps of the pipeline follow the rules. -/
theorem comesTo_outcome (config : Config) (mapPath capturePath : String)
    (map? capture? : Option Node) :
    ComesTo config mapPath capturePath map? capture?
      (outcome config mapPath capturePath map? capture?) := by
  unfold outcome
  cases hvalid : config.validate with
  | error reason => exact .invalid hvalid
  | ok =>
      -- what stands at the path of the link map: nothing, a directory, a file
      rcases map? with - | - | bytes
      · exact .mapMissing hvalid
      · exact .mapDirectory hvalid
      · rcases capture? with - | - | contents
        · exact .captureMissing hvalid
        · exact .captureDirectory hvalid
        · cases hdecode : Utf8.decode? contents with
          | none =>
              rw [Capture.ofStanding, textOf, hdecode]
              exact .illEncoded hvalid hdecode
          | some text =>
              rw [Capture.ofStanding_file hdecode]
              cases hjson : Capture.ofJson (String.ofList text) with
              | error e =>
                  have hnone := Capture.exists_ofJson_eq_error_iff.1
                    ⟨e, hjson⟩
                  exact .noCapture hvalid hdecode hnone hjson
              | ok capture =>
                  exact .assembled hvalid hdecode
                    (Capture.ofJson_eq_ok_iff_spelledBy.1 hjson)

/-- The rules exclude one another, so that what a run comes to tells which
of them it was. -/
theorem ComesTo.settled {result : Except Error Output}
    (h : ComesTo config mapPath capturePath map? capture? result) :
    Settled config mapPath capturePath map? capture? result := by
  cases h with
  | invalid hinvalid => constructor <;> simp [hinvalid]
  | mapMissing hvalid => constructor <;> simp [hvalid, eq_comm]
  | mapDirectory hvalid => constructor <;> simp [hvalid, eq_comm]
  | captureMissing hvalid => constructor <;> simp [hvalid, eq_comm]
  | captureDirectory hvalid => constructor <;> simp [hvalid, eq_comm]
  | illEncoded hvalid hdecode =>
      constructor <;> simp [hvalid, hdecode, eq_comm]
  | noCapture hvalid hdecode hnone hjson =>
      constructor <;> simp [hvalid, hdecode, hnone, hjson, eq_comm]
  | assembled hvalid hdecode hspelled =>
      -- a text spells one capture at most, the one that is read of it
      have hjson := Capture.ofJson_eq_ok_iff_spelledBy.2 hspelled
      constructor <;> simp [hvalid, hdecode, hjson, eq_comm,
        ← Capture.ofJson_eq_ok_iff_spelledBy]

/-- In memory there is nothing but the configuration to be wrong. -/
theorem runInMemory_eq_error_iff {linkMap : String} {capture : Capture}
    {e : Error} :
    runInMemory config linkMap capture = .error e
      ↔ ∃ reason, config.validate = .error reason
        ∧ e = .config (.invalid reason) := by
  unfold runInMemory
  cases config.validate with
  | error reason =>
      constructor
      · intro h
        cases h
        exact ⟨reason, rfl, rfl⟩
      · intro h
        obtain ⟨_, heq, rfl⟩ := h
        cases heq
        rfl
  | ok =>
      constructor
      · intro h
        cases h
      · intro h
        obtain ⟨_, heq, -⟩ := h
        cases heq

/-- For every configuration, all surroundings, and any two paths to which
the records of the run do not go: a run fails because of the configuration
exactly if that is not valid; otherwise because of the link map exactly if
that is missing or a directory; otherwise because of the capture exactly
if that is missing, a directory, ill encoded or a text that spells no
capture; and otherwise it does not fail. In memory it fails exactly if the
configuration is not valid. -/
theorem settled_run (config : Config) {sink : Log.Sink} {s : Surroundings}
    (hmap : sink.Avoids s.files mapPath)
    (hcapture : sink.Avoids s.files capturePath) :
    Settled config mapPath capturePath (s.files.stands? mapPath)
        (s.files.stands? capturePath)
        ((run sink config mapPath capturePath
          : ExceptT Error Simulation Output).run s).1
      ∧ ∀ linkMap capture e, runInMemory config linkMap capture = .error e
        ↔ ∃ reason, config.validate = .error reason
          ∧ e = .config (.invalid reason) := by
  have hrun := Simulation.yields_run_outcome config hmap hcapture
  refine ⟨?_, fun linkMap capture e => runInMemory_eq_error_iff⟩
  rw [hrun.1]
  exact (comesTo_outcome config mapPath capturePath _ _).settled

end

/-- A link map and a capture of one byte each, which starts no character,
and room for a log. -/
def strayByteSurroundings : Surroundings where
  files :=
    { nodes :=
        [(["map"], .file [0xff]), (["capture"], .file [0xff])]
      workingDirectory := [] }

/-- The stray byte is no error in the link map and one in the capture,
while all records are written to a file. -/
theorem settled_run_strayByte :
    let sink : Log.Sink := .file "/log" (.upTo .trace)
    let files := strayByteSurroundings.files
    sink.Avoids files "/map" ∧ sink.Avoids files "/capture"
      ∧ files.stands? "/map" = some (.file [0xff])
      ∧ ((run sink {} "/map" "/capture"
          : ExceptT Error Simulation Output).run
            strayByteSurroundings).1
        = .error (.capture (.io .notText)) := by
  intro sink files
  have htarget : files.target "/log" = .ok ["log"] := rfl
  have havoids : ∀ path place, files.destination path = .ok place →
      place ≠ ["log"] → sink.Avoids files path := by
    intro path place hdestination hne log hlog
    rw [htarget, Except.ok.injEq] at hlog
    rw [hdestination, ← hlog]
    simpa using hne
  have hmap : sink.Avoids files "/map" :=
    havoids _ ["map"] rfl (by decide)
  have hcapture : sink.Avoids files "/capture" :=
    havoids _ ["capture"] rfl (by decide)
  have hmapThere : files.stands? "/map" = some (.file [0xff]) := by
    decide +kernel
  have hthere : files.stands? "/capture" = some (.file [0xff]) := by
    decide +kernel
  have hvalid : ({} : Config).validate = .ok () := rfl
  have hdecode : Utf8.decode? [0xff] = none := by decide +kernel
  obtain ⟨hsettled, -⟩ := settled_run {} hmap hcapture
  refine ⟨hmap, hcapture, hmapThere, ?_⟩
  exact (hsettled.captureIo hvalid _ hmapThere _).2
    (.inr ⟨_, hthere, hdecode, rfl⟩)

end LinkOrder.Pipeline
