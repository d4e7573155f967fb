/-
Runs that tell of what they do. Records are sent all along a run, and a
sink that goes to a file changes the files by it; what matters is that the
inputs stay what they are and that nothing is printed among the answers
(`Told`). A step yields a value if that is its result and if all it did to
the surroundings was to tell (`Yields`); steps that yield compose, and so
the inputs of a run may be read off the surroundings before it, those that
are not there included (`yields_loadLinkMap_ofStanding`,
`yields_loadCapture_ofStanding`).
-/
import LinkOrder.Inputs
import LinkOrder.Proofs.Storage.Frame
import LinkOrder.Storage.Surroundings

namespace LinkOrder

open Storage (FileSystem Node)

-- ===================================================== what inputs are

/-- What is read as a text where something stands. -/
def textOf : Node → Except Storage.Failure String
  | .directory => .error .isDirectory
  | .file contents =>
      match Utf8.decode? contents with
      | some text => .ok (String.ofList text)
      | none => .error .notText

/-- The scan of a link map, by what stands at its path. -/
def LinkMap.ofStanding (rule : Eligibility) (path : String) :
    Option Node → Except Error Scan
  | none => .error (.notFound path)
  | some .directory => .error (.io .isDirectory)
  | some (.file bytes) => .ok (scanBytes rule bytes)

/-- A capture, by what stands at its path. -/
def Capture.ofStanding (path : String) :
    Option Node → Except Error Capture
  | none => .error (.notFound path)
  | some node => do
      let text ← (textOf node).mapError .io
      (ofJson text).mapError .parse

/-- Of a text all depends on what it says. -/
theorem Capture.ofStanding_file {path : String} {contents : List UInt8}
    {text : List Char} (htext : Utf8.decode? contents = some text) :
    ofStanding path (some (.file contents))
      = (ofJson (String.ofList text)).mapError .parse := by
  have hread : textOf (.file contents) = .ok (String.ofList text) := by
    rw [textOf, htext]
  rw [ofStanding, hread]
  rfl

/-- A configuration, by what stands at its path. -/
def Config.ofStanding (path : String) : Option Node → Except Error Config
  | none => .error (.notFound path)
  | some node => do
      let text ← (textOf node).mapError .io
      ofText text

/-- What stands there has to be a file with a text that holds a valid
configuration. -/
theorem Config.ofStanding_eq_ok_iff {path : String} {node? : Option Node}
    {config : Config} :
    ofStanding path node? = .ok config
      ↔ ∃ contents text, node? = some (.file contents)
        ∧ Utf8.decode? contents = some text
        ∧ ofText (String.ofList text) = .ok config := by
  constructor
  · intro h
    cases node? with
    | none => cases h
    | some node =>
        cases node with
        | directory => cases h
        | file contents =>
            rw [ofStanding, textOf] at h
            cases htext : Utf8.decode? contents with
            | none =>
                rw [htext] at h
                cases h
            | some text =>
                rw [htext] at h
                exact ⟨contents, text, rfl, htext, h⟩
  · rintro ⟨contents, text, rfl, htext, hconfig⟩
    rw [ofStanding, textOf, htext]
    exact hconfig

namespace Log.Sink

/-- Records do not go to the file at the path. -/
def Spares (sink : Sink) (files : FileSystem) (path : String) : Prop :=
  match sink with
  | file log _ =>
      ∀ place, files.target log = .ok place →
        ∀ node, files.locate path ≠ .ok (place, node)
  | _ => True

/-- The file at the path has the contents, and records leave it alone. -/
structure Keeps (sink : Sink) (files : FileSystem) (path : String)
    (contents : List UInt8) : Prop where
  read : files.read path = .ok contents
  spares : sink.Spares files path

/-- Records do not go to the place to which the path leads, whether or not
anything stands there. -/
def Avoids (sink : Sink) (files : FileSystem) (path : String) : Prop :=
  match sink with
  | file log _ =>
      ∀ place, files.target log = .ok place →
        files.destination path ≠ .ok place
  | _ => True

/-- Records go to no file at all. -/
def Fileless (sink : Sink) : Prop :=
  match sink with
  | file _ _ => False
  | _ => True

/-- Records that go to no file are no file's concern. -/
theorem Fileless.avoids {sink : Sink} (h : sink.Fileless)
    (files : FileSystem) (path : String) : sink.Avoids files path := by
  cases sink with
  | file => exact h.elim
  | _ => trivial

/-- To leave a file alone is to avoid it. -/
theorem keeps_iff {sink : Sink} {files : FileSystem} {path : String}
    {contents : List UInt8} :
    sink.Keeps files path contents
      ↔ files.stands? path = some (.file contents)
        ∧ sink.Avoids files path := by
  constructor
  · intro h
    have hstands := FileSystem.read_eq_ok_iff.1 h.read
    refine ⟨hstands, ?_⟩
    cases sink with
    | file log threshold =>
        -- a path ends at one place only
        intro place htarget hdestination
        obtain ⟨found, hlocate⟩ := FileSystem.stands?_eq_some_iff.1 hstands
        have hfound := (FileSystem.locate_eq_ok_iff.1 hlocate).1
        rw [hdestination, Except.ok.injEq] at hfound
        rw [← hfound] at hlocate
        exact h.spares place htarget _ hlocate
    | _ => trivial
  · intro h
    obtain ⟨hstands, havoids⟩ := h
    refine ⟨FileSystem.read_eq_ok_iff.2 hstands, ?_⟩
    cases sink with
    | file log threshold =>
        intro place htarget node hlocate
        exact havoids place htarget
          (FileSystem.locate_eq_ok_iff.1 hlocate).1
    | _ => trivial

/-- Adding a record to its file leaves alone what stands elsewhere, and
what does not. -/
theorem Avoids.append {log : String} {threshold : Threshold}
    {files : FileSystem} {path : String}
    (h : (file log threshold).Avoids files path) (added : List UInt8) :
    (file log threshold).Avoids (files.append log added).2 path
      ∧ (files.append log added).2.stands? path = files.stands? path := by
  rcases FileSystem.append_files files log added with
    heq | ⟨last, written, htarget, heq⟩
  · rw [heq]
    exact ⟨h, rfl⟩
  · have hnode := FileSystem.node?_target_ne_directory htarget
    have hne := h last htarget
    rw [heq]
    refine ⟨fun place htarget' => ?_, FileSystem.stands?_put hnode hne⟩
    rw [FileSystem.target_put hnode htarget] at htarget'
    cases htarget'
    exact mt (FileSystem.destination_put_iff hnode).1 hne

end Log.Sink

namespace Simulation

-- ====================================================== surroundings

/-- What is there after records were sent, any number of them: nothing was
answered, and where records do not go stands what stood there. -/
structure Told (sink : Log.Sink) (s t : Surroundings) : Prop where
  output : t.output = s.output
  files : sink.Fileless → t.files = s.files
  stands : ∀ path, sink.Avoids s.files path →
    sink.Avoids t.files path
      ∧ t.files.stands? path = s.files.stands? path

theorem Told.refl (sink : Log.Sink) (s : Surroundings) : Told sink s s :=
  ⟨rfl, fun _ => rfl, fun _ h => ⟨h, rfl⟩⟩

theorem Told.trans {sink : Log.Sink} {s t u : Surroundings}
    (hst : Told sink s t) (htu : Told sink t u) : Told sink s u := by
  refine ⟨htu.output.trans hst.output,
    fun h => (htu.files h).trans (hst.files h), fun path h => ?_⟩
  obtain ⟨havoids, hstands⟩ := hst.stands path h
  obtain ⟨havoids', hstands'⟩ := htu.stands path havoids
  exact ⟨havoids', hstands'.trans hstands⟩

/-- Files that records leave alone are as they were. -/
theorem Told.keeps {sink : Log.Sink} {s t : Surroundings}
    (h : Told sink s t) (path : String) (contents : List UInt8)
    (hkeeps : sink.Keeps s.files path contents) :
    sink.Keeps t.files path contents := by
  rw [Log.Sink.keeps_iff] at hkeeps ⊢
  obtain ⟨hstands, havoids⟩ := hkeeps
  obtain ⟨havoids', hstands'⟩ := h.stands path havoids
  exact ⟨hstands'.trans hstands, havoids'⟩

/-- Where records go to a file, the file is added to and nothing else is
done. -/
theorem told_append (log : String) (threshold : Log.Threshold)
    (added : List UInt8) (s : Surroundings) :
    Told (.file log threshold) s
      { s with files := (s.files.append log added).2 } :=
  ⟨rfl, False.elim, fun _ h => h.append added⟩

/-- Complaints are no answers. -/
theorem told_complain (sink : Log.Sink) (s : Surroundings)
    (complaints : String) :
    Told sink s { s with complaints := complaints } :=
  ⟨rfl, fun _ => rfl, fun _ h => ⟨h, rfl⟩⟩

-- ============================================================== steps

/-- A step has a result, and did nothing but tell. -/
def Yields {α : Type} (sink : Log.Sink) (step : Simulation α)
    (s : Surroundings) (a : α) : Prop :=
  (step s).1 = a ∧ Told sink s (step s).2

section
variable {α β ε δ : Type} {sink : Log.Sink} {s : Surroundings}

theorem yields_pure (sink : Log.Sink) (s : Surroundings) (a : α) :
    Yields sink (pure a) s a :=
  ⟨rfl, .refl sink s⟩

/-- Steps one after the other; the second may rely on no more than that
the first did nothing but tell. -/
theorem Yields.bind {step : Simulation α} {next : α → Simulation β}
    {a : α} {b : β} (hstep : Yields sink step s a)
    (hnext : ∀ t, Told sink s t → Yields sink (next a) t b) :
    Yields sink (step >>= next) s b := by
  obtain ⟨rfl, htold⟩ := hstep
  have hlast := hnext _ htold
  exact ⟨hlast.1, htold.trans hlast.2⟩

/-- The same for steps that may be refused: what follows one that is does
not happen. -/
theorem Yields.bindRun {step : ExceptT ε Simulation α}
    {next : α → ExceptT ε Simulation β} {answer : Except ε α}
    {result : α → Except ε β} (hstep : Yields sink step.run s answer)
    (hnext : ∀ a, answer = .ok a → ∀ t, Told sink s t →
      Yields sink (next a).run t (result a)) :
    Yields sink (step >>= next).run s (answer >>= result) := by
  have hrun : (step >>= next).run
      = step.run >>= ExceptT.bindCont next := rfl
  rw [hrun]
  refine hstep.bind fun t ht => ?_
  cases answer with
  | error e => exact yields_pure sink t _
  | ok a => exact hnext a rfl t ht

/-- The same for steps that are not refused. -/
theorem Yields.bindOk {step : ExceptT ε Simulation α}
    {next : α → ExceptT ε Simulation β} {a : α} {b : Except ε β}
    (hstep : Yields sink step.run s (.ok a))
    (hnext : ∀ t, Told sink s t → Yields sink (next a).run t b) :
    Yields sink (step >>= next).run s b := by
  refine @Yields.bindRun _ _ _ _ _ _ _ _ (fun _ => b) hstep fun a' ha => ?_
  cases ha
  exact hnext

/-- For steps whose result is passed on by what follows. -/
theorem Yields.bindKeep {step : ExceptT ε Simulation α}
    {next : α → ExceptT ε Simulation α} {answer : Except ε α}
    (hstep : Yields sink step.run s answer)
    (hnext : ∀ a t, Told sink s t → Yields sink (next a).run t (.ok a)) :
    Yields sink (step >>= next).run s answer := by
  have hkeep : answer >>= Except.ok = answer := by
    cases answer <;> rfl
  rw [← hkeep]
  exact hstep.bindRun fun a _ t ht => hnext a t ht

/-- And for steps that are refused. -/
theorem Yields.bindError {step : ExceptT ε Simulation α}
    {next : α → ExceptT ε Simulation β} {e : ε}
    (hstep : Yields sink step.run s (.error e)) :
    Yields sink (step >>= next).run s (.error e) := by
  refine @Yields.bindRun _ _ _ _ _ _ _ _ (fun _ => .error e) hstep
    fun a ha => ?_
  cases ha

theorem yields_throw (sink : Log.Sink) (s : Surroundings) (e : ε) :
    Yields sink (throw e : ExceptT ε Simulation α).run s (.error e) :=
  yields_pure sink s _

theorem yields_pureOk (sink : Log.Sink) (s : Surroundings) (a : α) :
    Yields sink (pure a : ExceptT ε Simulation α).run s (.ok a) :=
  yields_pure sink s _

theorem Yields.perform {step : Simulation α} {a : α}
    (h : Yields sink step s a) :
    Yields sink (perform step : ExceptT ε Simulation α).run s (.ok a) := by
  obtain ⟨rfl, htold⟩ := h
  exact ⟨rfl, htold⟩

theorem Yields.attempt {tell : ε → δ} {step : Simulation (Except ε α)}
    {answer : Except ε α} (h : Yields sink step s answer) :
    Yields sink (attempt tell step).run s (answer.mapError tell) := by
  refine h.bind fun t _ => ?_
  exact yields_pure sink t _

-- ============================================================ records

/-- To send a record is to tell it. -/
theorem yields_send (sink : Log.Sink) (record : Log.Record)
    (s : Surroundings) : Yields sink (sink.send record) s () := by
  refine ⟨rfl, ?_⟩
  unfold Log.Sink.send
  cases sink with
  | nowhere => exact .refl _ s
  | terminal threshold coloured =>
      dsimp only
      split
      · exact told_complain _ s _
      · exact .refl _ s
  | directed directives coloured =>
      dsimp only
      split
      · exact told_complain _ s _
      · exact .refl _ s
  | file log threshold =>
      dsimp only
      split
      · exact told_append log threshold _ s
      · exact .refl _ s

theorem yields_sendAll (sink : Log.Sink) (records : List Log.Record)
    (s : Surroundings) : Yields sink (sink.sendAll records) s () := by
  induction records generalizing s with
  | nil => exact yields_pure sink s ()
  | cons record rest ih =>
      exact (yields_send sink record s).bind fun t _ => ih t

/-- Timing adds records, and no more. -/
theorem Yields.timed {name : String} {action : Simulation α} {a : α}
    (h : ∀ t, Told sink s t → Yields sink action t a) :
    Yields sink (sink.timed name action) s a := by
  unfold Log.Sink.timed
  refine (yields_send sink _ s).bind fun t ht => ?_
  refine Yields.bind (a := t.moment) ⟨rfl, .refl sink t⟩ fun u hu => ?_
  refine (h u (ht.trans hu)).bind fun v _ => ?_
  refine Yields.bind (a := v.moment) ⟨rfl, .refl sink v⟩ fun w _ => ?_
  refine (yields_send sink _ w).bind fun x _ => ?_
  exact yields_pure sink x a

-- ============================================================= inputs

variable {path : String} {contents : List UInt8}

theorem yields_occupied (sink : Log.Sink) (s : Surroundings)
    (path : String) :
    Yields sink (Host.occupied path) s (s.files.stands? path).isSome :=
  ⟨FileSystem.isSome_kind? s.files path, .refl sink s⟩

theorem yields_read {node : Node} (h : s.files.stands? path = some node) :
    Yields sink (Host.read path) s (FileSystem.contentsOf node) :=
  ⟨FileSystem.read_of_stands? h, .refl sink s⟩

theorem yields_readText {node : Node}
    (h : s.files.stands? path = some node) :
    Yields sink (Host.readText path).run s (textOf node) := by
  unfold Host.readText
  cases node with
  | directory => exact Yields.bindError (yields_read h)
  | file contents =>
      refine Yields.bindOk (yields_read h) fun t _ => ?_
      rw [textOf]
      cases Utf8.decode? contents with
      | none => exact yields_throw sink t _
      | some text => exact yields_pureOk sink t _

/-- A link map is scanned if it is a file, whatever its bytes. -/
theorem yields_loadLinkMap_ofStanding (rule : Eligibility)
    (h : sink.Avoids s.files path) :
    Yields sink (LinkMap.load sink rule path).run s
      (LinkMap.ofStanding rule path (s.files.stands? path)) := by
  unfold LinkMap.load
  refine (yields_occupied sink s path).perform.bindOk fun t ht => ?_
  cases hnode : s.files.stands? path with
  | none => exact (yields_throw sink t _).bindError
  | some node =>
      refine (yields_send sink _ t).perform.bindOk fun u hu => ?_
      have hstands := ((ht.trans hu).stands path h).2.trans hnode
      have hread : Yields sink (Host.read path) u
          (FileSystem.contentsOf node) := yields_read hstands
      cases node with
      | directory => exact hread.attempt.bindError
      | file bytes =>
          refine hread.attempt.bindOk fun v _ => ?_
          refine (yields_sendAll sink _ v).perform.bindOk fun w _ => ?_
          exact yields_pureOk sink w _

/-- A link map that is there is scanned. -/
theorem yields_loadLinkMap (rule : Eligibility)
    (h : sink.Keeps s.files path contents) :
    Yields sink (LinkMap.load sink rule path).run s
      (.ok (LinkMap.scanBytes rule contents)) := by
  obtain ⟨hstands, havoids⟩ := Log.Sink.keeps_iff.1 h
  have hload := yields_loadLinkMap_ofStanding rule havoids
  rw [hstands] at hload
  exact hload

/-- A capture is read if it is a file that can be decoded and has the right
form. -/
theorem yields_loadCapture_ofStanding (h : sink.Avoids s.files path) :
    Yields sink (Capture.load sink path).run s
      (Capture.ofStanding path (s.files.stands? path)) := by
  unfold Capture.load
  refine (yields_occupied sink s path).perform.bindOk fun t ht => ?_
  cases hnode : s.files.stands? path with
  | none => exact (yields_throw sink t _).bindError
  | some node =>
      have hstands := (ht.stands path h).2.trans hnode
      refine (yields_readText hstands).attempt.bindRun fun text _ u _ => ?_
      refine (yields_pure sink u _).attempt.bindKeep fun capture v _ => ?_
      refine (yields_send sink _ v).perform.bindOk fun w _ => ?_
      exact yields_pureOk sink w _

/-- A capture that is there and can be decoded is read. -/
theorem yields_loadCapture (h : sink.Keeps s.files path contents)
    {text : List Char} (htext : Utf8.decode? contents = some text)
    {capture : Capture}
    (hcapture : Capture.ofJson (String.ofList text) = .ok capture) :
    Yields sink (Capture.load sink path).run s (.ok capture) := by
  obtain ⟨hstands, havoids⟩ := Log.Sink.keeps_iff.1 h
  have hload := yields_loadCapture_ofStanding havoids
  rw [hstands, Capture.ofStanding_file htext, hcapture] at hload
  exact hload

/-- A configuration is had if what stands there holds a valid one. Nothing
is told of it. -/
theorem yields_loadConfig (h : sink.Avoids s.files path) :
    Yields sink (Config.load path).run s
      (Config.ofStanding path (s.files.stands? path)) := by
  unfold Config.load
  refine (yields_occupied sink s path).perform.bindOk fun t ht => ?_
  cases hnode : s.files.stands? path with
  | none => exact (yields_throw sink t _).bindError
  | some node =>
      have hstands := (ht.stands path h).2.trans hnode
      refine (yields_readText hstands).attempt.bindRun fun text _ u _ => ?_
      exact yields_pure sink u _

/-- A configuration is had from a file with a text that holds a valid
one. -/
theorem loadConfig_eq_ok_iff {config : Config} :
    ((Config.load path : ExceptT Config.Error Simulation Config).run s).1
        = .ok config
      ↔ ∃ contents text, s.files.read path = .ok contents
        ∧ Utf8.decode? contents = some text
        ∧ Config.ofText (String.ofList text) = .ok config := by
  have hload : Yields .nowhere (Config.load path).run s _ :=
    yields_loadConfig trivial
  rw [hload.1, Config.ofStanding_eq_ok_iff]
  simp only [FileSystem.read_eq_ok_iff]

end

end Simulation

end LinkOrder
