import EntitySchema.CommandLine.Run
import EntitySchema.Json.Value
import EntitySchema.Proofs.CommandLine.Directory

/-!
# Proofs/CommandLine/Runs — what a command comes to in a directory

Before anything is written, a command only reads; so what it finds out, and what it tells the log, is
a function of the directory (`Directory.registry`, `Directory.config`, `Directory.making`), and the
directory is still the same when the schema is handed over.  `run_generate` and `run_check` give both
commands in these terms, and `run_deliver` the one step that may write.
-/

namespace EntitySchema

/-! ## What is read -/

/-- What a generation comes to before the text is handed over. -/
structure Making where
  told : List LogEvent
  result : Except Failure String

namespace Directory

/-- The registry that is found at a path. -/
def registry (d : Directory) (path : String) : Except Failure Registry :=
  match d.read path with
  | .error e => .error (.registryUnreadable path e)
  | .ok text => (Registry.read text).mapError (.registryInvalid path)

/-- The path of the configuration in effect. -/
def configPath (d : Directory) (asked : Option String) (path : String) : Option String :=
  match asked with
  | some p => some p
  | none =>
    let p := Path.sibling path configFileName
    if d.present p then some p else none

/-- What is told of the configuration in effect. -/
def configEvent (d : Directory) (asked : Option String) (path : String) : LogEvent :=
  match d.configPath asked path with
  | none => .unconfigured
  | some p => .loadingConfig p

/-- The configuration in effect. -/
def config (d : Directory) (asked : Option String) (path : String) : Except Failure Config :=
  match d.configPath asked path with
  | none => .ok {}
  | some p =>
    match d.read p with
    | .error e => .error (.configUnreadable p e)
    | .ok text => (Config.read text).mapError (.configInvalid p)

/-- The schema that is made of what is found. -/
def making (d : Directory) (asked : Option String) (path : String) (strict : Bool)
    (expose : List String) : Making :=
  match d.registry path with
  | .error f => ⟨[], .error f⟩
  | .ok r =>
    let told := r.log ++ [d.configEvent asked path]
    match d.config asked path with
    | .error f => ⟨told, .error f⟩
    | .ok c =>
      let q := schemaRequest r c strict expose
      match q.generate with
      | .error issues => ⟨told ++ q.log, .error (.inconsistent issues)⟩
      | .ok text => ⟨told ++ q.log ++ [.generated r.size text.utf8ByteSize], .ok text⟩

/-- Why there is no registry: its file cannot be read, or its text cannot. -/
theorem registry_eq_error {d : Directory} {path : String} {f : Failure}
    (h : d.registry path = .error f) :
    (∃ e, f = .registryUnreadable path e) ∨ ∃ e, f = .registryInvalid path e := by
  rw [registry] at h
  split at h
  · exact Or.inl ⟨_, (Except.error.inj h).symm⟩
  · next text ht =>
    cases hr : Registry.read text with
    | error e =>
      rw [hr] at h
      exact Or.inr ⟨e, (Except.error.inj h).symm⟩
    | ok r =>
      rw [hr] at h
      cases h

/-- What is made of a registry and a configuration that can be read. -/
theorem result_making {d : Directory} {asked : Option String} {path : String} {r : Registry}
    {c : Config} (hr : d.registry path = .ok r) (hc : d.config asked path = .ok c) (strict : Bool)
    (expose : List String) : (d.making asked path strict expose).result
      = (schemaRequest r c strict expose).generate.mapError .inconsistent := by
  rw [making, hr, hc]
  dsimp only
  cases (schemaRequest r c strict expose).generate with
  | error issues => rfl
  | ok text => rfl

end Directory

/-- What comes behind a step goes on from where the step has led. -/
theorem run_bind_of_run {σ α β : Type} {x : StateM σ α} {f : α → StateM σ β} {s s' : σ} {a : α}
    (h : x.run s = (a, s')) : (x >>= f).run s = (f a).run s' := by
  rw [StateT.run_bind, h]
  rfl

variable (d : Directory) (asked : Option String) (path : String)

theorem run_read : (Directory.access.read path).run d = (d.read path, d) := rfl

theorem run_loadRegistry : (loadRegistry Directory.access path).run d = (d.registry path, d) := by
  rw [loadRegistry, run_bind_of_run (run_read d path), Directory.registry]
  cases d.read path with
  | error e => rfl
  | ok text => rfl

theorem run_configPath :
    (configPath Directory.access asked path).run d = (d.configPath asked path, d) := by
  cases asked with
  | some p => rfl
  | none => rfl

theorem run_loadConfig : (loadConfig Directory.access asked path).run d
    = ((d.configEvent asked path, d.config asked path), d) := by
  rw [loadConfig, run_bind_of_run (run_configPath d asked path), Directory.configEvent,
    Directory.config]
  cases d.configPath asked path with
  | none => rfl
  | some p =>
    dsimp only
    rw [run_bind_of_run (run_read d p)]
    cases d.read p with
    | error e => rfl
    | ok text => rfl

/-! ## Commands -/

/-- The issues that both commands look at. -/
def Registry.issues (r : Registry) (expose : List String) : List Issue :=
  ({ registry := r, exposed := exposure expose } : Request).issues

/-- **A check reads a registry and leaves the directory as it is.** -/
theorem run_check (expose : List String) : (check Directory.access path expose).run d
    = (match d.registry path with
        | .error f => f.outcome ""
        | .ok r => (verdict (r.issues expose)).after r.log, d) := by
  rw [check, run_bind_of_run (run_loadRegistry d path)]
  cases d.registry path with
  | error f => rfl
  | ok r => rfl

/-- Writing puts the text under the key that the path stands for. -/
theorem run_write (p text : String) : (Directory.access.write p text).run d
    = match d.writableKey p with
      | .error e => (.error e, d)
      | .ok key => (.ok (), d.insert key text.toUTF8) := by
  simp only [Directory.access, StateT.run_bind, StateT.run_get, pure_bind, Directory.write]
  cases d.writableKey p with
  | error e => rfl
  | ok key => rfl

/-- Handing over: what is printed, or else the key that the path stands for takes the text. -/
theorem run_deliver (output : Option String) (text : String) :
    (deliver Directory.access output text).run d
      = match output with
        | none => ({ exit := 0, stdout := text }, d)
        | some p =>
          match d.writableKey p with
          | .error e => ((Failure.unwritable p e).outcome "", d)
          | .ok key =>
            ({ exit := 0, status := successLine ("Wrote " ++ p) }, d.insert key text.toUTF8) := by
  cases output with
  | none => rfl
  | some p =>
    have hwrite := run_write d p text
    dsimp only [deliver]
    cases h : d.writableKey p with
    | error e =>
      rw [h] at hwrite
      rw [run_bind_of_run hwrite]
      rfl
    | ok key =>
      rw [h] at hwrite
      rw [run_bind_of_run hwrite]
      rfl

/-- Handing over tells the log nothing. -/
theorem log_run_deliver (output : Option String) (text : String) :
    ((deliver Directory.access output text).run d).1.log = [] := by
  rw [run_deliver]
  cases output with
  | none => rfl
  | some p =>
    dsimp only
    cases d.writableKey p with
    | error e => rfl
    | ok key => rfl

theorem Outcome.after_of_log_eq_nil {o : Outcome} (h : o.log = []) (told : List LogEvent) :
    o.after told = { o with log := told } := by
  rw [Outcome.after, h, List.append_nil]

/-- **A generation makes the schema of what it reads, and then hands it over**; what it tells the log
it tells before. -/
theorem run_generate (output : Option String) (strict : Bool) (expose : List String) :
    (generate Directory.access asked path output strict expose).run d
      = match (d.making asked path strict expose).result with
        | .error f => ({ f.outcome "" with log := (d.making asked path strict expose).told }, d)
        | .ok text => ((deliver Directory.access output text).run d).map
            ({ · with log := (d.making asked path strict expose).told }) id := by
  rw [generate, run_bind_of_run (run_loadRegistry d path), Directory.making]
  cases d.registry path with
  | error f => rfl
  | ok r =>
    dsimp only
    rw [run_bind_of_run (run_loadConfig d asked path)]
    cases d.config asked path with
    | error f => exact congrArg (·, d) (Outcome.after_of_log_eq_nil rfl _)
    | ok c =>
      dsimp only
      cases (schemaRequest r c strict expose).generate with
      | error issues => exact congrArg (·, d) (Outcome.after_of_log_eq_nil rfl _)
      | ok text =>
        exact congrArg (·, ((deliver Directory.access output text).run d).2)
          (Outcome.after_of_log_eq_nil (log_run_deliver d output text) _)

/-- **What is performed is the command, with those events that are shown.** -/
theorem run_perform (environment : Environment) (i : Arguments.Invocation) :
    (perform Directory.access environment i).run d
      = ((match i.action with
          | .generate registry output strict expose =>
            generate Directory.access i.config registry output strict expose
          | .check registry expose => check Directory.access registry expose).run d).map
        (Outcome.showing · (LogEvent.isShown environment.filter i.verbose)) id := by
  obtain ⟨action, config, verbose⟩ := i
  cases action with
  | generate registry output strict expose => rfl
  | check registry expose => rfl

/-- Words that read as an invocation have it performed. -/
theorem runIn_of_read {environment : Environment} {words : List String} {i : Arguments.Invocation}
    (h : Arguments.read environment.config words = .ok i) :
    runIn d environment words = (perform Directory.access environment i).run d := by
  rw [runIn, run, h]

/-! ## A directory -/

/-- The text of a registry with one entity. -/
def noteText (members : List (String × Json.Value)) : String :=
  (Json.Value.object [("models", .object [("note", .object members)])]).text

/-- A directory with two registries: in the first a note has no key, in the second it has one.  The
file above it is no text. -/
def noteFolder : Directory where
  home := ["srv", "notes"]
  files := .ofList [
    ("srv/broken.json", ⟨#[0xff]⟩),
    ("srv/notes/keyless.json", (noteText []).toUTF8),
    ("srv/notes/note.json", (noteText [("attributes", .object [
      ("id", .object [("type", .string "ID"), ("primaryKey", .bool true)])])]).toUTF8)]

end EntitySchema
