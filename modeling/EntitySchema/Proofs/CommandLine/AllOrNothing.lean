import EntitySchema.Proofs.CommandLine.Runs

/-!
# Proofs/CommandLine/AllOrNothing — a command does all of its work or none

A generation fails before it hands anything over, or because the one file that it writes cannot be
opened; so a failure leaves every file alone and prints no text.  Where it succeeds, the text was
made of the directory as it was found: the output, be it the registry itself, takes what would have
been printed, and no other file changes.  A check writes nothing, and sees nothing but the registry.
Verbosity and the environment have a say in the log, which stands apart from what is printed and from
the line that says how a command went.
-/

namespace EntitySchema

variable {d : Directory} {environment : Environment} {registry : String}
  {asked output : Option String} {strict verbose : Bool} {expose : List String}

/-! ## Handing over -/

/-- A text that is not taken leaves all files as they are. -/
theorem run_deliver_fails {text : String}
    (h : ((deliver Directory.access output text).run d).1.exit ≠ 0) :
    ∃ f : Failure, (deliver Directory.access output text).run d = (f.outcome "", d) := by
  rw [run_deliver] at h ⊢
  cases output with
  | none => exact absurd rfl h
  | some p =>
    dsimp only at h ⊢
    cases hk : d.writableKey p with
    | error e => exact ⟨.unwritable p e, rfl⟩
    | ok key =>
      rw [hk] at h
      exact absurd rfl h

/-- **A text that goes to a file is the content of that file, and of no other.** -/
theorem run_deliver_file {text p : String}
    (h : ((deliver Directory.access (some p) text).run d).1.exit = 0) :
    ∃ key, d.writableKey p = .ok key ∧ (deliver Directory.access (some p) text).run d
      = ({ exit := 0, status := successLine ("Wrote " ++ p) }, d.insert key text.toUTF8) := by
  rw [run_deliver] at h ⊢
  dsimp only at h ⊢
  cases hk : d.writableKey p with
  | error e =>
    rw [hk] at h
    exact absurd h Nat.one_ne_zero
  | ok key => exact ⟨key, rfl, rfl⟩

/-! ## Commands -/

/-- **A generation that fails leaves all files as they are and prints nothing.** -/
theorem perform_generate_fails (h : ((perform Directory.access environment
      ⟨.generate registry output strict expose, asked, verbose⟩).run d).1.exit ≠ 0) :
    ∃ (f : Failure) (told : List LogEvent), (perform Directory.access environment
      ⟨.generate registry output strict expose, asked, verbose⟩).run d
        = ({ f.outcome "" with log := told }, d) := by
  rw [run_perform] at h ⊢
  dsimp only at h ⊢
  rw [run_generate] at h ⊢
  cases hs : (d.making asked registry strict expose).result with
  | error f => exact ⟨f, _, rfl⟩
  | ok text =>
    rw [hs] at h
    obtain ⟨f, hf⟩ := run_deliver_fails h
    dsimp only
    rw [hf]
    exact ⟨f, _, rfl⟩

/-- A generation that succeeds hands over the text that it prints if no output is asked for. -/
theorem perform_generate_succeeds (h : ((perform Directory.access environment
      ⟨.generate registry output strict expose, asked, verbose⟩).run d).1.exit = 0) :
    ∃ (text : String) (told : List LogEvent),
      (perform Directory.access environment
        ⟨.generate registry none strict expose, asked, verbose⟩).run d
          = ({ exit := 0, stdout := text, log := told }, d) ∧
      ((deliver Directory.access output text).run d).1.exit = 0 ∧
      (perform Directory.access environment
        ⟨.generate registry output strict expose, asked, verbose⟩).run d
          = ((deliver Directory.access output text).run d).map ({ · with log := told }) id := by
  rw [run_perform] at h
  rw [run_perform, run_perform]
  dsimp only at h ⊢
  rw [run_generate] at h
  rw [run_generate, run_generate]
  cases hs : (d.making asked registry strict expose).result with
  | error f =>
    rw [hs] at h
    exact absurd h Nat.one_ne_zero
  | ok text =>
    rw [hs] at h
    exact ⟨text, (d.making asked registry strict expose).told.filter
      (LogEvent.isShown environment.filter verbose), rfl, h, rfl⟩

/-- **A check leaves all files as they are**, and comes to the same wherever its registry reads the
same. -/
theorem perform_check (d : Directory) (environment : Environment) (registry : String)
    (expose : List String) (asked : Option String) (verbose : Bool) :
    (perform Directory.access environment ⟨.check registry expose, asked, verbose⟩).run d
      = ((match d.registry registry with
          | .error f => f.outcome ""
          | .ok r => (verdict (r.issues expose)).after r.log).showing
            (LogEvent.isShown environment.filter verbose), d) := by
  rw [run_perform]
  dsimp only
  rw [run_check]
  rfl

/-! ## All or nothing -/

/-- **A command does all of its work or none.**  A generation that fails leaves every file as it was
and prints nothing.  One that succeeds hands over what it prints without an output: byte for byte to
the file that the output leads to, be it one that was read, and nothing else changes.  A check changes
nothing, and its exit and what it says depend on nothing but the path, what is read there and the
names; its log depends besides on which events are shown. -/
theorem command_all_or_nothing (d : Directory) (environment : Environment) (words : List String) :
    let ran := runIn d environment words
    (∀ registry output strict expose config verbose,
      Arguments.read environment.config words
        = .ok ⟨.generate registry output strict expose, config, verbose⟩ →
      (ran.1.exit ≠ 0 → ran.1.exit = 1 ∧ ran.1.stdout = "" ∧ ran.2 = d) ∧
      (ran.1.exit = 0 →
        let printed := (perform Directory.access environment
          ⟨.generate registry none strict expose, config, verbose⟩).run d
        printed.1.exit = 0 ∧ printed.1.status = "" ∧ printed.2 = d ∧
        match output with
        | none => ran = printed
        | some p => ran.1.stdout = "" ∧ ∃ key files, ran.2 = { d with files } ∧
          ran.2.place p = .file key printed.1.stdout.toUTF8 ∧
          (d.refusal .reading key = none → ran.2.read p = .ok printed.1.stdout) ∧
          ∀ k, files.get? k
            = if k = key then some printed.1.stdout.toUTF8 else d.files.get? k)) ∧
    (∀ registry expose config verbose,
      Arguments.read environment.config words = .ok ⟨.check registry expose, config, verbose⟩ →
      ran.2 = d ∧
      ∀ (d' : Directory) (environment' : Environment) words' config' verbose',
        Arguments.read environment'.config words'
          = .ok ⟨.check registry expose, config', verbose'⟩ →
        d'.read registry = d.read registry →
        let ran' := runIn d' environment' words'
        ran'.1.exit = ran.1.exit ∧ ran'.1.stdout = ran.1.stdout ∧ ran'.1.status = ran.1.status ∧
          (LogEvent.isShown environment'.filter verbose'
              = LogEvent.isShown environment.filter verbose → ran'.1.log = ran.1.log)) := by
  intro ran
  refine ⟨fun registry output strict expose config verbose hi => ?_,
    fun registry expose config verbose hi => ?_⟩
  · have hran : ran = _ := runIn_of_read d hi
    rw [hran]
    refine ⟨fun h => ?_, fun h => ?_⟩
    · obtain ⟨f, told, hf⟩ := perform_generate_fails h
      rw [hf]
      exact ⟨rfl, rfl, rfl⟩
    · intro printed
      obtain ⟨text, told, hprints, htaken, hdelivers⟩ := perform_generate_succeeds h
      have hprinted : printed = _ := hprints
      rw [hprinted]
      refine ⟨rfl, rfl, rfl, ?_⟩
      cases output with
      | none => exact hprints
      | some p =>
        obtain ⟨key, hk, hdelivered⟩ := run_deliver_file htaken
        dsimp only
        rw [hdelivers, hdelivered]
        exact ⟨rfl, key, _, rfl, Directory.place_insert hk, Directory.read_insert hk,
          fun k => OrderedMap.get?_insert ..⟩
  · have hran : ran = _ := (runIn_of_read d hi).trans (perform_check ..)
    rw [hran]
    refine ⟨rfl, fun d' environment' words' config' verbose' hi' hread => ?_⟩
    intro ran'
    have hran' : ran' = _ := (runIn_of_read d' hi').trans (perform_check ..)
    have hregistry : d'.registry registry = d.registry registry := by
      rw [Directory.registry, Directory.registry, hread]
    rw [hran', hregistry]
    exact ⟨rfl, rfl, rfl, fun hshown => by rw [hshown]⟩

/-- A generation over the registry itself, one that fails, and a check of one text in two places. -/
theorem command_all_or_nothing_noteFolder :
    (let ran := runIn noteFolder {} ["generate", "note.json", "-o", "../notes/note.json"]
      let printed := (perform Directory.access {}
        ⟨.generate "note.json" none false [], none, false⟩).run noteFolder
      ran.1.exit = 0 ∧ ran.1.stdout = "" ∧
        ran.2.read "../notes/note.json" = .ok printed.1.stdout) ∧
    (runIn noteFolder {} ["generate", "-v", "--strict", "keyless.json", "-o", "note.json"]).2
      = noteFolder ∧
    (let elsewhere : Directory :=
        { home := [], files := .ofList [("keyless.json", (noteText []).toUTF8)] }
      let ran := runIn noteFolder {} ["check", "keyless.json"]
      let ran' := runIn elsewhere { config := some "none.toml" } ["-v", "check", "keyless.json"]
      ran'.1.stdout = ran.1.stdout ∧ ran'.1.status = ran.1.status) := by
  have hover : Arguments.read none ["generate", "note.json", "-o", "../notes/note.json"]
      = .ok ⟨.generate "note.json" (some "../notes/note.json") false [], none, false⟩ := by
    decide +kernel
  have hstrict : Arguments.read none ["generate", "-v", "--strict", "keyless.json", "-o", "note.json"]
      = .ok ⟨.generate "keyless.json" (some "note.json") true [], none, true⟩ := by decide +kernel
  have hcheck : Arguments.read none ["check", "keyless.json"]
      = .ok ⟨.check "keyless.json" [], none, false⟩ := by decide +kernel
  have hother : Arguments.read (some "none.toml") ["-v", "check", "keyless.json"]
      = .ok ⟨.check "keyless.json" [], some "none.toml", true⟩ := by decide +kernel
  have hwrites : (runIn noteFolder {}
      ["generate", "note.json", "-o", "../notes/note.json"]).1.exit = 0 := by decide +kernel
  have hrefuses : (runIn noteFolder {}
      ["generate", "-v", "--strict", "keyless.json", "-o", "note.json"]).1.exit ≠ 0 := by
    decide +kernel
  obtain ⟨-, -, -, hstdout, key, files, -, -, hread, -⟩ :=
    ((command_all_or_nothing noteFolder {} _).1 _ _ _ _ _ _ hover).2 hwrites
  obtain ⟨-, -, hkept⟩ :=
    ((command_all_or_nothing noteFolder {} _).1 _ _ _ _ _ _ hstrict).1 hrefuses
  obtain ⟨-, hsame⟩ := (command_all_or_nothing noteFolder {} _).2 _ _ _ _ hcheck
  obtain ⟨-, hprinted, hstatus, -⟩ := hsame
    { home := [], files := .ofList [("keyless.json", (noteText []).toUTF8)] }
    { config := some "none.toml" } _ _ _ hother (by decide +kernel)
  exact ⟨⟨hwrites, hstdout, hread rfl⟩, hkept, hprinted, hstatus⟩

end EntitySchema
