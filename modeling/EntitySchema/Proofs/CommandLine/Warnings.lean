import EntitySchema.Proofs.CommandLine.Runs

/-!
# Proofs/CommandLine/Warnings — what the log shows if nobody asks for more

Of all that a command tells the log only the issues that a lenient schema passes over matter enough
to be shown without being asked for.  So a lenient generation warns of what a check of the same
registry would report, issue by issue, whatever becomes of its output; a strict one and a check have
an empty log (`shown_generate`, `shown_check`).
-/

namespace EntitySchema

/-- Does an event get a line if nobody asks for more? -/
def LogEvent.isWarning (e : LogEvent) : Bool := e.isShown none false

namespace LogEvent

theorem isWarning_iff {e : LogEvent} : e.isWarning = true ↔ ∃ i, e = .inconsistency i := by
  cases e <;> simp [isWarning, isShown, level, LogLevel.rank]

/-- Where no issue is told there is nothing to show. -/
theorem filter_isWarning_eq_nil {events : List LogEvent}
    (h : ∀ i, LogEvent.inconsistency i ∉ events) : events.filter isWarning = [] := by
  refine List.filter_eq_nil_iff.mpr fun e he hw => ?_
  obtain ⟨i, rfl⟩ := isWarning_iff.mp hw
  exact h i he

theorem filter_isWarning_issues (issues : List Issue) :
    (issues.map LogEvent.inconsistency).filter isWarning = issues.map .inconsistency :=
  List.filter_eq_self.mpr fun _ he =>
    let ⟨i, _, hi⟩ := List.mem_map.mp he
    isWarning_iff.mpr ⟨i, hi.symm⟩

end LogEvent

/-! ## Parts of the log -/

theorem Registry.inconsistency_notMem_log (r : Registry) (i : Issue) :
    .inconsistency i ∉ r.log := by
  simp [Registry.log]

namespace Request

variable (q : Request)

theorem inconsistency_notMem_documentLog (i : Issue) : .inconsistency i ∉ q.documentLog := by
  have hassociation : ∀ r e a, associationEvent r e a ≠ .inconsistency i := by
    intro r e a
    rw [associationEvent]
    split <;> simp
  simp [documentLog, entityLog, hassociation]

/-- **A lenient schema warns of its issues**, a strict one of nothing. -/
theorem filter_isWarning_log : q.log.filter LogEvent.isWarning
    = if q.config.strict then [] else q.issues.map .inconsistency := by
  have hdocument := LogEvent.filter_isWarning_eq_nil q.inconsistency_notMem_documentLog
  rw [log]
  split
  · split
    · exact hdocument
    · rfl
  · rw [List.filter_append, hdocument, LogEvent.filter_isWarning_issues, List.append_nil]

end Request

/-! ## Commands -/

section Commands

variable (d : Directory) (asked : Option String) (path : String)

theorem Directory.inconsistency_ne_configEvent (i : Issue) :
    .inconsistency i ≠ d.configEvent asked path := by
  rw [Directory.configEvent]
  split <;> simp

/-- The warnings of a generation are there as soon as registry and configuration are read. -/
theorem Directory.filter_isWarning_making (strict : Bool) (expose : List String) :
    (d.making asked path strict expose).told.filter LogEvent.isWarning
      = match d.registry path, d.config asked path with
        | .ok r, .ok c =>
          if c.strict || strict then [] else (r.issues expose).map .inconsistency
        | _, _ => [] := by
  rw [Directory.making]
  cases d.registry path with
  | error f => rfl
  | ok r =>
    have htold : (r.log ++ [d.configEvent asked path]).filter LogEvent.isWarning = [] := by
      refine LogEvent.filter_isWarning_eq_nil fun i hi => ?_
      rcases List.mem_append.mp hi with hi | hi
      · exact r.inconsistency_notMem_log i hi
      · exact d.inconsistency_ne_configEvent asked path i (List.mem_singleton.mp hi)
    cases d.config asked path with
    | error f => exact htold
    | ok c =>
      have hrequest := (schemaRequest r c strict expose).filter_isWarning_log
      dsimp only
      cases (schemaRequest r c strict expose).generate with
      | error issues =>
        dsimp only
        rw [List.filter_append, htold, hrequest]
        rfl
      | ok text =>
        dsimp only
        rw [List.filter_append, List.filter_append, htold, hrequest]
        exact List.append_nil _

/-- The log of a generation is what it tells before it hands anything over. -/
theorem log_run_generate (output : Option String) (strict : Bool) (expose : List String) :
    ((generate Directory.access asked path output strict expose).run d).1.log
      = (d.making asked path strict expose).told := by
  rw [run_generate]
  cases (d.making asked path strict expose).result with
  | error f => rfl
  | ok text => rfl

/-- **If nobody asks for more, a generation shows the issues that it passes over**, and nothing
else. -/
theorem shown_generate {environment : Environment} {words : List String} {registry : String}
    {output config : Option String} {strict : Bool} {expose : List String}
    (hf : environment.filter = none) (h : Arguments.read environment.config words
      = .ok ⟨.generate registry output strict expose, config, false⟩) :
    (runIn d environment words).1.log
      = match d.registry registry, d.config config registry with
        | .ok r, .ok c =>
          if c.strict || strict then [] else (r.issues expose).map .inconsistency
        | _, _ => [] := by
  rw [runIn_of_read d h, run_perform, hf, ← d.filter_isWarning_making config registry strict expose,
    ← log_run_generate d config registry output]
  rfl

/-- A note without a key is warned of. -/
example : (runIn noteFolder {} ["generate", "keyless.json"]).1.log
    = [.inconsistency (.missingPrimaryKey "note")] := by decide +kernel

/-- **If nobody asks for more, a check shows no log.** -/
theorem shown_check {environment : Environment} {words : List String} {registry : String}
    {config : Option String} {expose : List String} (hf : environment.filter = none)
    (h : Arguments.read environment.config words = .ok ⟨.check registry expose, config, false⟩) :
    (runIn d environment words).1.log = [] := by
  rw [runIn_of_read d h, run_perform, hf]
  dsimp only
  rw [run_check]
  cases d.registry registry with
  | error f => rfl
  | ok r =>
    have hlog : ((verdict (r.issues expose)).after r.log).log = r.log := by
      rw [verdict]
      split <;> exact List.append_nil _
    change List.filter LogEvent.isWarning ((verdict (r.issues expose)).after r.log).log = []
    rw [hlog, LogEvent.filter_isWarning_eq_nil r.inconsistency_notMem_log]

end Commands

end EntitySchema
