import EntitySchema.Proofs.CommandLine.Reports
import EntitySchema.Proofs.CommandLine.Runs

/-!
# Proofs/CommandLine/Verdict — a check says what a strict generation would say

Both commands ask the same request for its issues, which no configuration has a say in; so the one
succeeds just if the other does, and where they fail the rows that the one reports are the reasons
that the other gives (`check_agrees`).  Strictness decides whether there is a text, never which, and
a strict generation that succeeds tells the log nothing else either (`making_of_strict`).
-/

namespace EntitySchema

/-- The output can be written, if it is a file. -/
def Directory.Accepts (d : Directory) (output : Option String) : Prop :=
  ∀ p, output = some p → ∃ key, d.writableKey p = .ok key

/-! ## One request -/

section Schema

variable {r : Registry} {c : Config} {expose : List String}

theorem exposure_eq (expose : List String) :
    exposure expose = if expose = [] then none else some expose := by
  cases expose with
  | nil => rfl
  | cons name names => rfl

theorem strict_schemaRequest : (schemaRequest r c true expose).config.strict = true :=
  Bool.or_true _

/-- **A strict schema is refused for the issues of the registry**, whatever the configuration. -/
theorem generate_strict : (schemaRequest r c true expose).generate
    = if (r.issues expose).isEmpty then .ok (schemaRequest r c true expose).text
      else .error (r.issues expose) := by
  rw [Request.generate, if_pos strict_schemaRequest, Request.strictText]
  rfl

/-- **Where there are no issues strictness has no say**: not in the text, and not in the log. -/
theorem schemaRequest_of_consistent (h : r.issues expose = []) (strict : Bool) :
    (schemaRequest r c strict expose).generate = .ok (schemaRequest r c true expose).text ∧
      (schemaRequest r c strict expose).log = (schemaRequest r c true expose).documentLog := by
  have hissues : (schemaRequest r c strict expose).issues = [] := h
  have hempty : (schemaRequest r c strict expose).issues.isEmpty = true := by
    rw [hissues]
    rfl
  constructor
  · rw [Request.generate, Request.strictText, if_pos hempty, ite_self]
    rfl
  · rw [Request.log, if_pos hempty, hissues, List.map_nil, List.nil_append, ite_self]
    rfl

end Schema

/-- **A strict generation that makes a text makes what one that is not strict makes.** -/
theorem Directory.making_of_strict {d : Directory} {asked : Option String} {path text : String}
    {expose : List String} (h : (d.making asked path true expose).result = .ok text) :
    d.making asked path false expose = d.making asked path true expose := by
  rw [Directory.making, Directory.making]
  cases hr : d.registry path with
  | error f => rfl
  | ok r =>
    cases hc : d.config asked path with
    | error f => rfl
    | ok c =>
      have hi : r.issues expose = [] := by
        by_contra hne
        rw [Directory.result_making hr hc, generate_strict,
          if_neg (mt List.isEmpty_iff.mp hne)] at h
        cases h
      dsimp only
      obtain ⟨hlenient, hlenientLog⟩ := schemaRequest_of_consistent (c := c) hi false
      obtain ⟨hstrict, hstrictLog⟩ := schemaRequest_of_consistent (c := c) hi true
      rw [hlenient, hlenientLog, hstrict, hstrictLog]

/-! ## Both commands -/

section Commands

variable {d : Directory} {path : String} {asked output : Option String} {expose : List String}

/-- Without a registry both commands fail in the same way. -/
theorem run_of_registry_error {f : Failure} (h : d.registry path = .error f) :
    (check Directory.access path expose).run d = (f.outcome "", d) ∧ ∀ asked output strict,
      (generate Directory.access asked path output strict expose).run d = (f.outcome "", d) := by
  refine ⟨by rw [run_check, h], fun asked output strict => ?_⟩
  rw [run_generate, Directory.making, h]
  rfl

theorem run_check_of_registry {r : Registry} (h : d.registry path = .ok r) :
    (check Directory.access path expose).run d
      = ((verdict (r.issues expose)).after r.log, d) := by
  rw [run_check, h]

theorem verdict_eq {issues : List Issue} (h : issues ≠ []) : verdict issues
    = { exit := 1, stdout := report issues,
        status := failureLine (toString issues.length ++ " registry issue(s) found") } := by
  rw [verdict, if_neg (mt List.isEmpty_iff.mp h)]
  rfl

/-- A text that is handed over to where it can be written makes for success. -/
theorem exit_run_deliver (h : d.Accepts output) (text : String) :
    ((deliver Directory.access output text).run d).1.exit = 0 := by
  rw [run_deliver]
  cases output with
  | none => rfl
  | some p =>
    obtain ⟨key, hk⟩ := h p rfl
    dsimp only
    rw [hk]

section Strict

variable {r : Registry} {c : Config}

/-- Where all is in place and there are no issues, a strict generation succeeds. -/
theorem exit_strict_of_consistent (hr : d.registry path = .ok r)
    (hc : d.config asked path = .ok c) (ho : d.Accepts output) (hi : r.issues expose = []) :
    ((generate Directory.access asked path output true expose).run d).1.exit = 0 := by
  rw [run_generate, Directory.result_making hr hc, (schemaRequest_of_consistent hi true).1]
  exact exit_run_deliver ho _

/-- Where there are issues, a strict generation fails for them. -/
theorem run_strict_of_inconsistent (hr : d.registry path = .ok r)
    (hc : d.config asked path = .ok c) (hi : r.issues expose ≠ []) :
    (generate Directory.access asked path output true expose).run d
      = ({ (Failure.inconsistent (r.issues expose)).outcome "" with
            log := (d.making asked path true expose).told }, d) := by
  rw [run_generate, Directory.result_making hr hc, generate_strict,
    if_neg (mt List.isEmpty_iff.mp hi)]
  rfl

end Strict

/-- **A check and a strict generation agree.**  Without a registry both fail, and say the same.
Where registry and configuration can be read and the output can be written, the one succeeds just if
the other does.  If they fail, there are rows that tell the issues one by one; the check prints them
as a table, in which each line of each cell can be read, with their number, and the generation gives
their number and their details.  A strict generation that succeeds does what one that is not strict
does. -/
theorem check_agrees (d : Directory) (path : String) (asked output : Option String)
    (expose : List String) :
    let checked := (check Directory.access path expose).run d
    let strict := (generate Directory.access asked path output true expose).run d
    let lenient := (generate Directory.access asked path output false expose).run d
    (∀ f, ((loadRegistry Directory.access path).run d).1 = .error f →
      (∃ reason, checked = ({ exit := 1, stdout := "", status :=
        "✗ Cannot load registry " ++ path ++ ": " ++ reason ++ "\n" }, d)) ∧
      strict = checked ∧ lenient = checked) ∧
    (∀ r event c, ((loadRegistry Directory.access path).run d).1 = .ok r →
      ((loadConfig Directory.access asked path).run d).1 = (event, .ok c) → d.Accepts output →
        (checked.1.exit = 0 ↔ strict.1.exit = 0) ∧
        (checked.1.exit ≠ 0 → ∃ rows : List ReportRow, rows ≠ [] ∧
          List.Forall₂ Issue.ToldBy
            ({ registry := r, exposed := if expose = [] then none else some expose } :
              Request).issues rows ∧
          checked.1.exit = 1 ∧
          checked.1.stdout = Text.grid ["Kind", "Entity", "Detail"] (rows.map ReportRow.cells) ++
            "\nIssues: " ++ toString rows.length ++ "\n" ∧
          (∀ row ∈ rows, ∀ cell ∈ row.cells, ∀ line ∈ cell.toList.splitOn '\n',
            line <:+: checked.1.stdout.toList) ∧
          checked.1.status = "✗ " ++ toString rows.length ++ " registry issue(s) found\n" ∧
          strict.1.exit = 1 ∧
          strict.1.stdout = "" ∧
          strict.1.status = "✗ Registry is inconsistent (" ++ toString rows.length ++
            " issue(s)): " ++ "; ".intercalate (rows.map ReportRow.detail) ++ "\n" ∧
          checked.2 = d ∧ strict.2 = d)) ∧
    (strict.1.exit = 0 → lenient = strict) := by
  intro checked strict lenient
  refine ⟨fun f hf => ?_, fun r event c hr hc ho => ?_, fun h => ?_⟩
  · rw [run_loadRegistry] at hf
    obtain ⟨hcheck, hgenerate⟩ : checked = _ ∧ _ := run_of_registry_error hf
    obtain ⟨reason, hline⟩ := unloaded_line (Directory.registry_eq_error hf)
    refine ⟨⟨reason, ?_⟩, (hgenerate asked output true).trans hcheck.symm,
      (hgenerate asked output false).trans hcheck.symm⟩
    rw [hcheck, Failure.outcome, hline]
  · rw [run_loadRegistry] at hr
    rw [run_loadConfig] at hc
    have hconfig : d.config asked path = .ok c := congrArg Prod.snd hc
    have hchecked : checked = ((verdict (r.issues expose)).after r.log, d) :=
      run_check_of_registry hr
    rw [hchecked]
    by_cases hi : r.issues expose = []
    · have hexit : ((verdict (r.issues expose)).after r.log).exit = 0 := by
        rw [hi]
        rfl
      exact ⟨iff_of_true hexit (exit_strict_of_consistent hr hconfig ho hi),
        fun h => absurd hexit h⟩
    · have hstrict : strict = _ := run_strict_of_inconsistent hr hconfig hi
      rw [hstrict, verdict_eq hi, ← exposure_eq]
      refine ⟨iff_of_false Nat.one_ne_zero Nat.one_ne_zero, fun _ => ?_⟩
      refine ⟨(r.issues expose).map Issue.row, mt List.map_eq_nil_iff.mp hi,
        forall₂_toldBy_rows _, rfl, report_eq _, fun row hr cell hc line hl =>
          infix_report hr hc hl, ?_, rfl, rfl, refusal_line _, rfl, rfl⟩
      rw [List.length_map]
      exact found_line _
  · have hstrict : strict = _ := run_generate d asked path output true expose
    have hlenient : lenient = _ := run_generate d asked path output false expose
    cases hs : (d.making asked path true expose).result with
    | error f =>
      rw [hstrict, hs] at h
      exact absurd h Nat.one_ne_zero
    | ok text => rw [hlenient, hstrict, Directory.making_of_strict hs]

/-- What a check prints of a note without a key. -/
def keylessReport : String :=
  "╭─────────────────────┬────────┬──────────────────────────────────╮\n" ++
  "│ Kind                │ Entity │ Detail                           │\n" ++
  "├─────────────────────┼────────┼──────────────────────────────────┤\n" ++
  "│ missing-primary-key │ note   │ entity 'note' has no primary key │\n" ++
  "╰─────────────────────┴────────┴──────────────────────────────────╯\n" ++
  "Issues: 1\n"

/-- A registry that is no text, one that is inconsistent, and one that is consistent. -/
theorem check_agrees_noteFolder :
    (∃ f, ((loadRegistry Directory.access "../broken.json").run noteFolder).1 = .error f ∧
      ((check Directory.access "../broken.json" ["note"]).run noteFolder).1.status =
        "✗ Cannot load registry ../broken.json: Failed to read ../broken.json: " ++
        "stream did not contain valid UTF-8: stream did not contain valid UTF-8\n" ∧
      (generate Directory.access none "../broken.json" none true ["note"]).run noteFolder
        = (check Directory.access "../broken.json" ["note"]).run noteFolder) ∧
    (∃ r, ((loadRegistry Directory.access "/srv/notes/keyless.json").run noteFolder).1 = .ok r ∧
      ((loadConfig Directory.access none "/srv/notes/keyless.json").run noteFolder).1
        = (.unconfigured, .ok {}) ∧
      noteFolder.Accepts (some "note.graphql") ∧
      ({ registry := r, exposed := some ["note"] } : Request).issues
        = [.missingPrimaryKey "note"]) ∧
    (let checked :=
        ((check Directory.access "/srv/notes/keyless.json" ["note"]).run noteFolder).1
      let made := ((generate Directory.access none "/srv/notes/keyless.json" (some "note.graphql")
        true ["note"]).run noteFolder).1
      let row : ReportRow :=
        ⟨"missing-primary-key", "note", "entity 'note' has no primary key"⟩
      checked.stdout = Text.grid ["Kind", "Entity", "Detail"] [row.cells] ++
        "\nIssues: " ++ toString 1 ++ "\n" ∧
      checked.stdout = keylessReport ∧
      checked.status = "✗ 1 registry issue(s) found\n" ∧
      made.status = "✗ Registry is inconsistent (1 issue(s)): " ++ row.detail ++ "\n") ∧
    ((generate Directory.access none "note.json" none true ["note"]).run noteFolder).1.exit = 0 ∧
      (generate Directory.access none "note.json" none false ["note"]).run noteFolder
        = (generate Directory.access none "note.json" none true ["note"]).run noteFolder := by
  obtain ⟨f, hf⟩ :
      ∃ f, ((loadRegistry Directory.access "../broken.json").run noteFolder).1 = .error f :=
    Json.exists_eq_error_of_not_isOk (by decide +kernel)
  have hstatus : ((check Directory.access "../broken.json" ["note"]).run noteFolder).1.status =
        "✗ Cannot load registry ../broken.json: Failed to read ../broken.json: " ++
        "stream did not contain valid UTF-8: stream did not contain valid UTF-8\n" := by
    decide +kernel
  obtain ⟨r, hr⟩ : ∃ r,
      ((loadRegistry Directory.access "/srv/notes/keyless.json").run noteFolder).1 = .ok r :=
    Json.exists_eq_ok_of_isOk (by decide +kernel)
  have hbeside : noteFolder.configPath none "/srv/notes/keyless.json" = none := by decide +kernel
  have hc : ((loadConfig Directory.access none "/srv/notes/keyless.json").run noteFolder).1
      = (.unconfigured, .ok {}) := by
    rw [run_loadConfig, Directory.configEvent, Directory.config, hbeside]
  have hissues : (((loadRegistry Directory.access "/srv/notes/keyless.json").run
      noteFolder).1.toOption.map fun r =>
        ({ registry := r, exposed := some ["note"] } : Request).issues)
        = some [.missingPrimaryKey "note"] := by decide +kernel
  rw [hr] at hissues
  have hissue : ({ registry := r, exposed := some ["note"] } : Request).issues
      = [.missingPrimaryKey "note"] := Option.some.inj hissues
  have hkey : (noteFolder.writableKey "note.graphql").isOk = true := by decide +kernel
  have ho : noteFolder.Accepts (some "note.graphql") := by
    rintro p hp
    obtain rfl := Option.some.inj hp
    exact Json.exists_eq_ok_of_isOk hkey
  have hexit : ((check Directory.access "/srv/notes/keyless.json"
      ["note"]).run noteFolder).1.exit ≠ 0 := by decide +kernel
  have hprints : ((check Directory.access "/srv/notes/keyless.json"
      ["note"]).run noteFolder).1.stdout = keylessReport := by decide +kernel
  have hsound : ((generate Directory.access none "note.json" none true
      ["note"]).run noteFolder).1.exit = 0 := by decide +kernel
  obtain ⟨habsent, -, -⟩ := check_agrees noteFolder "../broken.json" none none ["note"]
  obtain ⟨-, hfails, -⟩ :=
    check_agrees noteFolder "/srv/notes/keyless.json" none (some "note.graphql") ["note"]
  obtain ⟨-, -, hsame⟩ := check_agrees noteFolder "note.json" none none ["note"]
  obtain ⟨rows, -, htold, -, hstdout, -, hcounted, -, -, hrefused, -, -⟩ :=
    (hfails r _ _ hr hc ho).2 hexit
  -- the one issue has one row
  have hrows : rows = [⟨"missing-primary-key", "note", "entity 'note' has no primary key"⟩] := by
    rw [if_neg (List.cons_ne_nil _ _), hissue] at htold
    cases htold with
    | cons hrow hrest =>
      cases hrow
      cases hrest
      decide +kernel
  rw [hrows, List.map_singleton, List.length_singleton] at hstdout
  rw [hrows, List.length_singleton] at hcounted
  rw [hrows, List.map_singleton, List.length_singleton, String.intercalate_singleton] at hrefused
  have hfound : "✗ " ++ toString 1 ++ " registry issue(s) found\n"
      = "✗ 1 registry issue(s) found\n" := by decide +kernel
  have hcount : "✗ Registry is inconsistent (" ++ toString 1 ++ " issue(s)): "
      = "✗ Registry is inconsistent (1 issue(s)): " := by decide +kernel
  rw [hcount] at hrefused
  exact ⟨⟨f, hf, hstatus, (habsent f hf).2.1⟩, ⟨r, hr, hc, ho, hissue⟩,
    ⟨hstdout, hprints, hcounted.trans hfound, hrefused⟩, hsound, hsame hsound⟩

end Commands

end EntitySchema
