import EntitySchema.CommandLine.Run
import Mathlib.Data.List.Forall2
import Mathlib.Data.List.Infix

/-!
# Proofs/CommandLine/Reports — what stands in a report, and in a refusal

An issue is told by a row: what kind of issue it is, whom it is about, and what is wrong
(`Issue.ToldBy`).  The rows of a list of issues are the records of the report that a check prints
(`report_eq`), where each line of each cell can be read (`infix_report`), and their details are the
reasons of a refusal (`refusal_line`).
-/

namespace EntitySchema

/-! ## Rows -/

/-- A row of a report. -/
structure ReportRow where
  kind : String
  entity : String
  detail : String
  deriving DecidableEq, Repr

/-- The cells of a row. -/
def ReportRow.cells (row : ReportRow) : List String := [row.kind, row.entity, row.detail]

/-- The row tells the issue. -/
inductive Issue.ToldBy : Issue → ReportRow → Prop
  | missingPrimaryKey (e : String) : ToldBy (.missingPrimaryKey e)
      ⟨"missing-primary-key", e, "entity '" ++ e ++ "' has no primary key"⟩
  | multiplePrimaryKeys (e : String) (n : Nat) : ToldBy (.multiplePrimaryKeys e n)
      ⟨"multiple-primary-keys", e, "entity '" ++ e ++ "' has " ++ toString n ++ " primary keys"⟩
  | unresolvedAssociation (e f t : String) : ToldBy (.unresolvedAssociation e f t)
      ⟨"unresolved-association", e,
        "association '" ++ e ++ "." ++ f ++ "' targets unknown entity '" ++ t ++ "'"⟩
  | duplicateField (e f : String) : ToldBy (.duplicateField e f)
      ⟨"duplicate-field", e, "entity '" ++ e ++ "' emits field '" ++ f ++ "' more than once"⟩
  | unknownEntity (e : String) : ToldBy (.unknownEntity e)
      ⟨"unknown-entity", e, "entity '" ++ e ++ "' is not registered"⟩

/-- The row of an issue. -/
def Issue.row (i : Issue) : ReportRow := ⟨i.kind, i.entity, i.message⟩

theorem Issue.toldBy_row : ∀ i : Issue, i.ToldBy i.row
  | .missingPrimaryKey e => .missingPrimaryKey e
  | .multiplePrimaryKeys e n => .multiplePrimaryKeys e n
  | .unresolvedAssociation e f t => .unresolvedAssociation e f t
  | .duplicateField e f => .duplicateField e f
  | .unknownEntity e => .unknownEntity e

/-- **Issues are told by their rows, one by one and in order.** -/
theorem forall₂_toldBy_rows : ∀ issues : List Issue,
    List.Forall₂ Issue.ToldBy issues (issues.map Issue.row)
  | [] => .nil
  | i :: issues => .cons i.toldBy_row (forall₂_toldBy_rows issues)

/-! ## Grids -/

namespace Text

theorem infix_between (front s back : String) : s.toList <:+: (front ++ s ++ back).toList :=
  ⟨front.toList, back.toList, by rw [String.toList_append, String.toList_append]⟩

/-- What is joined can be read in what it is joined to. -/
theorem infix_intercalate {s sep : String} : ∀ {parts : List String}, s ∈ parts →
    s.toList <:+: (sep.intercalate parts).toList
  | [], h => absurd h List.not_mem_nil
  | [part], h => by
      rw [List.mem_singleton.mp h, String.intercalate_singleton]
  | part :: next :: parts, h => by
      rw [String.intercalate_cons_cons, String.toList_append, String.toList_append]
      rcases List.mem_cons.mp h with rfl | h
      · exact ((List.prefix_append _ _).trans (List.prefix_append _ _)).isInfix
      · exact (infix_intercalate h).trans (List.suffix_append _ _).isInfix

theorem le_foldl_max {n : Nat} : ∀ {ns : List Nat} {start : Nat}, n ∈ ns ∨ n ≤ start →
    n ≤ ns.foldl max start
  | [], _, h => h.resolve_left List.not_mem_nil
  | m :: ns, start, h => by
      rw [List.foldl_cons]
      refine le_foldl_max ?_
      rcases h with h | h
      · rcases List.mem_cons.mp h with rfl | h
        · exact Or.inr (Nat.le_max_right _ _)
        · exact Or.inl h
      · exact Or.inr (Nat.le_trans h (Nat.le_max_left _ _))

/-- A line of a cell can be read in a line of its row, if there are columns enough. -/
theorem infix_rowLines {widths : List Nat} {row : List String} {cell line : String}
    (hw : row.length ≤ widths.length) (hc : cell ∈ row) (hl : line ∈ cellLines cell) :
    ∃ text ∈ rowLines widths row, line.toList <:+: text.toList := by
  obtain ⟨i, hi, rfl⟩ := List.mem_iff_getElem.mp hl
  have hheight : i < ((row.map cellLines).map List.length).foldl max 0 := by
    refine Nat.lt_of_lt_of_le hi (le_foldl_max (Or.inl ?_))
    exact List.mem_map_of_mem (List.mem_map_of_mem hc)
  obtain ⟨n, hn⟩ : ∃ n, (cellLines cell, n) ∈ (row.map cellLines).zip widths := by
    obtain ⟨j, hj, rfl⟩ := List.mem_iff_getElem.mp hc
    exact ⟨widths[j], List.mem_iff_getElem.mpr ⟨j, by simp; omega, by simp⟩⟩
  have hline : (cellLines cell)[i].toList <:+:
      (" " ++ padTo n ((cellLines cell)[i]?.getD "") ++ " ").toList := by
    refine List.IsInfix.trans ?_ (infix_between _ _ _)
    rw [List.getElem?_eq_getElem hi, Option.getD_some, padTo, String.toList_append]
    exact (List.prefix_append _ _).isInfix
  have hcell : _ <:+: ("│".intercalate _).toList := infix_intercalate (List.mem_map_of_mem
    (f := fun p => " " ++ padTo p.2 (p.1[i]?.getD "") ++ " ") hn)
  refine ⟨_, List.mem_map.mpr ⟨i, List.mem_range.mpr hheight, rfl⟩, ?_⟩
  exact (hline.trans hcell).trans (infix_between _ _ _)

/-- **Every line of every cell can be read in a grid**, if no row has more cells than there are
headings. -/
theorem infix_grid {headings : List String} {rows : List (List String)} {row : List String}
    {cell line : String} (hw : row.length ≤ headings.length) (hr : row ∈ rows) (hc : cell ∈ row)
    (hl : line ∈ cellLines cell) : line.toList <:+: (grid headings rows).toList := by
  have hwidths : (columnWidths headings.length (headings :: rows)).length = headings.length := by
    rw [columnWidths, List.length_map, List.length_range]
  obtain ⟨text, ht, hline⟩ := infix_rowLines (hwidths.symm ▸ hw) hc hl
  have hlines : text ∈ gridLines headings rows := by
    rw [gridLines]
    exact List.mem_append_left _ (List.mem_append_right _ (List.mem_flatMap.mpr ⟨row, hr, ht⟩))
  exact hline.trans (infix_intercalate hlines)

end Text

/-! ## Reports -/

/-- **A report is the grid of the rows, and their number.** -/
theorem report_eq (issues : List Issue) : report issues
    = Text.grid ["Kind", "Entity", "Detail"] ((issues.map Issue.row).map ReportRow.cells) ++
      "\nIssues: " ++ toString (issues.map Issue.row).length ++ "\n" := by
  have hrecords : (issues.map Issue.row).map ReportRow.cells = issues.map Issue.record := by
    rw [List.map_map]
    rfl
  have hmark : "\n" ++ "Issues: " = "\nIssues: " := by decide
  rw [List.length_map, hrecords, ← hmark, report, ← String.append_assoc]

/-- Each line of a cell can be read in the report. -/
theorem infix_report {issues : List Issue} {row : ReportRow} {cell : String} {line : List Char}
    (hr : row ∈ issues.map Issue.row) (hc : cell ∈ row.cells)
    (hl : line ∈ cell.toList.splitOn '\n') : line <:+: (report issues).toList := by
  have hwidth : row.cells.length ≤ ["Kind", "Entity", "Detail"].length := Nat.le_refl 3
  have hgrid := Text.infix_grid hwidth (List.mem_map_of_mem hr) hc (List.mem_map_of_mem hl)
  rw [String.toList_ofList] at hgrid
  rw [report_eq]
  refine hgrid.trans ?_
  simp only [String.toList_append, List.append_assoc]
  exact (List.prefix_append _ _).isInfix

/-! ## Last lines -/

/-- A registry that is not loaded is named, with a reason. -/
theorem unloaded_line {f : Failure} {path : String}
    (h : (∃ e, f = .registryUnreadable path e) ∨ ∃ e, f = .registryInvalid path e) :
    ∃ reason, failureLine f.message
      = "✗ Cannot load registry " ++ path ++ ": " ++ reason ++ "\n" := by
  have hstart : "✗ " ++ "Cannot load registry " = "✗ Cannot load registry " := by decide
  rw [← hstart]
  rcases h with ⟨e, rfl⟩ | ⟨e, rfl⟩
  · refine ⟨unreadableMessage path e, ?_⟩
    change "✗ " ++ ("Cannot load registry " ++ path ++ ": " ++ unreadableMessage path e) ++ "\n" = _
    simp only [String.append_assoc]
  · refine ⟨"Invalid registry definition: " ++ e.message ++ ": " ++ e.message, ?_⟩
    have hmiddle : ": " ++ "Invalid registry definition: " = ": Invalid registry definition: " := by
      decide
    change "✗ " ++ ("Cannot load registry " ++ path ++ ": Invalid registry definition: " ++
      e.message ++ ": " ++ e.message) ++ "\n" = _
    simp only [String.append_assoc, ← hmiddle]

/-- A check that found issues says how many. -/
theorem found_line (n : Nat) : failureLine (toString n ++ " registry issue(s) found")
    = "✗ " ++ toString n ++ " registry issue(s) found\n" := by
  have hend : " registry issue(s) found" ++ "\n" = " registry issue(s) found\n" := by decide
  rw [failureLine, ← hend, ← String.append_assoc, ← String.append_assoc]

/-- **A refusal gives the number of the rows and, as its reasons, their details.** -/
theorem refusal_line (issues : List Issue) : failureLine (Issue.refusal issues)
    = "✗ Registry is inconsistent (" ++ toString (issues.map Issue.row).length ++ " issue(s)): " ++
      "; ".intercalate ((issues.map Issue.row).map ReportRow.detail) ++ "\n" := by
  have hreasons : (issues.map Issue.row).map ReportRow.detail = issues.map Issue.message := by
    rw [List.map_map]
    rfl
  have hstart : "✗ " ++ "Registry is inconsistent (" = "✗ Registry is inconsistent (" := by decide
  rw [List.length_map, hreasons, ← hstart]
  unfold failureLine Issue.refusal
  simp only [String.append_assoc]

end EntitySchema
