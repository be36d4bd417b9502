import BootChain.Catalog
import BootChain.Proofs.Report.Differences
import BootChain.Proofs.Text.Lines
import BootChain.Report.Markdown

namespace BootChain

namespace Table

/-- How many vertical bars divide the cells of a row. One behind a backslash does not. -/
def dividers : Bool → List Char → Nat
  | _, [] => 0
  | true, _ :: rest => dividers false rest
  | false, c :: rest => (if c = '|' then 1 else 0) + dividers (c = '\\') rest

/-- The number of cells of a row that bars stand around. -/
def cells (row : String) : Nat := dividers false row.toList - 1

/-- The vertical bars of a text that would divide a row. -/
def bars (text : String) : Nat := dividers false text.toList

variable {c : Char} {escaped : Bool} {chars rest : List Char}

/-- A character that is no bar and no backslash starts afresh. -/
theorem dividers_append_cons (hbar : c ≠ '|') (hbackslash : c ≠ '\\') :
    dividers escaped (chars ++ c :: rest) = dividers escaped chars + dividers false rest := by
  induction chars generalizing escaped with
  | nil => cases escaped <;> simp [dividers, hbar, hbackslash]
  | cons d chars ih =>
    cases escaped with
    | true => exact ih
    | false => rw [List.cons_append, dividers, dividers, ih, Nat.add_assoc]

/-- Characters that are no bars and no backslashes do not count. -/
theorem dividers_append (hchars : ∀ c ∈ chars, c ≠ '|' ∧ c ≠ '\\') :
    dividers false (chars ++ rest) = dividers false rest := by
  induction chars with
  | nil => rfl
  | cons c chars ih =>
    obtain ⟨⟨hbar, hbackslash⟩, hrest⟩ := List.forall_mem_cons.1 hchars
    rw [List.cons_append, dividers, if_neg hbar, decide_eq_false hbackslash, ih hrest, Nat.zero_add]

end Table

/-- A word of letters, digits, underscores and dashes. -/
def Text.IsWord (text : String) : Prop :=
  ∀ c ∈ text.toList, c.isAlphanum = true ∨ c = '_' ∨ c = '-'

namespace Text.IsWord

instance {text : String} : Decidable (IsWord text) :=
  List.decidableBAll (fun c : Char => c.isAlphanum = true ∨ c = '_' ∨ c = '-') text.toList

variable {text : String}

theorem oneLine (hword : IsWord text) : OneLine text := by
  intro c hmem
  constructor <;> rintro rfl <;> exact absurd (hword _ hmem) (by decide)

theorem dividers_append (hword : IsWord text) (rest : List Char) :
    Table.dividers false (text.toList ++ rest) = Table.dividers false rest := by
  refine Table.dividers_append fun c hmem => ?_
  constructor <;> rintro rfl <;> exact absurd (hword _ hmem) (by decide)

end Text.IsWord

theorem Generation.isWord_label (g : Generation) : Text.IsWord g.label := by
  intro c hmem
  rw [toList_label, List.mem_append] at hmem
  obtain hmem | hmem := hmem
  · exact (by decide : Text.IsWord "stage") c hmem
  · have hdigit := Text.isDigit_of_mem_toDigits hmem
    exact .inl (by simp [Char.isAlphanum, hdigit])

theorem Cause.isWord_label (cause : Cause) : Text.IsWord cause.label := by
  cases cause <;> simp only [label] <;> decide

theorem Cell.isWord_label (cell : Cell) : Text.IsWord cell.label := by
  cases cell with
  | notEvaluated path => exact (by decide : Text.IsWord "not_evaluated")
  | skipped => exact (by decide : Text.IsWord "skipped")
  | evaluated trial matchesExpected =>
    rw [Cell.label]
    split
    next failure _ => exact failure.cause.isWord_label
    next => cases matchesExpected <;> decide

theorem Slot.isWord_label (slot : Slot) : Text.IsWord slot.label := by
  cases slot <;> simp only [label] <;> decide

theorem Verdict.isWord_label (verdict : Verdict) : Text.IsWord verdict.label := by
  cases verdict <;> simp only [label] <;> decide

theorem Defect.isWord_label (defect : Defect) : Text.IsWord defect.label := by
  cases defect <;> decide

namespace Report

theorem isWord_cellWord (row : Row) (generation : Generation) :
    Text.IsWord (cellWord row generation) := by
  rw [cellWord]
  cases row.get? generation with
  | none => decide
  | some cell => exact cell.isWord_label

/-- What a report shows of paths, names and messages has no line break in it. -/
structure Unbroken (chain : Chain) (report : Report) : Prop where
  path : ∀ entry ∈ chain.toList, Text.OneLine entry.2.path.shown
  row : ∀ entry ∈ report.cells.entries, Text.OneLine entry.1.text
  finding : ∀ finding ∈ report.findings,
    Text.OneLine finding.fixture.text ∧ Text.OneLine finding.message
  comparison : ∀ comparison ∈ report.comparisons, Text.OneLine comparison.fixture.text

/-- What the two renderings of a report look like. There is just one line for each slot of the
    chain, for each row of the report and for each finding, and in Markdown for each comparison.
    A row of a table has one cell for each column, and one more for each bar in a name. -/
structure Layout (chain : Chain) (report : Report) : Prop where
  plainText : Text.lines (plainText chain report) =
    "stages:" :: chain.toList.map (fun (generation, slot) =>
      "  " ++ Text.lineOf (Chain.slotLine generation slot)) ++
    (if report.generations.isEmpty then []
      else "matrix:" :: report.cells.entries.map fun (id, row) =>
        Text.lineOf (PlainText.rowLine report.generations id row)) ++
    (if report.findings.isEmpty then []
      else ("findings (" ++ toString report.findings.length ++ "):") ::
        report.findings.map fun finding => Text.lineOf (PlainText.findingLine finding)) ++
    Text.lines (PlainText.tallySection report.tally ++ PlainText.resultSection report)
  markdown : Text.lines (markdown chain report) =
    Text.lines (Markdown.statusSection report) ++
    ["", "## Stages", "", "| Generation | Status | Path |", "|---|---|---|"] ++
    chain.toList.map (fun (generation, slot) =>
      Text.lineOf (Markdown.slotRow generation slot)) ++
    (if report.generations.isEmpty then []
      else ["", "## Matrix", ""] ++ Text.lines (Markdown.matrixHeader report.generations) ++
        report.cells.entries.map fun (id, row) =>
          Text.lineOf (Markdown.matrixRow report.generations id row)) ++
    ["", "## Findings", ""] ++
    (if report.findings.isEmpty then ["- None"]
      else report.findings.map fun finding => Text.lineOf (Markdown.findingItem finding)) ++
    ["", "## Equivalence", ""] ++
    (if report.comparisons.isEmpty then ["- None"]
      else report.comparisons.map fun comparison =>
        Text.lineOf (Markdown.comparisonItem comparison))
  slot_cells : ∀ entry ∈ chain.toList,
    Table.cells (Text.lineOf (Markdown.slotRow entry.1 entry.2)) =
      Table.cells "| Generation | Status | Path |" + Table.bars entry.2.path.shown
  row_cells : ∃ header rule, Text.lines (Markdown.matrixHeader report.generations) =
    [header, rule] ∧ Table.cells rule = Table.cells header ∧
      ∀ entry ∈ report.cells.entries,
        Table.cells (Text.lineOf (Markdown.matrixRow report.generations entry.1 entry.2)) =
          Table.cells header + Table.bars entry.1.text
  finding_item : ∀ finding ∈ report.findings,
    ∃ rest, Text.lineOf (Markdown.findingItem finding) = "- " ++ rest
  comparison_item : ∀ comparison ∈ report.comparisons,
    ∃ rest, Text.lineOf (Markdown.comparisonItem comparison) = "- " ++ rest

variable {chain : Chain} {report : Report}

theorem oneLine_padRight {width : Nat} {text : String} (htext : Text.OneLine text) :
    Text.OneLine (Text.padRight width text) := by
  refine Text.oneLine_append.2 ⟨htext, fun c hmem => ?_⟩
  rw [String.toList_ofList] at hmem
  rw [List.eq_of_mem_replicate hmem]
  decide

theorem lines_writeLines {α : Type} {write : α → String} {items : List α}
    (hlines : ∀ item ∈ items, Text.IsLine (write item)) :
    Text.lines (String.join (items.map write)) =
      items.map fun item => Text.lineOf (write item) := by
  rw [Text.lines_join (List.forall_mem_map.2 hlines), List.map_map]
  rfl

theorem closed_writeLines {α : Type} {write : α → String} {items : List α}
    (hlines : ∀ item ∈ items, Text.IsLine (write item)) :
    Text.Closed (String.join (items.map write)) :=
  Text.closed_join (List.forall_mem_map.2 fun item hmem => (hlines item hmem).closed)

namespace PlainText

theorem isLine_slotLine {generation : Generation} {slot : Slot}
    (hpath : Text.OneLine slot.path.shown) : Text.IsLine (Chain.slotLine generation slot) := by
  refine Text.isLine_append ?_
  simp only [Text.oneLine_append]
  exact ⟨⟨⟨⟨oneLine_padRight generation.isWord_label.oneLine, by decide⟩,
    oneLine_padRight slot.isWord_label.oneLine⟩, by decide⟩, hpath⟩

theorem isLine_rowLine {generations : List Generation} {id : FixtureId} {row : Row}
    (hid : Text.OneLine id.text) : Text.IsLine (rowLine generations id row) := by
  refine Text.isLine_append ?_
  simp only [Text.oneLine_append]
  refine ⟨⟨⟨by decide, hid⟩, by decide⟩, Text.oneLine_intercalate (by decide) ?_⟩
  rintro word hmem
  obtain ⟨generation, -, rfl⟩ := List.mem_map.1 hmem
  simp only [Text.oneLine_append]
  exact ⟨⟨generation.isWord_label.oneLine, by decide⟩, (isWord_cellWord row generation).oneLine⟩

theorem isLine_findingLine {finding : Finding} (hfixture : Text.OneLine finding.fixture.text)
    (hmessage : Text.OneLine finding.message) : Text.IsLine (findingLine finding) := by
  refine Text.isLine_append ?_
  simp only [Text.oneLine_append]
  exact ⟨⟨⟨⟨⟨⟨⟨by decide, finding.defect.isWord_label.oneLine⟩, by decide⟩, hfixture⟩, by decide⟩,
    finding.generation.isWord_label.oneLine⟩, by decide⟩, hmessage⟩

theorem closed_chainSection (chain : Chain) : Text.Closed (chainSection chain) := by
  refine Text.closed_append (by decide) (Text.closed_join (List.forall_mem_map.2 ?_))
  exact fun line _ => Text.closed_append_break _

variable (hunbroken : Unbroken chain report)
include hunbroken

theorem lines_chainSection : Text.lines (chainSection chain) =
    "stages:" :: chain.toList.map fun (generation, slot) =>
      "  " ++ Text.lineOf (Chain.slotLine generation slot) := by
  have hslots : ∀ entry ∈ chain.toList, Text.IsLine (Chain.slotLine entry.1 entry.2) :=
    fun entry hmem => isLine_slotLine (hunbroken.path entry hmem)
  have hlisting : Text.lines chain.listing =
      chain.toList.map fun entry => Text.lineOf (Chain.slotLine entry.1 entry.2) :=
    lines_writeLines hslots
  have hindented : ∀ entry ∈ chain.toList,
      Text.IsLine ("  " ++ Text.lineOf (Chain.slotLine entry.1 entry.2) ++ "\n") := by
    intro entry hmem
    exact Text.isLine_append (Text.oneLine_append.2 ⟨by decide, (hslots entry hmem).oneLine⟩)
  rw [chainSection, Text.lines_append (by decide), hlisting, List.map_map]
  simp only [Function.comp_def]
  rw [lines_writeLines hindented]
  simp only [Text.lineOf_append]
  rfl

theorem lines_matrixSection : Text.lines (matrixSection report) =
    if report.generations.isEmpty then []
    else "matrix:" :: report.cells.entries.map fun (id, row) =>
      Text.lineOf (rowLine report.generations id row) := by
  rw [matrixSection]
  split
  next => rfl
  next =>
    rw [Text.lines_append (by decide), lines_writeLines fun entry hmem =>
      isLine_rowLine (hunbroken.row entry hmem)]
    rfl

theorem closed_matrixSection : Text.Closed (matrixSection report) := by
  rw [matrixSection]
  split
  next => decide
  next =>
    exact Text.closed_append (by decide) (closed_writeLines fun entry hmem =>
      isLine_rowLine (hunbroken.row entry hmem))

theorem lines_findingsSection : Text.lines (findingsSection report) =
    if report.findings.isEmpty then []
    else ("findings (" ++ toString report.findings.length ++ "):") ::
      report.findings.map fun finding => Text.lineOf (findingLine finding) := by
  have hheading : Text.IsLine ("findings (" ++ toString report.findings.length ++ "):\n") := by
    refine Text.isLine_append_of_eq "):" (by decide) ?_
    simp only [Text.oneLine_append]
    exact ⟨⟨by decide, Text.oneLine_toString _⟩, by decide⟩
  rw [findingsSection]
  split
  next => rfl
  next =>
    rw [Text.lines_append hheading.closed, hheading.lines_eq,
      Text.lineOf_append_of_eq "):" (by decide), lines_writeLines fun finding hmem =>
        isLine_findingLine (hunbroken.finding finding hmem).1 (hunbroken.finding finding hmem).2]
    rfl

theorem closed_findingsSection : Text.Closed (findingsSection report) := by
  rw [findingsSection]
  split
  next => decide
  next =>
    refine Text.closed_append ?_ (closed_writeLines fun finding hmem =>
      isLine_findingLine (hunbroken.finding finding hmem).1 (hunbroken.finding finding hmem).2)
    rw [(by decide : "):\n" = "):" ++ "\n"), ← String.append_assoc]
    exact Text.closed_append_break _

end PlainText

namespace Markdown

theorem isLine_slotRow {generation : Generation} {slot : Slot}
    (hpath : Text.OneLine slot.path.shown) : Text.IsLine (slotRow generation slot) := by
  refine Text.isLine_append_of_eq "` |" (by decide) ?_
  simp only [Text.oneLine_append]
  exact ⟨⟨⟨⟨⟨⟨by decide, generation.isWord_label.oneLine⟩, by decide⟩, slot.isWord_label.oneLine⟩,
    by decide⟩, hpath⟩, by decide⟩

theorem dividers_ending (text : String) :
    Table.dividers false (text.toList ++ "` |".toList) = Table.bars text + 1 := by
  have hending : "` |".toList = '\x60' :: [' ', '|'] := rfl
  rw [hending, Table.dividers_append_cons (by decide) (by decide)]
  rfl

/-- A row of the table of compilers has a cell for each column, and one more for each bar in the
    path. -/
theorem cells_slotRow (generation : Generation) (slot : Slot) :
    Table.cells (Text.lineOf (slotRow generation slot)) =
      Table.cells "| Generation | Status | Path |" + Table.bars slot.path.shown := by
  have hstart : ∀ rest, Table.dividers false ("| ".toList ++ rest) =
      Table.dividers false rest + 1 := by simp [Table.dividers, Nat.add_comm]
  have hnext : ∀ rest, Table.dividers false (" | ".toList ++ rest) =
      Table.dividers false rest + 1 := by simp [Table.dividers, Nat.add_comm]
  have hcode : ∀ rest, Table.dividers false (" | `".toList ++ rest) =
      Table.dividers false rest + 1 := by simp [Table.dividers, Nat.add_comm]
  have hheader : Table.cells "| Generation | Status | Path |" = 3 := by decide
  rw [slotRow, Text.lineOf_append_of_eq "` |" (by decide), Table.cells, hheader]
  simp only [String.toList_append, List.append_assoc, hstart, hnext, hcode, dividers_ending,
    generation.isWord_label.dividers_append, slot.isWord_label.dividers_append]
  omega

theorem isLine_matrixRow {generations : List Generation} {id : FixtureId} {row : Row}
    (hid : Text.OneLine id.text) : Text.IsLine (matrixRow generations id row) := by
  refine Text.isLine_append ?_
  simp only [Text.oneLine_append]
  refine ⟨⟨⟨by decide, hid⟩, by decide⟩, Text.oneLine_join (List.forall_mem_map.2 ?_)⟩
  intro generation _
  simp only [Text.oneLine_append]
  exact ⟨⟨by decide, (isWord_cellWord row generation).oneLine⟩, by decide⟩

/-- Texts of which each has one bar have as many as there are texts. -/
theorem dividers_join {α : Type} (items : List α) {write : α → String}
    (hwrite : ∀ item rest, Table.dividers false ((write item).toList ++ rest) =
      Table.dividers false rest + 1) :
    Table.dividers false (String.join (items.map write)).toList = items.length := by
  induction items with
  | nil => rfl
  | cons item items ih =>
    rw [List.map_cons, String.join_cons, String.toList_append, hwrite, ih, List.length_cons]

theorem dividers_column {word : String} (hword : Text.IsWord word) (rest : List Char) :
    Table.dividers false ((" " ++ word ++ " |").toList ++ rest) =
      Table.dividers false rest + 1 := by
  have hspace : ∀ rest, Table.dividers false (" ".toList ++ rest) = Table.dividers false rest := by
    simp [Table.dividers]
  have hbar : ∀ rest, Table.dividers false (" |".toList ++ rest) =
      Table.dividers false rest + 1 := by simp [Table.dividers, Nat.add_comm]
  simp only [String.toList_append, List.append_assoc, hspace, hword.dividers_append, hbar]

/-- A row of the matrix has a cell for each column, and one more for each bar in the name of its
    fixture. -/
theorem cells_matrixRow (generations : List Generation) (id : FixtureId) (row : Row) :
    Table.cells (Text.lineOf (matrixRow generations id row)) =
      generations.length + 1 + Table.bars id.text := by
  have hstart : ∀ rest, Table.dividers false ("| `".toList ++ rest) =
      Table.dividers false rest + 1 := by simp [Table.dividers, Nat.add_comm]
  have hname : ∀ rest, Table.dividers false (id.text.toList ++ ("` |".toList ++ rest)) =
      Table.bars id.text + (Table.dividers false rest + 1) := by
    intro rest
    have hending : "` |".toList ++ rest = '\x60' :: ' ' :: '|' :: rest := rfl
    rw [hending, Table.dividers_append_cons (by decide) (by decide), Table.bars]
    simp [Table.dividers, Nat.add_comm]
  have hcolumns := dividers_join generations
    fun generation => dividers_column (isWord_cellWord row generation)
  rw [matrixRow, Text.lineOf_append, Table.cells]
  simp only [String.toList_append, List.append_assoc, hstart, hname, hcolumns]
  omega

/-- The matrix has a column for the fixtures and one for each generation. -/
theorem lines_matrixHeader (generations : List Generation) : ∃ header rule,
    Text.lines (matrixHeader generations) = [header, rule] ∧
      Table.cells header = generations.length + 1 ∧ Table.cells rule = generations.length + 1 := by
  let header := "| Fixture |" ++ String.join (generations.map fun g => " " ++ g.label ++ " |")
  let rule := "|---|" ++ String.join (generations.map fun _ => "---|")
  have heq : matrixHeader generations = (header ++ "\n") ++ (rule ++ "\n") := by
    have hbreak : "\n|---|" = "\n" ++ "|---|" := by decide
    unfold matrixHeader
    rw [hbreak]
    simp only [header, rule, String.append_assoc]
  have hheader : Text.OneLine header := by
    refine Text.oneLine_append.2 ⟨by decide, Text.oneLine_join (List.forall_mem_map.2 ?_)⟩
    intro generation _
    simp only [Text.oneLine_append]
    exact ⟨⟨by decide, generation.isWord_label.oneLine⟩, by decide⟩
  have hrule : Text.OneLine rule := Text.oneLine_append.2
    ⟨by decide, Text.oneLine_join (List.forall_mem_map.2 fun _ _ => by decide)⟩
  refine ⟨header, rule, ?_, ?_, ?_⟩
  · rw [heq, Text.lines_append (Text.isLine_append hheader).closed,
      (Text.isLine_append hheader).lines_eq, (Text.isLine_append hrule).lines_eq,
      Text.lineOf_append, Text.lineOf_append]
    rfl
  · have hstart : ∀ rest, Table.dividers false ("| Fixture |".toList ++ rest) =
        Table.dividers false rest + 2 := by simp [Table.dividers]; omega
    rw [Table.cells, String.toList_append, hstart,
      dividers_join generations fun generation => dividers_column generation.isWord_label]
    rfl
  · have hstart : ∀ rest, Table.dividers false ("|---|".toList ++ rest) =
        Table.dividers false rest + 2 := by simp [Table.dividers]; omega
    rw [Table.cells, String.toList_append, hstart,
      dividers_join generations fun _ _ => by simp [Table.dividers, Nat.add_comm]]
    rfl

theorem isLine_findingItem {finding : Finding} (hfixture : Text.OneLine finding.fixture.text)
    (hmessage : Text.OneLine finding.message) : Text.IsLine (findingItem finding) := by
  refine Text.isLine_append ?_
  simp only [Text.oneLine_append]
  exact ⟨⟨⟨⟨⟨⟨⟨by decide, finding.defect.isWord_label.oneLine⟩, by decide⟩, hfixture⟩, by decide⟩,
    finding.generation.isWord_label.oneLine⟩, by decide⟩, hmessage⟩

theorem isLine_comparisonItem {comparison : Comparison}
    (hfixture : Text.OneLine comparison.fixture.text) :
    Text.IsLine (comparisonItem comparison) := by
  refine Text.isLine_append ?_
  simp only [Text.oneLine_append]
  exact ⟨⟨⟨⟨⟨⟨⟨by decide, hfixture⟩, by decide⟩, comparison.lower.isWord_label.oneLine⟩, by decide⟩,
    comparison.upper.isWord_label.oneLine⟩, by decide⟩, comparison.verdict.isWord_label.oneLine⟩

theorem lineOf_findingItem (finding : Finding) :
    ∃ rest, Text.lineOf (findingItem finding) = "- " ++ rest := by
  refine ⟨"**" ++ finding.defect.label ++ "** `" ++ finding.fixture.text ++ "` @ " ++
    finding.generation.label ++ ": " ++ finding.message, ?_⟩
  refine (Text.lineOf_append _).trans ?_
  simp only [String.append_assoc]
  rfl

theorem lineOf_comparisonItem (comparison : Comparison) :
    ∃ rest, Text.lineOf (comparisonItem comparison) = "- " ++ rest := by
  refine ⟨"`" ++ comparison.fixture.text ++ "` " ++ comparison.lower.label ++ " -> " ++
    comparison.upper.label ++ ": " ++ comparison.verdict.label, ?_⟩
  refine (Text.lineOf_append _).trans ?_
  simp only [String.append_assoc]
  rfl

theorem closed_append_item (text name value : String) :
    Text.Closed (text ++ ("- " ++ name ++ ": " ++ value ++ "\n")) := by
  rw [← String.append_assoc]
  exact Text.closed_append_break _

theorem closed_statusSection (report : Report) : Text.Closed (statusSection report) := by
  unfold statusSection
  exact closed_append_item _ "Equivalence violations" _

theorem closed_matrixHeader (generations : List Generation) :
    Text.Closed (matrixHeader generations) := Text.closed_append_break _

variable (hunbroken : Unbroken chain report)
include hunbroken

theorem lines_chainSection : Text.lines (chainSection chain) =
    ["", "## Stages", "", "| Generation | Status | Path |", "|---|---|---|"] ++
      chain.toList.map fun (generation, slot) => Text.lineOf (slotRow generation slot) := by
  have hheading : Text.lines
      "\n## Stages\n\n| Generation | Status | Path |\n|---|---|---|\n" =
      ["", "## Stages", "", "| Generation | Status | Path |", "|---|---|---|"] := by
    decide
  unfold chainSection
  rw [Text.lines_append (by decide), lines_writeLines fun entry hmem =>
    isLine_slotRow (hunbroken.path entry hmem), hheading]

theorem closed_chainSection : Text.Closed (chainSection chain) :=
  Text.closed_append (by decide) (closed_writeLines fun entry hmem =>
    isLine_slotRow (hunbroken.path entry hmem))

theorem lines_matrixSection : Text.lines (matrixSection report) =
    if report.generations.isEmpty then []
    else ["", "## Matrix", ""] ++ Text.lines (matrixHeader report.generations) ++
      report.cells.entries.map fun (id, row) =>
        Text.lineOf (matrixRow report.generations id row) := by
  rw [matrixSection]
  split
  next => rfl
  next =>
    have hclosed : Text.Closed ("\n## Matrix\n\n" ++ matrixHeader report.generations) :=
      Text.closed_append (by decide) (closed_matrixHeader report.generations)
    rw [Text.lines_append hclosed, Text.lines_append (by decide), lines_writeLines
      fun entry hmem => isLine_matrixRow (hunbroken.row entry hmem)]
    rfl

theorem closed_matrixSection : Text.Closed (matrixSection report) := by
  rw [matrixSection]
  split
  next => decide
  next =>
    exact Text.closed_append (Text.closed_append (by decide) (closed_matrixHeader _))
      (closed_writeLines fun entry hmem => isLine_matrixRow (hunbroken.row entry hmem))

theorem lines_findingsSection : Text.lines (findingsSection report) =
    ["", "## Findings", ""] ++
      if report.findings.isEmpty then ["- None"]
      else report.findings.map fun finding => Text.lineOf (findingItem finding) := by
  have hheading : Text.lines "\n## Findings\n\n" = ["", "## Findings", ""] := by decide
  unfold findingsSection
  rw [Text.lines_append (by decide), hheading]
  split
  next => rfl
  next =>
    rw [lines_writeLines fun finding hmem =>
      isLine_findingItem (hunbroken.finding finding hmem).1 (hunbroken.finding finding hmem).2]

theorem closed_findingsSection : Text.Closed (findingsSection report) := by
  refine Text.closed_append (by decide) ?_
  split
  next => decide
  next =>
    exact closed_writeLines fun finding hmem =>
      isLine_findingItem (hunbroken.finding finding hmem).1 (hunbroken.finding finding hmem).2

theorem lines_comparisonsSection : Text.lines (comparisonsSection report) =
    ["", "## Equivalence", ""] ++
      if report.comparisons.isEmpty then ["- None"]
      else report.comparisons.map fun comparison => Text.lineOf (comparisonItem comparison) := by
  have hheading : Text.lines "\n## Equivalence\n\n" = ["", "## Equivalence", ""] := by decide
  unfold comparisonsSection
  rw [Text.lines_append (by decide), hheading]
  split
  next => rfl
  next =>
    rw [lines_writeLines fun comparison hmem =>
      isLine_comparisonItem (hunbroken.comparison comparison hmem)]

end Markdown

/-- Where names, paths and messages have no line breaks in them, both renderings keep their
    layout. -/
theorem layout_of_unbroken (hunbroken : Unbroken chain report) : Layout chain report where
  plainText := by
    have hchain := PlainText.closed_chainSection chain
    have hmatrix := Text.closed_append hchain (PlainText.closed_matrixSection hunbroken)
    have hfindings := Text.closed_append hmatrix (PlainText.closed_findingsSection hunbroken)
    have hsections : plainText chain report = PlainText.chainSection chain ++
        PlainText.matrixSection report ++ PlainText.findingsSection report ++
          (PlainText.tallySection report.tally ++ PlainText.resultSection report) :=
      String.append_assoc
    rw [hsections, Text.lines_append hfindings, Text.lines_append hmatrix,
      Text.lines_append hchain, PlainText.lines_chainSection hunbroken,
      PlainText.lines_matrixSection hunbroken, PlainText.lines_findingsSection hunbroken]
  markdown := by
    have hstatus := Markdown.closed_statusSection report
    have hchain := Text.closed_append hstatus (Markdown.closed_chainSection hunbroken)
    have hmatrix := Text.closed_append hchain (Markdown.closed_matrixSection hunbroken)
    have hfindings := Text.closed_append hmatrix (Markdown.closed_findingsSection hunbroken)
    unfold markdown
    rw [Text.lines_append hfindings, Text.lines_append hmatrix, Text.lines_append hchain,
      Text.lines_append hstatus, Markdown.lines_chainSection hunbroken,
      Markdown.lines_matrixSection hunbroken, Markdown.lines_findingsSection hunbroken,
      Markdown.lines_comparisonsSection hunbroken]
    simp only [List.append_assoc]
  slot_cells entry _ := Markdown.cells_slotRow entry.1 entry.2
  row_cells := by
    obtain ⟨header, rule, hlines, hheader, hrule⟩ :=
      Markdown.lines_matrixHeader report.generations
    refine ⟨header, rule, hlines, hrule.trans hheader.symm, fun entry _ => ?_⟩
    rw [Markdown.cells_matrixRow, hheader]
  finding_item finding _ := Markdown.lineOf_findingItem finding
  comparison_item comparison _ := Markdown.lineOf_comparisonItem comparison

end Report

theorem Text.oneLine_shown (text : String) : OneLine (shown text) := by
  intro c hmem
  constructor <;> rintro rfl <;> exact notMem_shown (by decide) hmem

namespace Matrix

open Report

variable {ρ : Type} {matrix : Matrix} {arrivals : List Arrival} {cancelled : Bool}
  {finding : Finding}

theorem mem_ids_of_row {entry : FixtureId × Row}
    (hmem : entry ∈ (matrix.report arrivals cancelled).cells.entries) :
    entry.1 ∈ matrix.fixtures.map Fixture.id :=
  isSome_get?_cellsOf.1 (Option.isSome_iff_exists.2 ⟨_, SortedMap.get?_eq_some_iff.2 hmem⟩)

theorem mem_ids_of_comparison {comparison : Comparison}
    (hmem : comparison ∈ (matrix.report arrivals cancelled).comparisons) :
    comparison.fixture ∈ matrix.fixtures.map Fixture.id :=
  isSome_get?_cellsOf.1 (mem_comparisonsOf_iff.1 hmem).2.1

/-- A finding is about a fixture of the matrix. -/
theorem mem_ids_of_finding (hmem : finding ∈ (matrix.report arrivals cancelled).findings) :
    finding.fixture ∈ matrix.fixtures.map Fixture.id := by
  obtain hfound | hfound := mem_findings_assemble.1 hmem
  · obtain ⟨id, generation, cell, hcell, hfinding⟩ := mem_cellFindings_iff.1 hfound
    obtain ⟨row, hrow, -⟩ := Option.bind_eq_some_iff.1 hcell
    have hid := isSome_get?_cellsOf.1 (Option.isSome_iff_exists.2 ⟨row, hrow⟩)
    obtain ⟨_, _, _, -, -, rfl⟩ | ⟨_, -, -, rfl⟩ := cellFinding?_cases hfinding <;> exact hid
  · obtain ⟨comparison, hcomparison, hviolation⟩ := List.mem_filterMap.1 hfound
    obtain ⟨lower, upper, -, rfl⟩ := violation?_eq_some_iff.1 hviolation
    exact isSome_get?_cellsOf.1 (mem_comparisonsOf_iff.1 hcomparison).2.1

/-- What a mismatch or a violation says stands on one line, whatever the programs printed. -/
theorem Genuine.oneLine_message (hgenuine : matrix.Genuine arrivals)
    (hmem : finding ∈ (matrix.report arrivals cancelled).findings)
    (hdefect : finding.defect ≠ .pipelineFailure) : Text.OneLine finding.message := by
  cases hkind : finding.defect with
  | equivalenceViolation =>
    obtain ⟨lower, output, other, -, -, -, hmessage⟩ := hgenuine.violation hmem hkind
    rw [hmessage]
    simp only [Text.oneLine_append]
    exact ⟨⟨⟨⟨⟨⟨⟨lower.isWord_label.oneLine, by decide⟩, Text.oneLine_shown _⟩, by decide⟩,
      finding.generation.isWord_label.oneLine⟩, by decide⟩, Text.oneLine_shown _⟩, by decide⟩
  | pipelineFailure => exact absurd hkind hdefect
  | outputMismatch =>
    obtain ⟨fixture, output, -, -, -, hmessage⟩ := hgenuine.mismatch hmem hkind
    rw [hmessage, mismatchMessage]
    simp only [Text.oneLine_append]
    exact ⟨⟨⟨⟨by decide, Text.oneLine_shown _⟩, by decide⟩, Text.oneLine_shown _⟩, by decide⟩

/-- In the report on a run, apart from the names of the fixtures and the paths of the chain, only
    what a failure says can break a line. -/
theorem unbroken_report (matrix : Matrix) (runner : Stage → Fixture → Runner ρ) (world : World ρ)
    (schedule : List Action) {chain : Chain}
    (hpaths : ∀ entry ∈ chain.toList, Text.OneLine entry.2.path.shown)
    (hids : ∀ fixture ∈ matrix.fixtures, Text.OneLine fixture.id.text)
    (hfailures : ∀ finding ∈ (matrix.reportOf (matrix.follow runner world schedule)).findings,
      finding.defect = .pipelineFailure → Text.OneLine finding.message) :
    Unbroken chain (matrix.reportOf (matrix.follow runner world schedule)) := by
  have hgenuine : matrix.Genuine (matrix.follow runner world schedule).arrivals :=
    genuine_follow matrix runner world schedule
  have hnames : ∀ id ∈ matrix.fixtures.map Fixture.id, Text.OneLine id.text :=
    List.forall_mem_map.2 hids
  refine ⟨hpaths, fun entry hmem => hnames _ (mem_ids_of_row hmem), fun finding hmem => ?_,
    fun comparison hmem => hnames _ (mem_ids_of_comparison hmem)⟩
  refine ⟨hnames _ (mem_ids_of_finding hmem), ?_⟩
  by_cases hdefect : finding.defect = .pipelineFailure
  · exact hfailures finding hmem hdefect
  · exact hgenuine.oneLine_message hmem hdefect

end Matrix

namespace Report

/-- A report on one fixture with a finding and a comparison, all on one line each. -/
def orderly : Report where
  cells := .ofList [(⟨"a"⟩, .ofList [(.first, .skipped)])]
  comparisons := [⟨⟨"a"⟩, .first, Matrix.secondGeneration, .equivalent⟩]
  findings := [⟨.pipelineFailure, ⟨"a"⟩, .first, "compile of stage1/a cancelled"⟩]

theorem layout_of_unbroken_orderly :
    Unbroken Matrix.twoCompilers orderly ∧ Layout Matrix.twoCompilers orderly := by
  have hunbroken : Unbroken Matrix.twoCompilers orderly := by
    constructor <;> decide
  exact ⟨hunbroken, layout_of_unbroken hunbroken⟩

/-- A fixture whose name has a bar and a line feed in it, which a path may have. -/
def unevenFiles : FileSystem where
  nodes := [
    (["t"].map Utf8.encode, .dir),
    (["t", "a|b\nc.c"].map Utf8.encode, .file [] 0o644),
    (["t", "a|b\nc.expected"].map Utf8.encode, .file [] 0o644)]

def unevenFixtures : List Fixture := [⟨⟨"a|b\nc"⟩, .ofText "t/a|b\nc.c", []⟩]

/-- The report on a run that was cancelled before it began. -/
def unevenReport : Report :=
  ((Matrix.select { artifactDir := ⟨[]⟩ } 1 (Chain.empty.addAvailable ⟨.first, .ofText "c"⟩)
    unevenFixtures {}).evaluate Matrix.noProgram
      { files := unevenFiles, cancelled := true, memory := () }).1

/-- A name that is found among the fixtures can take two lines, and one cell too many. -/
theorem unevenReport_breaks :
    Catalog.discover unevenFiles (.ofText "t") {} = .ok ⟨unevenFixtures, []⟩ ∧
      unevenReport.cells.keys = [⟨"a|b\nc"⟩] ∧
      Text.lines (PlainText.matrixSection unevenReport) =
        ["matrix:", "  a|b", "c: stage1=skipped"] ∧
      Text.lines (Markdown.matrixSection unevenReport) =
        ["", "## Matrix", "", "| Fixture | stage1 |", "|---|---|", "| `a|b", "c` | skipped |"] ∧
      Table.cells "| Fixture | stage1 |" = 2 ∧
      Table.cells (Markdown.matrixRow [.first] ⟨"a|b"⟩ .empty) = 3 := by
  decide +kernel

end Report

end BootChain
