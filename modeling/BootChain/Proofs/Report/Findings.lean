import BootChain.Proofs.Report.Comparisons

namespace BootChain

/-- The labels of causes are words of their own. -/
theorem Cause.label_notMem (cause : Cause) :
    cause.label ∉ ["not_evaluated", "skipped", "pass", "mismatch"] := by
  cases cause <;> simp [label]

namespace Cell

/-- The trial of a cell, if it has one, gives an output just if it has not failed. -/
def Settled (cell : Cell) : Prop :=
  ∀ trial, cell.trial? = some trial → (trial.succeeded = true ↔ trial.failure = none)

/-- The trial succeeded and met its expectation. -/
def passes : Cell → Bool
  | evaluated trial matchesExpected => trial.succeeded && matchesExpected
  | _ => false

/-- The trial did not succeed. -/
def fails : Cell → Bool
  | evaluated trial _ => !trial.succeeded
  | _ => false

/-- The trial succeeded without meeting its expectation. -/
def mismatches : Cell → Bool
  | evaluated trial matchesExpected => trial.succeeded && !matchesExpected
  | _ => false

variable {cell : Cell}

theorem label_eq_pass_iff (hsettled : cell.Settled) :
    cell.label = "pass" ↔ cell.passes = true := by
  cases cell with
  | notEvaluated path => simp [label, passes]
  | skipped => simp [label, passes]
  | evaluated trial matchesExpected =>
    rw [passes, Bool.and_eq_true, hsettled trial rfl]
    cases hfailure : trial.failure with
    | none => cases matchesExpected <;> simp [label, hfailure]
    | some failure =>
      have hother := failure.cause.label_notMem
      simp_all [label]

theorem label_eq_mismatch_iff (hsettled : cell.Settled) :
    cell.label = "mismatch" ↔ cell.mismatches = true := by
  cases cell with
  | notEvaluated path => simp [label, mismatches]
  | skipped => simp [label, mismatches]
  | evaluated trial matchesExpected =>
    rw [mismatches, Bool.and_eq_true, hsettled trial rfl]
    cases hfailure : trial.failure with
    | none => cases matchesExpected <;> simp [label, hfailure]
    | some failure =>
      have hother := failure.cause.label_notMem
      simp_all [label]

/-- Only a cell whose trial failed has the label of a cause. -/
theorem exists_label_eq_iff (hsettled : cell.Settled) :
    (∃ cause : Cause, cell.label = cause.label) ↔ cell.fails = true := by
  have hword : cell.label ∈ ["not_evaluated", "skipped", "pass", "mismatch"] →
      ¬ ∃ cause : Cause, cell.label = cause.label := by
    rintro hmem ⟨cause, hcause⟩
    exact cause.label_notMem (hcause ▸ hmem)
  cases cell with
  | notEvaluated path => exact iff_of_false (hword (by simp [label])) Bool.false_ne_true
  | skipped => exact iff_of_false (hword (by simp [label])) Bool.false_ne_true
  | evaluated trial matchesExpected =>
    have hsucceeded := hsettled trial rfl
    cases hfailure : trial.failure with
    | none =>
      refine iff_of_false (hword ?_) (by simp [fails, hsucceeded.2 hfailure])
      cases matchesExpected <;> simp [label, hfailure]
    | some failure =>
      refine iff_of_true ⟨failure.cause, by simp [label, hfailure]⟩ ?_
      simp [fails, hfailure, ← Bool.not_eq_true, hsucceeded]

/-- Each cell is of one kind. -/
theorem countP_evaluated (cells : List Cell) :
    cells.countP passes + cells.countP fails + cells.countP mismatches =
      cells.countP fun cell => cell.trial?.isSome := by
  induction cells with
  | nil => rfl
  | cons cell rest ih =>
    simp only [List.countP_cons, ← ih]
    cases cell with
    | notEvaluated path => simp [passes, fails, mismatches, trial?]
    | skipped => simp [passes, fails, mismatches, trial?]
    | evaluated trial matchesExpected =>
      cases hsucceeded : trial.succeeded <;> cases matchesExpected <;>
        simp [passes, fails, mismatches, trial?, hsucceeded] <;> omega

theorem countP_add (cells : List Cell) :
    (cells.countP fun cell => cell.trial?.isSome) + cells.countP (· = .skipped) +
      cells.countP isNotEvaluated = cells.length := by
  induction cells with
  | nil => rfl
  | cons cell rest ih =>
    simp only [List.countP_cons, List.length_cons, ← ih]
    cases cell <;> simp [isNotEvaluated, trial?] <;> omega

end Cell

/-- The pair that a finding is about. -/
def Finding.pair (finding : Finding) : FixtureId × Generation :=
  (finding.fixture, finding.generation)

/-- The pair at the upper side of a comparison. -/
def Comparison.upperPair (comparison : Comparison) : FixtureId × Generation :=
  (comparison.fixture, comparison.upper)

/-- How many defects of a kind a tally counts. -/
def Tally.count (tally : Tally) : Defect → Nat
  | .equivalenceViolation => tally.violations
  | .pipelineFailure => tally.pipelineFailures
  | .outputMismatch => tally.outputMismatches

/-- Violations of equivalence are graver than failures, and these are graver than mismatches. -/
inductive Defect.Graver : Defect → Defect → Prop
  | violation_failure : Graver .equivalenceViolation .pipelineFailure
  | violation_mismatch : Graver .equivalenceViolation .outputMismatch
  | failure_mismatch : Graver .pipelineFailure .outputMismatch

theorem Defect.compare_rank_eq_eq {first second : Defect} :
    compare first.rank second.rank = .eq ↔ first = second := by
  cases first <;> cases second <;> simp [rank]

theorem Defect.compare_rank_eq_lt {first second : Defect} :
    compare first.rank second.rank = .lt ↔ first.Graver second := by
  rw [Nat.compare_eq_lt]
  constructor
  · intro hlt
    cases first <;> cases second <;> first | constructor | exact absurd hlt (by decide)
  · intro hgraver
    cases hgraver <;> decide

namespace Finding

/-- A finding stands before another if it is graver, or as grave and about an earlier fixture, or
    about an earlier generation of the same one. -/
theorem order_eq_lt_iff {a b : Finding} : a.order b = .lt ↔ a.defect.Graver b.defect ∨
    a.defect = b.defect ∧ (a.fixture.text < b.fixture.text ∨
      a.fixture = b.fixture ∧ a.generation.number < b.generation.number) := by
  have hfixture : compare a.fixture b.fixture = .lt ↔ a.fixture.text < b.fixture.text :=
    compareOfLessAndEq_eq_lt
  rw [order, Ordering.then_eq_lt, Ordering.then_eq_lt, Defect.compare_rank_eq_lt,
    Defect.compare_rank_eq_eq, hfixture, Std.LawfulEqCmp.compare_eq_iff_eq,
    Generation.compare_eq_lt]

/-- Only findings of one kind about one pair stand level with each other. -/
theorem order_eq_eq_iff {a b : Finding} :
    a.order b = .eq ↔ a.defect = b.defect ∧ a.pair = b.pair := by
  rw [order, Ordering.then_eq_eq, Ordering.then_eq_eq, Defect.compare_rank_eq_eq,
    Std.LawfulEqCmp.compare_eq_iff_eq, Std.LawfulEqCmp.compare_eq_iff_eq, pair, pair,
    Prod.mk.injEq]

instance : Std.TransCmp order :=
  inferInstanceAs (Std.TransCmp (compareLex (compareOn fun finding => finding.defect.rank)
    (compareLex (compareOn fixture) (compareOn generation))))

theorem isLE_total (a b : Finding) : ((a.order b).isLE || (b.order a).isLE) = true := by
  have hswap : b.order a = (a.order b).swap := Std.OrientedCmp.eq_swap
  rw [hswap]
  cases a.order b <;> rfl

/-- Findings are apart from each other if no two of one kind are about one pair. -/
theorem pairwise_of_nodup {findings : List Finding}
    (hpairs : ∀ defect, ((findings.filter (·.defect = defect)).map pair).Nodup) :
    findings.Pairwise fun a b => a.order b ≠ .eq := by
  induction findings with
  | nil => exact .nil
  | cons first rest ih =>
    refine List.pairwise_cons.2 ⟨fun other hother hlevel => ?_, ih fun defect => ?_⟩
    · obtain ⟨hdefect, hpair⟩ := order_eq_eq_iff.1 hlevel
      have hfirst := hpairs first.defect
      rw [List.filter_cons_of_pos (by simp), List.map_cons, List.nodup_cons] at hfirst
      refine hfirst.1 (hpair ▸ List.mem_map_of_mem (List.mem_filter.2 ⟨hother, ?_⟩))
      exact decide_eq_true hdefect.symm
    · exact (hpairs defect).sublist (((List.sublist_cons_self first rest).filter _).map _)

end Finding

namespace Report

variable {chain : Chain} {fixtures : List Fixture} {cells : SortedMap FixtureId Row}
  {report : Report} {id : FixtureId} {generation : Generation} {cell : Cell} {defect : Defect}

/-- What is left of a list and then mapped is picked and mapped at once. -/
theorem map_filter_eq_filterMap {α β : Type} (condition : α → Bool) (f : α → β) (list : List α) :
    (list.filter condition).map f =
      list.filterMap fun item => if condition item then some (f item) else none := by
  rw [← List.filterMap_eq_filter, List.map_filterMap]
  simp [Option.guard_apply]

/-- All cells with their pairs, row by row. -/
def pairedCells (cells : SortedMap FixtureId Row) : List ((FixtureId × Generation) × Cell) :=
  cells.entries.flatMap fun (id, row) =>
    row.entries.map fun (generation, cell) => ((id, generation), cell)

theorem mem_pairedCells_iff :
    ((id, generation), cell) ∈ pairedCells cells ↔ cellAt? cells id generation = some cell := by
  simp only [pairedCells, List.mem_flatMap, List.mem_map, Prod.exists, Prod.mk.injEq, cellAt?,
    Option.bind_eq_some_iff, SortedMap.get?_eq_some_iff]
  constructor
  · rintro ⟨_, row, hrow, _, _, hcell, ⟨rfl, rfl⟩, rfl⟩
    exact ⟨row, hrow, hcell⟩
  · rintro ⟨row, hrow, hcell⟩
    exact ⟨id, row, hrow, generation, cell, hcell, ⟨rfl, rfl⟩, rfl⟩

theorem map_snd_pairedCells : (pairedCells report.cells).map Prod.snd = report.allCells := by
  simp only [pairedCells, allCells, SortedMap.values, List.map_flatMap, List.flatMap_map,
    List.map_map]
  rfl

theorem nodup_pairedCells (cells : SortedMap FixtureId Row) :
    ((pairedCells cells).map Prod.fst).Nodup := by
  rw [List.Nodup, List.pairwise_map, pairedCells, List.pairwise_flatMap]
  constructor
  · rintro ⟨id, row⟩ -
    refine List.pairwise_map.2 (row.ascending.imp fun hlt => ?_)
    exact fun hpair => SortedMap.ne_of_compare_lt hlt (congrArg Prod.snd hpair)
  · refine cells.ascending.imp fun hlt first hfirst second hsecond => ?_
    obtain ⟨-, -, rfl⟩ := List.mem_map.1 hfirst
    obtain ⟨-, -, rfl⟩ := List.mem_map.1 hsecond
    exact fun hpair => SortedMap.ne_of_compare_lt hlt (Prod.mk.inj hpair).1

/-- The pairs whose cells meet a condition, row by row. -/
def pairsWhere (cells : SortedMap FixtureId Row) (condition : Cell → Bool) :
    List (FixtureId × Generation) :=
  ((pairedCells cells).filter (condition ·.2)).map Prod.fst

theorem nodup_pairsWhere (cells : SortedMap FixtureId Row) (condition : Cell → Bool) :
    (pairsWhere cells condition).Nodup :=
  (nodup_pairedCells cells).sublist (List.filter_sublist.map _)

theorem length_pairsWhere (condition : Cell → Bool) :
    (pairsWhere report.cells condition).length = report.allCells.countP condition := by
  rw [pairsWhere, List.length_map, ← List.countP_eq_length_filter, ← map_snd_pairedCells,
    List.countP_map]
  rfl

/-- The pairs at which there is a defect of a kind, by the cells and the comparisons alone. -/
def defectivePairs (report : Report) : Defect → List (FixtureId × Generation)
  | .equivalenceViolation =>
    (report.comparisons.filter (·.verdict.isDiverged)).map Comparison.upperPair
  | .pipelineFailure => pairsWhere report.cells Cell.fails
  | .outputMismatch => pairsWhere report.cells Cell.mismatches

theorem length_defectivePairs (report : Report) (defect : Defect) :
    (report.defectivePairs defect).length = report.tally.count defect := by
  cases defect with
  | equivalenceViolation =>
    rw [defectivePairs, List.length_map, ← List.countP_eq_length_filter]
    rfl
  | pipelineFailure => exact length_pairsWhere _
  | outputMismatch => exact length_pairsWhere _

theorem nodup_upperPairs : ((comparisonsOf chain cells).map Comparison.upperPair).Nodup := by
  refine List.pairwise_map.2 ((ascending_comparisonsOf chain cells).imp_of_mem ?_)
  intro a b ha hb hlt hpair
  have hfixture : a.fixture = b.fixture := congrArg Prod.fst hpair
  have hupper : a.upper = b.upper := congrArg Prod.snd hpair
  have hlower : a.lower = b.lower := by
    have hfirst := (Chain.mem_links_iff.1 (mem_comparisonsOf_iff.1 ha).1).2.2
    have hsecond := (Chain.mem_links_iff.1 (mem_comparisonsOf_iff.1 hb).1).2.2
    rw [hupper] at hfirst
    exact Generation.ext (by omega)
  rw [hlower, hfixture, Std.ReflOrd.compare_self, Std.ReflOrd.compare_self] at hlt
  cases hlt

/-- The kind and the place of the finding of a cell. -/
theorem map_pair_cellFinding? (hsettled : cell.Settled) :
    ((cellFinding? fixtures id generation cell).filter (·.defect = defect)).map Finding.pair =
      match defect with
      | .equivalenceViolation => none
      | .pipelineFailure => if cell.fails then some (id, generation) else none
      | .outputMismatch => if cell.mismatches then some (id, generation) else none := by
  cases cell with
  | notEvaluated path => cases defect <;> rfl
  | skipped => cases defect <;> rfl
  | evaluated trial matchesExpected =>
    have hsucceeded := hsettled trial rfl
    cases hfailure : trial.failure with
    | none =>
      have hsuccess : trial.succeeded = true := hsucceeded.2 hfailure
      cases matchesExpected <;> cases defect <;>
        simp [cellFinding?, Cell.fails, Cell.mismatches, hfailure, hsuccess, Finding.pair]
    | some failure =>
      have hfailed : trial.succeeded = false := by simp [← Bool.not_eq_true, hsucceeded, hfailure]
      cases defect <;>
        simp [cellFinding?, Cell.fails, Cell.mismatches, hfailure, hfailed, Finding.pair]

theorem cellFindings_eq : cellFindings fixtures cells =
    (pairedCells cells).filterMap fun paired =>
      cellFinding? fixtures paired.1.1 paired.1.2 paired.2 := by
  simp only [cellFindings, pairedCells, List.filterMap_flatMap, List.filterMap_map]
  rfl

/-- The findings of the cells stand, for each kind, at the pairs whose cells are of that kind. -/
theorem map_pair_cellFindings
    (hsettled : ∀ id generation cell, cellAt? cells id generation = some cell → cell.Settled) :
    ((cellFindings fixtures cells).filter (·.defect = defect)).map Finding.pair =
      match defect with
      | .equivalenceViolation => []
      | .pipelineFailure => pairsWhere cells Cell.fails
      | .outputMismatch => pairsWhere cells Cell.mismatches := by
  have hfound : ((cellFindings fixtures cells).filter (·.defect = defect)).map Finding.pair =
      (pairedCells cells).filterMap fun paired =>
        match defect with
        | .equivalenceViolation => none
        | .pipelineFailure => if paired.2.fails then some paired.1 else none
        | .outputMismatch => if paired.2.mismatches then some paired.1 else none := by
    rw [cellFindings_eq, List.filter_filterMap, List.map_filterMap]
    refine List.filterMap_congr fun ⟨⟨id, generation⟩, cell⟩ hmem => ?_
    exact map_pair_cellFinding? (hsettled id generation cell (mem_pairedCells_iff.1 hmem))
  rw [hfound]
  cases defect with
  | equivalenceViolation => exact List.filterMap_eq_nil_iff.2 fun _ _ => rfl
  | pipelineFailure => exact (map_filter_eq_filterMap _ _ _).symm
  | outputMismatch => exact (map_filter_eq_filterMap _ _ _).symm

/-- The violations stand at the upper pairs of the comparisons that diverge. -/
theorem map_pair_violations (comparisons : List Comparison) :
    ((comparisons.filterMap violation?).filter (·.defect = defect)).map Finding.pair =
      match defect with
      | .equivalenceViolation =>
        (comparisons.filter (·.verdict.isDiverged)).map Comparison.upperPair
      | _ => [] := by
  have hfound : ∀ comparison ∈ comparisons,
      ((violation? comparison).filter (·.defect = defect)).map Finding.pair =
        match defect with
        | .equivalenceViolation =>
          if comparison.verdict.isDiverged then some comparison.upperPair else none
        | _ => none := by
    intro comparison _
    cases hverdict : comparison.verdict <;> cases defect <;>
      simp [violation?, hverdict, Verdict.isDiverged, Finding.pair, Comparison.upperPair]
  rw [List.filter_filterMap, List.map_filterMap, List.filterMap_congr hfound]
  cases defect with
  | equivalenceViolation => exact (map_filter_eq_filterMap _ _ _).symm
  | pipelineFailure => exact List.filterMap_eq_nil_iff.2 fun _ _ => rfl
  | outputMismatch => exact List.filterMap_eq_nil_iff.2 fun _ _ => rfl

section

variable {arrivals : List Arrival}

theorem nodup_defectivePairs (cancelled : Bool) (defect : Defect) :
    ((assemble chain fixtures arrivals cancelled).defectivePairs defect).Nodup := by
  cases defect with
  | equivalenceViolation => exact nodup_upperPairs.sublist (List.filter_sublist.map _)
  | pipelineFailure => exact nodup_pairsWhere _ _
  | outputMismatch => exact nodup_pairsWhere _ _

variable (hsettled : ∀ id generation cell,
  cellAt? (cellsOf chain fixtures arrivals) id generation = some cell → cell.Settled)
include hsettled

/-- Where each cell is settled, there is a finding of a kind for each pair with a defect of that
    kind, and no other. -/
theorem findings_perm_assemble (cancelled : Bool) (defect : Defect) :
    let report := assemble chain fixtures arrivals cancelled
    ((report.findingsOf defect).map Finding.pair).Perm (report.defectivePairs defect) := by
  intro report
  have hsorted := ((List.mergeSort_perm (cellFindings fixtures (cellsOf chain fixtures arrivals) ++
    (comparisonsOf chain (cellsOf chain fixtures arrivals)).filterMap violation?)
    fun a b => (Finding.order a b).isLE).filter (·.defect = defect)).map Finding.pair
  rw [List.filter_append, List.map_append, map_pair_cellFindings hsettled,
    map_pair_violations] at hsorted
  cases defect with
  | equivalenceViolation => exact hsorted
  | pipelineFailure => rwa [List.append_nil] at hsorted
  | outputMismatch => rwa [List.append_nil] at hsorted

/-- The findings of a report ascend: by their kind, then by fixture, then by generation. -/
theorem ascending_findings_assemble (cancelled : Bool) :
    (assemble chain fixtures arrivals cancelled).findings.Pairwise fun a b => a.order b = .lt := by
  have hapart := Finding.pairwise_of_nodup fun defect =>
    (findings_perm_assemble hsettled cancelled defect).nodup_iff.2
      (nodup_defectivePairs cancelled defect)
  have hsorted : (assemble chain fixtures arrivals cancelled).findings.Pairwise
      fun a b => (a.order b).isLE = true :=
    List.pairwise_mergeSort (fun _ _ _ => Std.TransCmp.isLE_trans) Finding.isLE_total _
  refine hsorted.imp₂ (fun a b hle hne => ?_) hapart
  cases horder : a.order b with
  | lt => rfl
  | eq => exact absurd horder hne
  | gt => simp [horder] at hle

end

/-- Four accounts of the defects of a report agree: its findings, its tally, the words for its
    cells, and its cells and comparisons themselves. The findings ascend, so that there is just one
    for each pair with a defect of their kind. -/
structure Reconciled (report : Report) : Prop where
  /-- The findings stand by their gravity, then by fixture, then by generation. -/
  ascending : report.findings.Pairwise fun a b => a.defect.Graver b.defect ∨
    a.defect = b.defect ∧ (a.fixture.text < b.fixture.text ∨
      a.fixture = b.fixture ∧ a.generation.number < b.generation.number)
  findings_perm : ∀ defect,
    ((report.findingsOf defect).map Finding.pair).Perm (report.defectivePairs defect)
  count_eq : ∀ defect, report.tally.count defect = (report.findingsOf defect).length
  passed_eq : report.tally.passed = report.allCells.countP Cell.passes
  pipelineFailures_eq : report.tally.pipelineFailures = report.allCells.countP Cell.fails
  outputMismatches_eq : report.tally.outputMismatches = report.allCells.countP Cell.mismatches
  evaluated_eq : report.tally.passed + report.tally.pipelineFailures +
    report.tally.outputMismatches = report.tally.evaluated
  cells_eq : report.tally.evaluated + report.tally.skipped + report.tally.notEvaluated =
    report.allCells.length
  label_eq_pass : ∀ cell ∈ report.allCells, cell.label = "pass" ↔ cell.passes = true
  label_eq_mismatch : ∀ cell ∈ report.allCells, cell.label = "mismatch" ↔ cell.mismatches = true
  label_eq_cause : ∀ cell ∈ report.allCells,
    (∃ cause : Cause, cell.label = cause.label) ↔ cell.fails = true

end Report

namespace Matrix

open Report

variable {ρ : Type} {matrix : Matrix} {arrivals : List Arrival} {cancelled : Bool}

theorem Genuine.settled (hgenuine : matrix.Genuine arrivals) {id : FixtureId}
    {generation : Generation} {cell : Cell}
    (hcell : (matrix.report arrivals cancelled).cell? id generation = some cell) :
    cell.Settled := by
  obtain ⟨slot, -, rfl⟩ | ⟨stage, trial, -, hcompleted, rfl⟩ := hgenuine.cell_cases hcell
  · cases slot <;> exact fun trial htrial => by cases htrial
  · rintro _ ⟨⟩
    exact hcompleted.succeeded_iff

/-- The accounts that the report on any run gives of its defects agree with each other. -/
theorem reconciled_report (matrix : Matrix) (runner : Stage → Fixture → Runner ρ)
    (world : World ρ) (schedule : List Action) :
    (matrix.reportOf (matrix.follow runner world schedule)).Reconciled := by
  have hgenuine : matrix.Genuine (matrix.follow runner world schedule).arrivals :=
    genuine_follow matrix runner world schedule
  generalize matrix.follow runner world schedule = run at hgenuine
  have hcells : ∀ id generation cell,
      (matrix.reportOf run).cell? id generation = some cell → cell.Settled :=
    fun _ _ _ hcell => hgenuine.settled hcell
  have hsettled : ∀ cell ∈ (matrix.reportOf run).allCells, cell.Settled := by
    intro cell hmem
    obtain ⟨id, generation, hcell⟩ := mem_allCells_iff.1 hmem
    exact hcells id generation cell hcell
  have hperm : ∀ defect, (((matrix.reportOf run).findingsOf defect).map Finding.pair).Perm
      ((matrix.reportOf run).defectivePairs defect) :=
    findings_perm_assemble hcells _
  exact {
    ascending := (ascending_findings_assemble hcells _).imp Finding.order_eq_lt_iff.1
    findings_perm := hperm
    count_eq := fun defect => by
      rw [← List.length_map Finding.pair, (hperm defect).length_eq, length_defectivePairs]
    passed_eq := rfl
    pipelineFailures_eq := rfl
    outputMismatches_eq := rfl
    evaluated_eq := Cell.countP_evaluated _
    cells_eq := Cell.countP_add _
    label_eq_pass := fun cell hmem => Cell.label_eq_pass_iff (hsettled cell hmem)
    label_eq_mismatch := fun cell hmem => Cell.label_eq_mismatch_iff (hsettled cell hmem)
    label_eq_cause := fun cell hmem => Cell.exists_label_eq_iff (hsettled cell hmem) }

end Matrix

end BootChain
