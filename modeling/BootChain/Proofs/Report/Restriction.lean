import BootChain.Matrix
import BootChain.Proofs.Report.Findings

namespace BootChain

/-- A list splits in one way only into what passes a test and, after that, what does not. -/
theorem eq_of_append_eq {α : Type} {test : α → Bool} {before after front back : List α}
    (hbefore : ∀ item ∈ before, test item = true) (hafter : ∀ item ∈ after, test item = false)
    (hfront : ∀ item ∈ front, test item = true) (hback : ∀ item ∈ back, test item = false)
    (heq : before ++ after = front ++ back) : before = front ∧ after = back := by
  have hfirst : before = front := by
    have hpassed := congrArg (List.filter test) heq
    rwa [List.filter_append, List.filter_append, List.filter_eq_self.2 hbefore,
      List.filter_eq_self.2 hfront,
      List.filter_eq_nil_iff.2 fun item hitem => by simp [hafter item hitem],
      List.filter_eq_nil_iff.2 fun item hitem => by simp [hback item hitem], List.append_nil,
      List.append_nil] at hpassed
  rw [hfirst] at heq
  exact ⟨hfirst, List.append_cancel_left heq⟩

/-- Where a stable sort puts a new first member: right before what it is not above. -/
theorem mergeSort_cons_eq {α : Type} {le : α → α → Bool}
    (htrans : ∀ a b c, le a b = true → le b c = true → le a c = true)
    (htotal : ∀ a b, (le a b || le b a) = true) (first : α) {rest before after : List α}
    (hrest : rest.mergeSort le = before ++ after)
    (hbefore : ∀ item ∈ before, (!le first item) = true)
    (hafter : ∀ item ∈ after, (!le first item) = false) :
    (first :: rest).mergeSort le = before ++ first :: after := by
  obtain ⟨front, back, hwhole, hparts, hfront⟩ := List.mergeSort_cons htrans htotal first rest
  have hsorted := List.pairwise_mergeSort htrans htotal (first :: rest)
  rw [hwhole] at hsorted
  have hback : ∀ item ∈ back, (!le first item) = false := fun item hitem => by
    simp [(List.pairwise_cons.1 (List.pairwise_append.1 hsorted).2.1).1 item hitem]
  obtain ⟨rfl, rfl⟩ := eq_of_append_eq hbefore hafter hfront hback (hrest.symm.trans hparts)
  exact hwhole

/-- What stays of a stably sorted list is sorted as it would be on its own. -/
theorem filter_mergeSort {α : Type} {le : α → α → Bool}
    (htrans : ∀ a b c, le a b = true → le b c = true → le a c = true)
    (htotal : ∀ a b, (le a b || le b a) = true) (keep : α → Bool) (list : List α) :
    (list.mergeSort le).filter keep = (list.filter keep).mergeSort le := by
  induction list with
  | nil => simp
  | cons first rest ih =>
    obtain ⟨before, after, hwhole, hrest, hbefore⟩ := List.mergeSort_cons htrans htotal first rest
    have hsorted := List.pairwise_mergeSort htrans htotal (first :: rest)
    rw [hwhole] at hsorted
    have hafter := (List.pairwise_cons.1 (List.pairwise_append.1 hsorted).2.1).1
    rw [hrest, List.filter_append] at ih
    rw [hwhole, List.filter_append]
    by_cases hkeep : keep first = true
    · rw [List.filter_cons_of_pos hkeep, List.filter_cons_of_pos hkeep]
      refine (mergeSort_cons_eq htrans htotal first ih.symm ?_ ?_).symm
      · exact fun item hitem => hbefore item (List.mem_filter.1 hitem).1
      · exact fun item hitem => by simp [hafter item (List.mem_filter.1 hitem).1]
    · rw [List.filter_cons_of_neg hkeep, List.filter_cons_of_neg hkeep, ih]

/-- What comes of the items that pass a test. -/
theorem flatMap_filter {α β : Type} (keep : α → Bool) (f : α → List β) (list : List α) :
    (list.filter keep).flatMap f = list.flatMap fun item => if keep item then f item else [] := by
  induction list with
  | nil => rfl
  | cons item rest ih => by_cases hkeep : keep item = true <;> simp [hkeep, ih]

/-- The comparison of the two generations of a link in one row. -/
def Report.rowComparison (link : Generation × Generation) (entry : FixtureId × Row) : Comparison :=
  ⟨entry.1, link.1, link.2,
    compareTrials link.1 link.2 ((entry.2.get? link.1).bind Cell.trial?)
      ((entry.2.get? link.2).bind Cell.trial?)⟩

theorem Report.comparisonsOf_eq {chain : Chain} {cells : SortedMap FixtureId Row} :
    comparisonsOf chain cells =
      chain.links.flatMap fun link => cells.entries.map (rowComparison link) := rfl

namespace Selection

def selectsGeneration (selection : Selection) (generation : Generation) : Bool :=
  selection.generations.isEmpty || selection.generations.contains generation

def selectsPair (selection : Selection) (id : FixtureId) (generation : Generation) : Bool :=
  selection.selects id && selection.selectsGeneration generation

/-- A comparison is selected with its fixture and both of its generations. -/
def selectsComparison (selection : Selection) (comparison : Comparison) : Bool :=
  selection.selects comparison.fixture && selection.selectsGeneration comparison.lower &&
    selection.selectsGeneration comparison.upper

/-- The selected part of the cells of a report. -/
def cellsOf (selection : Selection) (cells : SortedMap FixtureId Row) : SortedMap FixtureId Row :=
  (cells.filterKeys selection.selects).mapWithKey fun _ row =>
    row.filterKeys selection.selectsGeneration

variable {selection : Selection} {chain : Chain} {fixtures : List Fixture}
  {cells : SortedMap FixtureId Row} {arrival : Arrival} {arrivals : List Arrival}
  {id : FixtureId} {generation : Generation}

theorem slots_chain (selection : Selection) (whole : Chain) :
    (selection.chain whole).slots = whole.slots.filterKeys selection.selectsGeneration := by
  by_cases hnone : selection.generations.isEmpty = true
  · rw [chain, if_pos hnone]
    exact (SortedMap.filterKeys_eq_self _ fun generation => by simp [selectsGeneration, hnone]).symm
  · have hlisted : selection.selectsGeneration = selection.generations.contains := by
      funext generation
      simp [selectsGeneration, hnone]
    rw [chain, if_neg hnone, hlisted]
    rfl

theorem get?_chain : (selection.chain chain).get? generation =
    if selection.selectsGeneration generation then chain.get? generation else none := by
  rw [Chain.get?, slots_chain, SortedMap.get?_filterKeys]
  rfl

theorem has_chain_iff : (selection.chain chain).Has generation ↔
    chain.Has generation ∧ selection.selectsGeneration generation = true := by
  rw [Chain.Has, Chain.Has, get?_chain]
  split
  next hselected => simp [hselected]
  next hleft => simp [hleft]

/-- The selected compilers that are there, in the order of the whole chain. -/
theorem available_chain : (selection.chain chain).available =
    chain.available.filter fun stage => selection.selectsGeneration stage.generation := by
  rw [Chain.available, Chain.available, SortedMap.values, SortedMap.values, slots_chain,
    SortedMap.filterKeys, List.filterMap_map, List.filterMap_map, List.filter_filterMap,
    List.filterMap_filter]
  refine List.filterMap_congr fun entry hentry => ?_
  obtain ⟨generation, slot⟩ := entry
  cases slot with
  | missing path => simp [Slot.stage?]
  | available stage =>
    have hgeneration : stage.generation = generation := chain.keyed _ hentry stage rfl
    simp [Slot.stage?, Option.filter, hgeneration]

/-- The selected chain has the links of the whole one between selected generations. -/
theorem links_chain : (selection.chain chain).links =
    chain.links.filter fun link =>
      selection.selectsGeneration link.1 && selection.selectsGeneration link.2 :=
  Chain.links_eq_filter fun _ => has_chain_iff

/-- A selected id stands for the same fixture in the whole list and in its selected part. -/
theorem fixtureOf?_fixturesOf (hselected : selection.selects id = true) :
    Report.fixtureOf? (selection.fixturesOf fixtures) id = Report.fixtureOf? fixtures id := by
  rw [Report.fixtureOf?, Report.fixtureOf?, fixturesOf, ← List.filter_reverse, List.find?_filter]
  congr 1
  funext fixture
  by_cases hid : fixture.id = id
  · simp [hid, hselected]
  · simp [hid]

theorem isMatch_fixturesOf (hselected : selection.selects id = true) (trial : Trial) :
    Report.isMatch (selection.fixturesOf fixtures) id trial =
      Report.isMatch fixtures id trial := by
  rw [Report.isMatch, Report.isMatch, fixtureOf?_fixturesOf hselected]

theorem get?_cellsOf : (selection.cellsOf cells).get? id =
    if selection.selects id then
      (cells.get? id).map (·.filterKeys selection.selectsGeneration)
    else none := by
  rw [cellsOf, SortedMap.get?_mapWithKey, SortedMap.get?_filterKeys]
  split <;> rfl

theorem openCells_chain :
    Report.openCells (selection.chain chain) (selection.fixturesOf fixtures) =
      selection.cellsOf (Report.openCells chain fixtures) := by
  apply SortedMap.ext_get?
  intro id
  have hids : id ∈ (selection.fixturesOf fixtures).map Fixture.id ↔
      id ∈ fixtures.map Fixture.id ∧ selection.selects id = true := by
    simp only [fixturesOf, List.mem_map, List.mem_filter]
    constructor
    · rintro ⟨fixture, ⟨hmem, hselected⟩, rfl⟩
      exact ⟨⟨fixture, hmem, rfl⟩, hselected⟩
    · rintro ⟨⟨fixture, hmem, rfl⟩, hselected⟩
      exact ⟨fixture, ⟨hmem, hselected⟩, rfl⟩
  have hrow : (selection.chain chain).slots.mapWithKey (fun _ slot => Report.openCell slot) =
      (chain.slots.mapWithKey fun _ slot => Report.openCell slot).filterKeys
        selection.selectsGeneration := by
    apply SortedMap.ext_get?
    intro generation
    rw [SortedMap.get?_mapWithKey, slots_chain, SortedMap.get?_filterKeys,
      SortedMap.get?_filterKeys, SortedMap.get?_mapWithKey]
    split <;> rfl
  rw [get?_cellsOf, Report.get?_openCells, Report.get?_openCells, hrow]
  simp only [hids]
  by_cases hselected : selection.selects id = true
  · by_cases hid : id ∈ fixtures.map Fixture.id <;> simp [hselected, hid]
  · simp [hselected]

/-- What is placed for a selected pair is placed in the selected cells as it is in all cells. -/
theorem cellsOf_place_of_selectsPair
    (hselected : selection.selectsPair arrival.fixture arrival.generation = true) :
    selection.cellsOf (Report.place fixtures cells arrival) =
      Report.place (selection.fixturesOf fixtures) (selection.cellsOf cells) arrival := by
  obtain ⟨hfixture, hgeneration⟩ := (Bool.and_eq_true _ _).mp hselected
  by_cases hcompleted : ∃ trial, arrival.outcome = .completed trial
  · obtain ⟨trial, htrial⟩ := hcompleted
    rw [Report.place_of_completed htrial, Report.place_of_completed htrial,
      isMatch_fixturesOf hfixture]
    apply SortedMap.ext_get?
    intro id
    rw [get?_cellsOf, SortedMap.get?_adjust, SortedMap.get?_adjust, get?_cellsOf]
    by_cases hid : id = arrival.fixture
    · subst hid
      rw [if_pos hfixture, if_pos rfl, if_pos rfl, if_pos hfixture, Option.map_map, Option.map_map]
      refine Option.map_congr fun row _ => ?_
      apply SortedMap.ext_get?
      intro generation
      simp only [Function.comp_apply, SortedMap.get?_filterKeys, SortedMap.get?_insert]
      by_cases hsame : generation = arrival.generation
      · simp [hsame, hgeneration]
      · simp [hsame]
    · rw [if_neg hid, if_neg hid]
  · rw [Report.place_of_not_completed hcompleted, Report.place_of_not_completed hcompleted]

/-- What is placed for a pair that is left out does not show in the selected cells. -/
theorem cellsOf_place_of_not_selectsPair
    (hleft : selection.selectsPair arrival.fixture arrival.generation = false) :
    selection.cellsOf (Report.place fixtures cells arrival) = selection.cellsOf cells := by
  by_cases hcompleted : ∃ trial, arrival.outcome = .completed trial
  · obtain ⟨trial, htrial⟩ := hcompleted
    rw [Report.place_of_completed htrial]
    apply SortedMap.ext_get?
    intro id
    rw [get?_cellsOf, get?_cellsOf, SortedMap.get?_adjust]
    by_cases hid : id = arrival.fixture
    · subst hid
      split
      next hfixture =>
        have hgeneration : selection.selectsGeneration arrival.generation = false := by
          simpa [selectsPair, hfixture] using hleft
        rw [if_pos rfl, Option.map_map]
        refine Option.map_congr fun row _ => ?_
        apply SortedMap.ext_get?
        intro generation
        simp only [Function.comp_apply, SortedMap.get?_filterKeys, SortedMap.get?_insert]
        by_cases hsame : generation = arrival.generation
        · simp [hsame, hgeneration]
        · simp [hsame]
      next => rfl
    · rw [if_neg hid]
  · rw [Report.place_of_not_completed hcompleted]

/-- The outcomes of the selected pairs make the selected part of all cells. -/
theorem cellsOf_cellsOf : Report.cellsOf (selection.chain chain) (selection.fixturesOf fixtures)
      (arrivals.filter fun arrival => selection.selectsPair arrival.fixture arrival.generation) =
    selection.cellsOf (Report.cellsOf chain fixtures arrivals) := by
  rw [Report.cellsOf, Report.cellsOf, List.foldl_filter, openCells_chain]
  refine List.foldl_hom selection.cellsOf fun cells arrival => ?_
  split
  next hselected => exact (cellsOf_place_of_selectsPair hselected).symm
  next hleft => exact (cellsOf_place_of_not_selectsPair (Bool.eq_false_iff.2 hleft)).symm

/-- The cells of the selected pairs, row by row. -/
theorem pairedCells_cellsOf : Report.pairedCells (selection.cellsOf cells) =
    (Report.pairedCells cells).filter fun paired =>
      selection.selectsPair paired.1.1 paired.1.2 := by
  rw [Report.pairedCells, Report.pairedCells, List.filter_flatMap, cellsOf, SortedMap.mapWithKey,
    SortedMap.filterKeys, List.flatMap_map, flatMap_filter]
  refine List.flatMap_congr fun entry _ => ?_
  obtain ⟨id, row⟩ := entry
  rw [List.filter_map]
  by_cases hselected : selection.selects id = true
  · simp only [hselected, if_true, SortedMap.filterKeys]
    congr 2
    funext entry
    simp [selectsPair, hselected]
  · have hnone : ∀ entry ∈ row.entries, ¬ ((fun paired : (FixtureId × Generation) × Cell =>
        selection.selectsPair paired.1.1 paired.1.2) ∘ fun entry => ((id, entry.1), entry.2))
          entry = true := by
      simp [selectsPair, hselected]
    rw [if_neg hselected, List.filter_eq_nil_iff.2 hnone, List.map_nil]

/-- The selected cells are compared as they are among all cells. -/
theorem comparisonsOf_chain :
    Report.comparisonsOf (selection.chain chain) (selection.cellsOf cells) =
      (Report.comparisonsOf chain cells).filter selection.selectsComparison := by
  rw [Report.comparisonsOf_eq, Report.comparisonsOf_eq, List.filter_flatMap, links_chain,
    flatMap_filter]
  refine List.flatMap_congr fun link _ => ?_
  rw [List.filter_map]
  by_cases hlink : (selection.selectsGeneration link.1 && selection.selectsGeneration link.2) = true
  · obtain ⟨hlower, hupper⟩ := (Bool.and_eq_true _ _).mp hlink
    have hrows : selection.selectsComparison ∘ Report.rowComparison link =
        fun entry => selection.selects entry.1 := by
      funext entry
      simp [selectsComparison, Report.rowComparison, hlower, hupper]
    rw [if_pos hlink, hrows, cellsOf, SortedMap.mapWithKey, SortedMap.filterKeys, List.map_map]
    refine List.map_congr_left fun entry _ => ?_
    simp [Report.rowComparison, SortedMap.get?_filterKeys, hlower, hupper]
  · have hnone : ∀ entry ∈ cells.entries,
        ¬ (selection.selectsComparison ∘ Report.rowComparison link) entry = true := by
      intro entry _ hselected
      rw [Function.comp_apply, selectsComparison, Bool.and_assoc, Bool.and_eq_true] at hselected
      exact hlink hselected.2
    rw [if_neg hlink, List.filter_eq_nil_iff.2 hnone, List.map_nil]

end Selection

namespace Report

variable {selection : Selection} {chain : Chain} {fixtures : List Fixture}
  {cells : SortedMap FixtureId Row} {id : FixtureId} {generation : Generation} {cell : Cell}
  {finding : Finding} {comparison : Comparison}

/-- A finding is selected with its cell, and a violation with the comparison that found it. -/
def selectsFinding (report : Report) (selection : Selection) (finding : Finding) : Bool :=
  if finding.defect = .equivalenceViolation then
    report.comparisons.any fun comparison =>
      selection.selectsComparison comparison && violation? comparison = some finding
  else selection.selectsPair finding.fixture finding.generation

/-- The selected part of a report, with everything in its order. -/
def restrictTo (report : Report) (selection : Selection) : Report where
  cells := selection.cellsOf report.cells
  comparisons := report.comparisons.filter selection.selectsComparison
  findings := report.findings.filter (report.selectsFinding selection)
  cancelled := report.cancelled

/-- The finding of a cell is about that cell, and it is no violation. -/
theorem of_cellFinding? (hfinding : cellFinding? fixtures id generation cell = some finding) :
    finding.defect ≠ .equivalenceViolation ∧ finding.fixture = id ∧
      finding.generation = generation := by
  cases cell with
  | notEvaluated path => cases hfinding
  | skipped => cases hfinding
  | evaluated trial matchesExpected =>
    simp only [cellFinding?] at hfinding
    split at hfinding
    · cases hfinding
      exact ⟨Defect.noConfusion, rfl, rfl⟩
    · split at hfinding
      · cases hfinding
      · cases hfinding
        exact ⟨Defect.noConfusion, rfl, rfl⟩

theorem of_violation? (hfinding : violation? comparison = some finding) :
    finding.defect = .equivalenceViolation ∧ finding.pair = comparison.upperPair := by
  unfold violation? at hfinding
  split at hfinding
  · cases hfinding
    exact ⟨rfl, rfl⟩
  · cases hfinding

theorem cellFinding?_fixturesOf (hselected : selection.selects id = true) :
    cellFinding? (selection.fixturesOf fixtures) id generation cell =
      cellFinding? fixtures id generation cell := by
  cases cell with
  | evaluated trial matchesExpected =>
    rw [cellFinding?, cellFinding?, Selection.fixtureOf?_fixturesOf hselected]
  | _ => rfl

/-- The findings of the selected cells are those of all cells that are about them. -/
theorem cellFindings_fixturesOf (report : Report) :
    cellFindings (selection.fixturesOf fixtures) (selection.cellsOf cells) =
      (cellFindings fixtures cells).filter (report.selectsFinding selection) := by
  rw [cellFindings_eq, cellFindings_eq, Selection.pairedCells_cellsOf, List.filter_filterMap,
    List.filterMap_filter]
  refine List.filterMap_congr fun ⟨⟨id, generation⟩, cell⟩ _ => ?_
  dsimp only
  have hselects : ∀ finding, cellFinding? fixtures id generation cell = some finding →
      report.selectsFinding selection finding = selection.selectsPair id generation := by
    intro finding hfinding
    obtain ⟨hdefect, hfixture, hgeneration⟩ := of_cellFinding? hfinding
    rw [selectsFinding, if_neg hdefect, hfixture, hgeneration]
  split
  next hpair =>
    obtain ⟨hid, -⟩ := (Bool.and_eq_true _ _).mp hpair
    rw [cellFinding?_fixturesOf hid]
    cases hfound : cellFinding? fixtures id generation cell with
    | none => rfl
    | some finding => rw [Option.filter_some, hselects finding hfound, if_pos hpair]
  next hleft =>
    cases hfound : cellFinding? fixtures id generation cell with
    | none => rfl
    | some finding => rw [Option.filter_some, hselects finding hfound, if_neg hleft]

/-- A violation is selected just if the comparison that found it is: no other comparison stands at
    its pair. -/
theorem selectsFinding_violation {report : Report}
    (hreport : report.comparisons = comparisonsOf chain cells)
    (hmem : comparison ∈ report.comparisons) (hfinding : violation? comparison = some finding) :
    report.selectsFinding selection finding = selection.selectsComparison comparison := by
  obtain ⟨hdefect, hpair⟩ := of_violation? hfinding
  rw [selectsFinding, if_pos hdefect, Bool.eq_iff_iff, List.any_eq_true]
  constructor
  · rintro ⟨other, hother, hselected⟩
    obtain ⟨hselects, hfound⟩ := (Bool.and_eq_true _ _).mp hselected
    have hpairs : other.upperPair = comparison.upperPair :=
      (of_violation? (of_decide_eq_true hfound)).2.symm.trans hpair
    rw [hreport] at hmem hother
    rwa [List.inj_on_of_nodup_map nodup_upperPairs hother hmem hpairs] at hselects
  · intro hselects
    exact ⟨comparison, hmem, by simp [hselects, hfinding]⟩

theorem violations_filter (report : Report)
    (hreport : report.comparisons = comparisonsOf chain cells) :
    ((comparisonsOf chain cells).filter selection.selectsComparison).filterMap violation? =
      ((comparisonsOf chain cells).filterMap violation?).filter
        (report.selectsFinding selection) := by
  rw [List.filter_filterMap, List.filterMap_filter]
  refine List.filterMap_congr fun comparison hmem => ?_
  cases hfound : violation? comparison with
  | none => simp
  | some finding =>
    rw [Option.filter_some, selectsFinding_violation hreport (hreport ▸ hmem) hfound]

/-- The report on the selected outcomes is the selected part of the report on all of them. -/
theorem assemble_restrictTo (arrivals : List Arrival) (cancelled : Bool) :
    assemble (selection.chain chain) (selection.fixturesOf fixtures)
        (arrivals.filter fun arrival => selection.selectsPair arrival.fixture arrival.generation)
        cancelled =
      (assemble chain fixtures arrivals cancelled).restrictTo selection := by
  let whole := assemble chain fixtures arrivals cancelled
  have hfindings : (whole.restrictTo selection).findings =
      (cellFindings (selection.fixturesOf fixtures)
          (selection.cellsOf (cellsOf chain fixtures arrivals)) ++
        ((comparisonsOf chain (cellsOf chain fixtures arrivals)).filter
          selection.selectsComparison).filterMap violation?).mergeSort
            fun a b => (Finding.order a b).isLE := by
    rw [cellFindings_fixturesOf whole, violations_filter whole rfl,
      ← List.filter_append]
    exact filter_mergeSort (fun _ _ _ => Std.TransCmp.isLE_trans) Finding.isLE_total _ _
  rw [assemble, Selection.cellsOf_cellsOf, Selection.comparisonsOf_chain, ← hfindings]
  rfl

end Report

end BootChain
