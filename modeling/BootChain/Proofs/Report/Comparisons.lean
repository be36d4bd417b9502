import BootChain.Proofs.Chain
import BootChain.Proofs.Matrix.Grid
import BootChain.Proofs.Report.Status

namespace BootChain.Report

variable {chain : Chain} {cells : SortedMap FixtureId Row} {id : FixtureId}
  {lower upper generation : Generation} {lowerTrial upperTrial : Option Trial} {trial : Trial}
  {comparison : Comparison} {reason : String}

/-- A trial is there, and it went through to its end. -/
def Through (trial? : Option Trial) : Prop := ∃ trial, trial? = some trial ∧ trial.succeeded = true

/-- A text that starts with the label of a generation as a word of its own. -/
def Names (text : String) (generation : Generation) : Prop :=
  ∃ rest, text = generation.label ++ " " ++ rest

/-- A text names one generation at most. -/
theorem Names.unique (hlower : Names reason lower) (hupper : Names reason upper) :
    lower = upper := by
  obtain ⟨rest, rfl⟩ := hlower
  obtain ⟨other, heq⟩ := hupper
  have hchars := congrArg String.toList heq
  simp only [String.toList_append, List.append_assoc] at hchars
  exact Generation.eq_of_label_append (c := ' ') (d := ' ') (by decide) (by decide) hchars

theorem Names.ne_empty (hnames : Names reason lower) : reason ≠ "" := by
  obtain ⟨rest, rfl⟩ := hnames
  intro hempty
  have hchars := congrArg String.toList hempty
  simp [String.toList_append] at hchars

/-- A reason that names one side or the other of a link, according to a condition, names just that
    side. -/
theorem names_iff_of_link {through : Prop} (hnumber : upper.number = lower.number + 1)
    (hlower : ¬ through → Names reason lower) (hupper : through → Names reason upper) :
    reason ≠ "" ∧ (Names reason lower ↔ ¬ through) ∧ (Names reason upper ↔ through) := by
  have hne : lower ≠ upper := by
    rintro rfl
    omega
  by_cases hthrough : through
  · have hnames := hupper hthrough
    refine ⟨hnames.ne_empty, ?_, iff_of_true hnames hthrough⟩
    exact iff_of_false (fun hother => hne (hother.unique hnames)) (not_not_intro hthrough)
  · have hnames := hlower hthrough
    refine ⟨hnames.ne_empty, iff_of_true hnames hthrough, ?_⟩
    exact iff_of_false (fun hother => hne (hnames.unique hother)) hthrough

theorem incompleteReason?_eq_none_iff :
    incompleteReason? generation lowerTrial = none ↔ Through lowerTrial := by
  cases lowerTrial with
  | none => simp [incompleteReason?, Through]
  | some trial =>
    cases hsucceeded : trial.succeeded <;> simp [incompleteReason?, Through, hsucceeded]

theorem names_of_incompleteReason?
    (hreason : incompleteReason? generation lowerTrial = some reason) :
    Names reason generation := by
  cases lowerTrial with
  | none =>
    cases hreason
    exact ⟨"was not run", by rw [String.append_assoc]; rfl⟩
  | some trial =>
    cases hsucceeded : trial.succeeded with
    | true => simp [incompleteReason?, hsucceeded] at hreason
    | false =>
      simp only [incompleteReason?, hsucceeded, Bool.false_eq_true, if_false,
        Option.some.injEq] at hreason
      exact ⟨"did not complete its pipeline", by rw [← hreason, String.append_assoc]; rfl⟩

/-- The outputs of two trials are compared just if both went through. -/
theorem compareTrials_of_through (hlower : Through lowerTrial) (hupper : Through upperTrial) :
    compareTrials lower upper lowerTrial upperTrial =
      if lowerTrial.bind Trial.output? = upperTrial.bind Trial.output? then .equivalent
      else
        .diverged ((lowerTrial.bind Trial.stdout).getD "")
          ((upperTrial.bind Trial.stdout).getD "") := by
  rw [compareTrials, incompleteReason?_eq_none_iff.2 hlower,
    incompleteReason?_eq_none_iff.2 hupper]

/-- The reason why two trials cannot be compared names the lower one if it did not go through, and
    the upper one otherwise. -/
theorem compareTrials_of_not_through (lower upper : Generation)
    (hnot : ¬ (Through lowerTrial ∧ Through upperTrial)) :
    ∃ reason, compareTrials lower upper lowerTrial upperTrial = .inconclusive reason ∧
      (¬ Through lowerTrial → Names reason lower) ∧ (Through lowerTrial → Names reason upper) := by
  cases hlower : incompleteReason? lower lowerTrial with
  | some reason =>
    have hstopped : ¬ Through lowerTrial := by
      intro hthrough
      rw [incompleteReason?_eq_none_iff.2 hthrough] at hlower
      cases hlower
    refine ⟨reason, by rw [compareTrials, hlower], ?_, fun hthrough => absurd hthrough hstopped⟩
    exact fun _ => names_of_incompleteReason? hlower
  | none =>
    have hthrough := incompleteReason?_eq_none_iff.1 hlower
    cases hupper : incompleteReason? upper upperTrial with
    | none => exact absurd ⟨hthrough, incompleteReason?_eq_none_iff.1 hupper⟩ hnot
    | some reason =>
      refine ⟨reason, by rw [compareTrials, hlower, hupper],
        fun hstopped => absurd hthrough hstopped, ?_⟩
      exact fun _ => names_of_incompleteReason? hupper

/-- The trial of a fixture under a generation. -/
def trialAt? (cells : SortedMap FixtureId Row) (id : FixtureId) (generation : Generation) :
    Option Trial :=
  (cellAt? cells id generation).bind Cell.trial?

theorem mem_comparisonsOf_iff : comparison ∈ comparisonsOf chain cells ↔
    (comparison.lower, comparison.upper) ∈ chain.links ∧
      (cells.get? comparison.fixture).isSome = true ∧
      comparison.verdict = compareTrials comparison.lower comparison.upper
        (trialAt? cells comparison.fixture comparison.lower)
        (trialAt? cells comparison.fixture comparison.upper) := by
  simp only [comparisonsOf, List.mem_flatMap, List.mem_map, Prod.exists, trialAt?, cellAt?,
    Option.isSome_iff_exists]
  constructor
  · rintro ⟨lower, upper, hlink, id, row, hrow, rfl⟩
    have hget := SortedMap.get?_eq_some_iff.2 hrow
    exact ⟨hlink, ⟨row, hget⟩, by simp [hget]⟩
  · rintro ⟨hlink, ⟨row, hrow⟩, hverdict⟩
    refine ⟨_, _, hlink, _, row, SortedMap.get?_eq_some_iff.1 hrow, ?_⟩
    cases comparison
    simp_all

theorem exists_comparison_iff :
    (∃ verdict, ⟨id, lower, upper, verdict⟩ ∈ comparisonsOf chain cells) ↔
      (lower, upper) ∈ chain.links ∧ (cells.get? id).isSome = true := by
  constructor
  · rintro ⟨verdict, hmem⟩
    obtain ⟨hlink, hrow, -⟩ := mem_comparisonsOf_iff.1 hmem
    exact ⟨hlink, hrow⟩
  · rintro ⟨hlink, hrow⟩
    exact ⟨compareTrials lower upper (trialAt? cells id lower) (trialAt? cells id upper),
      mem_comparisonsOf_iff.2 ⟨hlink, hrow, rfl⟩⟩

/-- Comparisons stand link by link, and for each link in the order of the fixtures. -/
theorem ascending_comparisonsOf (chain : Chain) (cells : SortedMap FixtureId Row) :
    (comparisonsOf chain cells).Pairwise fun a b =>
      (compare a.lower b.lower).then (compare a.fixture b.fixture) = .lt := by
  rw [comparisonsOf, List.pairwise_flatMap]
  constructor
  · rintro ⟨lower, upper⟩ -
    rw [List.pairwise_map]
    refine cells.ascending.imp fun hlt => ?_
    rw [Std.ReflOrd.compare_self]
    exact hlt
  · refine chain.ascending_links.imp fun hlt first hfirst second hsecond => ?_
    obtain ⟨-, -, rfl⟩ := List.mem_map.1 hfirst
    obtain ⟨-, -, rfl⟩ := List.mem_map.1 hsecond
    simp [hlt]

/-- A pair was evaluated, and its trial went through to its end. -/
def WentThrough (report : Report) (id : FixtureId) (generation : Generation) : Prop :=
  ∃ trial matchesExpected, report.cell? id generation = some (.evaluated trial matchesExpected) ∧
    trial.succeeded = true

/-- A pair was evaluated, its trial went through to its end, and its program printed just some
    octets. -/
def Printed (report : Report) (id : FixtureId) (generation : Generation) (output : Bytes) : Prop :=
  ∃ trial matchesExpected, report.cell? id generation = some (.evaluated trial matchesExpected) ∧
    trial.succeeded = true ∧ trial.output? = some output

section

variable {report : Report} {output other : Bytes}

theorem Printed.wentThrough (hprinted : report.Printed id generation output) :
    report.WentThrough id generation := by
  obtain ⟨trial, matchesExpected, hcell, hsucceeded, -⟩ := hprinted
  exact ⟨trial, matchesExpected, hcell, hsucceeded⟩

theorem Printed.unique (hprinted : report.Printed id generation output)
    (hother : report.Printed id generation other) : output = other := by
  obtain ⟨trial, matchesExpected, hcell, -, houtput⟩ := hprinted
  obtain ⟨_, _, hsame, -, hothers⟩ := hother
  cases hcell.symm.trans hsame
  exact Option.some.inj (houtput.symm.trans hothers)

theorem trialAt?_eq_some_iff : trialAt? report.cells id generation = some trial ↔
    ∃ matchesExpected, report.cell? id generation = some (.evaluated trial matchesExpected) :=
  trial?_eq_some_iff

theorem through_trialAt?_iff :
    Through (trialAt? report.cells id generation) ↔ report.WentThrough id generation := by
  simp only [Through, trialAt?_eq_some_iff, WentThrough]
  constructor
  · rintro ⟨trial, ⟨matchesExpected, hcell⟩, hsucceeded⟩
    exact ⟨trial, matchesExpected, hcell, hsucceeded⟩
  · rintro ⟨trial, matchesExpected, hcell, hsucceeded⟩
    exact ⟨trial, ⟨matchesExpected, hcell⟩, hsucceeded⟩

end

/-- What the comparisons of a report say about a chain: there is one for each link and each row, in
    order. Two outputs are equivalent or diverge if both trials went through, according to their
    octets; otherwise the comparison is inconclusive, and its reason names the lower side if that is
    incomplete, and the upper side if only that is. -/
structure Compared (chain : Chain) (report : Report) : Prop where
  ascending : report.comparisons.Pairwise fun a b =>
    (compare a.lower b.lower).then (compare a.fixture b.fixture) = .lt
  mem_iff : ∀ id lower upper, (∃ verdict, ⟨id, lower, upper, verdict⟩ ∈ report.comparisons) ↔
    chain.Has lower ∧ chain.Has upper ∧ upper.number = lower.number + 1 ∧ id ∈ report.cells.keys
  equivalent_iff : ∀ comparison ∈ report.comparisons, comparison.verdict = .equivalent ↔
    ∃ output, report.Printed comparison.fixture comparison.lower output ∧
      report.Printed comparison.fixture comparison.upper output
  isDiverged_iff : ∀ comparison ∈ report.comparisons, comparison.verdict.isDiverged = true ↔
    ∃ output other, output ≠ other ∧
      report.Printed comparison.fixture comparison.lower output ∧
      report.Printed comparison.fixture comparison.upper other
  inconclusive_iff : ∀ comparison ∈ report.comparisons,
    (∃ reason, comparison.verdict = .inconclusive reason) ↔
      ¬ (report.WentThrough comparison.fixture comparison.lower ∧
        report.WentThrough comparison.fixture comparison.upper)
  reason : ∀ comparison ∈ report.comparisons, ∀ reason,
    comparison.verdict = .inconclusive reason → reason ≠ "" ∧
      (Names reason comparison.lower ↔
        ¬ report.WentThrough comparison.fixture comparison.lower) ∧
      (Names reason comparison.upper ↔ report.WentThrough comparison.fixture comparison.lower)

end BootChain.Report

namespace BootChain.Matrix

open Report

variable {ρ : Type} {matrix : Matrix} {arrivals : List Arrival} {cancelled : Bool}
  {id : FixtureId} {generation : Generation} {comparison : Comparison}

theorem Genuine.completed_of_evaluated (hgenuine : matrix.Genuine arrivals) {trial : Trial}
    {matchesExpected : Bool}
    (hcell : (matrix.report arrivals cancelled).cell? id generation =
      some (.evaluated trial matchesExpected)) : Trial.Completed generation id trial := by
  obtain ⟨slot, -, hopen⟩ | ⟨stage, found, -, hcompleted, hevaluated⟩ := hgenuine.cell_cases hcell
  · cases slot <;> cases hopen
  · cases hevaluated
    exact hcompleted

theorem Genuine.exists_printed (hgenuine : matrix.Genuine arrivals)
    (hthrough : (matrix.report arrivals cancelled).WentThrough id generation) :
    ∃ output, (matrix.report arrivals cancelled).Printed id generation output := by
  obtain ⟨trial, matchesExpected, hcell, hsucceeded⟩ := hthrough
  obtain ⟨output, houtput⟩ := (hgenuine.completed_of_evaluated hcell).exists_output hsucceeded
  exact ⟨output, trial, matchesExpected, hcell, hsucceeded, houtput⟩

/-- The two ways in which a comparison can turn out. -/
theorem Genuine.verdict_cases (hgenuine : matrix.Genuine arrivals)
    (hmem : comparison ∈ (matrix.report arrivals cancelled).comparisons) :
    (∃ output other,
      (matrix.report arrivals cancelled).Printed comparison.fixture comparison.lower output ∧
      (matrix.report arrivals cancelled).Printed comparison.fixture comparison.upper other ∧
      (comparison.verdict = .equivalent ↔ output = other) ∧
      (comparison.verdict.isDiverged = true ↔ output ≠ other) ∧
      ∀ reason, comparison.verdict ≠ .inconclusive reason) ∨
    ∃ reason, comparison.verdict = .inconclusive reason ∧
      ¬ ((matrix.report arrivals cancelled).WentThrough comparison.fixture comparison.lower ∧
        (matrix.report arrivals cancelled).WentThrough comparison.fixture comparison.upper) ∧
      (¬ (matrix.report arrivals cancelled).WentThrough comparison.fixture comparison.lower →
        Names reason comparison.lower) ∧
      ((matrix.report arrivals cancelled).WentThrough comparison.fixture comparison.lower →
        Names reason comparison.upper) := by
  generalize hreport : matrix.report arrivals cancelled = report at hmem ⊢
  obtain ⟨-, -, hverdict⟩ : _ ∧ _ ∧ comparison.verdict = compareTrials comparison.lower
      comparison.upper (trialAt? report.cells comparison.fixture comparison.lower)
      (trialAt? report.cells comparison.fixture comparison.upper) := by
    subst hreport
    exact mem_comparisonsOf_iff.1 hmem
  by_cases hboth : report.WentThrough comparison.fixture comparison.lower ∧
      report.WentThrough comparison.fixture comparison.upper
  · obtain ⟨hlower, hupper⟩ := hboth
    rw [compareTrials_of_through (through_trialAt?_iff.2 hlower) (through_trialAt?_iff.2 hupper)]
      at hverdict
    subst hreport
    obtain ⟨output, houtput⟩ := hgenuine.exists_printed hlower
    obtain ⟨other, hother⟩ := hgenuine.exists_printed hupper
    refine .inl ⟨output, other, houtput, hother, ?_⟩
    obtain ⟨lower, _, hlowerCell, -, hlowerOutput⟩ := houtput
    obtain ⟨upper, _, hupperCell, -, hupperOutput⟩ := hother
    rw [trialAt?_eq_some_iff.2 ⟨_, hlowerCell⟩, trialAt?_eq_some_iff.2 ⟨_, hupperCell⟩,
      Option.bind_some, Option.bind_some, hlowerOutput, hupperOutput] at hverdict
    by_cases heq : output = other <;> simp [hverdict, heq, Verdict.isDiverged]
  · have hnot : ¬ (Through (trialAt? report.cells comparison.fixture comparison.lower) ∧
        Through (trialAt? report.cells comparison.fixture comparison.upper)) := by
      rwa [through_trialAt?_iff, through_trialAt?_iff]
    obtain ⟨reason, hreason, hlower, hupper⟩ :=
      compareTrials_of_not_through comparison.lower comparison.upper hnot
    rw [through_trialAt?_iff] at hlower hupper
    exact .inr ⟨reason, hverdict.trans hreason, hboth, hlower, hupper⟩

/-- The comparisons in the report on any run: neighbouring compilers that are both there are
    compared for each fixture, and what the comparison says is what the two cells have. -/
theorem compared_report (matrix : Matrix) (runner : Stage → Fixture → Runner ρ) (world : World ρ)
    (schedule : List Action) :
    Compared matrix.chain (matrix.reportOf (matrix.follow runner world schedule)) := by
  have hgenuine : matrix.Genuine (matrix.follow runner world schedule).arrivals :=
    genuine_follow matrix runner world schedule
  refine ⟨ascending_comparisonsOf _ _, ?_, ?_, ?_, ?_, ?_⟩
  · intro id lower upper
    refine exists_comparison_iff.trans ?_
    rw [Chain.mem_links_iff, SortedMap.mem_keys_iff, and_assoc, and_assoc]
    rfl
  · intro comparison hmem
    obtain ⟨output, other, houtput, hother, hequivalent, -⟩ | ⟨reason, hverdict, hboth, -⟩ :=
      hgenuine.verdict_cases hmem
    · rw [hequivalent]
      constructor
      · rintro rfl
        exact ⟨output, houtput, hother⟩
      · rintro ⟨same, hlower, hupper⟩
        exact (houtput.unique hlower).trans (hother.unique hupper).symm
    · rw [hverdict]
      refine iff_of_false Verdict.noConfusion ?_
      rintro ⟨output, hlower, hupper⟩
      exact absurd ⟨hlower.wentThrough, hupper.wentThrough⟩ hboth
  · intro comparison hmem
    obtain ⟨output, other, houtput, hother, -, hdiverged, -⟩ | ⟨reason, hverdict, hboth, -⟩ :=
      hgenuine.verdict_cases hmem
    · rw [hdiverged]
      constructor
      · intro hne
        exact ⟨output, other, hne, houtput, hother⟩
      · rintro ⟨first, second, hne, hlower, hupper⟩
        rwa [houtput.unique hlower, hother.unique hupper]
    · rw [hverdict]
      refine iff_of_false Bool.false_ne_true ?_
      rintro ⟨output, other, -, hlower, hupper⟩
      exact absurd ⟨hlower.wentThrough, hupper.wentThrough⟩ hboth
  · intro comparison hmem
    obtain ⟨output, other, houtput, hother, -, -, hnot⟩ | ⟨reason, hverdict, hboth, -⟩ :=
      hgenuine.verdict_cases hmem
    · refine ⟨fun ⟨reason, hreason⟩ => absurd hreason (hnot reason), fun hboth => ?_⟩
      exact absurd ⟨houtput.wentThrough, hother.wentThrough⟩ hboth
    · exact ⟨fun _ => hboth, fun _ => ⟨reason, hverdict⟩⟩
  · intro comparison hmem reason hverdict
    obtain ⟨_, _, -, -, -, -, hnot⟩ | ⟨found, hfound, -, hlower, hupper⟩ :=
      hgenuine.verdict_cases hmem
    · exact absurd hverdict (hnot reason)
    · cases hfound.symm.trans hverdict
      have hlink := (mem_comparisonsOf_iff.1 hmem).1
      exact names_iff_of_link (Chain.mem_links_iff.1 hlink).2.2 hlower hupper

end BootChain.Matrix
