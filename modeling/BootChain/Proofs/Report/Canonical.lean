import BootChain.Proofs.Chain
import BootChain.Proofs.Json.Order
import BootChain.Proofs.Report.Document
import BootChain.Proofs.SortedMap
import BootChain.Report.Assembly
import BootChain.Report.Status

namespace BootChain

/-- The value of a form is as `p` says, if there is one. -/
def Gives {α : Type} (form : Except EncodeError α) (p : α → Prop) : Prop :=
  ∀ value, form = .ok value → p value

section

variable {α β : Type} {p : α → Prop} {q : β → Prop}

theorem gives_pure {value : α} (hvalue : p value) : Gives (pure value) p := by
  intro other heq
  cases heq
  exact hvalue

theorem Gives.bind {form : Except EncodeError α} {next : α → Except EncodeError β}
    (hform : Gives form p) (hnext : ∀ value, p value → Gives (next value) q) :
    Gives (form >>= next) q := by
  cases form with
  | error cause => exact nofun
  | ok value => exact hnext value (hform value rfl)

/-- A list of named parts has the names that the parts are given. -/
theorem gives_mapM {name : α → String} {part : Json → Prop} {list : List α}
    {f : α → Except EncodeError (String × Json)}
    (hpart : ∀ value ∈ list, Gives (f value) fun member =>
      member.1 = name value ∧ part member.2) :
    Gives (list.mapM f) fun members =>
      members.map Prod.fst = list.map name ∧ ∀ member ∈ members, part member.2 := by
  induction list with
  | nil => exact gives_pure ⟨rfl, nofun⟩
  | cons value rest ih =>
    obtain ⟨hfirst, hrest⟩ := List.forall_mem_cons.1 hpart
    rw [List.mapM_cons]
    refine hfirst.bind fun member hmember => (ih hrest).bind fun members hmembers => gives_pure ?_
    rw [List.map_cons, List.map_cons, hmember.1, hmembers.1]
    exact ⟨rfl, List.forall_mem_cons.2 ⟨hmember.2, hmembers.2⟩⟩

end

open Json (EachObject)

/-- Different names that are written alike in every order. -/
def Tame (names : List String) : Prop := names.Nodup ∧ ∀ name ∈ names, Json.Level name

theorem Generation.level_toString (g : Generation) : Json.Level (toString g.number) := by
  intro c hc
  have hdigit : c.isDigit = true := Text.isDigit_of_mem_toDigits (Nat.toList_repr ▸ hc)
  have hrange : 0x30 ≤ c.toNat ∧ c.toNat ≤ 0x39 := by
    simpa [Char.isDigit, UInt32.le_iff_toNat_le] using hdigit
  refine ⟨by omega, by omega, ?_⟩
  rintro rfl
  exact absurd hdigit (by decide)

theorem SortedMap.tame_generations {ν : Type} (map : SortedMap Generation ν) :
    Tame (map.entries.map fun entry => toString entry.1.number) := by
  have hnames : map.entries.map (fun entry => toString entry.1.number) =
      map.keys.map fun g => toString g.number := by
    rw [keys, List.map_map]
    rfl
  rw [hnames]
  constructor
  · have hne (g h : Generation) (hgh : g ≠ h) : toString g.number ≠ toString h.number :=
      fun heq => hgh (Generation.toString_number_inj heq)
    exact List.Pairwise.map _ hne map.nodup_keys
  · rw [List.forall_mem_map]
    exact fun entry _ => entry.level_toString

theorem Json.eachObject_nat {p : List String → Prop} (n : Nat) : EachObject p (Json.nat n) := .int n

theorem Json.eachObject_opt {p : List String → Prop} {α : Type} {encode : α → Json}
    (hencode : ∀ value, EachObject p (encode value)) (value : Option α) :
    EachObject p (Json.opt encode value) := by
  cases value with
  | none => exact .null
  | some value => exact hencode value

theorem Path.gives_json {p : List String → Prop} (path : Path) :
    Gives path.json (EachObject p) := by
  unfold json
  split
  · exact gives_pure (.str _)
  · exact nofun

section

-- the names of fields stand in the forms themselves, so that each form shows its own to be tame
variable {p : List String → Prop} (htame : ∀ names, Tame names → p names)

include htame

theorem Ending.eachObject_json (ending : Ending) : EachObject p ending.json := by
  cases ending with
  | exited code =>
    have hcode : EachObject p (Json.opt .int code) := Json.eachObject_opt .int code
    simp [json, htame ["kind", "code"] (by simp [Tame, Json.Level]), hcode]
  | timedOut limit =>
    simp [json, htame ["kind", "limit_ms"] (by simp [Tame, Json.Level]), Json.eachObject_nat]
  | cancelled => simp [json, htame ["kind"] (by simp [Tame, Json.Level])]

theorem Capture.eachObject_json (capture : Capture) : EachObject p capture.json := by
  have hnames : p ["command_line", "outcome", "stdout", "stderr", "duration_ms"] :=
    htame _ (by simp [Tame, Json.Level])
  simp [json, hnames, capture.ending.eachObject_json htame, Json.eachObject_nat]

theorem StepRecord.eachObject_json (record : StepRecord) : EachObject p record.json := by
  have hnames : p ["step", "result"] := htame _ (by simp [Tame, Json.Level])
  simp [json, hnames, record.capture.eachObject_json htame]

theorem Cause.gives_json (cause : Cause) : Gives cause.json (EachObject p) := by
  cases cause with
  | notStarted reason message =>
    exact gives_pure (by simp [htame ["kind", "reason", "message"] (by simp [Tame, Json.Level])])
  | failedExit code =>
    have hcode : EachObject p (Json.opt .int code) := Json.eachObject_opt .int code
    exact gives_pure (by simp [htame ["kind", "code"] (by simp [Tame, Json.Level]), hcode])
  | timedOut limit =>
    exact gives_pure (by
      simp [htame ["kind", "limit_ms"] (by simp [Tame, Json.Level]), Json.eachObject_nat])
  | cancelled => exact gives_pure (by simp [htame ["kind"] (by simp [Tame, Json.Level])])
  | notWritten path =>
    exact path.gives_json.bind fun value (hvalue : EachObject p value) =>
      gives_pure (by simp [htame ["kind", "path"] (by simp [Tame, Json.Level]), hvalue])
  | lostProgram message =>
    exact gives_pure (by simp [htame ["kind", "message"] (by simp [Tame, Json.Level])])
  | artifactTrouble message =>
    exact gives_pure (by simp [htame ["kind", "message"] (by simp [Tame, Json.Level])])

theorem Failure.gives_json (failure : Failure) : Gives failure.json (EachObject p) := by
  have hnames : p ["step", "kind", "command_line", "stderr"] := htame _ (by simp [Tame, Json.Level])
  exact (failure.cause.gives_json htame).bind fun cause hcause => gives_pure (by
    simp [hnames, hcause])

theorem Trial.gives_json (trial : Trial) : Gives trial.json (EachObject p) := by
  have hnames : p ["generation", "fixture", "steps", "failure", "stdout"] :=
    htame _ (by simp [Tame, Json.Level])
  have hsteps (record : StepRecord) : EachObject p record.json := record.eachObject_json htame
  have hstdout : EachObject p (Json.opt .str trial.stdout) := Json.eachObject_opt .str _
  unfold json
  cases trial.failure with
  | none => exact gives_pure (by simp [hnames, hsteps, hstdout, Json.eachObject_nat])
  | some failure =>
    exact (failure.gives_json htame).bind fun value hvalue => gives_pure (by
      simp [hnames, hsteps, hstdout, hvalue, Json.eachObject_nat])

theorem Cell.gives_json (cell : Cell) : Gives cell.json (EachObject p) := by
  cases cell with
  | notEvaluated path =>
    exact path.gives_json.bind fun value (hvalue : EachObject p value) =>
      gives_pure (by simp [htame ["status", "expected_path"] (by simp [Tame, Json.Level]), hvalue])
  | skipped => exact gives_pure (by simp [htame ["status"] (by simp [Tame, Json.Level])])
  | evaluated trial matchesExpected =>
    have hnames : p ["status", "result", "matches_expected"] := htame _ (by simp [Tame, Json.Level])
    exact (trial.gives_json htame).bind fun value hvalue => gives_pure (by simp [hnames, hvalue])

theorem Slot.gives_json (slot : Slot) : Gives slot.json (EachObject p) := by
  cases slot with
  | available stage =>
    have houter : p ["status", "stage"] := htame _ (by simp [Tame, Json.Level])
    have hinner : p ["generation", "binary"] := htame _ (by simp [Tame, Json.Level])
    exact stage.binary.gives_json.bind fun value (hvalue : EachObject p value) =>
      gives_pure (by simp [houter, hinner, hvalue, Json.eachObject_nat])
  | missing path =>
    exact path.gives_json.bind fun value (hvalue : EachObject p value) =>
      gives_pure (by simp [htame ["status", "expected_path"] (by simp [Tame, Json.Level]), hvalue])

/-- The parts of a map over generations stand under the numbers of the generations. -/
theorem SortedMap.gives_members {ν : Type} (map : SortedMap Generation ν)
    {encode : ν → Except EncodeError Json}
    (hencode : ∀ value, Gives (encode value) (EachObject p)) :
    Gives (map.entries.mapM fun entry => do
      return (toString entry.1.number, ← encode entry.2)) fun members =>
        EachObject p (.obj members) := by
  intro members heq
  obtain ⟨hnames, hvalues⟩ := gives_mapM
    (fun entry _ => (hencode entry.2).bind fun value hvalue => gives_pure ⟨rfl, hvalue⟩) members heq
  exact .obj (hnames ▸ htame _ map.tame_generations) hvalues

theorem Chain.gives_json (chain : Chain) : Gives chain.json (EachObject p) :=
  (chain.slots.gives_members htame fun slot => slot.gives_json htame).bind fun _ => gives_pure

theorem Verdict.eachObject_json (verdict : Verdict) : EachObject p verdict.json := by
  cases verdict with
  | equivalent => simp [json, htame ["status"] (by simp [Tame, Json.Level])]
  | diverged lower upper =>
    simp [json, htame ["status", "lower_stdout", "upper_stdout"] (by simp [Tame, Json.Level])]
  | inconclusive reason => simp [json, htame ["status", "reason"] (by simp [Tame, Json.Level])]

theorem Comparison.eachObject_json (comparison : Comparison) : EachObject p comparison.json := by
  have hnames : p ["fixture", "lower", "upper", "status"] := htame _ (by simp [Tame, Json.Level])
  simp [json, hnames, comparison.verdict.eachObject_json htame, Json.eachObject_nat]

theorem Finding.eachObject_json (finding : Finding) : EachObject p finding.json := by
  simp [json, htame ["class", "fixture", "generation", "message"] (by simp [Tame, Json.Level]),
    Json.eachObject_nat]

theorem Tally.eachObject_json (tally : Tally) : EachObject p tally.json := by
  have hnames : p ["fixtures", "generations", "evaluated", "passed", "pipeline_failures",
    "output_mismatches", "not_evaluated", "skipped", "equivalence_checks",
    "equivalence_violations"] := htame _ (by simp [Tame, Json.Level])
  simp [json, hnames, Json.eachObject_nat]

namespace Report

/-- The fixtures of a report, in the order of its rows. -/
def fixtureNames (report : Report) : List String := report.cells.keys.map FixtureId.text

/-- In the form of a report only the object of the cells has names that come from outside. -/
theorem gives_json (report : Report) :
    Gives report.json fun document => EachObject p document ↔ p report.fixtureNames := by
  have houter : p ["cells", "equivalence", "findings", "cancelled"] :=
    htame _ (by simp [Tame, Json.Level])
  have hcomparisons (comparison : Comparison) : EachObject p comparison.json :=
    comparison.eachObject_json htame
  have hfindings (finding : Finding) : EachObject p finding.json := finding.eachObject_json htame
  have hrow (entry : FixtureId × Row) : Gives (do
      let cells ← entry.2.entries.mapM fun pair => do
        return (toString pair.1.number, ← pair.2.json)
      return (entry.1.text, Json.obj cells)) fun member =>
        member.1 = entry.1.text ∧ EachObject p member.2 :=
    (entry.2.gives_members htame fun cell => cell.gives_json htame).bind
      fun members hmembers => gives_pure ⟨rfl, hmembers⟩
  refine (gives_mapM fun entry _ => hrow entry).bind fun rows hrows => gives_pure ?_
  have hnames : rows.map Prod.fst = report.fixtureNames := by
    rw [hrows.1, fixtureNames, SortedMap.keys, List.map_map]
    rfl
  -- a row holds numbers of generations alone: only the names of the rows are left
  have hvalues : ∀ name value, (name, value) ∈ rows → EachObject p value :=
    fun _ _ hmember => hrows.2 _ hmember
  simpa [houter, hcomparisons, hfindings, hnames] using fun _ => hvalues

/-- In the document of a run only the fixtures' names come from outside. -/
theorem gives_document (chain : Chain) (report : Report) :
    Gives (report.document chain) fun document =>
      EachObject p document ↔ p report.fixtureNames := by
  have hnames : p ["status", "summary", "stages", "report"] := htame _ (by simp [Tame, Json.Level])
  refine (chain.gives_json htame).bind fun stages hstages =>
    (report.gives_json htame).bind fun value hvalue => gives_pure ?_
  simp [hnames, report.tally.eachObject_json htame, hstages, hvalue]

theorem eachObject_document_iff {chain : Chain} {report : Report} {document : Json}
    (hdocument : report.document chain = .ok document) :
    EachObject p document ↔ p report.fixtureNames :=
  gives_document htame chain report document hdocument

end Report

end

namespace Report

theorem nodup_fixtureNames (report : Report) : report.fixtureNames.Nodup := by
  have hne (a b : FixtureId) (hab : a ≠ b) : a.text ≠ b.text := by
    intro heq
    cases a
    cases b
    exact hab (congrArg FixtureId.mk heq)
  exact List.Pairwise.map _ hne report.cells.nodup_keys

section

variable {chain : Chain} {report : Report} {document : Json}

/-- The canonical document ascends just if no two fixtures' names are written the other way
    round. -/
theorem ascending_sorted_iff (hdocument : report.document chain = .ok document) :
    document.sorted.Ascending ↔ Json.OrderedAlike report.fixtureNames := by
  have htame (names : List String) (htame : Tame names) :
      (names.mergeSort Json.writtenLE).Pairwise Json.UnitsBefore :=
    (Json.pairwise_mergeSort_iff htame.1).2 (Json.orderedAlike_of_level htame.2)
  rw [Json.Ascending, Json.sorted_eq_arranged, Json.eachObject_arranged_iff,
    eachObject_document_iff htame hdocument,
    Json.pairwise_mergeSort_iff report.nodup_fixtureNames]

/-- To arrange the canonical document by code units changes nothing just if no two fixtures' names
    are written the other way round. -/
theorem arranged_sorted_eq_iff (hdocument : report.document chain = .ok document) :
    document.sorted.arranged Json.unitsLE = document.sorted ↔
      Json.OrderedAlike report.fixtureNames := by
  have hnodup {names : List String} (h : names.Nodup) :
      (names.mergeSort Json.writtenLE).Nodup := (List.mergeSort_perm names _).nodup_iff.2 h
  have htame (names : List String) (htame : Tame names) :
      (names.mergeSort Json.writtenLE).Pairwise fun a b => Json.unitsLE a b = true :=
    (Json.pairwise_unitsLE_iff (hnodup htame.1)).2
      ((Json.pairwise_mergeSort_iff htame.1).2 (Json.orderedAlike_of_level htame.2))
  rw [Json.arranged_eq_self_iff Json.unitsLE_trans Json.unitsLE_total, Json.sorted_eq_arranged,
    Json.eachObject_arranged_iff, eachObject_document_iff htame hdocument,
    Json.pairwise_unitsLE_iff (hnodup report.nodup_fixtureNames),
    Json.pairwise_mergeSort_iff report.nodup_fixtureNames]

theorem canonicalText_eq_ok_iff {text : String} : report.canonicalText chain = .ok text ↔
    ∃ document, report.document chain = .ok document ∧ document.canonical = text := by
  unfold canonicalText
  cases report.document chain with
  | error cause => exact iff_of_false nofun fun ⟨_, heq, _⟩ => nomatch heq
  | ok document =>
    constructor
    · intro heq
      exact ⟨document, rfl, Except.ok.inj heq⟩
    · rintro ⟨_, heq, rfl⟩
      cases heq
      rfl

/-- A text that a run writes is that of one document alone. The members of its objects stand in the
    order of their code units just if quotes and escapes leave the fixtures' names in that order,
    and just then a writer that puts members in that order writes the text again. Names within the
    basic plane without backslashes, controls, blanks, exclamation marks and double quotes are in
    that order always. -/
theorem canonicalText_ascending_iff {text : String}
    (htext : report.canonicalText chain = .ok text) : ∃ document : Json,
      (∀ other : Json, other.compact = text ↔ other = document) ∧
      (document.Ascending ↔ Json.OrderedAlike report.fixtureNames) ∧
      ((document.arranged Json.unitsLE).compact = text ↔ Json.OrderedAlike report.fixtureNames) ∧
      ((∀ name ∈ report.fixtureNames, Json.Level name) → document.Ascending) := by
  obtain ⟨document, hdocument, rfl⟩ := canonicalText_eq_ok_iff.1 htext
  have hascending := ascending_sorted_iff hdocument
  refine ⟨document.sorted, fun _ => Json.compact_eq_canonical_iff, hascending, ?_, ?_⟩
  · exact Json.compact_eq_canonical_iff.trans (arranged_sorted_eq_iff hdocument)
  · intro hlevel
    exact hascending.2 (Json.orderedAlike_of_level hlevel)

end

/-- The report of a run over fixtures of some names for which no compiler is there. -/
def unbuilt (names : List String) : Report :=
  assemble (Chain.empty.addMissing .first (.ofText "c"))
    (names.map fun name => ⟨⟨name⟩, .ofText "f.c", []⟩) [] false

theorem canonicalText_ascending_unbuilt :
    ∃ text, (unbuilt ["b", "a"]).canonicalText (Chain.empty.addMissing .first (.ofText "c")) =
      .ok text ∧ ∃ document : Json, (∀ other : Json, other.compact = text ↔ other = document) ∧
        document.Ascending := by
  obtain ⟨text, htext⟩ : Encodes ((unbuilt ["b", "a"]).canonicalText
      (Chain.empty.addMissing .first (.ofText "c"))) := by
    rw [encodes_canonicalText_iff]
    decide +kernel
  obtain ⟨document, honly, hascending, -⟩ := canonicalText_ascending_iff htext
  exact ⟨text, htext, document, honly, hascending.2 (by decide +kernel)⟩

/-- An exclamation mark comes before the quote that ends a name. -/
theorem canonicalText_not_ascending :
    ∃ text, (unbuilt ["a", "a!"]).canonicalText (Chain.empty.addMissing .first (.ofText "c")) =
      .ok text ∧ ∃ document : Json, (∀ other : Json, other.compact = text ↔ other = document) ∧
        ¬ document.Ascending ∧ (document.arranged Json.unitsLE).compact ≠ text := by
  obtain ⟨text, htext⟩ : Encodes ((unbuilt ["a", "a!"]).canonicalText
      (Chain.empty.addMissing .first (.ofText "c"))) := by
    rw [encodes_canonicalText_iff]
    decide +kernel
  have hunlike : ¬ Json.OrderedAlike (unbuilt ["a", "a!"]).fixtureNames := by decide +kernel
  obtain ⟨document, hdocument, rfl⟩ := canonicalText_eq_ok_iff.1 htext
  refine ⟨document.canonical, htext, document.sorted, fun _ => Json.compact_eq_canonical_iff,
    mt (ascending_sorted_iff hdocument).1 hunlike, fun heq => hunlike ?_⟩
  exact (arranged_sorted_eq_iff hdocument).1 (Json.compact_eq_canonical_iff.1 heq)

end Report

end BootChain
