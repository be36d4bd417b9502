import BootChain.Proofs.SortedMap
import BootChain.Report.Assembly

namespace BootChain

/-- The pair that an arrival is about. -/
def Arrival.key (arrival : Arrival) : Generation × FixtureId :=
  (arrival.generation, arrival.fixture)

namespace Report

variable {chain : Chain} {fixtures : List Fixture} {cells : SortedMap FixtureId Row}
  {arrival first second : Arrival} {id : FixtureId} {generation : Generation} {trial : Trial}

/-- What is placed is the trial of a completed job, in the row of its fixture. -/
theorem place_of_completed (houtcome : arrival.outcome = .completed trial) :
    place fixtures cells arrival = cells.adjust arrival.fixture fun row =>
      row.insert arrival.generation
        (.evaluated trial (isMatch fixtures arrival.fixture trial)) := by
  rw [place, houtcome]

theorem place_of_not_completed (houtcome : ¬ ∃ trial, arrival.outcome = .completed trial) :
    place fixtures cells arrival = cells := by
  cases hfound : arrival.outcome with
  | completed trial => exact absurd ⟨trial, hfound⟩ houtcome
  | notStarted => rw [place, hfound]
  | brokeDown => rw [place, hfound]

/-- Two outcomes that are about different pairs can be placed in either order. -/
theorem place_comm (hkey : first.key ≠ second.key) :
    place fixtures (place fixtures cells first) second =
      place fixtures (place fixtures cells second) first := by
  by_cases hfirst : ∃ trial, first.outcome = .completed trial
  · by_cases hsecond : ∃ trial, second.outcome = .completed trial
    · obtain ⟨trial, hfirst⟩ := hfirst
      obtain ⟨other, hsecond⟩ := hsecond
      simp only [place_of_completed hfirst, place_of_completed hsecond]
      by_cases hfixture : first.fixture = second.fixture
      · have hgeneration : first.generation ≠ second.generation := fun heq =>
          hkey (Prod.ext heq hfixture)
        rw [hfixture, SortedMap.adjust_adjust, SortedMap.adjust_adjust]
        congr 1
        funext row
        exact row.insert_comm hgeneration _ _
      · exact cells.adjust_comm hfixture _ _
    · simp only [place_of_not_completed hsecond]
  · simp only [place_of_not_completed hfirst]

/-- Outcomes that are about different pairs make the same cells in whatever order they come. -/
theorem cellsOf_perm {arrivals others : List Arrival} (hperm : arrivals.Perm others)
    (hkeys : ∀ first ∈ arrivals, ∀ second ∈ arrivals, first.key = second.key → first = second) :
    cellsOf chain fixtures arrivals = cellsOf chain fixtures others := by
  apply hperm.foldl_eq'
  intro first hfirst second hsecond cells
  by_cases hkey : first.key = second.key
  · rw [hkeys first hfirst second hsecond hkey]
  · exact place_comm hkey

theorem assemble_perm {arrivals others : List Arrival} (hperm : arrivals.Perm others)
    (hkeys : ∀ first ∈ arrivals, ∀ second ∈ arrivals, first.key = second.key → first = second)
    (cancelled : Bool) :
    assemble chain fixtures arrivals cancelled = assemble chain fixtures others cancelled := by
  rw [assemble, cellsOf_perm hperm hkeys]
  rfl

theorem get?_openCells : (openCells chain fixtures).get? id =
    if id ∈ fixtures.map Fixture.id then some (chain.slots.mapWithKey fun _ slot => openCell slot)
    else none :=
  SortedMap.get?_ofList_map fixtures Fixture.id
    (fun _ => chain.slots.mapWithKey fun _ slot => openCell slot) id

/-- The rows of a report are those of the fixtures, whatever arrives. -/
theorem isSome_get?_place :
    ((place fixtures cells arrival).get? id).isSome = (cells.get? id).isSome := by
  by_cases hcompleted : ∃ trial, arrival.outcome = .completed trial
  · obtain ⟨trial, htrial⟩ := hcompleted
    rw [place_of_completed htrial, SortedMap.get?_adjust]
    split
    next hid => rw [Option.isSome_map, hid]
    next => rfl
  · rw [place_of_not_completed hcompleted]

/-- The cell of a fixture under a generation. -/
def cellAt? (cells : SortedMap FixtureId Row) (id : FixtureId) (generation : Generation) :
    Option Cell :=
  (cells.get? id).bind (·.get? generation)

theorem cellAt?_openCells : cellAt? (openCells chain fixtures) id generation =
    if id ∈ fixtures.map Fixture.id then (chain.get? generation).map openCell else none := by
  rw [cellAt?, get?_openCells]
  split
  · exact SortedMap.get?_mapWithKey ..
  · rfl

theorem cellAt?_place (houtcome : arrival.outcome = .completed trial) :
    cellAt? (place fixtures cells arrival) id generation =
      if arrival.key = (generation, id) then
        (cells.get? id).map fun _ => .evaluated trial (isMatch fixtures id trial)
      else cellAt? cells id generation := by
  rw [cellAt?, place_of_completed houtcome, SortedMap.get?_adjust, Arrival.key]
  by_cases hid : id = arrival.fixture
  · subst hid
    cases hrow : cells.get? arrival.fixture with
    | none => simp [cellAt?, hrow]
    | some row =>
      by_cases hgeneration : generation = arrival.generation
      · simp [SortedMap.get?_insert, hgeneration]
      · simp [SortedMap.get?_insert, hgeneration, Ne.symm hgeneration, cellAt?, hrow]
  · simp [hid, Ne.symm hid, cellAt?]

/-- An evaluated cell says of its trial whether the fixture's expectation was met. -/
def Judged (fixtures : List Fixture) (cells : SortedMap FixtureId Row) : Prop :=
  ∀ id generation trial matchesExpected,
    cellAt? cells id generation = some (.evaluated trial matchesExpected) →
    matchesExpected = isMatch fixtures id trial

theorem judged_openCells : Judged fixtures (openCells chain fixtures) := by
  intro id generation trial matchesExpected hcell
  rw [cellAt?_openCells] at hcell
  split at hcell
  · obtain ⟨slot, -, hslot⟩ := Option.map_eq_some_iff.1 hcell
    cases slot <;> cases hslot
  · cases hcell

theorem Judged.place (hjudged : Judged fixtures cells) (arrival : Arrival) :
    Judged fixtures (place fixtures cells arrival) := by
  by_cases hcompleted : ∃ trial, arrival.outcome = .completed trial
  · obtain ⟨found, hfound⟩ := hcompleted
    intro id generation trial matchesExpected hcell
    rw [cellAt?_place hfound] at hcell
    split at hcell
    · obtain ⟨row, -, hrow⟩ := Option.map_eq_some_iff.1 hcell
      cases hrow
      rfl
    · exact hjudged _ _ _ _ hcell
  · rwa [place_of_not_completed hcompleted]

/-- What placing preserves holds after any number of arrivals. -/
theorem foldl_place_induction {motive : SortedMap FixtureId Row → Prop}
    (hplace : ∀ cells arrival, motive cells → motive (place fixtures cells arrival))
    (hcells : motive cells) (arrivals : List Arrival) :
    motive (arrivals.foldl (place fixtures) cells) := by
  induction arrivals generalizing cells with
  | nil => exact hcells
  | cons arrival rest ih => exact ih (hplace cells arrival hcells)

theorem judged_cellsOf (arrivals : List Arrival) :
    Judged fixtures (cellsOf chain fixtures arrivals) :=
  foldl_place_induction (fun _ arrival hjudged => hjudged.place arrival) judged_openCells arrivals

/-- The cell of a pair is evaluated. -/
def EvaluatedAt (cells : SortedMap FixtureId Row) (key : Generation × FixtureId) : Prop :=
  ∃ trial matchesExpected, cellAt? cells key.2 key.1 = some (.evaluated trial matchesExpected)

theorem EvaluatedAt.place {key : Generation × FixtureId} (hevaluated : EvaluatedAt cells key)
    (arrival : Arrival) : EvaluatedAt (place fixtures cells arrival) key := by
  by_cases hcompleted : ∃ trial, arrival.outcome = .completed trial
  · obtain ⟨found, hfound⟩ := hcompleted
    obtain ⟨trial, matchesExpected, hcell⟩ := hevaluated
    obtain ⟨row, hrow, -⟩ := Option.bind_eq_some_iff.1 hcell
    by_cases hkey : arrival.key = key
    · exact ⟨found, _, by rw [cellAt?_place hfound, if_pos hkey, hrow]; rfl⟩
    · exact ⟨trial, matchesExpected, by rw [cellAt?_place hfound, if_neg hkey, hcell]⟩
  · rwa [place_of_not_completed hcompleted]

theorem evaluatedAt_place (houtcome : arrival.outcome = .completed trial)
    (hrow : (cells.get? arrival.fixture).isSome) :
    EvaluatedAt (place fixtures cells arrival) arrival.key := by
  obtain ⟨row, hrow⟩ := Option.isSome_iff_exists.1 hrow
  have hcell : cellAt? (place fixtures cells arrival) arrival.fixture arrival.generation =
      some (.evaluated trial (isMatch fixtures arrival.fixture trial)) := by
    rw [cellAt?_place houtcome, Arrival.key, if_pos rfl, hrow]
    rfl
  exact ⟨_, _, hcell⟩

/-- A pair of which a trial was completed has an evaluated cell. -/
theorem evaluatedAt_cellsOf {arrivals : List Arrival} (hmem : arrival ∈ arrivals)
    (houtcome : arrival.outcome = .completed trial)
    (hid : arrival.fixture ∈ fixtures.map Fixture.id) :
    EvaluatedAt (cellsOf chain fixtures arrivals) arrival.key := by
  obtain ⟨before, after, rfl⟩ := List.append_of_mem hmem
  rw [cellsOf, List.foldl_append, List.foldl_cons]
  have hopen : ((openCells chain fixtures).get? arrival.fixture).isSome := by
    rw [get?_openCells, if_pos hid]
    rfl
  have hrow : ((before.foldl (place fixtures) (openCells chain fixtures)).get?
      arrival.fixture).isSome :=
    foldl_place_induction (motive := fun cells => (cells.get? arrival.fixture).isSome)
      (fun cells other hcells => by rwa [isSome_get?_place]) hopen before
  exact foldl_place_induction (motive := fun cells => EvaluatedAt cells arrival.key)
    (fun _ other hevaluated => hevaluated.place other) (evaluatedAt_place houtcome hrow) after

end Report

end BootChain
