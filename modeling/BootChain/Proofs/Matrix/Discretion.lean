import BootChain.Proofs.Matrix.Confluence
import BootChain.Proofs.Matrix.Schedule
import BootChain.Proofs.Matrix.Sequential
import BootChain.Proofs.Report.Cells
import BootChain.Proofs.Trial.Discretion
import Mathlib.Data.List.Forall2

namespace BootChain

/-- The outcome of a job less what its programs printed. -/
def Outcome.blank : Outcome → Outcome
  | .completed trial => .completed trial.blank
  | .notStarted => .notStarted
  | .brokeDown => .brokeDown

def Arrival.blank (arrival : Arrival) : Arrival := { arrival with outcome := arrival.outcome.blank }

/-- A cell less what its programs printed, and so less the verdict on it. -/
def Cell.blank : Cell → Cell
  | .notEvaluated path => .notEvaluated path
  | .skipped => .skipped
  | .evaluated trial _ => .evaluated trial.blank false

namespace Report

variable {chain : Chain} {fixtures : List Fixture} {report other : Report}

/-- All cells less what their programs printed. -/
def blankCells (cells : SortedMap FixtureId Row) : SortedMap FixtureId Row :=
  cells.mapWithKey fun _ row => row.mapWithKey fun _ cell => cell.blank

theorem blankCells_place_of_completed {cells : SortedMap FixtureId Row} {arrival : Arrival}
    {trial : Trial} (houtcome : arrival.outcome = .completed trial) :
    blankCells (place fixtures cells arrival) =
      (blankCells cells).adjust arrival.fixture fun row =>
        row.insert arrival.generation (.evaluated trial.blank false) := by
  rw [place_of_completed houtcome]
  exact SortedMap.mapWithKey_adjust cells fun row =>
    SortedMap.mapWithKey_insert row (fun _ cell => cell.blank) ..

theorem blankCells_place {cells others : SortedMap FixtureId Row} {arrival twin : Arrival}
    (hcells : blankCells cells = blankCells others) (htwins : arrival.blank = twin.blank) :
    blankCells (place fixtures cells arrival) = blankCells (place fixtures others twin) := by
  obtain ⟨generation, fixture, outcome⟩ := arrival
  obtain ⟨_, _, found⟩ := twin
  cases outcome with
  | completed trial =>
    cases found with
    | completed other =>
      simp only [Arrival.blank, Outcome.blank, Arrival.mk.injEq, Outcome.completed.injEq] at htwins
      obtain ⟨rfl, rfl, htrials⟩ := htwins
      rw [blankCells_place_of_completed rfl, blankCells_place_of_completed rfl, hcells, htrials]
    | _ => simp [Arrival.blank, Outcome.blank] at htwins
  | notStarted =>
    cases found with
    | notStarted => exact hcells
    | _ => simp [Arrival.blank, Outcome.blank] at htwins
  | brokeDown =>
    cases found with
    | brokeDown => exact hcells
    | _ => simp [Arrival.blank, Outcome.blank] at htwins

/-- The cells hang on what the programs printed only where a cell says it. -/
theorem blankCells_cellsOf {arrivals others : List Arrival}
    (htwins : arrivals.map Arrival.blank = others.map Arrival.blank) :
    blankCells (cellsOf chain fixtures arrivals) = blankCells (cellsOf chain fixtures others) := by
  have hplaced : ∀ {cells found : SortedMap FixtureId Row}, blankCells cells = blankCells found →
      blankCells (arrivals.foldl (place fixtures) cells) =
        blankCells (others.foldl (place fixtures) found) := by
    induction arrivals generalizing others with
    | nil =>
      intro cells found hcells
      rw [List.map_eq_nil_iff.1 htwins.symm]
      exact hcells
    | cons arrival rest ih =>
      intro cells found hcells
      cases others with
      | nil => cases htwins
      | cons twin others =>
        obtain ⟨htwin, hrest⟩ := List.cons.inj htwins
        exact ih hrest (blankCells_place hcells htwin)
  exact hplaced rfl

theorem map_blank_allCells : report.allCells.map Cell.blank =
    (blankCells report.cells).values.flatMap SortedMap.values := by
  simp only [allCells, blankCells, SortedMap.values, SortedMap.mapWithKey, List.map_flatMap,
    List.flatMap_map, List.map_map, Function.comp_def]

/-- What can be counted in the cells less what the programs printed, is the same on both sides. -/
theorem countP_allCells_eq (hcells : blankCells report.cells = blankCells other.cells)
    {condition : Cell → Bool} (hblank : ∀ cell : Cell, condition cell.blank = condition cell) :
    report.allCells.countP condition = other.allCells.countP condition := by
  have hcount : ∀ report : Report, report.allCells.countP condition =
      (report.allCells.map Cell.blank).countP condition := by
    intro report
    rw [List.countP_map]
    exact congrArg (report.allCells.countP ·) (funext fun cell => (hblank cell).symm)
  rw [hcount, hcount, map_blank_allCells, map_blank_allCells, hcells]

end Report

namespace Matrix

variable {ρ τ : Type} {related : ρ → τ → Prop}

/-- The parts of two closing events that hang on the verdict are the outcome, and how many trials
    passed, how many printed something else than expected, and how many comparisons diverge. All
    else that two runs have to say is the same. -/
structure SameButVerdict (first : Report × World ρ) (second : Report × World τ) : Prop where
  events : ∃ earlier, first.2.events = earlier ++ [closing first.1] ∧
    second.2.events = earlier ++ [closing second.1]
  name_eq : (closing first.1).name = (closing second.1).name
  evaluated_eq : first.1.tally.evaluated = second.1.tally.evaluated
  pipelineFailures_eq : first.1.tally.pipelineFailures = second.1.tally.pipelineFailures
  notEvaluated_eq : first.1.tally.notEvaluated = second.1.tally.notEvaluated
  skipped_eq : first.1.tally.skipped = second.1.tally.skipped
  closing_eq : first.1.isClean = second.1.isClean →
    first.1.tally.passed = second.1.tally.passed →
    first.1.tally.outputMismatches = second.1.tally.outputMismatches →
    first.1.tally.violations = second.1.tally.violations → closing first.1 = closing second.1

end Matrix

/-- Two jobs of a run are equally far, and go on alike. -/
inductive Phase.Twins : Phase → Phase → Prop
  | waiting : Twins .waiting .waiting
  | admitted : Twins .admitted .admitted
  | running {rest other : Job Trial} (hjobs : Job.Twins alikeButOutput Trial.Alike rest other) :
    Twins (.running rest) (.running other)
  | ended {outcome found : Outcome} (houtcomes : outcome.blank = found.blank) :
    Twins (.ended outcome) (.ended found)
  | joined {outcome found : Outcome} (houtcomes : outcome.blank = found.blank) :
    Twins (.joined outcome) (.joined found)

theorem Phase.Twins.holdsPermit_eq {phase twin : Phase} (htwins : phase.Twins twin) :
    phase.holdsPermit = twin.holdsPermit := by
  cases htwins <;> rfl

structure Task.Twins (task twin : Task) : Prop where
  stage_eq : task.stage = twin.stage
  fixture_eq : task.fixture = twin.fixture
  phases : task.phase.Twins twin.phase

/-- Two runs that are the same but for what programs have printed and what runners remember. -/
structure Run.Twins {ρ τ : Type} (related : ρ → τ → Prop) (run : Run ρ) (twin : Run τ) : Prop where
  tasks : List.Forall₂ Task.Twins run.tasks twin.tasks
  worlds : run.world.Alike related twin.world
  arrivals : run.arrivals.map Arrival.blank = twin.arrivals.map Arrival.blank

namespace Matrix

variable {ρ τ : Type} {related : ρ → τ → Prop} {matrix : Matrix}
  {runner : Stage → Fixture → Runner ρ} {other : Stage → Fixture → Runner τ}
  {world : World ρ} {mirror : World τ} {task twin : Task} {run : Run ρ} {reflected : Run τ}

/-- A move does the same to jobs that are twins. -/
theorem advance?_twins (settings : Settings)
    (hrunners : ∀ stage fixture, Runner.Alike related (runner stage fixture) (other stage fixture))
    (hworlds : world.Alike related mirror) (htasks : task.Twins twin) (permitFree : Bool)
    (move : Move) :
    Option.Rel (fun first second => first.1.Twins second.1 ∧ first.2.Alike related second.2)
      (advance? settings runner permitFree world task move)
      (advance? settings other permitFree mirror twin move) := by
  obtain ⟨stage, fixture, phase⟩ := task
  obtain ⟨_, _, found⟩ := twin
  obtain ⟨rfl, rfl, hphases⟩ := htasks
  have hcancelled := hworlds.cancelled_eq
  cases hphases with
  | waiting =>
    cases move with
    | enter =>
      cases permitFree with
      | true => exact .some ⟨.admitted, hworlds⟩
      | false => exact .none
    | giveUp =>
      simp only [advance?, hcancelled]
      split
      · exact .some ⟨.ended rfl, hworlds⟩
      · exact .none
    | _ => exact .none
  | admitted =>
    cases move with
    | step =>
      simp only [advance?, hcancelled]
      split
      · exact .some ⟨.ended rfl, hworlds⟩
      · exact .some ⟨.running (Trial.perform_twins settings stage fixture), hworlds⟩
    | _ => exact .none
  | running hjobs =>
    cases hjobs with
    | done htrials =>
      cases move with
      | step =>
        have houtcomes := congrArg Outcome.completed htrials
        exact .some ⟨.ended houtcomes, hworlds⟩
      | breakDown => exact .some ⟨.ended rfl, hworlds⟩
      | _ => exact .none
    | @ask request next others hnext =>
      cases move with
      | step =>
        obtain ⟨hlike, hafter⟩ := hworlds.answer (hrunners stage fixture) request
        exact .some ⟨.running (hnext _ _ hlike), hafter⟩
      | breakDown => exact .some ⟨.ended rfl, hworlds⟩
      | _ => exact .none
  | ended houtcomes =>
    cases move with
    | join => exact .some ⟨.joined houtcomes, hworlds⟩
    | _ => exact .none
  | joined houtcomes => cases move <;> exact .none

theorem twins_getElem? {tasks twins : List Task} (htasks : List.Forall₂ Task.Twins tasks twins)
    (index : Nat) : Option.Rel Task.Twins tasks[index]? twins[index]? := by
  induction htasks generalizing index with
  | nil => exact .none
  | cons htask _ ih =>
    cases index with
    | zero => exact .some htask
    | succ index => exact ih index

theorem twins_set {tasks twins : List Task} (htasks : List.Forall₂ Task.Twins tasks twins)
    (htask : task.Twins twin) (index : Nat) :
    List.Forall₂ Task.Twins (tasks.set index task) (twins.set index twin) := by
  induction htasks generalizing index with
  | nil => exact .nil
  | cons hfirst hrest ih =>
    cases index with
    | zero => exact .cons htask hrest
    | succ index => exact .cons hfirst (ih index)

theorem countP_holdsPermit_eq {tasks twins : List Task}
    (htasks : List.Forall₂ Task.Twins tasks twins) :
    tasks.countP (·.phase.holdsPermit) = twins.countP (·.phase.holdsPermit) := by
  induction htasks with
  | nil => rfl
  | cons htask _ ih => rw [List.countP_cons, List.countP_cons, ih, htask.phases.holdsPermit_eq]

/-- What is handed in after a move is the same on both sides, but for what programs printed. -/
theorem blank_arrival_joined? {phase found : Phase} (hphases : phase.Twins found)
    (hstage : task.stage = twin.stage) (hfixture : task.fixture = twin.fixture) :
    (phase.joined?.map (arrival task.stage task.fixture)).toList.map Arrival.blank =
      (found.joined?.map (arrival twin.stage twin.fixture)).toList.map Arrival.blank := by
  cases hphases with
  | joined houtcomes => simp [Phase.joined?, arrival, Arrival.blank, houtcomes, hstage, hfixture]
  | _ => rfl

section

variable
  (hrunners : ∀ stage fixture, Runner.Alike related (runner stage fixture) (other stage fixture))
include hrunners

/-- Whatever happens next happens to both runs alike. -/
theorem act_twins (htwins : run.Twins related reflected) (action : Action) :
    (matrix.act runner run action).Twins related (matrix.act other reflected action) := by
  obtain ⟨htasks, hworlds, harrivals⟩ := htwins
  cases action with
  | raise => exact ⟨htasks, hworlds.raise, harrivals⟩
  | move index move =>
    have hfound := twins_getElem? htasks index
    have hfree : run.permitFree matrix.jobs = reflected.permitFree matrix.jobs := by
      rw [Run.permitFree, Run.permitFree, countP_holdsPermit_eq htasks]
    simp only [Matrix.act]
    generalize run.tasks[index]? = task? at hfound
    generalize reflected.tasks[index]? = twin? at hfound
    cases hfound with
    | none => exact ⟨htasks, hworlds, harrivals⟩
    | @some task twin htask =>
      have hadvance := advance?_twins matrix.settings hrunners hworlds htask
        (run.permitFree matrix.jobs) move
      rw [← hfree]
      dsimp only
      generalize advance? matrix.settings runner _ _ _ _ = first? at hadvance
      generalize advance? matrix.settings other _ _ _ _ = second? at hadvance
      cases hadvance with
      | none => exact ⟨htasks, hworlds, harrivals⟩
      | @some first second hnext =>
        obtain ⟨hphases, hlater⟩ := hnext
        have hmoved : Task.Twins { task with phase := first.1 } { twin with phase := second.1 } :=
          ⟨htask.stage_eq, htask.fixture_eq, hphases⟩
        refine ⟨twins_set htasks hmoved index, hlater, ?_⟩
        rw [List.map_append, List.map_append, harrivals,
          blank_arrival_joined? hphases htask.stage_eq htask.fixture_eq]

/-- Two runs that go through one schedule are the same throughout, but for what programs print. -/
theorem follow_twins (matrix : Matrix) (hworlds : world.Alike related mirror)
    (schedule : List Action) :
    (matrix.follow runner world schedule).Twins related (matrix.follow other mirror schedule) := by
  have hopening : ∀ (events : List Event) {world : World ρ} {mirror : World τ},
      world.Alike related mirror →
        (events.foldl World.emit world).Alike related (events.foldl World.emit mirror) := by
    intro events
    induction events with
    | nil => exact fun halike => halike
    | cons event rest ih => exact fun halike => ih (halike.emit event)
  have hstart : (matrix.start world).Twins related (matrix.start mirror) := by
    refine ⟨?_, hopening matrix.opening hworlds, rfl⟩
    exact (List.forall₂_same).2 fun task htask => by
      obtain ⟨pair, -, rfl⟩ := List.mem_map.1 htask
      exact ⟨rfl, rfl, .waiting⟩
  rw [follow, follow]
  generalize matrix.start world = run at hstart
  generalize matrix.start mirror = reflected at hstart
  induction schedule generalizing run reflected with
  | nil => exact hstart
  | cons action rest ih => exact ih _ _ (act_twins hrunners hstart action)

end

/-- What two such runs conclude is the same but for the verdict. -/
theorem sameButVerdict_of_twins (matrix : Matrix) (htwins : run.Twins related reflected) :
    SameButVerdict (matrix.conclude run) (matrix.conclude reflected) := by
  have hcells : Report.blankCells (matrix.reportOf run).cells =
      Report.blankCells (matrix.reportOf reflected).cells :=
    Report.blankCells_cellsOf htwins.arrivals
  have hcancelled : (matrix.reportOf run).cancelled = (matrix.reportOf reflected).cancelled :=
    htwins.worlds.cancelled_eq
  have hevaluated : (matrix.reportOf run).tally.evaluated =
      (matrix.reportOf reflected).tally.evaluated :=
    Report.countP_allCells_eq hcells fun cell => by cases cell <;> rfl
  have hfailures : (matrix.reportOf run).tally.pipelineFailures =
      (matrix.reportOf reflected).tally.pipelineFailures :=
    Report.countP_allCells_eq hcells fun cell => by
      cases cell <;> simp [Cell.blank, Trial.succeeded_blank]
  have hnotEvaluated : (matrix.reportOf run).tally.notEvaluated =
      (matrix.reportOf reflected).tally.notEvaluated :=
    Report.countP_allCells_eq hcells fun cell => by cases cell <;> rfl
  have hskipped : (matrix.reportOf run).tally.skipped =
      (matrix.reportOf reflected).tally.skipped :=
    Report.countP_allCells_eq hcells fun cell => by cases cell <;> simp [Cell.blank]
  refine ⟨⟨run.world.events, rfl, ?_⟩, ?_, hevaluated, hfailures, hnotEvaluated, hskipped, ?_⟩
  · rw [htwins.worlds.events_eq]
    rfl
  · exact congrArg (fun cancelled : Bool =>
      if cancelled then "matrix_cancelled" else "matrix_finished") hcancelled
  · intro hclean hpassed hmismatches hviolations
    change closing (matrix.reportOf run) = closing (matrix.reportOf reflected)
    dsimp only [conclude] at hclean hpassed hmismatches hviolations
    unfold closing
    dsimp only
    rw [hcancelled, hclean, hevaluated, hpassed, hfailures, hmismatches, hnotEvaluated, hskipped,
      hviolations]

/-- What programs print never gets into the events. Two runners that answer alike but for what
    their programs print leave the events of a trial the same, whenever it is cancelled, and those
    of a whole run too, except for what the last one says of the verdict. -/
theorem events_eq_of_alike
    (hrunners : ∀ stage fixture, Runner.Alike related (runner stage fixture) (other stage fixture))
    (hworlds : world.Alike related mirror) :
    (∀ settings stage fixture raised,
      ((Trial.perform settings stage fixture).run
          (World.answerRaising raised (runner stage fixture)) (world, 0)).2.1.events =
        ((Trial.perform settings stage fixture).run
          (World.answerRaising raised (other stage fixture)) (mirror, 0)).2.1.events) ∧
    ∀ settings jobs chain fixtures selection schedule,
      let matrix := select settings jobs chain fixtures selection
      SameButVerdict (matrix.conclude (matrix.follow runner world schedule))
        (matrix.conclude (matrix.follow other mirror schedule)) := by
  refine ⟨fun settings stage fixture raised => ?_, fun settings jobs chain fixtures selection
    schedule => ?_⟩
  · exact Trial.events_perform_eq (hrunners stage fixture) hworlds raised settings stage fixture
  · exact sameButVerdict_of_twins _ (follow_twins hrunners _ hworlds schedule)

/-- Programs that all succeed and write both artifacts, and print what is given for their
    compiler. -/
def printing (text : Stage → Bytes) (stage : Stage) (fixture : Fixture) : Runner Unit :=
  fun command _ world =>
    let artifacts := Artifacts.under ⟨[]⟩ stage.generation fixture.id
    (.ok ⟨command.line, .exited (some 0), text stage, text stage, 3⟩,
      { world with
        files := artifacts.paths.foldl (fun files path => files.put [path.bytes] (.file [] 493))
          world.files })

/-- One source under both of two compilers. -/
def oneSource : Matrix :=
  select { artifactDir := ⟨[]⟩ } 2 twoCompilers twoSources { fixtures := [⟨"a"⟩] }

/-- Programs that print nothing pass everywhere. Programs that print the name of their compiler
    never do, and all that the events show of it is in the last one. -/
theorem events_eq_of_alike_printing :
    let silent := oneSource.follow (printing fun _ => []) { files := {}, memory := () }
      (oneByOne 2)
    let talkative := oneSource.follow (printing fun stage => stage.binary.bytes)
      { files := {}, memory := () } (oneByOne 2)
    SameButVerdict (oneSource.conclude silent) (oneSource.conclude talkative) ∧
      (silent.isOver = true ∧ (oneSource.reportOf silent).tally.passed = 2) ∧
      talkative.isOver = true ∧ (oneSource.reportOf talkative).tally.passed = 0 := by
  intro silent talkative
  have hrunners : ∀ stage fixture, Runner.Alike (fun _ _ => True)
      (printing (fun _ => []) stage fixture)
      (printing (fun stage => stage.binary.bytes) stage fixture) := by
    intro stage fixture command limitMs world mirror halike
    refine ⟨rfl, ?_, halike.cancelled_eq, trivial⟩
    simp only [printing, halike.files_eq]
  have hworlds : World.Alike (fun _ _ => True) { files := {}, memory := () }
      { files := {}, memory := () } := ⟨rfl, rfl, rfl, trivial⟩
  have hsame := (events_eq_of_alike hrunners hworlds).2 { artifactDir := ⟨[]⟩ } 2 twoCompilers
    twoSources { fixtures := [⟨"a"⟩] } (oneByOne 2)
  exact ⟨hsame, by decide +kernel, by decide +kernel⟩

end Matrix

end BootChain
