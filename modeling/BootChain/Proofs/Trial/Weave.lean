import BootChain.Proofs.Artifacts
import BootChain.Proofs.Job.Weave
import BootChain.Proofs.Trial.Tidy
import BootChain.World

namespace BootChain.Trial

variable {ρ : Type}

/-- The trials of some pairs, none of which has begun, over a world that they share. -/
def weave (settings : Settings) (runner : Stage → Fixture → Runner ρ)
    (pairs : List (Stage × Fixture)) (world : World ρ) : Weave (World ρ) Trial where
  strands := pairs.map fun pair =>
    ⟨World.answer (runner pair.1 pair.2), perform settings pair.1 pair.2⟩
  state := world

/-- The names of a pair's artifacts. -/
def namesOf (pair : Stage × Fixture) : List Bytes :=
  Artifacts.fileNames pair.1.generation pair.2.id

/-- The paths of some names under a directory. -/
def pathsUnder (root : Path) (names : List Bytes) : List Path :=
  names.map fun name => root.join ⟨name⟩

/-- What the trial of a pair may ask for. -/
abbrev tidyFor (settings : Settings) (pair : Stage × Fixture) : Job.Discipline Readiness :=
  tidy settings.artifactDir (pathsUnder settings.artifactDir (namesOf pair))

/-- The files once a trial has asked for the artifact directory. -/
def madeBy (settings : Settings) (files : FileSystem) : FileSystem :=
  (files.createDirs settings.artifactDir).2

/-- A trial that has not asked for its directory asks for nothing else. -/
theorem eq_createDirs_of_allows {root : Path} {own : List Path} {request : Request}
    (hallowed : (tidy root own).allows .unasked request) : request = .createDirs root := by
  cases request with
  | createDirs directory => exact congrArg _ hallowed
  | removeFile file => exact hallowed.elim
  | isCancelled => exact hallowed.elim
  | call command limitMs => exact hallowed.elim
  | isFile file => exact hallowed.elim
  | emit event => exact hallowed.elim

theorem answer_createDirs (runner : Runner ρ) (settings : Settings) (world : World ρ) :
    World.answer runner (.createDirs settings.artifactDir) world =
      ((world.files.createDirs settings.artifactDir).1,
        { world with files := madeBy settings world.files }) := rfl

/-- A relation between the worlds of a trial alone and among others that lasts whoever's turn it
    is. Of a trial, it is about the pair and about how far it has come with its directory. -/
structure Lasting (settings : Settings) (runner : Stage → Fixture → Runner ρ)
    (pairs : List (Stage × Fixture))
    (relates : Stage × Fixture → Readiness → World ρ → World ρ → Prop) : Prop where
  own : ∀ {pair readiness request alone shared}, pair ∈ pairs →
    (tidyFor settings pair).allows readiness request → relates pair readiness alone shared →
      (World.answer (runner pair.1 pair.2) request alone).1 =
          (World.answer (runner pair.1 pair.2) request shared).1 ∧
        relates pair
          ((tidyFor settings pair).note readiness request
            (World.answer (runner pair.1 pair.2) request alone).1)
          (World.answer (runner pair.1 pair.2) request alone).2
          (World.answer (runner pair.1 pair.2) request shared).2
  other : ∀ {index other : Nat} {pair strange readiness strangeReadiness request}
      {alone elsewhere shared : World ρ},
    index ≠ other → pairs[index]? = some pair → pairs[other]? = some strange →
      relates pair readiness alone shared → relates strange strangeReadiness elsewhere shared →
        (tidyFor settings strange).allows strangeReadiness request →
          relates pair readiness alone
            (World.answer (runner strange.1 strange.2) request shared).2

variable {settings : Settings} {runner : Stage → Fixture → Runner ρ}
  {pairs : List (Stage × Fixture)} {pair : Stage × Fixture} {world : World ρ} {index : Nat}
  {strand : Strand (World ρ) Trial}

/-- The job with some number is the trial of a pair, and goes on tidily from where it is. -/
structure Busy (settings : Settings) (runner : Stage → Fixture → Runner ρ)
    (pairs : List (Stage × Fixture)) (index : Nat) (strand : Strand (World ρ) Trial)
    (pair : Stage × Fixture) (readiness : Readiness) : Prop where
  pair_eq : pairs[index]? = some pair
  handler_eq : strand.handler = World.answer (runner pair.1 pair.2)
  keeps : (tidyFor settings pair).Keeps strand.rest readiness fun _ _ => True

theorem busy_of_getElem?
    (hindex : (weave settings runner pairs world).strands[index]? = some strand) :
    ∃ pair, Busy settings runner pairs index strand pair .unasked := by
  rw [weave, List.getElem?_map, Option.map_eq_some_iff] at hindex
  obtain ⟨pair, hpair, rfl⟩ := hindex
  refine ⟨pair, hpair, rfl, ?_⟩
  have hkeeps := perform_keeps settings pair.1 pair.2
  rwa [Pair.of, Artifacts.paths_under] at hkeeps

/-- Trials do not disturb each other if some relation holds at the start and lasts. -/
theorem Lasting.undisturbed
    {relates : Stage × Fixture → Readiness → World ρ → World ρ → Prop}
    (hlasting : Lasting settings runner pairs relates)
    (hstart : ∀ pair ∈ pairs, relates pair .unasked world world) :
    (weave settings runner pairs world).Undisturbed := by
  have hshield : Weave.Shielding fun index strand alone shared => ∃ pair readiness,
      Busy settings runner pairs index strand pair readiness ∧
        relates pair readiness alone shared := by
    constructor
    · rintro index handler request next alone shared
        ⟨pair, readiness, ⟨hpair, hhandler, hallowed, hnext⟩, hrelates⟩
      cases hhandler
      obtain ⟨hanswer, hlater⟩ := hlasting.own (List.mem_of_getElem? hpair) hallowed hrelates
      exact ⟨hanswer, pair, _, ⟨hpair, rfl, hnext _⟩, hlater⟩
    · rintro index other strand handler request next alone elsewhere shared hne
        ⟨pair, readiness, hbusy, hrelates⟩
        ⟨strange, strangeReadiness, ⟨hstrange, hhandler, hallowed, -⟩, hstrangeRelates⟩
      cases hhandler
      exact ⟨pair, readiness, hbusy,
        hlasting.other hne hbusy.pair_eq hstrange hrelates hstrangeRelates hallowed⟩
  refine Weave.undisturbed hshield fun index strand hindex => ?_
  obtain ⟨pair, hbusy⟩ := busy_of_getElem? hindex
  exact ⟨pair, .unasked, hbusy, hstart pair (List.mem_of_getElem? hbusy.pair_eq)⟩

end BootChain.Trial
