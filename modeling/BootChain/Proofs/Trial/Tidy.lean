import BootChain.Proofs.Job.Discipline
import BootChain.Trial.Perform

namespace BootChain.Trial

open Job

/-- How far a trial has come with its artifact directory: it has not asked for it, it was refused,
    or it has it and has cleared some files. -/
inductive Readiness where
  | unasked
  | refused
  | ready (cleared : List Path)

/-- What a trial may ask for. It touches no files but its own; it runs programs, and looks at what
    they have written, only once all files of its own are cleared; and it does nothing of the kind
    where it was refused its directory. -/
def tidy (root : Path) (own : List Path) : Discipline Readiness where
  allows
    | .unasked, .createDirs directory => directory = root
    | .refused, .removeFile file => file ∈ own
    | .refused, .emit _ => True
    | .ready _, .removeFile file => file ∈ own
    | .ready cleared, .call _ _ => own ⊆ cleared
    | .ready cleared, .isFile file => file ∈ own ∧ own ⊆ cleared
    | .ready _, .isCancelled => True
    | .ready _, .emit _ => True
    | _, _ => False
  note
    | .unasked, .createDirs _, .ok () => .ready []
    | .unasked, .createDirs _, .error _ => .refused
    | .ready cleared, .removeFile file, .ok () => .ready (file :: cleared)
    | .ready cleared, .removeFile file, .error .notFound => .ready (file :: cleared)
    | readiness, _, _ => readiness

variable {root : Path} {own files cleared : List Path} {settings : Settings} {pair : Pair}
  {planned : Planned} {readiness : Readiness}

/-- The files that a trial may remove are its own. -/
theorem mem_of_allows {file : Path}
    (hallowed : (tidy root own).allows readiness (.removeFile file)) : file ∈ own := by
  cases readiness with
  | unasked => exact hallowed.elim
  | refused => exact hallowed
  | ready cleared => exact hallowed

/-- The directory that a trial may ask for is its own. -/
theorem eq_of_allows {directory : Path}
    (hallowed : (tidy root own).allows readiness (.createDirs directory)) : directory = root := by
  cases readiness with
  | unasked => exact hallowed
  | refused => exact hallowed.elim
  | ready cleared => exact hallowed.elim

/-- A trial has its directory, and some files are cleared if a result is a success. -/
def Cleared (files : List Path) (result : Except IoError Unit) (readiness : Readiness) : Prop :=
  ∃ cleared, readiness = .ready cleared ∧ (result = .ok () → files ⊆ cleared)

theorem removeStale_keeps (hfiles : files ⊆ own) :
    (tidy root own).Keeps (removeStale files) (.ready cleared)
      (Cleared (files ++ cleared)) := by
  induction files generalizing cleared with
  | nil => exact ⟨cleared, rfl, fun _ => List.Subset.refl _⟩
  | cons file rest ih =>
    obtain ⟨hfile, hrest⟩ := List.cons_subset.1 hfiles
    have hlater : (tidy root own).Keeps (removeStale rest) (.ready (file :: cleared))
        (Cleared (file :: rest ++ cleared)) := by
      refine (ih hrest).imp fun result readiness hcleared => ?_
      obtain ⟨later, hready, hlater⟩ := hcleared
      refine ⟨later, hready, fun hresult => List.Subset.trans ?_ (hlater hresult)⟩
      exact List.perm_middle.symm.subset
    rw [removeStale, Discipline.keeps_request_bind_iff]
    refine ⟨hfile, fun answer => ?_⟩
    match answer with
    | .ok () => exact hlater
    | .error e =>
      cases e with
      | notFound => exact hlater
      | _ => exact ⟨cleared, rfl, nofun⟩

theorem discard_keeps (hfiles : files ⊆ own) (hasked : readiness ≠ .unasked) :
    (tidy root own).Keeps (discard files) readiness fun _ readiness => readiness ≠ .unasked := by
  induction files generalizing readiness with
  | nil => exact hasked
  | cons file rest ih =>
    obtain ⟨hfile, hrest⟩ := List.cons_subset.1 hfiles
    rw [discard, Discipline.keeps_request_bind_iff]
    cases readiness with
    | unasked => exact absurd rfl hasked
    | refused => exact ⟨hfile, fun answer => ih hrest Readiness.noConfusion⟩
    | ready cleared =>
      refine ⟨hfile, fun answer => ih hrest ?_⟩
      match answer with
      | .ok () => exact Readiness.noConfusion
      | .error e => cases e <;> exact Readiness.noConfusion

theorem checkProduct_keeps (hcleared : own ⊆ cleared)
    (hproduct : ∀ product, planned.product = some product → product ∈ own) (capture : Capture) :
    (tidy root own).Keeps (checkProduct planned capture) (.ready cleared)
      fun _ readiness => readiness = .ready cleared := by
  unfold checkProduct
  split
  next => exact rfl
  next product hsome =>
    rw [Discipline.keeps_request_bind_iff]
    refine ⟨⟨hproduct product hsome, hcleared⟩, fun answer => ?_⟩
    cases answer <;> exact rfl

theorem judge_keeps (hcleared : own ⊆ cleared)
    (hproduct : ∀ product, planned.product = some product → product ∈ own) (capture : Capture) :
    (tidy root own).Keeps (judge planned capture) (.ready cleared)
      fun _ readiness => readiness = .ready cleared := by
  unfold judge
  split
  next => exact rfl
  next => exact checkProduct_keeps hcleared hproduct capture

theorem takeStep_keeps (hcleared : own ⊆ cleared)
    (hproduct : ∀ product, planned.product = some product → product ∈ own) :
    (tidy root own).Keeps (takeStep settings pair planned) (.ready cleared)
      fun _ readiness => readiness = .ready cleared := by
  rw [takeStep, Discipline.keeps_request_bind_iff]
  refine ⟨trivial, fun isCancelled => ?_⟩
  cases isCancelled with
  | true => exact rfl
  | false =>
    simp only [Bool.false_eq_true, if_false]
    rw [Discipline.keeps_request_bind_iff]
    refine ⟨hcleared, fun answer => ?_⟩
    cases answer with
    | error e =>
      rw [Discipline.keeps_request_bind_iff]
      exact ⟨trivial, fun _ => rfl⟩
    | ok capture =>
      rw [Discipline.keeps_bind_iff]
      refine (judge_keeps hcleared hproduct capture).imp fun failure readiness hready => ?_
      rw [hready, Discipline.keeps_request_bind_iff]
      exact ⟨trivial, fun _ => rfl⟩

theorem takeSteps_keeps (hcleared : own ⊆ cleared) {plan : List Planned}
    (hproducts : ∀ planned ∈ plan, ∀ product, planned.product = some product → product ∈ own) :
    (tidy root own).Keeps (takeSteps settings pair plan) (.ready cleared)
      fun _ readiness => readiness = .ready cleared := by
  induction plan with
  | nil => exact rfl
  | cons planned rest ih =>
    obtain ⟨hproduct, hrest⟩ := List.forall_mem_cons.1 hproducts
    rw [takeSteps, Discipline.keeps_bind_iff]
    refine (takeStep_keeps hcleared hproduct).imp fun taken readiness hready => ?_
    obtain ⟨record, failure⟩ := taken
    rw [hready]
    cases failure with
    | some failure => exact rfl
    | none =>
      rw [Discipline.keeps_bind_iff]
      exact (ih hrest).imp fun _ _ hready => hready

theorem prepare_keeps (hfiles : pair.artifacts.paths ⊆ own) :
    (tidy settings.artifactDir own).Keeps (prepare settings pair) .unasked
      fun result readiness => readiness = .refused ∧ result ≠ .ok () ∨
        Cleared pair.artifacts.paths result readiness := by
  rw [prepare, Discipline.keeps_request_bind_iff]
  refine ⟨rfl, fun answer => ?_⟩
  match answer with
  | .error e => exact .inl ⟨rfl, nofun⟩
  | .ok () =>
    refine (removeStale_keeps hfiles).imp fun result readiness hcleared => .inr ?_
    rwa [List.append_nil] at hcleared

theorem drive_keeps (hfiles : pair.artifacts.paths = own) :
    (tidy settings.artifactDir own).Keeps (drive settings pair) .unasked
      fun _ readiness => readiness ≠ .unasked := by
  rw [drive, Discipline.keeps_bind_iff]
  refine (prepare_keeps (hfiles ▸ List.Subset.refl _)).imp fun prepared readiness hready => ?_
  cases prepared with
  | error e =>
    obtain ⟨rfl, -⟩ | ⟨cleared, rfl, -⟩ := hready
    · exact Readiness.noConfusion
    · exact Readiness.noConfusion
  | ok =>
    obtain ⟨-, hfailed⟩ | ⟨cleared, rfl, hcleared⟩ := hready
    · exact absurd rfl hfailed
    · have hproducts : ∀ planned ∈ pair.plan settings, ∀ product,
          planned.product = some product → product ∈ own := by
        subst hfiles
        simp [Pair.plan, Artifacts.paths]
      refine (takeSteps_keeps (hfiles ▸ hcleared rfl) hproducts).imp fun _ readiness hready => ?_
      rw [hready]
      exact Readiness.noConfusion

/-- A trial is tidy about its two artifacts, whatever its surroundings answer. -/
theorem perform_keeps (settings : Settings) (stage : Stage) (fixture : Fixture) :
    (tidy settings.artifactDir (Pair.of settings stage fixture).artifacts.paths).Keeps
      (perform settings stage fixture) .unasked fun _ _ => True := by
  have hevent : ∀ {readiness : Readiness} (event : Event) (trial : Trial), readiness ≠ .unasked →
      (tidy settings.artifactDir (Pair.of settings stage fixture).artifacts.paths).Keeps
        (Job.request (.emit event) >>= fun _ => Job.done trial) readiness fun _ _ => True := by
    intro readiness event trial hasked
    rw [Discipline.keeps_request_bind_iff]
    cases readiness with
    | unasked => exact absurd rfl hasked
    | refused => exact ⟨trivial, fun _ => trivial⟩
    | ready cleared => exact ⟨trivial, fun _ => trivial⟩
  rw [perform, Discipline.keeps_bind_iff]
  refine (drive_keeps rfl).imp fun driven readiness hasked => ?_
  obtain ⟨records, failure⟩ := driven
  cases hkeep : settings.keepArtifacts with
  | true => exact hevent _ _ hasked
  | false =>
    refine Discipline.keeps_bind_iff.2 ?_
    exact (discard_keeps (List.Subset.refl _) hasked).imp fun _ _ hasked => hevent _ _ hasked

end BootChain.Trial
