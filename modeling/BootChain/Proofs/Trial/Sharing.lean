import BootChain.Proofs.FileSystem.Grounded
import BootChain.Proofs.Trial.Confinement
import BootChain.Proofs.Trial.Weave
import Mathlib.Data.List.Nodup

namespace BootChain.Trial

variable {ρ : Type}

/-- Whoever asks for the artifact directory gets it, and then finds the files as they were when it
    had been made, but for artifacts that are not its own. -/
structure Offers (settings : Settings) (made : FileSystem) (places own : List Location)
    (files : FileSystem) : Prop where
  created : (files.createDirs settings.artifactDir).1 = .ok ()
  agreeOff : FileSystem.AgreeOff places made (madeBy settings files)
  agreeAt : FileSystem.AgreeAt own made (madeBy settings files)

/-- How a trial stands alone and among others, where the directory is there or can be made. Before
    the trial has asked for it, others may have made it. -/
inductive Accord (settings : Settings) (home : Location) (made : FileSystem)
    (places : List Location) (names : List Bytes) : Readiness → World ρ → World ρ → Prop
  | unasked {alone shared : World ρ}
    (halone : Offers settings made places (placesIn home names) alone.files)
    (haloneGoing : alone.cancelled = false)
    (hshared : Offers settings made places (placesIn home names) shared.files)
    (hsharedGoing : shared.cancelled = false) :
    Accord settings home made places names .unasked alone shared
  | ready {cleared : List Path} {alone shared : World ρ}
    (halone : Fit settings.artifactDir home made places names cleared alone)
    (hshared : Fit settings.artifactDir home made places names cleared shared)
    (hagree : FileSystem.AgreeAt (placesIn home names) alone.files shared.files) :
    Accord settings home made places names (.ready cleared) alone shared

variable {settings : Settings} {home : Location} {made files : FileSystem}
  {places own : List Location} {names : List Bytes} {runner : Runner ρ}
  {alone shared elsewhere : World ρ} {readiness : Readiness} {request : Request}

theorem Offers.fit {world : World ρ} (hoffers : Offers settings made places own world.files)
    (hgoing : world.cancelled = false) :
    Fit settings.artifactDir home made places names []
      { world with files := madeBy settings world.files } where
  agreeOff := hoffers.agreeOff
  going := hgoing
  unlinked _ _ hcleared := absurd hcleared List.not_mem_nil

section

variable (hplot : Plot settings.artifactDir home made places names runner)
include hplot

/-- The directory is not made a second time. -/
theorem Plot.createDirs_eq (hoff : FileSystem.AgreeOff places made files) :
    files.createDirs settings.artifactDir = (.ok (), files) :=
  (hplot.leads files hoff).createDirs_eq

theorem Plot.madeBy_eq (hoff : FileSystem.AgreeOff places made files) :
    madeBy settings files = files := by
  rw [madeBy, hplot.createDirs_eq hoff]

theorem Plot.offers (hoff : FileSystem.AgreeOff places made files)
    (hat : FileSystem.AgreeAt own made files) : Offers settings made places own files where
  created := by rw [hplot.createDirs_eq hoff]
  agreeOff := by rwa [hplot.madeBy_eq hoff]
  agreeAt := by rwa [hplot.madeBy_eq hoff]

variable (hallowed : (tidy settings.artifactDir
  (pathsUnder settings.artifactDir names)).allows readiness request)
include hallowed

/-- A turn of its own brings a trial to the same point alone and among others. -/
theorem Accord.advance_own
    (haccord : Accord settings home made places names readiness alone shared) :
    (World.answer runner request alone).1 = (World.answer runner request shared).1 ∧
      Accord settings home made places names
        ((tidy settings.artifactDir (pathsUnder settings.artifactDir names)).note readiness request
          (World.answer runner request alone).1)
        (World.answer runner request alone).2 (World.answer runner request shared).2 := by
  cases haccord with
  | unasked halone haloneGoing hshared hsharedGoing =>
    cases eq_createDirs_of_allows hallowed
    rw [answer_createDirs, answer_createDirs, halone.created, hshared.created]
    exact ⟨rfl, .ready (halone.fit haloneGoing) (hshared.fit hsharedGoing)
      (halone.agreeAt.symm.trans hshared.agreeAt)⟩
  | ready halone hshared hagree =>
    obtain ⟨hanswer, hagreeLater⟩ := halone.determined hplot hshared hagree hallowed
    obtain ⟨-, cleared, hready, haloneLater⟩ := halone.answer hplot hallowed
    obtain ⟨-, same, hsame, hsharedLater⟩ := hshared.answer hplot hallowed
    rw [← hanswer] at hsame
    cases hready.symm.trans hsame
    refine ⟨hanswer, ?_⟩
    rw [hready]
    exact .ready haloneLater hsharedLater hagreeLater

/-- What a turn of a trial does to the files: it makes the directory, if that has not been made,
    and it touches no artifacts but its own. -/
theorem Accord.turn (haccord : Accord settings home made places names readiness alone shared) :
    (World.answer runner request shared).2.cancelled = false ∧
      FileSystem.AgreeOff places made (World.answer runner request shared).2.files ∧
      FileSystem.AgreeOff (placesIn home names) (madeBy settings shared.files)
        (World.answer runner request shared).2.files := by
  cases haccord with
  | unasked halone haloneGoing hshared hsharedGoing =>
    cases eq_createDirs_of_allows hallowed
    exact ⟨hsharedGoing, hshared.agreeOff, .refl _ _⟩
  | ready halone hshared hagree =>
    obtain ⟨htouches, cleared, -, hlater⟩ := hshared.answer hplot hallowed
    rw [hplot.madeBy_eq hshared.agreeOff]
    exact ⟨hlater.going, hlater.agreeOff, htouches⟩

end

/-- A turn of another trial leaves a trial where it is. -/
theorem Accord.advance_other {strangeNames : List Bytes} {strangeRunner : Runner ρ}
    {strangeReadiness : Readiness}
    (hplot : Plot settings.artifactDir home made places names runner)
    (hstrangePlot : Plot settings.artifactDir home made places strangeNames strangeRunner)
    (hapart : ∀ place ∈ placesIn home names, place ∉ placesIn home strangeNames)
    (hallowed : (tidy settings.artifactDir
      (pathsUnder settings.artifactDir strangeNames)).allows strangeReadiness request)
    (haccord : Accord settings home made places names readiness alone shared)
    (hstrange : Accord settings home made places strangeNames strangeReadiness elsewhere shared) :
    Accord settings home made places names readiness alone
      (World.answer strangeRunner request shared).2 := by
  obtain ⟨hgoing, hoff, htouches⟩ := hstrange.turn hstrangePlot hallowed
  generalize (World.answer strangeRunner request shared).2 = later at hgoing hoff htouches ⊢
  have hkept := htouches.agreeAt hapart
  cases haccord with
  | unasked halone haloneGoing hshared =>
    exact .unasked halone haloneGoing (hplot.offers hoff (hshared.agreeAt.trans hkept)) hgoing
  | ready halone hshared hagree =>
    -- the directory has been made before, so that the other trial cannot have made it
    rw [hplot.madeBy_eq hshared.agreeOff] at hkept
    refine .ready halone ⟨hoff, hgoing, ?_⟩ (hagree.trans hkept)
    rintro name hname hcleared ⟨target, hlink⟩
    refine hshared.unlinked name hname hcleared ⟨target, ?_⟩
    rw [hkept _ (mem_placesIn hname), hlink]

/-- The artifact directory cannot be made, and asking for it again comes to the same. -/
structure Refused (settings : Settings) (files : FileSystem) : Prop where
  grounded : files.Grounded
  again : ∃ e, (files.createDirs settings.artifactDir).1 = .error e ∧
    ((madeBy settings files).createDirs settings.artifactDir).1 = .error e
  stays : madeBy settings (madeBy settings files) = madeBy settings files

/-- How a trial stands alone and among others, where the directory cannot be made. -/
inductive Denied (settings : Settings) (files : FileSystem) : Readiness → World ρ → World ρ → Prop
  | unasked {alone shared : World ρ} (halone : alone.files = files)
    (hshared : shared.files = files ∨ shared.files = madeBy settings files) :
    Denied settings files .unasked alone shared
  | refused {alone shared : World ρ} (halone : alone.files = madeBy settings files)
    (hshared : shared.files = madeBy settings files) :
    Denied settings files .refused alone shared

variable {settings : Settings} {runner : Stage → Fixture → Runner ρ}
  {pairs : List (Stage × Fixture)} {pair : Stage × Fixture} {world alone shared : World ρ}
  {files : FileSystem}

section

variable (hrefused : Refused settings files)
include hrefused

/-- Where there is no directory, there are no artifacts to be removed. -/
theorem Refused.answer_removeFile {file : Path}
    (hfile : file ∈ pathsUnder settings.artifactDir (namesOf pair)) :
    ∃ e, ∀ before : World ρ, before.files = madeBy settings files →
      World.answer (runner pair.1 pair.2) (.removeFile file) before = (.error e, before) := by
  obtain ⟨name, hname, rfl⟩ := List.mem_map.1 hfile
  obtain ⟨e, -, hagain⟩ := hrefused.again
  have hgrounded : (madeBy settings files).Grounded :=
    hrefused.grounded.createDirs settings.artifactDir
  obtain ⟨e, he⟩ :=
    hgrounded.removeFile_of_createDirs (Artifacts.isName_of_mem_fileNames hname) hagain
  refine ⟨e, fun before hfiles => ?_⟩
  change before.update (before.files.removeFile _) = _
  rw [hfiles, he]
  rfl

/-- A turn of a trial that is denied its directory comes to the same alone and among others, and
    all that is left of it in the files is the attempt to make the directory. -/
theorem Denied.advance {readiness : Readiness} {request : Request}
    (hallowed : (tidyFor settings pair).allows readiness request)
    (hdenied : Denied settings files readiness alone shared) :
    (World.answer (runner pair.1 pair.2) request alone).1 =
        (World.answer (runner pair.1 pair.2) request shared).1 ∧
      (tidyFor settings pair).note readiness request
        (World.answer (runner pair.1 pair.2) request alone).1 = .refused ∧
      (World.answer (runner pair.1 pair.2) request alone).2.files = madeBy settings files ∧
      (World.answer (runner pair.1 pair.2) request shared).2.files = madeBy settings files := by
  cases hdenied with
  | unasked halone hshared =>
    cases eq_createDirs_of_allows hallowed
    obtain ⟨e, herror, hagain⟩ := hrefused.again
    rw [answer_createDirs, answer_createDirs, halone, herror]
    rcases hshared with hshared | hshared
    · rw [hshared, herror]
      exact ⟨rfl, rfl, rfl, rfl⟩
    · rw [hshared, hagain, hrefused.stays]
      exact ⟨rfl, rfl, rfl, rfl⟩
  | refused halone hshared =>
    cases request with
    | emit event => exact ⟨rfl, rfl, halone, hshared⟩
    | removeFile file =>
      obtain ⟨e, hremoved⟩ := hrefused.answer_removeFile hallowed
      rw [hremoved alone halone, hremoved shared hshared]
      exact ⟨rfl, rfl, halone, hshared⟩
    | createDirs directory => exact hallowed.elim
    | isCancelled => exact hallowed.elim
    | call command limitMs => exact hallowed.elim
    | isFile file => exact hallowed.elim

theorem Refused.lasting : Lasting settings runner pairs fun _ readiness alone shared =>
    Denied settings files readiness alone shared where
  own _ hallowed hdenied := by
    obtain ⟨hanswer, hnote, halone, hshared⟩ := hdenied.advance hrefused hallowed
    rw [hnote]
    exact ⟨hanswer, .refused halone hshared⟩
  other _ _ _ hdenied hstrange hallowed := by
    obtain ⟨-, -, -, hshared⟩ := hstrange.advance hrefused hallowed
    cases hdenied with
    | unasked halone => exact .unasked halone (.inr hshared)
    | refused halone => exact .refused halone hshared

end

/-- Trials that are denied their directory in the same way do not disturb each other. -/
theorem Refused.undisturbed (hrefused : Refused settings world.files) :
    (weave settings runner pairs world).Undisturbed :=
  hrefused.lasting.undisturbed fun _ _ => .unasked rfl (.inl rfl)

end BootChain.Trial
