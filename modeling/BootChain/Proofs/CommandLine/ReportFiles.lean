import BootChain.CommandLine.ReportFiles
import BootChain.Proofs.FileSystem.Writing
import BootChain.Proofs.Path.Extension

namespace BootChain

open FileSystem (MakesDirs)

namespace CommandLine

section Work

variable {α β : Type} {work : Work α} {next : α → Work β} {files later : FileSystem} {value : β}

theorem Work.run_bind (work : Work α) (next : α → Work β) (files : FileSystem) :
    (work >>= next).run files =
      match work.run files with
      | (.ok found, later) => (next found).run later
      | (.error problem, later) => (.error problem, later) := by
  change ExceptT.bindCont next (work.run files).1 (work.run files).2 = _
  generalize work.run files = result
  obtain ⟨found, later⟩ := result
  cases found <;> rfl

/-- Work that is done in two parts goes well if both do. -/
theorem Work.run_bind_ok (hrun : (work >>= next).run files = (.ok value, later)) :
    ∃ found between, work.run files = (.ok found, between) ∧
      (next found).run between = (.ok value, later) := by
  rw [run_bind] at hrun
  split at hrun
  next found between hwork => exact ⟨found, between, hwork, hrun⟩
  next => cases hrun

theorem Work.run_mk {result : Except Problem α} :
    (ExceptT.mk (pure result) : Work α).run files = (result, files) := rfl

theorem ReportFiles.run_writeText {file : Path} {text : String} :
    (writeText file text).run files =
      match files.write file (Utf8.encode text) with
      | .ok later => (.ok (), later)
      | .error cause => (.error (.notWritten file cause), files) := by
  have hget : (get : Work FileSystem).run files = (.ok files, files) := rfl
  rw [writeText, Work.update, Work.run_bind, hget]
  dsimp only
  cases files.write file (Utf8.encode text) <;> rfl

end Work

namespace ReportFiles

variable {report : Path} {document : Except EncodeError String} {summary : String}
  {files ready written later : FileSystem}

/-- The files once the directory for a report is made, as far as it can be. -/
def prepared (report : Path) (files : FileSystem) : FileSystem := ((makeParent report).run files).2

/-- No symbolic link stands where a report or its summary goes. -/
def Unlinked (report : Path) (files : FileSystem) : Prop :=
  ∀ file ∈ [report, report.withExtension summaryExtension], ¬ (prepared report files).AtLink file

instance (report : Path) (files : FileSystem) : Decidable (Unlinked report files) :=
  inferInstanceAs (Decidable (∀ file ∈ [_, _], _))

/-- What becomes of a report and its summary. -/
structure Accounted (report : Path) (document : Except EncodeError String) (summary : String)
    (files : FileSystem) (result : Except Problem Unit × FileSystem) : Prop where
  /-- If all goes well, each is written at a place of its own. -/
  saved : result.1 = .ok () → ∃ text place other, document = .ok text ∧ place ≠ other ∧
    result.2.Took report place (Utf8.encode text) ∧
    result.2.Took (report.withExtension summaryExtension) other (Utf8.encode summary)
  /-- A report in the place of its summary is refused before anything is done. -/
  collision : report.extension? = some summaryExtension →
    result = (.error (.summaryCollision report), files)
  /-- A report that cannot be encoded leaves no more than directories. -/
  unencoded : ∀ e, document = .error e →
    (∃ problem, result.1 = .error problem) ∧ MakesDirs report files result.2

theorem run_makeParent_cases (report : Path) (files : FileSystem) :
    prepared report files = files ∨ ∃ parent, report.parent? = some parent ∧
      prepared report files = (files.createDirs parent).2 := by
  rw [prepared, makeParent]
  cases report.parent? with
  | none => exact .inl rfl
  | some parent =>
    dsimp only
    split
    · exact .inl rfl
    · exact .inr ⟨parent, rfl, rfl⟩

theorem makesDirs_prepared (report : Path) (files : FileSystem) :
    MakesDirs report files (prepared report files) := by
  obtain hsame | ⟨parent, hparent, hmade⟩ := run_makeParent_cases report files
  · rw [hsame]
    exact .refl _ _
  · rw [hmade]
    exact (FileSystem.makesDirs_createDirs files parent).of_upTo (.up .self hparent)

theorem grounded_prepared (hgrounded : files.Grounded) (report : Path) :
    (prepared report files).Grounded := by
  obtain hsame | ⟨parent, -, hmade⟩ := run_makeParent_cases report files
  · rwa [hsame]
  · rw [hmade]
    exact hgrounded.createDirs parent

theorem run_save_collision (hextension : report.extension? = some summaryExtension) :
    (save report document summary).run files = (.error (.summaryCollision report), files) := by
  rw [save, Work.run_bind, Work.run_mk, summaryPath, if_pos hextension]

/-- All has gone well only if each step of it has. -/
theorem of_run_save (hsaved : (save report document summary).run files = (.ok (), later)) :
    report.extension? ≠ some summaryExtension ∧ ∃ text written, document = .ok text ∧
      (prepared report files).write report (Utf8.encode text) = .ok written ∧
      written.write (report.withExtension summaryExtension) (Utf8.encode summary) = .ok later := by
  have hextension : report.extension? ≠ some summaryExtension := by
    intro hextension
    rw [run_save_collision hextension] at hsaved
    cases hsaved
  refine ⟨hextension, ?_⟩
  rw [save, Work.run_bind, Work.run_mk, summaryPath, if_neg hextension] at hsaved
  obtain ⟨_, ready, hready, hsaved⟩ := Work.run_bind_ok hsaved
  rw [Work.run_bind, Work.run_mk] at hsaved
  cases document with
  | error e => cases hsaved
  | ok text =>
    have hprepared : prepared report files = ready := congrArg Prod.snd hready
    rw [hprepared]
    obtain ⟨_, written, hreport, hsummary⟩ := Work.run_bind_ok hsaved
    rw [run_writeText] at hreport hsummary
    split at hreport <;> cases hreport
    next hreport =>
      split at hsummary <;> cases hsummary
      next hsummary => exact ⟨text, written, rfl, hreport, hsummary⟩

theorem run_save_unencoded (e : EncodeError) :
    (∃ problem, ((save report (.error e) summary).run files).1 = .error problem) ∧
      MakesDirs report files ((save report (.error e) summary).run files).2 := by
  by_cases hextension : report.extension? = some summaryExtension
  · rw [run_save_collision hextension]
    exact ⟨⟨_, rfl⟩, .refl _ _⟩
  · have hmakes := makesDirs_prepared report files
    rw [save, Work.run_bind, Work.run_mk, summaryPath, if_neg hextension]
    dsimp only
    rw [Work.run_bind]
    rw [prepared] at hmakes
    split
    next ready hready =>
      rw [hready] at hmakes
      exact ⟨⟨_, rfl⟩, hmakes⟩
    next problem ready hready =>
      rw [hready] at hmakes
      exact ⟨⟨_, rfl⟩, hmakes⟩

/-- A summary that can be written has another name than the report in the same directory. -/
theorem exists_other {before name : Bytes} (hlead : Path.IsLead before) (hname : Path.IsName name)
    (hextension : (⟨before ++ name⟩ : Path).extension? ≠ some summaryExtension)
    (hgrounded : written.Grounded)
    (hsummary : written.write ((⟨before ++ name⟩ : Path).withExtension summaryExtension)
      (Utf8.encode summary) = .ok later) :
    ∃ other, Path.IsName other ∧ name ≠ other ∧
      (⟨before ++ name⟩ : Path).withExtension summaryExtension =
        (⟨before⟩ : Path).join ⟨other⟩ := by
  obtain hdots | ⟨other, hother, heq, hsame⟩ := Path.withExtension_cases hlead hname
    (by decide : Path.slash ∉ summaryExtension) (by decide) (by decide)
  · -- Two dots are no name to write to.
    obtain ⟨start, last, hstart, hlast, hends⟩ := hgrounded.exists_name_of_write hsummary
    have hdotsLast := Path.splitLast_append (by decide : Path.slash ∉ [Path.dot, Path.dot])
      (by decide) (by decide) hlead
    rw [← hdots, hends, Path.splitLast_step hstart hlast.isStep] at hdotsLast
    exact absurd (congrArg Prod.snd hdotsLast) hlast.ne_dots
  · refine ⟨other, hother, fun hne => hextension (hsame hne.symm), ?_⟩
    rw [heq, Path.join_lead hlead hother.slash_notMem]

/-- Each of a report and its summary is written at a place of its own, if no symbolic link stands
    there. -/
theorem took_apart {text : String} (hextension : report.extension? ≠ some summaryExtension)
    (hgrounded : ready.Grounded)
    (hlink : ∀ file ∈ [report, report.withExtension summaryExtension], ¬ ready.AtLink file)
    (hreport : ready.write report (Utf8.encode text) = .ok written)
    (hsummary : written.write (report.withExtension summaryExtension) (Utf8.encode summary) =
      .ok later) :
    ∃ place other, place ≠ other ∧ later.Took report place (Utf8.encode text) ∧
      later.Took (report.withExtension summaryExtension) other (Utf8.encode summary) := by
  obtain ⟨hlinkReport, hlinkRest⟩ := List.forall_mem_cons.1 hlink
  have hlinkSummary := List.forall_mem_singleton.1 hlinkRest
  obtain ⟨before, name, hlead, hname, rfl⟩ := hgrounded.exists_name_of_write hreport
  rw [← Path.join_lead hlead hname.slash_notMem] at hreport hlinkReport
  obtain ⟨home, hleads, hshort, hwrote⟩ := hgrounded.exists_written hname hlinkReport hreport
  have hplace : home ++ [name] ≠ [] := List.concat_ne_nil _ _
  have hdir := hleads.dir hgrounded
  have hgroundedWritten := hwrote.grounded hgrounded hdir
  obtain ⟨other, hother, hne, hbeside⟩ :=
    exists_other hlead hname hextension hgroundedWritten hsummary
  rw [hbeside] at hsummary hlinkSummary ⊢
  obtain ⟨same, hsame, hshortOther, hwroteOther⟩ := hgroundedWritten.exists_written hother
    (hwrote.not_atLink hplace hleads hother hlinkSummary) hsummary
  have hleadsWritten := hwrote.leadsTo hplace hleads
  obtain rfl := hleadsWritten.unique hsame
  have hotherPlace : home ++ [other] ≠ [] := List.concat_ne_nil _ _
  have hapart : home ++ [name] ≠ home ++ [other] := by simpa using hne
  have hleadsLater := hwroteOther.leadsTo hotherPlace hleadsWritten
  refine ⟨_, _, hapart, ?_, hwroteOther.took rfl hleadsLater hother hshortOther⟩
  rw [← Path.join_lead hlead hname.slash_notMem]
  refine hwrote.took ?_ hleadsLater hname hshort
  exact (hwroteOther.agreeOff hotherPlace).node?_eq _ (by simpa using hne)

/-- A report and its summary are saved side by side or not at all. -/
theorem accounted_save (report : Path) (document : Except EncodeError String) (summary : String)
    (files : FileSystem) (hgrounded : files.Grounded) (hlink : Unlinked report files) :
    Accounted report document summary files ((save report document summary).run files) where
  saved hok := by
    obtain ⟨hextension, text, written, hdocument, hreport, hsummary⟩ :=
      of_run_save (Prod.ext hok rfl)
    obtain ⟨place, other, hapart, htook⟩ := took_apart hextension
      (grounded_prepared hgrounded report) hlink hreport hsummary
    exact ⟨text, place, other, hdocument, hapart, htook⟩
  collision := run_save_collision
  unencoded e hdocument := by
    rw [hdocument]
    exact run_save_unencoded e

/-- Files with a device that keeps nothing. -/
def withDevNull : FileSystem where
  nodes := [([Utf8.encode "dev"], .dir), ([Utf8.encode "dev", Utf8.encode "null"], .device .null)]

theorem grounded_withDevNull : withDevNull.Grounded :=
  FileSystem.grounded_of_nodes (by decide +kernel) rfl

theorem accounted_save_beside :
    withDevNull.Grounded ∧ Unlinked (.ofText "out/r.json") withDevNull ∧
      ((save (.ofText "out/r.json") (.ok "1") "2").run withDevNull).1 = .ok () ∧
      Accounted (.ofText "out/r.json") (.ok "1") "2" withDevNull
        ((save (.ofText "out/r.json") (.ok "1") "2").run withDevNull) := by
  have hlink : Unlinked (.ofText "out/r.json") withDevNull := by decide +kernel
  exact ⟨grounded_withDevNull, hlink, by decide +kernel,
    accounted_save _ _ _ _ grounded_withDevNull hlink⟩

/-- A device takes the report and keeps nothing of it, and still all goes well. -/
theorem save_devNull :
    withDevNull.Grounded ∧ Unlinked (.ofText "/dev/null") withDevNull ∧
      ∃ later, (save (.ofText "/dev/null") (.ok "1") "2").run withDevNull = (.ok (), later) ∧
        ¬ later.HasFile (.ofText "/dev/null") (Utf8.encode "1") := by
  refine ⟨grounded_withDevNull, by decide +kernel, _, Prod.ext (by decide +kernel) rfl, ?_⟩
  intro hfile
  exact absurd hfile.read_eq (by decide +kernel)

end ReportFiles

end CommandLine

end BootChain
