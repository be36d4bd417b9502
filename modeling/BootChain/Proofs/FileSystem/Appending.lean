import BootChain.Proofs.FileSystem.Making

namespace BootChain.FileSystem

/-- A walk ends where a file can be written: at one that is there, or at a free place. -/
inductive Target.Writable (place : Location) (asDirectory : Bool) : Target → Prop
  | file (content : Bytes) (mode : Nat) :
    Writable place asDirectory (.found place (.file content mode) asDirectory)
  | free : Writable place asDirectory (.free place asDirectory)

/-- A regular file stands at a place, or nothing does. -/
def FileOrFree (fs : FileSystem) (place : Location) : Prop :=
  ∀ node, fs.node? place = some node → ∃ content mode, node = .file content mode

/-- A path leads to a regular file with some content. -/
def HasFile (fs : FileSystem) (p : Path) (content : Bytes) : Prop :=
  ∃ place mode, fs.stat p = .ok (place, .file content mode)

/-- The content that comes before what is written at the end of a file: all that the file holds, or
    nothing if there is none yet but can be one. -/
inductive Holds (fs : FileSystem) (p : Path) : Bytes → Prop
  | present {content : Bytes} (hfile : fs.HasFile p content) : Holds fs p content
  | absent {place : Location} (hfree : fs.resolve true p = .ok (.free place false)) : Holds fs p []

variable {fs later : FileSystem} {place here : Location} {follow asDirectory : Bool}
  {budget mode : Nat} {piece : Bytes} {pieces : List Bytes} {p : Path} {target : Target}
  {content more : Bytes}

/-- Only a file is ever taken for a place to write in. -/
theorem Walks.file_of_writable (hwalks : fs.Walks follow budget here pieces target)
    (hwritable : target.Writable place asDirectory) :
    place ≠ [] ∧ fs.FileOrFree place := by
  cases hwritable with
  | file content mode =>
    have hnode := hwalks.node?_eq
    refine ⟨ne_nil_of_node? hnode nofun, fun node hother => ⟨content, mode, ?_⟩⟩
    exact Option.some.inj (hother.symm.trans hnode)
  | free =>
    have hnode := hwalks.node?_eq_none
    refine ⟨ne_nil_of_free hnode, fun node hother => ?_⟩
    cases hother.symm.trans hnode

section

variable (hplace : place ≠ []) (hfile : fs.FileOrFree place)
include hplace hfile

/-- A file that is written leaves the way that leads past it as it was. -/
theorem passage_put_file {found : Passage} (hpassage : fs.passage here piece = found)
    (hfree : found ≠ .free) (hblocked : ∀ node, found ≠ .blocked node) :
    (fs.put place (.file content mode)).passage here piece = found := by
  obtain ⟨_, -, hall⟩ | hname := passage_cases here piece
  · rw [hall, ← hall fs, hpassage]
  · rw [hname] at hpassage ⊢
    rw [node?_put hplace, if_neg]
    · exact hpassage
    · intro hsame
      rw [hsame] at hpassage
      cases hnode : fs.node? place with
      | none =>
        rw [hnode] at hpassage
        exact hfree hpassage.symm
      | some node =>
        obtain ⟨_, _, rfl⟩ := hfile node hnode
        rw [hnode] at hpassage
        exact hblocked _ hpassage.symm

end

/-- A walk to where a file can be written finds the file that is written there. -/
theorem Walks.put_file (hwalks : fs.Walks follow budget here pieces target)
    (hwritable : target.Writable place asDirectory) :
    (fs.put place (.file content mode)).Walks follow budget here pieces
      (.found place (.file content mode) asDirectory) := by
  obtain ⟨hplace, hfile⟩ := hwalks.file_of_writable hwritable
  induction hwalks with
  | arrived =>
    cases hwritable
    exact .arrived (node?_put_self hplace)
  | on hpassage _ ih =>
    exact .on (passage_put_file hplace hfile hpassage nofun nofun) (ih hwritable)
  | linked => cases hwritable
  | followed hpassage hstay _ ih =>
    exact .followed (passage_put_file hplace hfile hpassage nofun nofun) hstay (ih hwritable)
  | blocked hpassage hidle =>
    cases hwritable
    exact .blocked (passage_put_self hpassage nofun nofun) hidle
  | free hpassage hidle =>
    cases hwritable
    exact .blocked (passage_put_self hpassage nofun nofun) hidle

theorem stat_put_file (hresolve : fs.resolve true p = .ok target)
    (hwritable : target.Writable place false) :
    (fs.put place (.file content mode)).stat p = .ok (place, .file content mode) := by
  obtain ⟨hnul, hne, hlength, hwalk⟩ := resolve_eq_ok_iff.1 hresolve
  have hfound : (fs.put place (.file content mode)).resolve true p =
      .ok (.found place (.file content mode) false) := by
    refine resolve_eq_ok_iff.2 ⟨hnul, hne, hlength, ?_⟩
    rw [workingDirectory_put]
    exact walk_eq_ok_iff.2 ((walk_eq_ok_iff.1 hwalk).put_file hwritable)
  rw [stat, hfound]
  rfl

theorem resolve_of_stat_file (hstat : fs.stat p = .ok (place, .file content mode)) :
    fs.resolve true p = .ok (.found place (.file content mode) false) := by
  obtain ⟨asDirectory, hresolve⟩ := resolve_of_stat hstat
  cases asDirectory with
  | false => exact hresolve
  | true =>
    rw [stat, hresolve] at hstat
    cases hstat

theorem HasFile.read_eq (hfile : fs.HasFile p content) : fs.read p = .ok content := by
  obtain ⟨place, mode, hstat⟩ := hfile
  rw [read, hstat]
  rfl

/-- What is written at the end of a file comes after what the file holds. -/
theorem Holds.append (hholds : fs.Holds p content) (more : Bytes) :
    ∃ later, fs.append p more = .ok later ∧ later.HasFile p (content ++ more) := by
  cases hholds with
  | present hfile =>
    obtain ⟨place, mode, hstat⟩ := hfile
    have hresolve := resolve_of_stat_file hstat
    refine ⟨_, ?_, place, mode, stat_put_file hresolve (.file content mode)⟩
    rw [FileSystem.append, modify, hresolve]
    rfl
  | @absent place hfree =>
    refine ⟨_, ?_, place, newFileMode, stat_put_file hfree .free⟩
    rw [FileSystem.append, modify, hfree]
    rfl

end BootChain.FileSystem
