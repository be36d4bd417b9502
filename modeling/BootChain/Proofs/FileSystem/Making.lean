import BootChain.Proofs.FileSystem.Part

namespace BootChain.FileSystem

variable {fs a b c later : FileSystem} {place here : Location} {follow asDirectory : Bool}
  {budget : Nat} {pieces : List Bytes} {p q : Path}

theorem node?_put_self {node : Node} (hplace : place ≠ []) :
    (fs.put place node).node? place = some node := by
  rw [node?_put hplace, if_pos rfl]

/-- A name that leads no further leads to what is put in its place. -/
theorem passage_put_self {piece : Bytes} {node : Node} {found : Passage}
    (hpassage : fs.passage here piece = found) (hon : ∀ next, found ≠ .on next)
    (hlong : found ≠ .tooLong) : (fs.put (here ++ [piece]) node).passage here piece =
      .ofNode? (here ++ [piece]) (some node) := by
  obtain ⟨same, hsame, hall⟩ | hname := passage_cases here piece
  · rw [hall] at hpassage
    subst hpassage
    obtain hsame | ⟨next, hsame⟩ := hsame
    · exact absurd hsame hlong
    · exact absurd hsame (hon next)
  · rw [hname, node?_put_self (by simp)]

/-- Nothing stands at a place that is free. -/
theorem Walks.node?_eq_none
    (hwalks : fs.Walks follow budget here pieces (.free place asDirectory)) :
    fs.node? place = none := by
  generalize htarget : Target.free place asDirectory = target at hwalks
  induction hwalks with
  | on _ _ ih => exact ih htarget
  | followed _ _ _ ih => exact ih htarget
  | free hpassage =>
    cases htarget
    exact passage_eq_free hpassage
  | _ => cases htarget

theorem ne_nil_of_free (hfree : fs.node? place = none) : place ≠ [] := by
  rintro rfl
  cases hfree

theorem walks_of_idle {node : Node} {rest : List Bytes} (hnode : fs.node? place = some node)
    (hidle : Idle rest) : fs.Walks follow budget place rest (.found place node false) := by
  rw [← walk_eq_ok_iff, walk_idle hidle, walk_nil, hnode]

/-- A walk to a free place finds the directory that is put there. -/
theorem Walks.put_dir (hwalks : fs.Walks follow budget here pieces (.free place asDirectory)) :
    (fs.put place .dir).Walks follow budget here pieces (.found place .dir false) := by
  have hfree := hwalks.node?_eq_none
  have hplace := ne_nil_of_free hfree
  have hpart : fs.PartOf (fs.put place .dir) := partOf_put hplace hfree
  generalize htarget : Target.free place asDirectory = target at hwalks
  induction hwalks with
  | on hpassage _ ih => exact .on (hpart.passage_eq hpassage nofun) (ih htarget)
  | followed hpassage hstay _ ih =>
    exact .followed (hpart.passage_eq hpassage nofun) hstay (ih htarget)
  | free hpassage hidle =>
    cases htarget
    exact .on (passage_put_self hpassage nofun nofun) (walks_of_idle (node?_put_self hplace) hidle)
  | _ => cases htarget

/-- What there is stays, and whatever is new is a directory, to which the path leads or one of
    those on the way up from it. -/
structure MakesDirs (p : Path) (a b : FileSystem) : Prop where
  part : a.PartOf b
  made : ∀ place, b.node? place ≠ a.node? place →
    ∃ q, p.UpTo q ∧ b.resolve false q = .ok (.found place .dir false)

theorem MakesDirs.refl (p : Path) (fs : FileSystem) : MakesDirs p fs fs :=
  ⟨.refl fs, fun _ hne => absurd rfl hne⟩

theorem MakesDirs.trans (hab : MakesDirs p a b) (hbc : MakesDirs p b c) : MakesDirs p a c where
  part := hab.part.trans hbc.part
  made place hne := by
    by_cases hlater : c.node? place = b.node? place
    · rw [hlater] at hne
      obtain ⟨q, hup, hfound⟩ := hab.made place hne
      exact ⟨q, hup, hbc.part.resolve_found hfound⟩
    · exact hbc.made place hlater

theorem MakesDirs.of_upTo (hup : p.UpTo q) (hmakes : MakesDirs q a b) : MakesDirs p a b where
  part := hmakes.part
  made place hne := by
    obtain ⟨r, hqr, hfound⟩ := hmakes.made place hne
    exact ⟨r, hup.trans hqr, hfound⟩

theorem makesDirs_of_createDir (hcreated : fs.createDir p = .ok later) : MakesDirs p fs later := by
  obtain ⟨place, asDirectory, hresolve, rfl⟩ := createDir_eq_ok_iff.1 hcreated
  obtain ⟨hnul, hne, hlength, hwalk⟩ := resolve_eq_ok_iff.1 hresolve
  have hwalks := walk_eq_ok_iff.1 hwalk
  have hfree := hwalks.node?_eq_none
  have hplace := ne_nil_of_free hfree
  refine ⟨partOf_put hplace hfree, fun other hother => ?_⟩
  rw [node?_put hplace] at hother
  split at hother
  next heq =>
    refine ⟨p, .self, resolve_eq_ok_iff.2 ⟨hnul, hne, hlength, ?_⟩⟩
    rw [workingDirectory_put, heq]
    exact walk_eq_ok_iff.2 hwalks.put_dir
  next => exact absurd rfl hother

/-- Whether or not it can be made, nothing comes of a directory but itself and its parents. -/
theorem makesDirs_createDirs (fs : FileSystem) (p : Path) :
    MakesDirs p fs (fs.createDirs p).2 := by
  have hcreates := createsDirs_createDirs fs p
  generalize (fs.createDirs p).2 = later at hcreates
  induction hcreates with
  | done => exact .refl p _
  | created hup hcreated _ ih => exact ((makesDirs_of_createDir hcreated).of_upTo hup).trans ih

end BootChain.FileSystem
