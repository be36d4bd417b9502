import BootChain.Proofs.FileSystem.Passage

namespace BootChain.FileSystem

/-- Nothing but empty pieces is left of a path. -/
def Idle (rest : List Bytes) : Prop := ∀ piece ∈ rest, piece = []

instance : DecidablePred Idle := fun rest =>
  inferInstanceAs (Decidable (∀ piece ∈ rest, piece = []))

/-- The ways in which a walk along the pieces of a path comes to a target. Each symbolic link that it
    follows takes one from its budget. -/
inductive Walks (fs : FileSystem) (follow : Bool) : Nat → Location → List Bytes → Target → Prop
  | arrived {budget : Nat} {here : Location} {node : Node} (hnode : fs.node? here = some node) :
    Walks fs follow budget here [] (.found here node false)
  | on {budget : Nat} {here next : Location} {piece : Bytes} {rest : List Bytes} {target : Target}
    (hpassage : fs.passage here piece = .on next)
    (hrest : Walks fs follow budget next rest target) :
    Walks fs follow budget here (piece :: rest) target
  | linked {budget : Nat} {here : Location} {piece : Bytes} {rest : List Bytes} {link : Path}
    (hpassage : fs.passage here piece = .link link) (hstay : Idle rest ∧ follow = false) :
    Walks fs follow budget here (piece :: rest)
      (.found (here ++ [piece]) (.link link) (!rest.isEmpty))
  | followed {budget : Nat} {here : Location} {piece : Bytes} {rest : List Bytes} {link : Path}
    {target : Target} (hpassage : fs.passage here piece = .link link)
    (hstay : ¬ (Idle rest ∧ follow = false))
    (hrest : Walks fs follow budget (if link.isAbsolute then [] else here)
      (Path.segments link.bytes ++ rest) target) :
    Walks fs follow (budget + 1) here (piece :: rest) target
  | blocked {budget : Nat} {here : Location} {piece : Bytes} {rest : List Bytes} {node : Node}
    (hpassage : fs.passage here piece = .blocked node) (hidle : Idle rest) :
    Walks fs follow budget here (piece :: rest) (.found (here ++ [piece]) node (!rest.isEmpty))
  | free {budget : Nat} {here : Location} {piece : Bytes} {rest : List Bytes}
    (hpassage : fs.passage here piece = .free) (hidle : Idle rest) :
    Walks fs follow budget here (piece :: rest) (.free (here ++ [piece]) (!rest.isEmpty))

/-- The way of a walk along pieces that are not its last ones: the directory that it comes to, and how
    many more links it may follow from there. -/
inductive Passes (fs : FileSystem) : Nat → Location → List Bytes → Nat → Location → Prop
  | done {budget : Nat} {here : Location} : Passes fs budget here [] budget here
  | on {budget left : Nat} {here next place : Location} {piece : Bytes} {rest : List Bytes}
    (hpassage : fs.passage here piece = .on next) (hrest : Passes fs budget next rest left place) :
    Passes fs budget here (piece :: rest) left place
  | followed {budget left : Nat} {here place : Location} {piece : Bytes} {rest : List Bytes}
    {link : Path} (hpassage : fs.passage here piece = .link link)
    (hrest : Passes fs budget (if link.isAbsolute then [] else here)
      (Path.segments link.bytes ++ rest) left place) :
    Passes fs (budget + 1) here (piece :: rest) left place

variable {fs : FileSystem} {follow asDirectory : Bool} {budget left : Nat}
  {here home place : Location} {name : Bytes} {pieces more idle : List Bytes} {node : Node}
  {target : Target}

theorem walk_nil (fs : FileSystem) (follow : Bool) (budget : Nat) (here : Location) :
    fs.walk follow budget here [] =
      match fs.node? here with
      | some node => .ok (.found here node false)
      | none => .error .notFound := by
  cases budget <;> rfl

/-- One step of a walk through at most some number of links. -/
theorem walk_cons (here : Location) (piece : Bytes) (rest : List Bytes) :
    fs.walk follow budget here (piece :: rest) =
      match fs.passage here piece with
      | .on next => fs.walk follow budget next rest
      | .link link =>
        if Idle rest ∧ follow = false then
          .ok (.found (here ++ [piece]) (.link link) (!rest.isEmpty))
        else
          match budget with
          | 0 => .error .tooManyLinks
          | budget + 1 =>
            fs.walk follow budget (if link.isAbsolute then [] else here)
              (Path.segments link.bytes ++ rest)
      | .blocked node =>
        if Idle rest then .ok (.found (here ++ [piece]) node (!rest.isEmpty))
        else .error .notADirectory
      | .free =>
        if Idle rest then .ok (.free (here ++ [piece]) (!rest.isEmpty)) else .error .notFound
      | .tooLong => .error .nameTooLong := by
  have hidle : Idle rest ↔ rest.all (· = []) = true := by simp [Idle]
  have hstay : Idle rest ∧ follow = false ↔ (rest.all (· = []) && !follow) = true := by
    rw [hidle, Bool.and_eq_true, Bool.not_eq_true']
  simp only [hstay]
  simp only [hidle]
  cases budget with
  | zero => exact walkPieces_cons here piece rest
  | succ budget => exact walkPieces_cons here piece rest

theorem walks_of_walk_of_fewer
    (hfewer : ∀ fewer, budget = fewer + 1 → ∀ here pieces,
      fs.walk follow fewer here pieces = .ok target → fs.Walks follow fewer here pieces target)
    (hwalk : fs.walk follow budget here pieces = .ok target) :
    fs.Walks follow budget here pieces target := by
  induction pieces generalizing here with
  | nil =>
    rw [walk_nil] at hwalk
    split at hwalk <;> cases hwalk
    next hnode => exact .arrived hnode
  | cons piece rest ih =>
    rw [walk_cons] at hwalk
    split at hwalk
    next next hpassage => exact .on hpassage (ih hwalk)
    next link hpassage =>
      split at hwalk
      next hstay =>
        cases hwalk
        exact .linked hpassage hstay
      next hstay =>
        split at hwalk
        next => cases hwalk
        next fewer => exact .followed hpassage hstay (hfewer fewer rfl _ _ hwalk)
    next node hpassage =>
      split at hwalk <;> cases hwalk
      next hidle => exact .blocked hpassage hidle
    next hpassage =>
      split at hwalk <;> cases hwalk
      next hidle => exact .free hpassage hidle
    next => cases hwalk

/-- A walk comes to a target just if there is a way there. -/
theorem walk_eq_ok_iff :
    fs.walk follow budget here pieces = .ok target ↔ fs.Walks follow budget here pieces target := by
  constructor
  · intro hwalk
    induction budget generalizing here pieces with
    | zero => exact walks_of_walk_of_fewer (fun _ hzero => by cases hzero) hwalk
    | succ budget ih =>
      refine walks_of_walk_of_fewer (fun fewer hfewer here pieces => ?_) hwalk
      cases hfewer
      exact ih
  · intro hwalks
    induction hwalks with
    | arrived hnode => rw [walk_nil, hnode]
    | on hpassage _ ih =>
      rw [walk_cons, hpassage]
      exact ih
    | linked hpassage hstay =>
      rw [walk_cons, hpassage]
      exact if_pos hstay
    | followed hpassage hstay _ ih =>
      rw [walk_cons, hpassage]
      exact (if_neg hstay).trans ih
    | blocked hpassage hidle =>
      rw [walk_cons, hpassage]
      exact if_pos hidle
    | free hpassage hidle =>
      rw [walk_cons, hpassage]
      exact if_pos hidle

/-- What a walk along a path finds is what stands at the place where it ends. -/
theorem Walks.node?_eq
    (hwalks : fs.Walks follow budget here pieces (.found place node asDirectory)) :
    fs.node? place = some node := by
  generalize htarget : Target.found place node asDirectory = target at hwalks
  induction hwalks with
  | arrived hnode =>
    cases htarget
    exact hnode
  | on _ _ ih => exact ih htarget
  | linked hpassage =>
    cases htarget
    exact passage_eq_link hpassage
  | followed _ _ _ ih => exact ih htarget
  | blocked hpassage =>
    cases htarget
    exact (passage_eq_blocked hpassage).1
  | free => cases htarget

theorem node?_of_walk
    (hwalk : fs.walk follow budget here pieces = .ok (.found place node asDirectory)) :
    fs.node? place = some node :=
  (walk_eq_ok_iff.1 hwalk).node?_eq

/-- A walk that follows no link at its end and ends at a free place goes the same way if it would
    follow one. -/
theorem walk_free (hwalk : fs.walk false budget here pieces = .ok (.free place asDirectory)) :
    fs.walk true budget here pieces = .ok (.free place asDirectory) := by
  rw [walk_eq_ok_iff] at hwalk ⊢
  generalize htarget : Target.free place asDirectory = target at hwalk ⊢
  induction hwalk with
  | arrived => cases htarget
  | on hpassage _ ih => exact .on hpassage (ih htarget)
  | linked => cases htarget
  | followed hpassage _ _ ih => exact .followed hpassage (by simp) (ih htarget)
  | blocked => cases htarget
  | free hpassage hidle => exact .free hpassage hidle

/-- Empty pieces leave a walk where it is. -/
theorem walk_idle (hidle : Idle idle) :
    fs.walk follow budget here idle = fs.walk follow budget here [] := by
  induction idle with
  | nil => rfl
  | cons piece rest ih =>
    obtain ⟨hpiece, hrest⟩ := List.forall_mem_cons.1 hidle
    rw [walk_cons, passage, if_pos (.inl hpiece)]
    exact ih hrest

/-- From a directory a name leads to the place of that name in it, as long as no symbolic link
    that is there has to be followed. -/
theorem walk_name (hname : Path.IsName name) (hlength : name.length ≤ 255)
    (hlink : follow = true → ¬ fs.HasLink (home ++ [name])) :
    fs.walk follow budget home [name] = .ok (fs.arrive (home ++ [name])) := by
  have hidle : Idle [] := nofun
  rw [walk_cons, passage_name hname, if_neg (Nat.not_lt.2 hlength), arrive]
  cases hnode : fs.node? (home ++ [name]) with
  | none => exact if_pos hidle
  | some node =>
    cases node with
    | file content mode => exact if_pos hidle
    | dir =>
      dsimp only
      rw [walk_nil, hnode]
    | device device => exact if_pos hidle
    | link target =>
      cases hfollow : follow with
      | false => exact if_pos ⟨hidle, rfl⟩
      | true => exact absurd ⟨target, hnode⟩ (hlink hfollow)

theorem walk_name_of_lt (hname : Path.IsName name) (hlength : 255 < name.length) :
    fs.walk follow budget home [name] = .error .nameTooLong := by
  rw [walk_cons, passage_name hname, if_pos hlength]

/-- After the pieces that it passes a walk goes on with the others from where it is. Only a link at
    its end is not followed. -/
theorem Passes.walk_append (hpasses : fs.Passes budget here pieces left place)
    (hmore : Idle more → follow = true) :
    fs.walk follow budget here (pieces ++ more) = fs.walk follow left place more := by
  induction hpasses with
  | done => rfl
  | on hpassage _ ih =>
    rw [List.cons_append, walk_cons, hpassage]
    exact ih
  | @followed _ _ _ _ _ rest _ hpassage _ ih =>
    have hfollow : ¬ (Idle (rest ++ more) ∧ follow = false) := by
      rintro ⟨hidle, hfollow⟩
      rw [hmore (List.forall_mem_append.1 hidle).2] at hfollow
      cases hfollow
    rw [List.cons_append, walk_cons, hpassage]
    rw [List.append_assoc] at ih
    exact (if_neg hfollow).trans ih

/-- A walk that comes to a target passes what stands before a last piece that is not empty. If all
    that it has left are empty pieces, then it does when it comes to a directory. -/
theorem Walks.passes (hwalks : fs.Walks follow budget here (pieces ++ more) target)
    (hmore : Idle more → follow = true ∧ ∃ home asDirectory, target = .found home .dir asDirectory) :
    ∃ left place, fs.Passes budget here pieces left place := by
  generalize hall : pieces ++ more = all at hwalks
  induction hwalks generalizing pieces with
  | arrived =>
    obtain ⟨rfl, -⟩ := List.append_eq_nil_iff.1 hall
    exact ⟨_, _, .done⟩
  | on hpassage _ ih =>
    cases pieces with
    | nil => exact ⟨_, _, .done⟩
    | cons piece rest =>
      cases hall
      obtain ⟨left, place, hpasses⟩ := ih hmore rfl
      exact ⟨left, place, .on hpassage hpasses⟩
  | linked _ hstay =>
    cases pieces with
    | nil => exact ⟨_, _, .done⟩
    | cons piece rest =>
      cases hall
      obtain ⟨hfollow, -⟩ := hmore (List.forall_mem_append.1 hstay.1).2
      cases hfollow.symm.trans hstay.2
  | followed hpassage _ _ ih =>
    cases pieces with
    | nil => exact ⟨_, _, .done⟩
    | cons piece rest =>
      cases hall
      obtain ⟨left, place, hpasses⟩ := ih hmore (List.append_assoc _ _ _)
      exact ⟨left, place, .followed hpassage hpasses⟩
  | blocked hpassage hidle =>
    cases pieces with
    | nil => exact ⟨_, _, .done⟩
    | cons piece rest =>
      cases hall
      obtain ⟨-, home, asDirectory, htarget⟩ := hmore (List.forall_mem_append.1 hidle).2
      cases htarget
      exact absurd rfl (passage_eq_blocked hpassage).2
  | free _ hidle =>
    cases pieces with
    | nil => exact ⟨_, _, .done⟩
    | cons piece rest =>
      cases hall
      obtain ⟨-, home, asDirectory, htarget⟩ := hmore (List.forall_mem_append.1 hidle).2
      cases htarget

/-- Where some pieces lead to a directory, the same pieces and a name lead to where the name leads
    from there. -/
theorem walk_append_name (hname : name ≠ []) (hidle : Idle idle) {result : Except IoError Target}
    (hend : ∀ left, fs.walk follow left home [name] = result)
    (hwalk : fs.walk true budget here (pieces ++ idle) = .ok (.found home .dir asDirectory)) :
    fs.walk follow budget here (pieces ++ [name]) = result := by
  obtain ⟨left, place, hpasses⟩ :=
    (walk_eq_ok_iff.1 hwalk).passes fun _ => ⟨rfl, home, asDirectory, rfl⟩
  have hplace : place = home := by
    rw [hpasses.walk_append fun _ => rfl, walk_idle hidle, walk_nil] at hwalk
    split at hwalk <;> cases hwalk
    rfl
  rw [hpasses.walk_append fun hlast => absurd (hlast name (List.mem_singleton_self name)) hname,
    hplace]
  exact hend left

end BootChain.FileSystem
