import BootChain.FileSystem
import BootChain.Proofs.Path

namespace BootChain.FileSystem

variable {fs : FileSystem} {place other home : Location} {node : Node}

section

theorem lookup_cons_ite (first : Location × Node) (rest : List (Location × Node)) :
    (first :: rest).lookup other = if other = first.1 then some first.2 else rest.lookup other := by
  obtain ⟨place, node⟩ := first
  rw [List.lookup_cons]
  by_cases heq : other = place
  · simp [heq]
  · have hbeq : (other == place) = false := by simpa using heq
    rw [hbeq, if_neg heq]

theorem lookup_map_replace (entries : List (Location × Node)) :
    (entries.map fun entry => if entry.1 = place then (place, node) else entry).lookup other =
      if other = place then (entries.lookup place).map fun _ => node
      else entries.lookup other := by
  induction entries with
  | nil => simp
  | cons first rest ih =>
    rw [List.map_cons, lookup_cons_ite, lookup_cons_ite, lookup_cons_ite, ih]
    by_cases hfirst : first.1 = place
    · by_cases hother : other = place <;> simp [hfirst, hother]
    · have hplace : place ≠ first.1 := Ne.symm hfirst
      by_cases hother : other = place
      · simp [hfirst, hother, hplace]
      · simp [hfirst, hother]

theorem lookup_append_singleton (entries : List (Location × Node))
    (hnone : entries.lookup place = none) : (entries ++ [(place, node)]).lookup other =
      if other = place then some node else entries.lookup other := by
  induction entries with
  | nil => exact lookup_cons_ite (place, node) []
  | cons first rest ih =>
    rw [lookup_cons_ite] at hnone
    rw [List.cons_append, lookup_cons_ite, lookup_cons_ite]
    by_cases hplace : place = first.1
    · simp [hplace] at hnone
    · rw [if_neg hplace] at hnone
      rw [ih hnone]
      by_cases hother : other = place
      · simp [hother, hplace]
      · simp [hother]

theorem lookup_filter_ne (entries : List (Location × Node)) :
    (entries.filter fun entry => entry.1 ≠ place).lookup other =
      if other = place then none else entries.lookup other := by
  induction entries with
  | nil => simp
  | cons first rest ih =>
    rw [lookup_cons_ite, List.filter_cons]
    by_cases hfirst : first.1 = place
    · rw [if_neg (by simp [hfirst]), ih]
      by_cases hother : other = place <;> simp [hfirst, hother]
    · rw [if_pos (by simp [hfirst]), lookup_cons_ite, ih]
      by_cases hother : other = place
      · simp [hother, Ne.symm hfirst]
      · simp [hother]

theorem node?_put (hplace : place ≠ []) : (fs.put place node).node? other =
    if other = place then some node else fs.node? other := by
  have hlookup : (fs.put place node).nodes.lookup other =
      if other = place then some node else fs.nodes.lookup other := by
    unfold put
    split
    next hsome =>
      obtain ⟨found, hfound⟩ := Option.isSome_iff_exists.1 hsome
      rw [lookup_map_replace, hfound]
      rfl
    next hnone => exact lookup_append_singleton _ (Option.not_isSome_iff_eq_none.1 hnone)
  by_cases hroot : other = []
  · subst hroot
    simp [node?, Ne.symm hplace]
  · rw [node?, if_neg hroot, hlookup, node?, if_neg hroot]

theorem node?_erase (hplace : place ≠ []) : (fs.erase place).node? other =
    if other = place then none else fs.node? other := by
  by_cases hroot : other = []
  · subst hroot
    simp [node?, Ne.symm hplace]
  · rw [node?, if_neg hroot, erase, lookup_filter_ne, node?, if_neg hroot]

@[simp]
theorem workingDirectory_put : (fs.put place node).workingDirectory = fs.workingDirectory := by
  unfold put
  split <;> rfl

end

/-- What there is at a place, as the end of a walk that names it as such. -/
def arrive (fs : FileSystem) (place : Location) : Target :=
  match fs.node? place with
  | none => .free place false
  | some node => .found place node false

/-- A symbolic link stands at a place. -/
def HasLink (fs : FileSystem) (place : Location) : Prop :=
  ∃ target, fs.node? place = some (.link target)

theorem hasLink_erase_iff (hplace : place ≠ []) :
    (fs.erase place).HasLink other ↔ other ≠ place ∧ fs.HasLink other := by
  rw [HasLink, HasLink, node?_erase hplace]
  split <;> simp_all

/-- What a piece of a path comes to in a directory. -/
inductive Passage where
  /-- The walk goes on in a directory. -/
  | on (next : Location)
  /-- There is a symbolic link with that name. -/
  | link (target : Path)
  /-- There is something else with that name, which leads no further. -/
  | blocked (node : Node)
  | free
  | tooLong

def passage (fs : FileSystem) (here : Location) (piece : Bytes) : Passage :=
  if piece = [] ∨ piece = [Path.dot] then .on here
  else if piece = [Path.dot, Path.dot] then .on here.dropLast
  else if piece.length > 255 then .tooLong
  else
    match fs.node? (here ++ [piece]) with
    | none => .free
    | some .dir => .on (here ++ [piece])
    | some (.link target) => .link target
    | some node => .blocked node

/-- What a name comes to by what stands at its place. -/
def Passage.ofNode? (place : Location) : Option Node → Passage
  | none => .free
  | some .dir => .on place
  | some (.link target) => .link target
  | some node => .blocked node

/-- A piece of a path leads the same way whatever there is, or is a name and leads to what stands at
    its place. -/
theorem passage_cases (here : Location) (piece : Bytes) :
    (∃ found, (found = .tooLong ∨ ∃ next, found = .on next) ∧
      ∀ fs : FileSystem, fs.passage here piece = found) ∨
    ∀ fs : FileSystem,
      fs.passage here piece = .ofNode? (here ++ [piece]) (fs.node? (here ++ [piece])) := by
  by_cases hidle : piece = [] ∨ piece = [Path.dot]
  · exact .inl ⟨_, .inr ⟨here, rfl⟩, fun fs => by rw [passage, if_pos hidle]⟩
  · by_cases hdots : piece = [Path.dot, Path.dot]
    · exact .inl ⟨_, .inr ⟨here.dropLast, rfl⟩, fun fs => by
        rw [passage, if_neg hidle, if_pos hdots]⟩
    · by_cases hlong : piece.length > 255
      · exact .inl ⟨_, .inl rfl, fun fs => by
          rw [passage, if_neg hidle, if_neg hdots, if_pos hlong]⟩
      · refine .inr fun fs => ?_
        rw [passage, if_neg hidle, if_neg hdots, if_neg hlong]
        rfl

/-- A walk goes on where it is, in the parent, or in a directory with the name of the piece. -/
theorem passage_eq_on {here next : Location} {piece : Bytes}
    (hpassage : fs.passage here piece = .on next) :
    next = here ∨ next = here.dropLast ∨ fs.node? next = some .dir := by
  unfold passage at hpassage
  split at hpassage
  · cases hpassage
    exact .inl rfl
  · split at hpassage
    · cases hpassage
      exact .inr (.inl rfl)
    · split at hpassage
      · cases hpassage
      · split at hpassage
        next => cases hpassage
        next hdir =>
          cases hpassage
          exact .inr (.inr hdir)
        next => cases hpassage
        next => cases hpassage

/-- A piece that is not too long and leads no further is the name of what stands there. -/
theorem node?_of_passage {here : Location} {piece : Bytes} {found : Passage}
    (hpassage : fs.passage here piece = found) (hon : ∀ next, found ≠ .on next)
    (hlong : found ≠ .tooLong) :
    (match fs.node? (here ++ [piece]) with
      | none => Passage.free
      | some .dir => .on (here ++ [piece])
      | some (.link target) => .link target
      | some node => .blocked node) = found := by
  unfold passage at hpassage
  split at hpassage
  · exact absurd hpassage.symm (hon _)
  · split at hpassage
    · exact absurd hpassage.symm (hon _)
    · split at hpassage
      · exact absurd hpassage.symm hlong
      · exact hpassage

theorem passage_eq_free {here : Location} {piece : Bytes}
    (hpassage : fs.passage here piece = .free) : fs.node? (here ++ [piece]) = none := by
  have hfound := node?_of_passage hpassage nofun nofun
  split at hfound <;> cases hfound
  assumption

theorem passage_eq_link {here : Location} {piece : Bytes} {link : Path}
    (hpassage : fs.passage here piece = .link link) :
    fs.node? (here ++ [piece]) = some (.link link) := by
  have hfound := node?_of_passage hpassage nofun nofun
  split at hfound <;> cases hfound
  assumption

theorem passage_eq_blocked {here : Location} {piece : Bytes}
    (hpassage : fs.passage here piece = .blocked node) :
    fs.node? (here ++ [piece]) = some node ∧ node ≠ .dir := by
  have hfound := node?_of_passage hpassage nofun nofun
  split at hfound <;> cases hfound
  next hdir _ hnode => exact ⟨hnode, fun heq => hdir heq⟩

/-- In a directory a name leads to what there is with that name. -/
theorem passage_name {name : Bytes} (hname : Path.IsName name) :
    fs.passage home name =
      if name.length > 255 then .tooLong
      else
        match fs.node? (home ++ [name]) with
        | none => .free
        | some .dir => .on (home ++ [name])
        | some (.link target) => .link target
        | some node => .blocked node := by
  rw [passage, if_neg (by simp [hname.ne_nil, hname.ne_dot]), if_neg hname.ne_dots]

section

variable {follow : Bool} {onLink : Location → Path → List Bytes → Except IoError Target}

/-- One step of a walk. -/
theorem walkPieces_cons (here : Location) (piece : Bytes) (rest : List Bytes) :
    fs.walkPieces follow onLink here (piece :: rest) =
      match fs.passage here piece with
      | .on next => fs.walkPieces follow onLink next rest
      | .link target =>
        if rest.all (· = []) && !follow then
          .ok (.found (here ++ [piece]) (.link target) (!rest.isEmpty))
        else onLink here target rest
      | .blocked node =>
        if rest.all (· = []) then .ok (.found (here ++ [piece]) node (!rest.isEmpty))
        else .error .notADirectory
      | .free =>
        if rest.all (· = []) then .ok (.free (here ++ [piece]) (!rest.isEmpty))
        else .error .notFound
      | .tooLong => .error .nameTooLong := by
  rw [walkPieces, passage]
  split
  next => rfl
  next =>
    split
    next => rfl
    next =>
      split
      next => rfl
      next =>
        dsimp only
        cases fs.node? (here ++ [piece]) with
        | none => rfl
        | some node => cases node <;> rfl

end

end BootChain.FileSystem
