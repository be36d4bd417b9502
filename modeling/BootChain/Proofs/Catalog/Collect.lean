import BootChain.Catalog
import BootChain.Proofs.FileSystem.Walk

namespace BootChain.Catalog

variable {files : FileSystem} {directory : Path} {layout : FixtureLayout} {place : Location}
  {way : List Bytes}

/-- A run through a list gathers what every item gives, or stops at one that fails. -/
theorem flatten_mapM_cases {ε α β : Type} {items : List α} {f : α → Except ε (List β)}
    {g : α → List β} {Fails : ε → Prop} (heach : ∀ item ∈ items, f item = .ok (g item) ∨
      ∃ e, f item = .error e ∧ Fails e) :
    (do return (← items.mapM f).flatten) = Except.ok (items.flatMap g) ∨
      ∃ e, (do return (← items.mapM f).flatten) = Except.error e ∧ Fails e := by
  have hrun : items.mapM f = .ok (items.map g) ∨ ∃ e, items.mapM f = .error e ∧ Fails e := by
    induction items with
    | nil => exact .inl rfl
    | cons item rest ih =>
      obtain ⟨hitem, hrest⟩ := List.forall_mem_cons.1 heach
      rw [List.mapM_cons]
      rcases hitem with hok | ⟨e, herror, hfails⟩
      · rw [hok]
        rcases ih hrest with hrest | ⟨e, herror, hfails⟩
        · left
          rw [hrest]
          rfl
        · right
          rw [herror]
          exact ⟨e, rfl, hfails⟩
      · right
        rw [herror]
        exact ⟨e, rfl, hfails⟩
  rcases hrun with hok | ⟨e, herror, hfails⟩
  · left
    rw [hok, List.flatMap_def]
    rfl
  · right
    rw [herror]
    exact ⟨e, rfl, hfails⟩

theorem path_sourceAt_concat (directory : Path) (way : List Bytes) (name : Bytes) :
    (sourceAt directory (way ++ [name])).path = (sourceAt directory way).path.join ⟨name⟩ :=
  Path.below_concat directory way name

/-- A directory some way below a place cannot be listed, and the walk says so. -/
def Unlisted (files : FileSystem) (directory : Path) (place : Location) (way : List Bytes)
    (e : CatalogError) : Prop :=
  ∃ names cause, files.node? (place ++ names) = some .dir ∧
    files.list (sourceAt directory (way ++ names)).path = .error cause ∧
    e = .unreadable (sourceAt directory (way ++ names)).path cause

theorem Unlisted.of_name {name : Bytes} {e : CatalogError}
    (hunlisted : Unlisted files directory (place ++ [name]) (way ++ [name]) e) :
    Unlisted files directory place way e := by
  obtain ⟨names, cause, hnode, hlist, rfl⟩ := hunlisted
  rw [List.append_assoc] at hnode hlist
  exact ⟨[name] ++ names, cause, hnode, hlist, by rw [List.append_assoc]⟩

/-- The walk finds the leaves below a directory, unless a directory below it cannot be listed. -/
theorem collect_cases (horderly : files.Orderly) (depth : Nat)
    (hdir : files.node? place = some .dir)
    (hleads : ∀ here, files.LeadsTo (sourceAt directory way).path here → here = place) :
    collect files directory depth way =
        .ok ((files.leavesWithin depth place).map (way ++ ·)) ∨
      ∃ e, collect files directory depth way = .error e ∧
        Unlisted files directory place way e := by
  induction depth generalizing way place with
  | zero => exact .inl rfl
  | succ depth ih =>
    rw [collect]
    cases hlist : files.list (sourceAt directory way).path with
    | error cause =>
      refine .inr ⟨_, rfl, [], cause, ?_, ?_, ?_⟩
      · rwa [List.append_nil]
      · rwa [List.append_nil]
      · rw [List.append_nil]
    | ok listing =>
      obtain ⟨here, listed⟩ := listing
      obtain ⟨hstat, rfl⟩ := FileSystem.list_eq_ok_iff.1 hlist
      cases hleads here (.there hstat)
      rw [FileSystem.leavesWithin, List.map_flatMap]
      refine flatten_mapM_cases fun name hname => ?_
      cases hnode : files.node? (place ++ [name]) with
      | none => exact .inl rfl
      | some node =>
        cases node with
        | dir =>
          have hnext : ∀ next, files.LeadsTo (sourceAt directory (way ++ [name])).path next →
              next = place ++ [name] := by
            intro next hnext
            rw [path_sourceAt_concat] at hnext
            exact FileSystem.LeadsTo.eq_of_join (.there hstat)
              (horderly.isName_of_mem_namesIn hname) hnode hnext
          rcases ih hnode hnext with hok | ⟨e, herror, hunlisted⟩
          · left
            simp only [hok, List.map_map, Function.comp_def, List.append_assoc,
              List.singleton_append]
          · exact .inr ⟨e, herror, hunlisted.of_name⟩
        | file content mode => exact .inl rfl
        | link target => exact .inl rfl
        | device device => exact .inl rfl

/-- Of what is found in the directories, the sources are in the order of their paths. -/
def sorted (directory : Path) (layout : FixtureLayout) (leaves : List (List Bytes)) :
    List Source :=
  ((leaves.map (sourceAt directory)).filter fun source =>
    source.path.extension? = some (Utf8.encode layout.source)).mergeSort fun a b =>
      a.path.before b.path

theorem sources_cases (horderly : files.Orderly)
    (hstat : files.stat directory = .ok (place, .dir)) :
    sources files directory layout =
        .ok (sorted directory layout (files.leavesWithin (files.nodes.length + 1) place)) ∨
      ∃ e, sources files directory layout = .error e ∧ Unlisted files directory place [] e := by
  have hleads : ∀ here, files.LeadsTo (sourceAt directory []).path here → here = place :=
    fun here hhere => hhere.unique (.there hstat)
  rw [sources]
  rcases collect_cases horderly (files.nodes.length + 1) (FileSystem.node?_of_stat hstat) hleads with
    hok | ⟨e, herror, hunlisted⟩
  · left
    simp only [hok, List.nil_append, List.map_id']
    rfl
  · right
    rw [herror]
    exact ⟨e, rfl, hunlisted⟩

theorem exists_stat_of_sources {found : List Source}
    (hsources : sources files directory layout = .ok found) :
    ∃ place, files.stat directory = .ok (place, .dir) := by
  rw [sources, collect] at hsources
  cases hlist : files.list (sourceAt directory []).path with
  | error cause =>
    rw [hlist] at hsources
    cases hsources
  | ok listing => exact ⟨listing.1, (FileSystem.list_eq_ok_iff.1 hlist).1⟩

end BootChain.Catalog
