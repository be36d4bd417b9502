import BootChain.Chain
import BootChain.Generation
import BootChain.Proofs.SortedMap
import BootChain.Proofs.Text.Decimal

namespace BootChain

namespace Generation

variable {a b : Generation}

theorem compare_eq_lt : compare a b = .lt ↔ a.number < b.number := by
  rw [compare_eq, Nat.compare_eq_lt]

theorem toList_label (g : Generation) :
    g.label.toList = "stage".toList ++ Nat.toDigits 10 g.number := by
  rw [label, String.toList_append, Nat.toString_eq_repr, Nat.toList_repr]

theorem toString_number_inj (heq : toString a.number = toString b.number) : a = b := by
  have hdigits : Nat.toDigits 10 a.number = Nat.toDigits 10 b.number := by
    simpa only [Nat.toString_eq_repr, Nat.toList_repr] using congrArg String.toList heq
  exact Generation.ext (Text.toDigits_inj hdigits)

theorem label_inj (heq : a.label = b.label) : a = b := by
  have hlists := congrArg String.toList heq
  rw [toList_label, toList_label, List.append_cancel_left_eq] at hlists
  exact Generation.ext (Text.toDigits_inj hlists)

/-- A label that something other than a digit follows tells its generation. -/
theorem eq_of_label_append {c d : Char} (hc : c.isDigit = false) (hd : d.isDigit = false)
    {x y : List Char} (heq : a.label.toList ++ c :: x = b.label.toList ++ d :: y) : a = b := by
  rw [toList_label, toList_label, List.append_assoc, List.append_assoc,
    List.append_cancel_left_eq] at heq
  obtain ⟨hnumber, -⟩ :=
    Text.toDigits_append_inj (Text.endsNumber_cons hc) (Text.endsNumber_cons hd) heq
  exact Generation.ext hnumber

end Generation

namespace Chain

theorem mem_available_iff {chain : Chain} {stage : Stage} :
    stage ∈ chain.available ↔ chain.get? stage.generation = some (.available stage) := by
  rw [get?, SortedMap.get?_eq_some_iff, available, SortedMap.values, List.filterMap_map,
    List.mem_filterMap]
  constructor
  · rintro ⟨⟨generation, slot⟩, hentry, hstage⟩
    cases slot with
    | missing path => cases hstage
    | available found =>
      cases hstage
      rw [chain.keyed _ hentry stage rfl]
      exact hentry
  · intro hentry
    exact ⟨_, hentry, rfl⟩

theorem ascending_available (chain : Chain) :
    (chain.available.map Stage.generation).Pairwise fun a b => compare a b = .lt := by
  rw [List.pairwise_map, available, SortedMap.values, List.filterMap_map, List.pairwise_filterMap]
  refine chain.slots.ascending.imp_of_mem ?_
  rintro ⟨lower, lowerSlot⟩ ⟨upper, upperSlot⟩ hlower hupper hlt first hfirst second hsecond
  cases lowerSlot with
  | missing path => cases hfirst
  | available found =>
    cases upperSlot with
    | missing path => cases hsecond
    | available other =>
      cases hfirst
      cases hsecond
      rw [chain.keyed _ hlower first rfl, chain.keyed _ hupper second rfl]
      exact hlt

/-- No two of the compilers that are there stand for one generation. -/
theorem nodup_available (chain : Chain) : (chain.available.map Stage.generation).Nodup :=
  chain.ascending_available.imp SortedMap.ne_of_compare_lt

/-- The compiler of a generation is there. -/
def Has (chain : Chain) (generation : Generation) : Prop :=
  ∃ stage, chain.get? generation = some (.available stage)

theorem mem_map_available_iff {chain : Chain} {generation : Generation} :
    generation ∈ chain.available.map Stage.generation ↔ chain.Has generation := by
  rw [List.mem_map]
  constructor
  · rintro ⟨stage, hstage, rfl⟩
    exact ⟨stage, mem_available_iff.1 hstage⟩
  · rintro ⟨stage, hstage⟩
    have hgeneration := chain.keyed _ (SortedMap.get?_eq_some_iff.1 hstage) stage rfl
    cases hgeneration
    exact ⟨stage, mem_available_iff.2 hstage, rfl⟩

theorem linksOf_cons_cons (lower upper : Generation) (rest : List Generation) :
    linksOf (lower :: upper :: rest) =
      if lower.precedes upper then (lower, upper) :: linksOf (upper :: rest)
      else linksOf (upper :: rest) := rfl

theorem mem_linksOf_cons_cons_iff {lower upper : Generation} {rest : List Generation}
    {link : Generation × Generation} : link ∈ linksOf (lower :: upper :: rest) ↔
      lower.precedes upper = true ∧ link = (lower, upper) ∨ link ∈ linksOf (upper :: rest) := by
  rw [linksOf_cons_cons]
  split
  next hprecedes => simp [hprecedes]
  next hnot => simp [hnot]

/-- In an ascending list the number after that of the first member can only be the second. -/
theorem eq_of_number_eq {first second later : Generation} {rest : List Generation}
    (hlist : (first :: second :: rest).Pairwise fun a b => compare a b = .lt)
    (hlater : later ∈ second :: rest) (hnumber : later.number = first.number + 1) :
    later = second := by
  obtain ⟨hfirst, hrest⟩ := List.pairwise_cons.1 hlist
  have hsecond := Generation.compare_eq_lt.1 (hfirst second List.mem_cons_self)
  rcases List.mem_cons.1 hlater with rfl | hlater
  · rfl
  · have hlt := Generation.compare_eq_lt.1 ((List.pairwise_cons.1 hrest).1 later hlater)
    omega

/-- In an ascending list the links are the pairs of a number and the next one, both in the list. -/
theorem mem_linksOf_iff {list : List Generation}
    (hlist : list.Pairwise fun a b => compare a b = .lt) {lower upper : Generation} :
    (lower, upper) ∈ linksOf list ↔
      lower ∈ list ∧ upper ∈ list ∧ upper.number = lower.number + 1 := by
  induction list with
  | nil => simp [linksOf]
  | cons first rest ih =>
    obtain ⟨hfirst, hrest⟩ := List.pairwise_cons.1 hlist
    cases rest with
    | nil =>
      simp only [linksOf, List.not_mem_nil, List.mem_singleton, false_iff]
      rintro ⟨rfl, rfl, hnumber⟩
      omega
    | cons second rest =>
      have hlt : ∀ later ∈ second :: rest, first.number < later.number := fun later hlater =>
        Generation.compare_eq_lt.1 (hfirst later hlater)
      rw [mem_linksOf_cons_cons_iff, ih hrest]
      constructor
      · rintro (⟨hprecedes, heq⟩ | ⟨hlower, hupper, hnumber⟩)
        · cases heq
          exact ⟨List.mem_cons_self, by simp, Generation.precedes_iff.1 hprecedes⟩
        · exact ⟨List.mem_cons_of_mem _ hlower, List.mem_cons_of_mem _ hupper, hnumber⟩
      · rintro ⟨hlower, hupper, hnumber⟩
        rcases List.mem_cons.1 hupper with rfl | hupperLater
        -- the first member ends no link, as all others have higher numbers
        · rcases List.mem_cons.1 hlower with rfl | hlowerLater
          · omega
          · have := hlt lower hlowerLater
            omega
        · rcases List.mem_cons.1 hlower with rfl | hlowerLater
          · cases eq_of_number_eq hlist hupperLater hnumber
            exact .inl ⟨Generation.precedes_iff.2 hnumber, rfl⟩
          · exact .inr ⟨hlowerLater, hupperLater, hnumber⟩

theorem fst_mem_of_mem_linksOf {list : List Generation} {link : Generation × Generation}
    (hlink : link ∈ linksOf list) : link.1 ∈ list := by
  fun_induction linksOf list with
  | case1 lower upper rest hprecedes ih =>
    rcases List.mem_cons.1 hlink with rfl | hlink
    · exact List.mem_cons_self
    · exact List.mem_cons_of_mem _ (ih hlink)
  | case2 lower upper rest hprecedes ih => exact List.mem_cons_of_mem _ (ih hlink)
  | case3 list hshort => cases hlink

theorem ascending_linksOf {list : List Generation}
    (hlist : list.Pairwise fun a b => compare a b = .lt) :
    (linksOf list).Pairwise fun a b => compare a.1 b.1 = .lt := by
  fun_induction linksOf list with
  | case1 lower upper rest hprecedes ih =>
    obtain ⟨hlower, hrest⟩ := List.pairwise_cons.1 hlist
    exact List.pairwise_cons.2
      ⟨fun link hlink => hlower _ (fst_mem_of_mem_linksOf hlink), ih hrest⟩
  | case2 lower upper rest hprecedes ih => exact ih (List.pairwise_cons.1 hlist).2
  | case3 list hshort => exact .nil

/-- The links of a chain are the pairs of a generation and the next, both of which are there. -/
theorem mem_links_iff {chain : Chain} {lower upper : Generation} :
    (lower, upper) ∈ chain.links ↔
      chain.Has lower ∧ chain.Has upper ∧ upper.number = lower.number + 1 := by
  rw [links, mem_linksOf_iff chain.ascending_available, mem_map_available_iff,
    mem_map_available_iff]

theorem ascending_links (chain : Chain) :
    chain.links.Pairwise fun a b => compare a.1 b.1 = .lt :=
  ascending_linksOf chain.ascending_available

/-- No link of a part of a chain spans a generation that was left out. -/
theorem links_eq_filter {part whole : Chain} {keep : Generation → Bool}
    (hpart : ∀ generation, part.Has generation ↔ whole.Has generation ∧ keep generation = true) :
    part.links = whole.links.filter fun link => keep link.1 && keep link.2 := by
  refine SortedMap.eq_of_ascending (f := Prod.fst) part.ascending_links
    (whole.ascending_links.filter _) ?_
  rintro ⟨lower, upper⟩
  rw [List.mem_filter, mem_links_iff, mem_links_iff, hpart, hpart, Bool.and_eq_true]
  constructor
  · rintro ⟨⟨hlower, hlowerIn⟩, ⟨hupper, hupperIn⟩, hnumber⟩
    exact ⟨⟨hlower, hupper, hnumber⟩, hlowerIn, hupperIn⟩
  · rintro ⟨⟨hlower, hupper, hnumber⟩, hlowerIn, hupperIn⟩
    exact ⟨⟨hlower, hlowerIn⟩, ⟨hupper, hupperIn⟩, hnumber⟩

end Chain

end BootChain
