import BootChain.SortedMap

namespace BootChain.SortedMap

variable {κ ν μ : Type} [Ord κ]

theorem ne_of_compare_lt [Std.LawfulEqOrd κ] {a b : κ} (hlt : compare a b = .lt) : a ≠ b := by
  rintro rfl
  rw [Std.ReflOrd.compare_self] at hlt
  cases hlt

omit [Ord κ] in
private theorem lookup_cons_ite [DecidableEq κ] (key first : κ) (value : ν) (rest : List (κ × ν)) :
    ((first, value) :: rest).lookup key = if key = first then some value else rest.lookup key := by
  rw [List.lookup_cons]
  by_cases heq : key = first
  · simp [heq]
  · have hbeq : (key == first) = false := by simpa using heq
    rw [hbeq, if_neg heq]

/-- Looking a key up finds exactly the entry that stands under it, since no key stands twice. -/
theorem get?_eq_some_iff [Std.LawfulEqOrd κ] [DecidableEq κ] {map : SortedMap κ ν} {key : κ}
    {value : ν} : map.get? key = some value ↔ (key, value) ∈ map.entries := by
  obtain ⟨entries, hascending⟩ := map
  simp only [get?]
  induction entries with
  | nil => simp
  | cons entry rest ih =>
    obtain ⟨hbefore, hrest⟩ := List.pairwise_cons.1 hascending
    obtain ⟨first, found⟩ := entry
    rw [lookup_cons_ite, List.mem_cons]
    by_cases heq : key = first
    · subst heq
      have habsent : (key, value) ∉ rest := fun hmem => ne_of_compare_lt (hbefore _ hmem) rfl
      simp [habsent, eq_comm]
    · rw [if_neg heq, ih hrest]
      simp [heq]

/-- Two lists that ascend by the same key and have the same members are the same. -/
theorem eq_of_ascending [Std.TransOrd κ] [Std.LawfulEqOrd κ] {ι : Type} {f : ι → κ}
    {first second : List ι}
    (hfirst : first.Pairwise fun a b => compare (f a) (f b) = .lt)
    (hsecond : second.Pairwise fun a b => compare (f a) (f b) = .lt)
    (hmem : ∀ item, item ∈ first ↔ item ∈ second) : first = second := by
  have hne : ∀ {a b : ι}, compare (f a) (f b) = .lt → a ≠ b := fun hlt heq =>
    ne_of_compare_lt hlt (congrArg f heq)
  have hperm : first.Perm second :=
    (List.perm_ext_iff_of_nodup (hfirst.imp hne) (hsecond.imp hne)).2 hmem
  refine List.Perm.eq_of_pairwise (fun x y _ _ hxy hyx => ?_) hfirst hsecond hperm
  have hswap := Std.OrientedOrd.eq_swap (a := f x) (b := f y)
  rw [hxy, hyx] at hswap
  cases hswap

/-- A map is determined by what it gives for each key. -/
theorem ext_get? [Std.TransOrd κ] [Std.LawfulEqOrd κ] [DecidableEq κ] {a b : SortedMap κ ν}
    (hget : ∀ key, a.get? key = b.get? key) : a = b := by
  have hentries : a.entries = b.entries := by
    refine eq_of_ascending a.ascending b.ascending ?_
    rintro ⟨key, value⟩
    rw [← get?_eq_some_iff, ← get?_eq_some_iff, hget]
  cases a
  cases b
  cases hentries
  rfl

theorem mem_keys_iff [Std.LawfulEqOrd κ] [DecidableEq κ] {map : SortedMap κ ν} {key : κ} :
    key ∈ map.keys ↔ (map.get? key).isSome := by
  simp only [keys, List.mem_map, Prod.exists, exists_and_right, exists_eq_right,
    Option.isSome_iff_exists, get?_eq_some_iff]

theorem ascending_keys (map : SortedMap κ ν) : map.keys.Pairwise fun a b => compare a b = .lt :=
  List.pairwise_map.2 map.ascending

theorem nodup_keys [Std.LawfulEqOrd κ] (map : SortedMap κ ν) : map.keys.Nodup :=
  map.ascending_keys.imp ne_of_compare_lt

/-- Two maps with the same keys list them alike. -/
theorem keys_eq_of_mem_iff [Std.TransOrd κ] [Std.LawfulEqOrd κ] {a : SortedMap κ ν}
    {b : SortedMap κ μ} (hmem : ∀ key, key ∈ a.keys ↔ key ∈ b.keys) : a.keys = b.keys :=
  eq_of_ascending (f := id) a.ascending_keys b.ascending_keys hmem

theorem get?_insert [Std.TransOrd κ] [Std.LawfulEqOrd κ] [DecidableEq κ] (map : SortedMap κ ν)
    (key : κ) (value : ν) (other : κ) :
    (map.insert key value).get? other = if other = key then some value else map.get? other := by
  obtain ⟨entries, hascending⟩ := map
  simp only [get?, insert]
  clear hascending
  induction entries with
  | nil => rw [insertEntry, lookup_cons_ite]
  | cons entry rest ih =>
    obtain ⟨first, found⟩ := entry
    simp only [insertEntry]
    split
    next => rw [lookup_cons_ite]
    next heq =>
      have hkey : key = first := Std.LawfulEqOrd.eq_of_compare heq
      subst hkey
      rw [lookup_cons_ite, lookup_cons_ite]
      by_cases hother : other = key <;> simp [hother]
    next hgt =>
      have hne : key ≠ first := by
        rintro rfl
        rw [Std.ReflOrd.compare_self] at hgt
        cases hgt
      rw [lookup_cons_ite, lookup_cons_ite, ih]
      by_cases hother : other = first
      · simp [hother, hne.symm]
      · simp [hother]

theorem get?_adjust [DecidableEq κ] (map : SortedMap κ ν) (key : κ) (f : ν → ν) (other : κ) :
    (map.adjust key f).get? other =
      if other = key then (map.get? other).map f else map.get? other := by
  obtain ⟨entries, hascending⟩ := map
  simp only [get?, adjust]
  clear hascending
  induction entries with
  | nil => simp
  | cons entry rest ih =>
    obtain ⟨first, found⟩ := entry
    rw [List.map_cons, lookup_cons_ite, lookup_cons_ite, ih]
    by_cases hother : other = first
    · subst hother
      by_cases heq : other = key <;> simp [heq]
    · simp [hother]

theorem get?_mapWithKey [DecidableEq κ] (map : SortedMap κ ν) (f : κ → ν → μ) (key : κ) :
    (map.mapWithKey f).get? key = (map.get? key).map (f key) := by
  obtain ⟨entries, hascending⟩ := map
  simp only [get?, mapWithKey]
  clear hascending
  induction entries with
  | nil => rfl
  | cons entry rest ih =>
    obtain ⟨first, found⟩ := entry
    rw [List.map_cons, lookup_cons_ite, lookup_cons_ite, ih]
    by_cases heq : key = first
    · subst heq
      simp
    · simp [heq]

theorem get?_filterKeys [DecidableEq κ] (map : SortedMap κ ν) (keep : κ → Bool) (key : κ) :
    (map.filterKeys keep).get? key = if keep key then map.get? key else none := by
  obtain ⟨entries, hascending⟩ := map
  simp only [get?, filterKeys]
  clear hascending
  induction entries with
  | nil => simp
  | cons entry rest ih =>
    obtain ⟨first, found⟩ := entry
    rw [List.filter_cons, lookup_cons_ite]
    by_cases heq : key = first
    · subst heq
      by_cases hkeep : keep key = true
      · rw [if_pos hkeep, lookup_cons_ite, if_pos rfl, if_pos hkeep, if_pos rfl]
      · rw [if_neg hkeep, ih, if_neg hkeep, if_neg hkeep]
    · rw [if_neg heq]
      split
      · rw [lookup_cons_ite, if_neg heq, ih]
      · exact ih

/-- Nothing is left out of a map by a test that all keys pass. -/
theorem filterKeys_eq_self [Std.TransOrd κ] [Std.LawfulEqOrd κ] [DecidableEq κ]
    (map : SortedMap κ ν) {keep : κ → Bool} (hkeep : ∀ key, keep key = true) :
    map.filterKeys keep = map := by
  apply ext_get?
  intro key
  rw [get?_filterKeys, if_pos (hkeep key)]

theorem insert_comm [Std.TransOrd κ] [Std.LawfulEqOrd κ] [DecidableEq κ] (map : SortedMap κ ν)
    {a b : κ} (hne : a ≠ b) (x y : ν) :
    (map.insert a x).insert b y = (map.insert b y).insert a x := by
  apply ext_get?
  intro key
  simp only [get?_insert]
  by_cases hkey : key = a
  · subst hkey
    simp [hne]
  · simp [hkey]

theorem adjust_adjust [Std.TransOrd κ] [Std.LawfulEqOrd κ] [DecidableEq κ] (map : SortedMap κ ν)
    (key : κ) (f g : ν → ν) : (map.adjust key f).adjust key g = map.adjust key (g ∘ f) := by
  apply ext_get?
  intro other
  simp only [get?_adjust]
  by_cases hother : other = key
  · simp [hother]
  · simp [hother]

theorem adjust_comm [Std.TransOrd κ] [Std.LawfulEqOrd κ] [DecidableEq κ] (map : SortedMap κ ν)
    {a b : κ} (hne : a ≠ b) (f g : ν → ν) :
    (map.adjust a f).adjust b g = (map.adjust b g).adjust a f := by
  apply ext_get?
  intro key
  simp only [get?_adjust]
  by_cases hkey : key = a
  · subst hkey
    simp [hne]
  · simp [hkey]

theorem mapWithKey_insert [Std.TransOrd κ] [Std.LawfulEqOrd κ] [DecidableEq κ]
    (map : SortedMap κ ν) (f : κ → ν → μ) (key : κ) (value : ν) :
    (map.insert key value).mapWithKey f = (map.mapWithKey f).insert key (f key value) := by
  apply ext_get?
  intro other
  rw [get?_mapWithKey, get?_insert, get?_insert, get?_mapWithKey]
  split
  next heq => rw [heq, Option.map_some]
  next => rfl

theorem mapWithKey_adjust [Std.TransOrd κ] [Std.LawfulEqOrd κ] [DecidableEq κ]
    (map : SortedMap κ ν) {f : κ → ν → μ} {key : κ} {g : ν → ν} {h : μ → μ}
    (hcommute : ∀ value, f key (g value) = h (f key value)) :
    (map.adjust key g).mapWithKey f = (map.mapWithKey f).adjust key h := by
  apply ext_get?
  intro other
  rw [get?_mapWithKey, get?_adjust, get?_adjust, get?_mapWithKey]
  split
  next heq =>
    rw [heq, Option.map_map, Option.map_map]
    exact Option.map_congr fun value _ => hcommute value
  next => rfl

/-- In a map made from a list, the last entry under a key counts. -/
theorem get?_ofList [Std.TransOrd κ] [Std.LawfulEqOrd κ] [DecidableEq κ]
    (entries : List (κ × ν)) (key : κ) :
    (ofList entries).get? key = entries.reverse.lookup key := by
  rw [ofList, ← List.foldr_reverse]
  induction entries.reverse with
  | nil => rfl
  | cons entry rest ih =>
    obtain ⟨first, value⟩ := entry
    rw [List.foldr_cons, get?_insert, ih, lookup_cons_ite]

/-- A map made from a list in which the value of an entry depends on its key alone. -/
theorem get?_ofList_map [Std.TransOrd κ] [Std.LawfulEqOrd κ] [DecidableEq κ] {ι : Type}
    (items : List ι) (keyOf : ι → κ) (valueOf : κ → ν) (key : κ) :
    (ofList (items.map fun item => (keyOf item, valueOf (keyOf item)))).get? key =
      if key ∈ items.map keyOf then some (valueOf key) else none := by
  rw [get?_ofList, ← List.map_reverse]
  have hmem : key ∈ items.map keyOf ↔ key ∈ items.reverse.map keyOf := by simp
  simp only [hmem]
  induction items.reverse with
  | nil => rfl
  | cons item rest ih =>
    rw [List.map_cons, List.map_cons, lookup_cons_ite, ih]
    by_cases heq : key = keyOf item
    · subst heq
      simp
    · simp only [heq, if_false, List.mem_cons, false_or]

end BootChain.SortedMap
