namespace BootChain

/-- A finite map as its entries in ascending order of their keys. -/
structure SortedMap (κ ν : Type) [Ord κ] where
  entries : List (κ × ν)
  ascending : entries.Pairwise fun a b => compare a.1 b.1 = .lt

namespace SortedMap

variable {κ ν μ : Type} [Ord κ]

def empty : SortedMap κ ν := ⟨[], .nil⟩

instance : Inhabited (SortedMap κ ν) := ⟨empty⟩

/-- Puts an entry at its place in an ascending list, over the one with its key. -/
def insertEntry (key : κ) (value : ν) : List (κ × ν) → List (κ × ν)
  | [] => [(key, value)]
  | entry :: rest =>
    match compare key entry.1 with
    | .lt => (key, value) :: entry :: rest
    | .eq => (key, value) :: rest
    | .gt => entry :: insertEntry key value rest

theorem mem_insertEntry {key : κ} {value : ν} {entries : List (κ × ν)} {entry : κ × ν}
    (h : entry ∈ insertEntry key value entries) : entry = (key, value) ∨ entry ∈ entries := by
  induction entries with
  | nil => simpa [insertEntry] using h
  | cons head rest ih =>
    simp only [insertEntry] at h
    split at h
    · simpa using h
    · rcases List.mem_cons.1 h with h | h
      · exact .inl h
      · exact .inr (List.mem_cons_of_mem _ h)
    · rcases List.mem_cons.1 h with h | h
      · exact .inr (h ▸ List.mem_cons_self)
      · exact (ih h).imp_right (List.mem_cons_of_mem _)

theorem ascending_insertEntry [Std.TransOrd κ] [Std.LawfulEqOrd κ] {key : κ} {value : ν}
    {entries : List (κ × ν)} (h : entries.Pairwise fun a b => compare a.1 b.1 = .lt) :
    (insertEntry key value entries).Pairwise fun a b => compare a.1 b.1 = .lt := by
  induction entries with
  | nil => simp [insertEntry]
  | cons head rest ih =>
    obtain ⟨hhead, hrest⟩ := List.pairwise_cons.1 h
    simp only [insertEntry]
    split
    next hlt =>
      refine List.pairwise_cons.2 ⟨fun entry hentry => ?_, h⟩
      rcases List.mem_cons.1 hentry with rfl | hentry
      · exact hlt
      · exact Std.TransCmp.lt_trans hlt (hhead entry hentry)
    next heq =>
      rw [Std.LawfulEqOrd.eq_of_compare heq]
      exact List.pairwise_cons.2 ⟨hhead, hrest⟩
    next hgt =>
      refine List.pairwise_cons.2 ⟨fun entry hentry => ?_, ih hrest⟩
      rcases mem_insertEntry hentry with rfl | hentry
      · exact Std.OrientedCmp.lt_of_gt hgt
      · exact hhead entry hentry

/-- The map with one more entry, over the one with its key. -/
def insert [Std.TransOrd κ] [Std.LawfulEqOrd κ] (map : SortedMap κ ν) (key : κ) (value : ν) :
    SortedMap κ ν :=
  ⟨insertEntry key value map.entries, ascending_insertEntry map.ascending⟩

/-- The map of a list of entries, of which later ones win. -/
def ofList [Std.TransOrd κ] [Std.LawfulEqOrd κ] (entries : List (κ × ν)) : SortedMap κ ν :=
  entries.foldl (fun map entry => map.insert entry.1 entry.2) empty

def get? [DecidableEq κ] (map : SortedMap κ ν) (key : κ) : Option ν :=
  map.entries.lookup key

def keys (map : SortedMap κ ν) : List κ := map.entries.map Prod.fst

def values (map : SortedMap κ ν) : List ν := map.entries.map Prod.snd

def size (map : SortedMap κ ν) : Nat := map.entries.length

/-- The entries whose keys pass a test. -/
def filterKeys (map : SortedMap κ ν) (keep : κ → Bool) : SortedMap κ ν :=
  ⟨map.entries.filter fun entry => keep entry.1, map.ascending.filter _⟩

/-- The map with the value at a key replaced by what `f` makes of it, if the key is there. -/
def adjust [DecidableEq κ] (map : SortedMap κ ν) (key : κ) (f : ν → ν) : SortedMap κ ν :=
  ⟨map.entries.map fun entry => (entry.1, if entry.1 = key then f entry.2 else entry.2), by
    rw [List.pairwise_map]
    exact map.ascending⟩

/-- The map with every value replaced by what `f` makes of its key and itself. -/
def mapWithKey (map : SortedMap κ ν) (f : κ → ν → μ) : SortedMap κ μ :=
  ⟨map.entries.map fun entry => (entry.1, f entry.1 entry.2), by
    rw [List.pairwise_map]
    exact map.ascending⟩

end SortedMap

end BootChain
