namespace BootChain

/-- The number of a compiler in its chain of self-builds. The first is built by an outside
    compiler, and each later one by the one before it. -/
structure Generation where
  number : Nat
  pos : 0 < number
  lt_size : number < 4294967296
  deriving DecidableEq, Repr

namespace Generation

/-- The generation with a given number, unless the number is zero or needs more than 32 bits. -/
def ofNat? (n : Nat) : Option Generation :=
  if h : 0 < n ∧ n < 4294967296 then some ⟨n, h.1, h.2⟩ else none

def first : Generation := ⟨1, by decide, by decide⟩

/-- The generation built by this one; the last number has none after it. -/
def next? (g : Generation) : Option Generation :=
  ofNat? (g.number + 1)

/-- True when `upper` is the generation that `lower` builds. -/
def precedes (lower upper : Generation) : Bool :=
  lower.next? = some upper

def label (g : Generation) : String :=
  "stage" ++ toString g.number

/-- Generations stand by their numbers. -/
instance : Ord Generation := ⟨fun a b => compare a.number b.number⟩

@[ext]
theorem ext {a b : Generation} (h : a.number = b.number) : a = b := by
  cases a; cases b; cases h; rfl

theorem compare_eq (a b : Generation) : compare a b = compare a.number b.number := rfl

instance : Std.TransOrd Generation where
  eq_swap := Std.OrientedOrd.eq_swap (α := Nat)
  isLE_trans := Std.TransOrd.isLE_trans (α := Nat)

instance : Std.LawfulEqOrd Generation where
  compare_self := Std.ReflOrd.compare_self (α := Nat)
  eq_of_compare h := ext (Std.LawfulEqOrd.eq_of_compare h)

theorem ofNat?_number (g : Generation) : ofNat? g.number = some g :=
  dif_pos ⟨g.pos, g.lt_size⟩

theorem number_of_ofNat? {n : Nat} {g : Generation} (h : ofNat? n = some g) : g.number = n := by
  unfold ofNat? at h
  split at h
  · cases h; rfl
  · cases h

theorem precedes_iff {lower upper : Generation} :
    lower.precedes upper = true ↔ upper.number = lower.number + 1 := by
  rw [precedes, decide_eq_true_iff]
  constructor
  · exact number_of_ofNat?
  · intro h
    rw [next?, ← h, ofNat?_number]

end Generation

end BootChain
