import BootChain.Proofs.Json.Compact
import Mathlib.Data.List.Basic

namespace BootChain.Text

/-- The UTF-16 code units of a character: its scalar, or a high and a low surrogate. -/
def units16 (c : Char) : List Nat :=
  if c.toNat < 0x10000 then [c.toNat]
  else [0xD800 + (c.toNat - 0x10000) / 0x400, 0xDC00 + (c.toNat - 0x10000) % 0x400]

/-- The UTF-16 code units of a text. -/
def codeUnits (text : String) : List Nat := text.toList.flatMap units16

variable {c d : Char} {x y : List Nat}

/-- No character of its own is a surrogate, so the first unit tells how many belong together. -/
theorem units16_append_inj (heq : units16 c ++ x = units16 d ++ y) : c = d ∧ x = y := by
  have hc : c.toNat < 0xD800 ∨ 0xDFFF < c.toNat ∧ c.toNat < 0x110000 := c.valid
  have hd : d.toNat < 0xD800 ∨ 0xDFFF < d.toNat ∧ d.toNat < 0x110000 := d.valid
  unfold units16 at heq
  split at heq <;> split at heq <;>
    simp only [List.cons_append, List.nil_append, List.cons.injEq] at heq
  · exact ⟨Char.toNat_inj.1 heq.1, heq.2⟩
  · omega
  · omega
  · exact ⟨Char.toNat_inj.1 (by omega), heq.2.2⟩

theorem units16_ne_nil (c : Char) : units16 c ≠ [] := by
  unfold units16
  split <;> exact List.cons_ne_nil _ _

theorem flatMap_units16_inj {chars others : List Char}
    (heq : chars.flatMap units16 = others.flatMap units16) : chars = others := by
  induction chars generalizing others with
  | nil =>
    cases others with
    | nil => rfl
    | cons d others => simp [units16_ne_nil] at heq
  | cons c chars ih =>
    cases others with
    | nil => simp [units16_ne_nil] at heq
    | cons d others =>
      rw [List.flatMap_cons, List.flatMap_cons] at heq
      obtain ⟨rfl, hrest⟩ := units16_append_inj heq
      rw [ih hrest]

/-- Texts of the same code units are one text. -/
theorem codeUnits_inj {a b : String} (heq : codeUnits a = codeUnits b) : a = b :=
  String.toList_inj.1 (flatMap_units16_inj heq)

/-- Within the basic plane the code units of a text are its scalars. -/
theorem codeUnits_eq_map {text : String} (hbasic : ∀ c ∈ text.toList, c.toNat < 0x10000) :
    codeUnits text = text.toList.map Char.toNat := by
  rw [codeUnits, List.map_eq_flatMap]
  exact List.flatMap_congr fun c hc => if_pos (hbasic c hc)

end BootChain.Text

namespace BootChain.Json

/-- The order of names that RFC 8785 asks for: by their UTF-16 code units. -/
def UnitsBefore (a b : String) : Prop := Text.codeUnits a < Text.codeUnits b

instance : DecidableRel UnitsBefore := fun a b =>
  inferInstanceAs (Decidable (Text.codeUnits a < Text.codeUnits b))

def unitsLE (a b : String) : Bool := ¬ UnitsBefore b a

/-- The order of names in which canonical text has them: by their written forms. -/
def WrittenBefore (a b : String) : Prop := String.ofList (quoted a) < String.ofList (quoted b)

instance : DecidableRel WrittenBefore := fun a b =>
  inferInstanceAs (Decidable (String.ofList (quoted a) < String.ofList (quoted b)))

/-- The members of every object stand in the order that RFC 8785 asks for. -/
def Ascending (document : Json) : Prop :=
  EachObject (fun names => names.Pairwise UnitsBefore) document

/-- Quotes and escapes do not put any two of the names the other way round. -/
def OrderedAlike (names : List String) : Prop :=
  ∀ a ∈ names, ∀ b ∈ names, WrittenBefore a b → UnitsBefore a b

instance (names : List String) : Decidable (OrderedAlike names) :=
  inferInstanceAs (Decidable (∀ a ∈ names, ∀ b ∈ names, WrittenBefore a b → UnitsBefore a b))

section

variable {a b : String} {names : List String}

theorem unitsLE_iff : unitsLE a b = true ↔ ¬ UnitsBefore b a := decide_eq_true_iff

theorem unitsLE_trans (a b c : String) (hab : unitsLE a b = true) (hbc : unitsLE b c = true) :
    unitsLE a c = true := by
  rw [unitsLE_iff] at *
  intro hca
  exact List.le_trans hab hbc hca

theorem unitsLE_total (a b : String) : (unitsLE a b || unitsLE b a) = true := by
  rw [Bool.or_eq_true, unitsLE_iff, unitsLE_iff, ← not_and_or]
  exact fun hboth => List.lt_asymm hboth.1 hboth.2

theorem unitsBefore_of_unitsLE (hle : unitsLE a b = true) (hne : a ≠ b) : UnitsBefore a b := by
  by_contra hnot
  exact hne (Text.codeUnits_inj (List.le_antisymm (unitsLE_iff.1 hle) hnot))

/-- Among different names it is all the same whether the order lets equal ones stand together. -/
theorem pairwise_unitsLE_iff (hnodup : names.Nodup) :
    names.Pairwise (fun a b => unitsLE a b = true) ↔ names.Pairwise UnitsBefore := by
  constructor
  · intro hpairs
    exact (hpairs.and hnodup).imp fun hboth => unitsBefore_of_unitsLE hboth.1 hboth.2
  · exact List.Pairwise.imp fun hlt => unitsLE_iff.2 (List.lt_asymm hlt)

theorem writtenLE_trans (a b c : String) (hab : writtenLE a b = true)
    (hbc : writtenLE b c = true) : writtenLE a c = true :=
  decide_eq_true (String.le_trans (of_decide_eq_true hab) (of_decide_eq_true hbc))

theorem writtenLE_total (a b : String) : (writtenLE a b || writtenLE b a) = true := by
  rw [Bool.or_eq_true]
  exact (String.le_total _ _).imp decide_eq_true decide_eq_true

theorem writtenBefore_of_writtenLE (hle : writtenLE a b = true) (hne : a ≠ b) :
    WrittenBefore a b :=
  String.not_le.1 fun hge =>
    hne (quoted_inj (String.ofList_inj.1 (String.le_antisymm (of_decide_eq_true hle) hge)))

theorem pairwise_writtenBefore (hnodup : names.Nodup) :
    (names.mergeSort writtenLE).Pairwise WrittenBefore := by
  have hpairs := List.pairwise_mergeSort writtenLE_trans writtenLE_total names
  have hdistinct : (names.mergeSort writtenLE).Nodup :=
    (List.mergeSort_perm names writtenLE).nodup_iff.2 hnodup
  exact (hpairs.and hdistinct).imp fun hboth => writtenBefore_of_writtenLE hboth.1 hboth.2

/-- Names in the order of their written forms ascend just if the two orders agree on them. -/
theorem pairwise_mergeSort_iff (hnodup : names.Nodup) :
    (names.mergeSort writtenLE).Pairwise UnitsBefore ↔ OrderedAlike names := by
  have hwritten := pairwise_writtenBefore hnodup
  constructor
  · intro hunits a ha b hb
    have hforth : (names.mergeSort writtenLE).Pairwise fun a b =>
        WrittenBefore a b → UnitsBefore a b := by
      refine hunits.imp ?_
      intro a b hlt _
      exact hlt
    -- two names that stand the other way round are not written in this order
    have hback : (names.mergeSort writtenLE).Pairwise (flip fun a b =>
        WrittenBefore a b → UnitsBefore a b) :=
      hwritten.imp fun hlt hgt => absurd hgt (String.lt_asymm hlt)
    exact hforth.forall_of_forall_of_flip (fun _ _ hlt => absurd hlt (String.lt_irrefl _)) hback
      (List.mem_mergeSort.2 ha) (List.mem_mergeSort.2 hb)
  · intro halike
    exact hwritten.imp_of_mem fun ha hb hlt =>
      halike _ (List.mem_mergeSort.1 ha) _ (List.mem_mergeSort.1 hb) hlt

end

/-- A text whose characters stand for themselves in quotes and as code units, and come after the
    closing quote in either order. -/
def Level (text : String) : Prop :=
  ∀ c ∈ text.toList, 0x23 ≤ c.toNat ∧ c.toNat < 0x10000 ∧ c ≠ '\\'

section

variable {a b : String} {names : List String}

theorem escapeChar_of_level {c : Char} (hquote : 0x23 ≤ c.toNat) (hbackslash : c ≠ '\\') :
    escapeChar c = [c] := by
  have hne (d : Char) (hd : d.toNat < 0x23) : c ≠ d := by
    rintro rfl
    omega
  unfold escapeChar
  rw [if_neg (hne _ (by decide)), if_neg hbackslash, if_neg (hne _ (by decide)),
    if_neg (hne _ (by decide)), if_neg (hne _ (by decide)), if_neg (hne _ (by decide)),
    if_neg (hne _ (by decide)), if_neg (by omega)]

theorem Level.quoted_eq (hlevel : Level a) : quoted a = '"' :: (a.toList ++ ['"']) := by
  have hplain : a.toList.flatMap escapeChar = a.toList.flatMap fun c => [c] :=
    List.flatMap_congr fun c hc => escapeChar_of_level (hlevel c hc).1 (hlevel c hc).2.2
  rw [quoted, hplain, ← List.map_eq_flatMap, List.map_id']

/-- A closing quote that comes before all characters of two texts does not change their order. -/
theorem map_toNat_lt_of_append_quote_lt {chars others : List Char}
    (hchars : ∀ c ∈ chars, 0x23 ≤ c.toNat) (hlt : chars ++ ['"'] < others ++ ['"']) :
    chars.map Char.toNat < others.map Char.toNat := by
  induction chars generalizing others with
  | nil =>
    cases others with
    | nil => exact absurd hlt (List.lt_irrefl _)
    | cons d others => exact List.nil_lt_cons _ _
  | cons c chars ih =>
    obtain ⟨hc, hrest⟩ := List.forall_mem_cons.1 hchars
    cases others with
    | nil =>
      rcases List.cons_lt_cons_iff.1 hlt with hfirst | ⟨rfl, -⟩
      · have hfirst : c.toNat < 0x22 := hfirst
        omega
      · exact absurd hc (by decide)
    | cons d others =>
      rw [List.map_cons, List.map_cons, List.cons_lt_cons_iff]
      rcases List.cons_lt_cons_iff.1 hlt with hfirst | ⟨rfl, hthen⟩
      · exact .inl hfirst
      · exact .inr ⟨rfl, ih hrest hthen⟩

theorem Level.codeUnits_eq (hlevel : Level a) : Text.codeUnits a = a.toList.map Char.toNat :=
  Text.codeUnits_eq_map fun c hc => (hlevel c hc).2.1

/-- On level names the two orders agree. -/
theorem orderedAlike_of_level (hlevel : ∀ name ∈ names, Level name) : OrderedAlike names := by
  intro a ha b hb hlt
  have hchars : '"' :: (a.toList ++ ['"']) < '"' :: (b.toList ++ ['"']) := by
    simpa only [WrittenBefore, String.lt_iff, String.toList_ofList, (hlevel a ha).quoted_eq,
      (hlevel b hb).quoted_eq] using hlt
  rw [UnitsBefore, (hlevel a ha).codeUnits_eq, (hlevel b hb).codeUnits_eq]
  rcases List.cons_lt_cons_iff.1 hchars with hfirst | ⟨-, hrest⟩
  · exact absurd hfirst (by decide)
  · exact map_toNat_lt_of_append_quote_lt (fun c hc => (hlevel a ha c hc).1) hrest

end

end BootChain.Json
