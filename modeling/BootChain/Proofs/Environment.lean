import BootChain.Environment
import BootChain.Proofs.Text.Decimal
import BootChain.Proofs.Text.Utf8.RoundTrip

namespace BootChain

/-- Words for a flag; the case of letters does not matter. -/
inductive FlagWord : Bool → List Char → Prop
  | one : FlagWord true ['1']
  | zero : FlagWord false ['0']
  | yes {word : List Char} (hword : word.map Char.toLower = "true".toList) : FlagWord true word
  | no {word : List Char} (hword : word.map Char.toLower = "false".toList) : FlagWord false word

namespace Environment

variable {env : Environment} {name text : String} {maximum n : Nat} {b : Bool} {α : Type}

/-- What is found in a variable. It may be unset, but if it is set, it has to be a text that is not
    blank and stands for something. -/
inductive Gives (env : Environment) (name : String) (StandsFor : String → α → Prop) :
    Option α → Prop
  | unset (hunset : env.values.lookup name = none) : Gives env name StandsFor none
  | set {text : String} {value : α} (hset : env.values.lookup name = some (Utf8.encode text))
    (hfilled : Text.isBlankText text = false) (hvalue : StandsFor text value) :
    Gives env name StandsFor (some value)

/-- A text stands for a number from one up to a maximum. -/
def NumberUpTo (maximum : Nat) (text : String) (n : Nat) : Prop :=
  (∃ word, Text.Padded word text ∧ Decimal.Numeral word n) ∧ 1 ≤ n ∧ n ≤ maximum

/-- A text stands for a flag. -/
def IsFlag (text : String) (b : Bool) : Prop := ∃ word, Text.Padded word text ∧ FlagWord b word

theorem Gives.exists_text {StandsFor : String → α → Prop} {found : Option α} {value : α}
    (hgives : Gives env name StandsFor found) (hfound : found = some value) :
    ∃ text, env.values.lookup name = some (Utf8.encode text) ∧
      Text.isBlankText text = false ∧ StandsFor text value := by
  cases hgives with
  | unset => cases hfound
  | set hset hfilled hvalue =>
    cases hfound
    exact ⟨_, hset, hfilled, hvalue⟩

section Values

/-- A number is read from just the texts that stand for one. -/
theorem boundedOf_eq_ok_iff (hmaximum : maximum ≤ Decimal.maxWord) :
    boundedOf name maximum text = .ok n ↔ NumberUpTo maximum text n := by
  have hword : (∃ word, Text.Padded word text ∧ Decimal.Numeral word n) ↔
      Decimal.Numeral (Text.trim text).toList n := by
    constructor
    · rintro ⟨word, hpadded, hnumeral⟩
      rwa [Text.trim_of_padded hpadded hnumeral.not_blank]
    · exact fun hnumeral => ⟨_, Text.padded_trim text, hnumeral⟩
  rw [NumberUpTo, hword, boundedOf]
  constructor
  · intro hread
    split at hread
    next => cases hread
    next m hm =>
      obtain ⟨hnumeral, -⟩ := Decimal.readUpTo_eq_some_iff.1 hm
      split at hread
      · cases hread
      · split at hread
        · cases hread
        · cases hread
          exact ⟨hnumeral, by omega, by omega⟩
  · rintro ⟨hnumeral, hpos, hle⟩
    have hread := Decimal.readUpTo_eq_some_iff.2 ⟨hnumeral, Nat.le_trans hle hmaximum⟩
    simp only [hread]
    rw [if_neg (by omega), if_neg (by omega)]

theorem FlagWord.not_blank {word : List Char} (hflag : FlagWord b word) :
    ∀ c ∈ word, Text.isBlank c = false := by
  have hdigit : ∀ {digit : Char}, Text.isBlank digit = false →
      ∀ c ∈ [digit], Text.isBlank c = false := by
    intro digit hdigit c hmem
    rwa [List.mem_singleton.1 hmem]
  have hletters : ∀ (letters : List Char), letters.any Text.isBlank = false →
      word.map Char.toLower = letters → ∀ c ∈ word, Text.isBlank c = false := by
    rintro _ hvisible rfl c hmem
    rw [← Bool.not_eq_true]
    intro hblank
    have hlower := List.any_eq_false.1 hvisible _ (List.mem_map_of_mem hmem)
    rw [Text.toLower_of_isBlank hblank] at hlower
    exact hlower hblank
  cases hflag with
  | one => exact hdigit rfl
  | zero => exact hdigit rfl
  | yes hword => exact hletters _ (by decide) hword
  | no hword => exact hletters _ (by decide) hword

/-- A flag is read from just the texts that stand for one. -/
theorem flagOf_eq_ok_iff : flagOf name text = .ok b ↔ IsFlag text b := by
  have hword : IsFlag text b ↔ FlagWord b (Text.trim text).toList := by
    constructor
    · rintro ⟨word, hpadded, hflag⟩
      rwa [Text.trim_of_padded hpadded (FlagWord.not_blank hflag)]
    · exact fun hflag => ⟨_, Text.padded_trim text, hflag⟩
  rw [hword, flagOf]
  generalize (Text.trim text).toList = chars
  have hdigit : ∀ {digit : Char}, digit.isDigit = true → chars.map Char.toLower = [digit] →
      chars = [digit] := by
    intro digit hdigit heq
    obtain ⟨c, rest, rfl, rfl, hrest⟩ := List.map_eq_cons_iff.1 heq
    rw [List.map_eq_nil_iff.1 hrest, Text.toLower_of_isDigit hdigit]
  constructor
  · intro hread
    split at hread
    next hyes =>
      cases hread
      exact hyes.elim .yes fun hone => hdigit (by decide) hone ▸ .one
    next =>
      split at hread
      next hno =>
        cases hread
        exact hno.elim .no fun hzero => hdigit (by decide) hzero ▸ .zero
      next => cases hread
  · intro hflag
    cases hflag with
    | one => rfl
    | zero => rfl
    | yes hyes => exact if_pos (.inl hyes)
    | no hno =>
      rw [hno]
      rfl

end Values

section Variables

theorem text?_eq_ok_iff {found : Option String} :
    env.text? name = .ok found ↔ env.values.lookup name = found.map Utf8.encode := by
  unfold text?
  split
  next hunset => cases found <;> simp [hunset]
  next bytes hset =>
    rw [hset]
    split
    next text htext =>
      rw [← Utf8.encode_of_text? htext]
      cases found <;> simp [Utf8.encode_inj]
    next htext =>
      cases found with
      | none => simp
      | some text =>
        refine ⟨nofun, fun heq => ?_⟩
        cases heq
        cases htext.symm.trans (Utf8.text?_encode text)

theorem filled?_eq_ok_iff {found : Option String} :
    env.filled? name = .ok found ↔ Gives env name (fun text value => value = text) found := by
  rw [filled?]
  constructor
  · intro hread
    cases htext : env.text? name with
    | error cause =>
      rw [htext] at hread
      cases hread
    | ok value =>
      have hlookup := text?_eq_ok_iff.1 htext
      rw [htext] at hread
      cases value with
      | none =>
        cases hread
        exact .unset hlookup
      | some text =>
        change (if Text.isBlankText text = true then _ else _) = _ at hread
        split at hread
        · cases hread
        next hfilled =>
          cases hread
          exact .set hlookup (Bool.eq_false_iff.2 hfilled) rfl
  · intro hgives
    cases hgives with
    | unset hunset =>
      have htext : env.text? name = .ok none := text?_eq_ok_iff.2 hunset
      rw [htext]
      rfl
    | @set text value hset hfilled hvalue =>
      have htext : env.text? name = .ok (some text) := text?_eq_ok_iff.2 hset
      rw [htext, hvalue]
      exact if_neg (by simp [hfilled])

/-- What a variable gives is read as what its text stands for. -/
theorem read_eq_ok_iff {read : String → Except SettingError α} {StandsFor : String → α → Prop}
    (hread : ∀ text value, read text = .ok value ↔ StandsFor text value) {found : Option α} :
    (do match ← env.filled? name with
        | some text => return some (← read text)
        | none => return none) = Except.ok found ↔ Gives env name StandsFor found := by
  constructor
  · intro hfound
    cases hfilled : env.filled? name with
    | error cause =>
      rw [hfilled] at hfound
      cases hfound
    | ok text =>
      rw [hfilled] at hfound
      cases filled?_eq_ok_iff.1 hfilled with
      | unset hunset =>
        cases hfound
        exact .unset hunset
      | @set text _ hset hfilled hvalue =>
        subst hvalue
        change (read _ >>= fun value => Except.ok (some value)) = _ at hfound
        cases hvalue : read _ with
        | error cause =>
          rw [hvalue] at hfound
          cases hfound
        | ok value =>
          rw [hvalue] at hfound
          cases hfound
          exact .set hset hfilled ((hread _ _).1 hvalue)
  · intro hgives
    cases hgives with
    | unset hunset =>
      rw [filled?_eq_ok_iff.2 (.unset hunset)]
      rfl
    | @set text value hset hfilled hvalue =>
      rw [filled?_eq_ok_iff.2 (.set hset hfilled rfl)]
      change (read text >>= fun value => Except.ok (some value)) = _
      rw [(hread _ _).2 hvalue]
      rfl

theorem bounded?_eq_ok_iff (hmaximum : maximum ≤ Decimal.maxWord) {found : Option Nat} :
    env.bounded? name maximum = .ok found ↔ Gives env name (NumberUpTo maximum) found :=
  read_eq_ok_iff fun _ _ => boundedOf_eq_ok_iff hmaximum

theorem flag?_eq_ok_iff {found : Option Bool} :
    env.flag? name = .ok found ↔ Gives env name IsFlag found :=
  read_eq_ok_iff fun _ _ => flagOf_eq_ok_iff

theorem path?_eq_ok_iff {found : Option Path} :
    env.path? name = .ok found ↔ Gives env name (fun text path => path = .ofText text) found := by
  have hpath : env.path? name = (do
      match ← env.filled? name with
      | some text => return some (← (.ok (.ofText text) : Except SettingError Path))
      | none => return none) := by
    rw [path?]
    cases env.filled? name with
    | error cause => rfl
    | ok text => cases text <;> rfl
  rw [hpath]
  exact read_eq_ok_iff fun text path => by simp [eq_comm]

end Variables

end Environment

end BootChain
