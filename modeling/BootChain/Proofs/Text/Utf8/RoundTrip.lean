import BootChain.Text.Utf8
import Mathlib.Data.List.Induction
import Mathlib.Tactic.SplitIfs

namespace BootChain.Utf8

/-- The octets of a sequence of more than one are all at least 128. -/
theorem le_toNat_of_mem_utf8EncodeChar {c : Char} (hlong : 127 < c.toNat) :
    ∀ b ∈ String.utf8EncodeChar c, 128 ≤ b.toNat := by
  have hvalue : c.val.toNat = c.toNat := rfl
  unfold String.utf8EncodeChar
  simp only [hvalue, if_neg (Nat.not_le.2 hlong)]
  split
  · simp only [List.forall_mem_cons, List.not_mem_nil, false_imp_iff, implies_true, and_true,
      UInt8.toNat_ofNat']
    omega
  · split
    · simp only [List.forall_mem_cons, List.not_mem_nil, false_imp_iff, implies_true, and_true,
        UInt8.toNat_ofNat']
      omega
    · simp only [List.forall_mem_cons, List.not_mem_nil, false_imp_iff, implies_true, and_true,
        UInt8.toNat_ofNat']
      omega

/-- An octet below 128 occurs in the sequence of its own character only. -/
theorem toNat_eq_of_mem_utf8EncodeChar {c : Char} {b : UInt8}
    (hmem : b ∈ String.utf8EncodeChar c) (hascii : b.toNat < 128) : c.toNat = b.toNat := by
  have hvalue : c.val.toNat = c.toNat := rfl
  by_cases hshort : c.toNat ≤ 127
  · simp only [String.utf8EncodeChar, hvalue, if_pos hshort, List.mem_singleton] at hmem
    rw [hmem, UInt8.toNat_ofNat']
    omega
  · have := le_toNat_of_mem_utf8EncodeChar (Nat.not_le.1 hshort) b hmem
    omega

theorem encode_append (first second : String) :
    encode (first ++ second) = encode first ++ encode second := by
  rw [encode, String.toList_append, List.flatMap_append]
  rfl

/-- An octet below 128 occurs in a text only where its character does. -/
theorem exists_char_of_mem_encode {text : String} {b : UInt8} (hmem : b ∈ encode text)
    (hascii : b.toNat < 128) : ∃ c ∈ text.toList, c.toNat = b.toNat := by
  obtain ⟨c, hc, hb⟩ := List.mem_flatMap.1 hmem
  exact ⟨c, hc, toNat_eq_of_mem_utf8EncodeChar hb hascii⟩

theorem notMem_encode {text : String} {b : UInt8} {c : Char} (hascii : b.toNat < 128)
    (hsame : b.toNat = c.toNat) (habsent : c ∉ text.toList) : b ∉ encode text := by
  intro hmem
  obtain ⟨d, hd, hnat⟩ := exists_char_of_mem_encode hmem hascii
  have heq : d = c := Char.toNat_inj.1 (hnat.trans hsame)
  exact habsent (heq ▸ hd)

/-- An octet that goes on with a sequence. -/
def IsTail (b : UInt8) : Prop := 128 ≤ b.toNat ∧ b.toNat ≤ 191

/-- The octets that spell the character with some number. After some first octets the range of the
    second is narrower, which excludes overlong forms, surrogates and numbers that are too great. -/
inductive Spells : Bytes → Nat → Prop
  | one {n : Nat} {p : UInt8} (hp : p.toNat < 128) (hn : n = p.toNat) : Spells [p] n
  | two {n : Nat} {p q : UInt8} (hp : 194 ≤ p.toNat ∧ p.toNat < 224) (hq : IsTail q)
    (hn : n = (p.toNat - 192) * 64 + (q.toNat - 128)) : Spells [p, q] n
  | three {n : Nat} {p q r : UInt8} (hp : 224 ≤ p.toNat ∧ p.toNat < 240) (hq : IsTail q)
    (hlow : p.toNat = 224 → 160 ≤ q.toNat) (hhigh : p.toNat = 237 → q.toNat ≤ 159)
    (hr : IsTail r)
    (hn : n = ((p.toNat - 224) * 64 + (q.toNat - 128)) * 64 + (r.toNat - 128)) :
    Spells [p, q, r] n
  | four {n : Nat} {p q r s : UInt8} (hp : 240 ≤ p.toNat ∧ p.toNat < 245) (hq : IsTail q)
    (hlow : p.toNat = 240 → 144 ≤ q.toNat) (hhigh : p.toNat = 244 → q.toNat ≤ 143)
    (hr : IsTail r) (hs : IsTail s)
    (hn : n = (((p.toNat - 240) * 64 + (q.toNat - 128)) * 64 + (r.toNat - 128)) * 64 +
      (s.toNat - 128)) :
    Spells [p, q, r, s] n

theorem toNat_ofNat_octet {n : Nat} (hn : n < 256) : (UInt8.ofNat n).toNat = n := by
  rw [UInt8.toNat_ofNat']
  exact Nat.mod_eq_of_lt hn

theorem spells_utf8EncodeChar (c : Char) : Spells (String.utf8EncodeChar c) c.toNat := by
  have hvalid : c.toNat.isValidChar := c.valid
  have hvalue : c.val.toNat = c.toNat := rfl
  generalize c.toNat = n at hvalid hvalue
  simp only [String.utf8EncodeChar, hvalue]
  split_ifs with hone htwo hthree
  · have hp := toNat_ofNat_octet (n := n) (by omega)
    exact .one (by omega) hp.symm
  · have hp := toNat_ofNat_octet (n := n / 64 % 32 + 192) (by omega)
    have hq := toNat_ofNat_octet (n := n % 64 + 128) (by omega)
    exact .two (by omega) ⟨by omega, by omega⟩ (by omega)
  · have hp := toNat_ofNat_octet (n := n / 4096 % 16 + 224) (by omega)
    have hq := toNat_ofNat_octet (n := n / 64 % 64 + 128) (by omega)
    have hr := toNat_ofNat_octet (n := n % 64 + 128) (by omega)
    exact .three (by omega) ⟨by omega, by omega⟩ (by omega) (by omega) ⟨by omega, by omega⟩
      (by omega)
  · have hp := toNat_ofNat_octet (n := n / 262144 % 8 + 240) (by omega)
    have hq := toNat_ofNat_octet (n := n / 4096 % 64 + 128) (by omega)
    have hr := toNat_ofNat_octet (n := n / 64 % 64 + 128) (by omega)
    have hs := toNat_ofNat_octet (n := n % 64 + 128) (by omega)
    exact .four (by omega) ⟨by omega, by omega⟩ (by omega) (by omega) ⟨by omega, by omega⟩
      ⟨by omega, by omega⟩ (by omega)

theorem val_ofNat {n : Nat} (hvalid : n.isValidChar) : (Char.ofNat n).val.toNat = n := by
  rw [Char.ofNat, dif_pos hvalid]
  rfl

/-- A character is spelled in one way. -/
theorem Spells.utf8EncodeChar_eq {bytes : Bytes} {n : Nat} (hspells : Spells bytes n) :
    String.utf8EncodeChar (Char.ofNat n) = bytes := by
  have hvalid : n.isValidChar := by
    cases hspells <;> simp only [IsTail, Nat.isValidChar] at * <;> omega
  have hoctet : ∀ {m : Nat} {b : UInt8}, m = b.toNat → UInt8.ofNat m = b := by
    rintro m b rfl
    exact UInt8.ofNat_toNat
  simp only [String.utf8EncodeChar, val_ofNat hvalid]
  cases hspells with
  | one hp hn => rw [if_pos (by omega), hoctet hn]
  | two hp hq hn =>
    obtain ⟨hq, hq'⟩ := hq
    rw [if_neg (by omega), if_pos (by omega)]
    simp only [List.cons.injEq, and_true]
    exact ⟨hoctet (by omega), hoctet (by omega)⟩
  | three hp hq hlow hhigh hr hn =>
    obtain ⟨hq, hq'⟩ := hq
    obtain ⟨hr, hr'⟩ := hr
    rw [if_neg (by omega), if_neg (by omega), if_pos (by omega)]
    simp only [List.cons.injEq, and_true]
    exact ⟨hoctet (by omega), hoctet (by omega), hoctet (by omega)⟩
  | four hp hq hlow hhigh hr hs hn =>
    obtain ⟨hq, hq'⟩ := hq
    obtain ⟨hr, hr'⟩ := hr
    obtain ⟨hs, hs'⟩ := hs
    rw [if_neg (by omega), if_neg (by omega), if_neg (by omega)]
    simp only [List.cons.injEq, and_true]
    exact ⟨hoctet (by omega), hoctet (by omega), hoctet (by omega), hoctet (by omega)⟩

section

variable {b : UInt8} {c : Char} {s : Sequence} {bytes : Bytes}

theorem start_eq (b : UInt8) : start b =
    if b.toNat < 128 then .scalar (Char.ofNat b.toNat)
    else if b.toNat < 194 then .illFormed
    else if b.toNat < 224 then .more ⟨b.toNat - 192, 1, 128, 191⟩
    else if b.toNat < 240 then
      .more ⟨b.toNat - 224, 2, if b.toNat = 224 then 160 else 128,
        if b.toNat = 237 then 159 else 191⟩
    else if b.toNat < 245 then
      .more ⟨b.toNat - 240, 3, if b.toNat = 240 then 144 else 128,
        if b.toNat = 244 then 143 else 191⟩
    else .illFormed := by
  simp only [start, UInt8.lt_iff_toNat_lt, ← UInt8.toNat_inj]
  rfl

theorem advance_eq (s : Sequence) (b : UInt8) : s.advance b =
    if s.low.toNat ≤ b.toNat ∧ b.toNat ≤ s.high.toNat then
      if s.wanted ≤ 1 then .scalar (Char.ofNat (s.bits * 64 + (b.toNat - 128)))
      else .more ⟨s.bits * 64 + (b.toNat - 128), s.wanted - 1, 128, 191⟩
    else .illFormed := by
  simp only [Sequence.advance, UInt8.le_iff_toNat_le]

/-- An octet in the range of a sequence that wants one more ends it with a character. -/
theorem advance_last (bits : Nat) (low high : UInt8) (hlow : low.toNat ≤ b.toNat)
    (hhigh : b.toNat ≤ high.toNat) : Sequence.advance ⟨bits, 1, low, high⟩ b =
      .scalar (Char.ofNat (bits * 64 + (b.toNat - 128))) := by
  rw [advance_eq, if_pos ⟨hlow, hhigh⟩, if_pos (Nat.le_refl 1)]

/-- An octet in the range of a sequence that wants more than one is taken in. -/
theorem advance_inner (bits wanted : Nat) (low high : UInt8) (hlow : low.toNat ≤ b.toNat)
    (hhigh : b.toNat ≤ high.toNat) : Sequence.advance ⟨bits, wanted + 2, low, high⟩ b =
      .more ⟨bits * 64 + (b.toNat - 128), wanted + 1, 128, 191⟩ := by
  have hwanted : ¬ wanted + 2 ≤ 1 := by omega
  rw [advance_eq, if_pos ⟨hlow, hhigh⟩, if_neg hwanted]
  rfl

/-- The octets that spell a character, fed one after the other, yield the character. -/
theorem Spells.foldl_feed {n : Nat} (hspells : Spells bytes n) (read : List (Option Char)) :
    bytes.foldl Decoder.feed ⟨read, none⟩ = ⟨some (Char.ofNat n) :: read, none⟩ := by
  cases hspells with
  | @one _ p hp hn =>
    have hstart : start p = .scalar (Char.ofNat n) := by
      rw [start_eq, if_pos hp, hn]
    simp [Decoder.feed, Decoder.begin, hstart]
  | @two _ p q hp hq hn =>
    have hstart : start p = .more ⟨p.toNat - 192, 1, 128, 191⟩ := by
      rw [start_eq, if_neg (by omega), if_neg (by omega), if_pos hp.2]
    have hlast := advance_last (p.toNat - 192) 128 191 hq.1 hq.2
    simp [Decoder.feed, Decoder.begin, hstart, hlast, hn]
  | @three _ p q r hp hq hlow hhigh hr hn =>
    obtain ⟨low, high, hstart, hrange⟩ : ∃ low high, start p = .more ⟨p.toNat - 224, 2, low, high⟩ ∧
        low.toNat ≤ q.toNat ∧ q.toNat ≤ high.toNat := by
      refine ⟨_, _, by
        rw [start_eq, if_neg (by omega), if_neg (by omega), if_neg (by omega), if_pos hp.2], ?_⟩
      obtain ⟨hq, hq'⟩ := hq
      constructor <;> split <;> simp <;> omega
    have hinner := advance_inner (p.toNat - 224) 0 low high hrange.1 hrange.2
    have hlast := advance_last ((p.toNat - 224) * 64 + (q.toNat - 128)) 128 191 hr.1 hr.2
    simp [Decoder.feed, Decoder.begin, hstart, hinner, hlast, hn]
  | @four _ p q r s hp hq hlow hhigh hr hs hn =>
    obtain ⟨low, high, hstart, hrange⟩ : ∃ low high, start p = .more ⟨p.toNat - 240, 3, low, high⟩ ∧
        low.toNat ≤ q.toNat ∧ q.toNat ≤ high.toNat := by
      refine ⟨_, _, by
        rw [start_eq, if_neg (by omega), if_neg (by omega), if_neg (by omega), if_neg (by omega),
          if_pos hp.2], ?_⟩
      obtain ⟨hq, hq'⟩ := hq
      constructor <;> split <;> simp <;> omega
    have hinner := advance_inner (p.toNat - 240) 1 low high hrange.1 hrange.2
    have hinner' := advance_inner ((p.toNat - 240) * 64 + (q.toNat - 128)) 0 128 191 hr.1 hr.2
    have hlast := advance_last
      (((p.toNat - 240) * 64 + (q.toNat - 128)) * 64 + (r.toNat - 128)) 128 191 hs.1 hs.2
    simp [Decoder.feed, Decoder.begin, hstart, hinner, hinner', hlast, hn]

/-- The octets that a sequence under way has taken in: the first ones of a character. -/
inductive Takes : Sequence → Bytes → Prop
  | oneOfTwo {p : UInt8} (hp : 194 ≤ p.toNat ∧ p.toNat < 224) :
    Takes ⟨p.toNat - 192, 1, 128, 191⟩ [p]
  | oneOfThree {p : UInt8} (hp : 224 ≤ p.toNat ∧ p.toNat < 240) :
    Takes ⟨p.toNat - 224, 2, if p.toNat = 224 then 160 else 128,
      if p.toNat = 237 then 159 else 191⟩ [p]
  | twoOfThree {p q : UInt8} (hp : 224 ≤ p.toNat ∧ p.toNat < 240) (hq : IsTail q)
    (hlow : p.toNat = 224 → 160 ≤ q.toNat) (hhigh : p.toNat = 237 → q.toNat ≤ 159) :
    Takes ⟨(p.toNat - 224) * 64 + (q.toNat - 128), 1, 128, 191⟩ [p, q]
  | oneOfFour {p : UInt8} (hp : 240 ≤ p.toNat ∧ p.toNat < 245) :
    Takes ⟨p.toNat - 240, 3, if p.toNat = 240 then 144 else 128,
      if p.toNat = 244 then 143 else 191⟩ [p]
  | twoOfFour {p q : UInt8} (hp : 240 ≤ p.toNat ∧ p.toNat < 245) (hq : IsTail q)
    (hlow : p.toNat = 240 → 144 ≤ q.toNat) (hhigh : p.toNat = 244 → q.toNat ≤ 143) :
    Takes ⟨(p.toNat - 240) * 64 + (q.toNat - 128), 2, 128, 191⟩ [p, q]
  | threeOfFour {p q r : UInt8} (hp : 240 ≤ p.toNat ∧ p.toNat < 245) (hq : IsTail q)
    (hlow : p.toNat = 240 → 144 ≤ q.toNat) (hhigh : p.toNat = 244 → q.toNat ≤ 143)
    (hr : IsTail r) :
    Takes ⟨((p.toNat - 240) * 64 + (q.toNat - 128)) * 64 + (r.toNat - 128), 1, 128, 191⟩ [p, q, r]

theorem takes_of_start (hstart : start b = .more s) : Takes s [b] := by
  rw [start_eq] at hstart
  split at hstart
  next => cases hstart
  next =>
    split at hstart
    next => cases hstart
    next =>
      split at hstart
      next =>
        obtain rfl := Progress.more.inj hstart
        exact .oneOfTwo (by omega)
      next =>
        split at hstart
        next =>
          obtain rfl := Progress.more.inj hstart
          exact .oneOfThree (by omega)
        next =>
          split at hstart
          next =>
            obtain rfl := Progress.more.inj hstart
            exact .oneOfFour (by omega)
          next => cases hstart

theorem spells_of_start (hstart : start b = .scalar c) : ∃ n, Spells [b] n ∧ c = Char.ofNat n := by
  rw [start_eq] at hstart
  split_ifs at hstart with hone
  exact ⟨_, .one hone rfl, (Progress.scalar.inj hstart).symm⟩

/-- What an octet that a sequence takes in, or ends with, has to be. -/
theorem advance_cases (hill : s.advance b ≠ .illFormed) :
    (s.low.toNat ≤ b.toNat ∧ b.toNat ≤ s.high.toNat) ∧ s.advance b =
      if s.wanted ≤ 1 then .scalar (Char.ofNat (s.bits * 64 + (b.toNat - 128)))
      else .more ⟨s.bits * 64 + (b.toNat - 128), s.wanted - 1, 128, 191⟩ := by
  rw [advance_eq] at hill ⊢
  split at hill
  next hrange => exact ⟨hrange, if_pos hrange⟩
  next => exact absurd rfl hill

/-- The range of a second octet, which depends on the first one. -/
theorem isTail_of_range {first lowFirst highFirst : Nat} {low high : UInt8}
    (hlow : 128 ≤ low.toNat) (hhigh : high.toNat ≤ 191)
    (hrange : (if first = lowFirst then low else 128).toNat ≤ b.toNat ∧
      b.toNat ≤ (if first = highFirst then high else 191).toNat) :
    IsTail b ∧ (first = lowFirst → low.toNat ≤ b.toNat) ∧
      (first = highFirst → b.toNat ≤ high.toNat) := by
  obtain ⟨hfrom, hupto⟩ := hrange
  have h128 : (128 : UInt8).toNat = 128 := rfl
  have h191 : (191 : UInt8).toNat = 191 := rfl
  refine ⟨⟨?_, ?_⟩, fun heq => ?_, fun heq => ?_⟩
  · split at hfrom <;> omega
  · split at hupto <;> omega
  · rwa [if_pos heq] at hfrom
  · rwa [if_pos heq] at hupto

theorem Takes.next {t : Sequence} (htakes : Takes s bytes) (hmore : s.advance b = .more t) :
    Takes t (bytes ++ [b]) := by
  have hill : s.advance b ≠ .illFormed := by
    rw [hmore]
    exact Progress.noConfusion
  obtain ⟨hrange, heq⟩ := advance_cases hill
  rw [hmore] at heq
  cases htakes with
  | oneOfTwo => exact absurd heq Progress.noConfusion
  | twoOfThree => exact absurd heq Progress.noConfusion
  | threeOfFour => exact absurd heq Progress.noConfusion
  | oneOfThree hp =>
    obtain rfl := Progress.more.inj heq
    obtain ⟨hq, hlow, hhigh⟩ := isTail_of_range (by decide) (by decide) hrange
    exact .twoOfThree hp hq hlow hhigh
  | oneOfFour hp =>
    obtain rfl := Progress.more.inj heq
    obtain ⟨hq, hlow, hhigh⟩ := isTail_of_range (by decide) (by decide) hrange
    exact .twoOfFour hp hq hlow hhigh
  | twoOfFour hp hq hlow hhigh =>
    obtain rfl := Progress.more.inj heq
    exact .threeOfFour hp hq hlow hhigh hrange

theorem Takes.spells (htakes : Takes s bytes) (hlast : s.advance b = .scalar c) :
    ∃ n, Spells (bytes ++ [b]) n ∧ c = Char.ofNat n := by
  have hill : s.advance b ≠ .illFormed := by
    rw [hlast]
    exact Progress.noConfusion
  obtain ⟨hrange, heq⟩ := advance_cases hill
  rw [hlast] at heq
  cases htakes with
  | oneOfThree => exact absurd heq Progress.noConfusion
  | oneOfFour => exact absurd heq Progress.noConfusion
  | twoOfFour => exact absurd heq Progress.noConfusion
  | oneOfTwo hp => exact ⟨_, .two hp hrange rfl, Progress.scalar.inj heq⟩
  | twoOfThree hp hq hlow hhigh =>
    exact ⟨_, .three hp hq hlow hhigh hrange rfl, Progress.scalar.inj heq⟩
  | threeOfFour hp hq hlow hhigh hr =>
    exact ⟨_, .four hp hq hlow hhigh hr hrange rfl, Progress.scalar.inj heq⟩

/-- As long as nothing ill-formed was read, the octets spell the characters that were read, and
    then begin the next one. -/
def Accounts (d : Decoder) (bytes : Bytes) : Prop :=
  none ∈ d.read ∨ ∃ (chars : List Char) (taken : Bytes), d.read = (chars.map some).reverse ∧
    bytes = chars.flatMap String.utf8EncodeChar ++ taken ∧
      d.pending.elim (taken = []) fun s => Takes s taken

theorem accounts_begin {read : List (Option Char)} (haccounts : Accounts ⟨read, none⟩ bytes) :
    Accounts (.begin read b) (bytes ++ [b]) := by
  obtain hnone | ⟨chars, taken, rfl, rfl, htaken⟩ := haccounts
  · left
    unfold Decoder.begin
    split
    · exact List.mem_cons_of_mem _ hnone
    · exact hnone
    · exact List.mem_cons_self
  · cases (htaken : taken = [])
    rw [List.append_nil]
    unfold Decoder.begin
    split
    next c hstart =>
      obtain ⟨n, hspells, rfl⟩ := spells_of_start hstart
      refine .inr ⟨chars ++ [Char.ofNat n], [], by simp, ?_, rfl⟩
      simp [hspells.utf8EncodeChar_eq]
    next s hstart => exact .inr ⟨chars, [b], rfl, rfl, takes_of_start hstart⟩
    next => exact .inl List.mem_cons_self

theorem Accounts.feed {d : Decoder} (haccounts : Accounts d bytes) :
    Accounts (d.feed b) (bytes ++ [b]) := by
  obtain ⟨read, pending⟩ := d
  cases pending with
  | none => exact accounts_begin haccounts
  | some s =>
    unfold Decoder.feed
    dsimp only
    split
    next c hlast =>
      obtain hnone | ⟨chars, taken, rfl, rfl, htakes⟩ := haccounts
      · exact .inl (List.mem_cons_of_mem _ hnone)
      · obtain ⟨n, hspells, rfl⟩ := Takes.spells htakes hlast
        refine .inr ⟨chars ++ [Char.ofNat n], [], by simp, ?_, rfl⟩
        simp [hspells.utf8EncodeChar_eq]
    next t hmore =>
      obtain hnone | ⟨chars, taken, rfl, rfl, htakes⟩ := haccounts
      · exact .inl hnone
      · exact .inr ⟨chars, taken ++ [b], rfl, List.append_assoc _ _ _, Takes.next htakes hmore⟩
    next => exact accounts_begin (Or.inl List.mem_cons_self)

theorem accounts_foldl_feed (bytes : Bytes) :
    Accounts (bytes.foldl Decoder.feed {}) bytes := by
  induction bytes using List.reverseRecOn with
  | nil => exact Or.inr ⟨[], [], rfl, rfl, rfl⟩
  | append_singleton bytes b ih =>
    rw [List.foldl_append]
    exact ih.feed

end

section

variable {bytes : Bytes} {text : String}

theorem foldl_feed_encode (chars : List Char) (read : List (Option Char)) :
    (chars.flatMap String.utf8EncodeChar).foldl Decoder.feed ⟨read, none⟩ =
      ⟨(chars.map some).reverse ++ read, none⟩ := by
  induction chars generalizing read with
  | nil => rfl
  | cons c rest ih =>
    have hc := (spells_utf8EncodeChar c).foldl_feed read
    rw [Char.ofNat_toNat] at hc
    rw [List.flatMap_cons, List.foldl_append, hc, ih]
    simp

theorem decode_encode (text : String) : decode (encode text) = text.toList.map some := by
  have hfold := foldl_feed_encode text.toList []
  rw [decode, encode]
  change (List.foldl Decoder.feed ⟨[], none⟩ _).finish = _
  rw [hfold]
  simp [Decoder.finish]

/-- A text is read back from its octets. -/
theorem text?_encode (text : String) : text? (encode text) = some text := by
  simp [text?, decode_encode, List.filterMap_map, Function.comp_def]

theorem none_mem_finish_iff {d : Decoder} :
    none ∈ d.finish ↔ d.pending.isSome = true ∨ none ∈ d.read := by
  rw [Decoder.finish, List.mem_reverse]
  split <;> simp_all

/-- Octets that have a text are the octets of that text. -/
theorem encode_of_text? (htext : text? bytes = some text) : encode text = bytes := by
  rw [text?] at htext
  split at htext
  next hall =>
    have hnone : none ∉ decode bytes := fun hmem => by simpa using List.all_eq_true.1 hall _ hmem
    have haccounts := accounts_foldl_feed bytes
    rw [decode] at hnone htext
    generalize bytes.foldl Decoder.feed {} = d at hnone htext haccounts
    rw [none_mem_finish_iff, not_or] at hnone
    obtain hill | ⟨chars, taken, hread, hbytes, htakes⟩ := haccounts
    · exact absurd hill hnone.2
    · obtain ⟨read, pending⟩ := d
      cases pending with
      | some s => exact absurd rfl hnone.1
      | none =>
        cases (htakes : taken = [])
        cases (hread : read = _)
        simp only [Decoder.finish, Option.isSome_none, Bool.false_eq_true, if_false,
          Option.some.injEq] at htext
        rw [← htext, hbytes, encode, List.append_nil, String.toList_ofList]
        simp
  next => cases htext

/-- Octets have a text exactly if they are those of a text. -/
theorem text?_eq_some_iff : text? bytes = some text ↔ encode text = bytes := by
  constructor
  · exact encode_of_text?
  · rintro rfl
    exact text?_encode text

theorem encode_inj {first second : String} : encode first = encode second ↔ first = second := by
  rw [← text?_eq_some_iff, text?_encode, Option.some_inj, eq_comm]

/-- Where nothing is ill-formed, nothing is replaced. -/
theorem lossy_encode (text : String) : lossy (encode text) = text := by
  simp [lossy, decode_encode, Function.comp_def]

theorem length_encode (text : String) : (encode text).length = text.utf8ByteSize := by
  have hsize : (String.ofList text.toList).utf8ByteSize = (encode text).length := by
    rw [String.utf8ByteSize, String.toByteArray_ofList, List.utf8Encode, List.size_toByteArray,
      encode]
  rw [← hsize, String.ofList_toList]

/-- What is not a text is shown with a replacement character. -/
theorem replacement_mem_lossy (htext : text? bytes = none) : '\uFFFD' ∈ (lossy bytes).toList := by
  rw [text?] at htext
  split at htext
  next => cases htext
  next hall =>
    simp only [List.all_eq_true, not_forall, Option.not_isSome_iff_eq_none] at hall
    obtain ⟨c, hmem, rfl⟩ := hall
    rw [lossy, String.toList_ofList]
    exact List.mem_map_of_mem (f := (Option.getD · '\uFFFD')) hmem

/-- Octet strings that are shown alike although they differ: one at least is not a text, and the
    place is taken by a replacement character. -/
def Blurred (first second : Bytes) : Prop :=
  lossy first = lossy second ∧ '\uFFFD' ∈ (lossy first).toList ∧
    (text? first = none ∨ text? second = none)

/-- Octet strings that differ are shown differently, unless one of them is not a text. -/
theorem lossy_eq_iff {first second : Bytes} (hne : first ≠ second) :
    lossy first = lossy second ↔ Blurred first second := by
  refine ⟨fun heq => ⟨heq, ?_⟩, And.left⟩
  cases hfirst : text? first with
  | none => exact ⟨replacement_mem_lossy hfirst, .inl rfl⟩
  | some text =>
    cases hsecond : text? second with
    | none => exact ⟨heq ▸ replacement_mem_lossy hsecond, .inr rfl⟩
    | some other =>
      rw [← encode_of_text? hfirst, ← encode_of_text? hsecond, lossy_encode, lossy_encode] at heq
      rw [← encode_of_text? hfirst, ← encode_of_text? hsecond, heq] at hne
      exact absurd rfl hne

end

end BootChain.Utf8
