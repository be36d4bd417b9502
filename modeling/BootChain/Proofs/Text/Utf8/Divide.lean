import BootChain.Proofs.Text.Utf8.RoundTrip

namespace BootChain.Utf8

variable {b : UInt8} {d : Decoder}

namespace Decoder

/-- A decoder that has read something before. -/
def onto (d : Decoder) (old : List (Option Char)) : Decoder :=
  { d with read := d.read ++ old }

theorem begin_append (read old : List (Option Char)) (b : UInt8) :
    begin (read ++ old) b = (begin read b).onto old := by
  unfold begin
  split <;> rfl

theorem feed_onto (old : List (Option Char)) : (d.onto old).feed b = (d.feed b).onto old := by
  obtain ⟨read, pending⟩ := d
  cases pending with
  | none => exact begin_append read old b
  | some s =>
    simp only [feed, onto]
    split
    · rfl
    · rfl
    · exact begin_append (none :: read) old b

theorem foldl_feed_onto (old : List (Option Char)) (bytes : Bytes) :
    bytes.foldl feed (d.onto old) = (bytes.foldl feed d).onto old := by
  induction bytes generalizing d with
  | nil => rfl
  | cons b rest ih => rw [List.foldl_cons, feed_onto, ih, List.foldl_cons]

theorem finish_onto (old : List (Option Char)) :
    (d.onto old).finish = old.reverse ++ d.finish := by
  obtain ⟨read, pending⟩ := d
  cases pending <;> simp [finish, onto]

/-- Whatever sequence is under way, no octet of ASCII goes on with it. -/
def Strict (d : Decoder) : Prop := ∀ s, d.pending = some s → 128 ≤ s.low.toNat

theorem strict_begin (read : List (Option Char)) : (begin read b).Strict := by
  intro s hpending
  unfold begin at hpending
  split at hpending
  next => cases hpending
  next hstart =>
    cases hpending
    cases takes_of_start hstart with
    | oneOfTwo => exact Nat.le_refl 128
    | oneOfThree | oneOfFour =>
      dsimp only
      split <;> decide
  next => cases hpending

theorem strict_feed (d : Decoder) (b : UInt8) : (d.feed b).Strict := by
  intro s hpending
  unfold Decoder.feed at hpending
  split at hpending
  next => exact strict_begin _ s hpending
  next t ht =>
    split at hpending
    next => cases hpending
    next hmore =>
      cases hpending
      have hill : t.advance b ≠ .illFormed := by
        rw [hmore]
        exact Progress.noConfusion
      obtain ⟨-, heq⟩ := advance_cases hill
      rw [hmore] at heq
      split at heq
      · exact absurd heq Progress.noConfusion
      · obtain rfl := Progress.more.inj heq
        exact Nat.le_refl 128
    next => exact strict_begin _ s hpending

theorem strict_foldl_feed (bytes : Bytes) : (bytes.foldl feed {}).Strict := by
  induction bytes using List.reverseRecOn with
  | nil =>
    intro s hpending
    cases hpending
  | append_singleton bytes b _ =>
    rw [List.foldl_append]
    exact strict_feed _ b

theorem begin_ascii (hb : b.toNat < 128) (read : List (Option Char)) :
    begin read b = ⟨some (Char.ofNat b.toNat) :: read, none⟩ := by
  rw [begin, start_eq, if_pos hb]

/-- An octet of ASCII ends what was under way and is read as itself. -/
theorem Strict.feed_ascii (hstrict : d.Strict) (hb : b.toNat < 128) :
    d.feed b = (⟨[], none⟩ : Decoder).onto (some (Char.ofNat b.toNat) :: d.finish.reverse) := by
  obtain ⟨read, pending⟩ := d
  cases pending with
  | none =>
    rw [Decoder.feed, begin_ascii hb]
    simp [onto, finish]
  | some s =>
    have hlow := hstrict s rfl
    have hadvance : s.advance b = .illFormed := by
      rw [advance_eq, if_neg (by omega)]
    simp only [Decoder.feed, hadvance, begin_ascii hb]
    simp [onto, finish]

end Decoder

/-- What stands before an octet of ASCII and what stands behind it are read apart. -/
theorem decode_append_ascii (hb : b.toNat < 128) (before after : Bytes) :
    decode (before ++ b :: after) =
      decode before ++ some (Char.ofNat b.toNat) :: decode after := by
  have hfeed := (Decoder.strict_foldl_feed before).feed_ascii hb
  rw [decode, List.foldl_append, List.foldl_cons, hfeed, Decoder.foldl_feed_onto,
    Decoder.finish_onto, List.reverse_cons, List.reverse_reverse]
  simp [decode]

theorem lossy_append_ascii (hb : b.toNat < 128) (before after : Bytes) :
    lossy (before ++ b :: after) =
      lossy before ++ String.singleton (Char.ofNat b.toNat) ++ lossy after := by
  apply String.toList_inj.1
  simp [lossy, decode_append_ascii hb]

/-- Octets around one of ASCII are text just if those before and those after it are. -/
theorem isSome_text?_append_ascii (hb : b.toNat < 128) (before after : Bytes) :
    (text? (before ++ b :: after)).isSome = true ↔
      (text? before).isSome = true ∧ (text? after).isSome = true := by
  simp [text?, decode_append_ascii hb, Option.isSome_ite]

end BootChain.Utf8
