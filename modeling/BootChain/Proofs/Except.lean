import Mathlib.Data.List.Basic

namespace BootChain.Except

variable {ε α β : Type} {x : Except ε α} {f : α → Except ε β} {cause : ε}

theorem bind_eq_ok {b : β} : (x >>= f) = .ok b ↔ ∃ a, x = .ok a ∧ f a = .ok b := by
  cases x <;> simp [bind, Except.bind]

theorem ok_bind {a : α} : (Except.ok a >>= f) = f a := rfl

theorem bind_eq_error :
    (x >>= f) = .error cause ↔ x = .error cause ∨ ∃ a, x = .ok a ∧ f a = .error cause := by
  cases x <;> simp [bind, Except.bind]

theorem bind_ok {x : Except ε Unit} : (x >>= fun _ => .ok ()) = x := by
  cases x <;> rfl

theorem exists_unit {p : Unit → Prop} : (∃ done, p done) ↔ p () :=
  ⟨fun ⟨_, hp⟩ => hp, fun hp => ⟨_, hp⟩⟩

theorem mapError_eq_ok_iff {ε' : Type} {f : ε → ε'} {a : α} :
    x.mapError f = .ok a ↔ x = .ok a := by
  cases x <;> simp [Except.mapError]

section

variable {items : List α} {f : α → Except ε Unit}

theorem forM_eq_ok_iff : forM items f = .ok () ↔ ∀ item ∈ items, f item = .ok () := by
  induction items with
  | nil => simp [pure, Except.pure]
  | cons item items ih => simp [List.forM_cons, bind_eq_ok, exists_unit, ih]

theorem exists_of_forM_eq_error (herror : forM items f = .error cause) :
    ∃ item ∈ items, f item = .error cause := by
  induction items with
  | nil => cases herror
  | cons item items ih =>
    rw [List.forM_cons, bind_eq_error] at herror
    obtain hitem | ⟨_, -, hitems⟩ := herror
    · exact ⟨item, List.mem_cons_self, hitem⟩
    · obtain ⟨other, hmem, hother⟩ := ih hitems
      exact ⟨other, List.mem_cons_of_mem _ hmem, hother⟩

end

section

variable {items : List α} {values : List β}

theorem exists_mapM_eq_ok_iff : (∃ values, items.mapM f = .ok values) ↔
    ∀ item ∈ items, ∃ value, f item = .ok value := by
  induction items with
  | nil => exact iff_of_true ⟨[], rfl⟩ nofun
  | cons item items ih =>
    rw [List.mapM_cons, List.forall_mem_cons, ← ih]
    simp only [bind_eq_ok]
    constructor
    · rintro ⟨_, value, hvalue, values, hvalues, -⟩
      exact ⟨⟨value, hvalue⟩, values, hvalues⟩
    · rintro ⟨⟨value, hvalue⟩, values, hvalues⟩
      exact ⟨value :: values, value, hvalue, values, hvalues, rfl⟩

/-- Where each item can be told from its value, a list is read from what its values tell. -/
theorem map_eq_of_mapM_eq_ok {key : β → α} (hkey : ∀ item value, f item = .ok value →
    key value = item) (hvalues : items.mapM f = .ok values) : values.map key = items := by
  induction items generalizing values with
  | nil =>
    cases hvalues
    rfl
  | cons item items ih =>
    simp only [List.mapM_cons, bind_eq_ok] at hvalues
    obtain ⟨value, hvalue, rest, hrest, hcons⟩ := hvalues
    cases hcons
    rw [List.map_cons, hkey item value hvalue, ih hrest]

end

end BootChain.Except
