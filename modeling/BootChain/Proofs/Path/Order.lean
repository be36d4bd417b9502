import BootChain.Proofs.Path.Way

namespace BootChain.Path

theorem Component.rank_injective : Function.Injective Component.rank := by
  rintro (_ | _ | _ | first) (_ | _ | _ | second) <;> simp [rank]

namespace before

variable {m n : Nat} {first second : Bytes} {xs ys zs : List (Nat × Bytes)}

theorem go_cons_iff : go ((m, first) :: xs) ((n, second) :: ys) = true ↔
    m < n ∨ m = n ∧ (first < second ∨ first = second ∧ go xs ys = true) := by
  rw [go]
  by_cases hrank : m = n
  · by_cases hname : first = second
    · simp [hrank, hname, List.lt_irrefl]
    · simp [hrank, hname]
  · simp [hrank]

theorem go_total (xs ys : List (Nat × Bytes)) : go xs ys = true ∨ go ys xs = true := by
  induction xs generalizing ys with
  | nil => exact .inl (by rw [go])
  | cons x xs ih =>
    cases ys with
    | nil => exact .inr (by rw [go])
    | cons y ys =>
      rw [go_cons_iff, go_cons_iff]
      rcases Nat.lt_trichotomy x.1 y.1 with hlt | heq | hgt
      · exact .inl (.inl hlt)
      · rcases Std.lt_trichotomy x.2 y.2 with hbefore | hsame | hafter
        · exact .inl (.inr ⟨heq, .inl hbefore⟩)
        · exact (ih ys).imp (fun h => .inr ⟨heq, .inr ⟨hsame, h⟩⟩)
            fun h => .inr ⟨heq.symm, .inr ⟨hsame.symm, h⟩⟩
        · exact .inr (.inr ⟨heq.symm, .inl hafter⟩)
      · exact .inr (.inl hgt)

theorem go_trans (hxy : go xs ys = true) (hyz : go ys zs = true) : go xs zs = true := by
  induction xs generalizing ys zs with
  | nil => rw [go]
  | cons x xs ih =>
    cases ys with
    | nil => cases hxy
    | cons y ys =>
      cases zs with
      | nil => cases hyz
      | cons z zs =>
        rw [go_cons_iff] at hxy hyz ⊢
        rcases hxy with hlt | ⟨heq, hxy⟩
        · rcases hyz with hlt' | ⟨heq', -⟩
          · exact .inl (Nat.lt_trans hlt hlt')
          · exact .inl (heq' ▸ hlt)
        · rw [heq]
          refine hyz.imp_right fun ⟨heq', hyz⟩ => ⟨heq', ?_⟩
          rcases hxy with hbefore | ⟨hsame, hxy⟩
          · rcases hyz with hbefore' | ⟨hsame', -⟩
            · exact .inl (Std.lt_trans hbefore hbefore')
            · exact .inl (hsame' ▸ hbefore)
          · rw [hsame]
            exact hyz.imp_right fun ⟨hsame', hyz⟩ => ⟨hsame', ih hxy hyz⟩

theorem go_antisymm (hxy : go xs ys = true) (hyx : go ys xs = true) : xs = ys := by
  induction xs generalizing ys with
  | nil =>
    cases ys with
    | nil => rfl
    | cons y ys => cases hyx
  | cons x xs ih =>
    cases ys with
    | nil => cases hxy
    | cons y ys =>
      rw [go_cons_iff] at hxy hyx
      rcases hxy with hlt | ⟨heq, hxy⟩
      · omega
      · rcases hyx with hlt | ⟨-, hyx⟩
        · omega
        · rcases hxy with hbefore | ⟨hsame, hxy⟩
          · rcases hyx with hafter | ⟨hsame, -⟩
            · exact absurd hafter (Std.Asymm.asymm _ _ hbefore)
            · exact absurd (hsame ▸ hbefore) (List.lt_irrefl _)
          · rcases hyx with hafter | ⟨-, hyx⟩
            · exact absurd (hsame ▸ hafter) (List.lt_irrefl _)
            · rw [Prod.ext heq hsame, ih hxy hyx]

end before

variable {p q r : Path} {names others : List Bytes} {start : Bytes}

theorem before_total (p q : Path) : (p.before q || q.before p) = true := by
  rw [Bool.or_eq_true]
  exact before.go_total _ _

theorem before_trans (hpq : p.before q = true) (hqr : q.before r = true) : p.before r = true :=
  before.go_trans hpq hqr

/-- The order of paths is the one of their components, and no other place is told by these. -/
theorem components_eq_of_before (hpq : p.before q = true) (hqp : q.before p = true) :
    p.components = q.components :=
  List.map_injective_iff.2 Component.rank_injective (before.go_antisymm hpq hqp)

/-- Behind a slash every name is one component more. -/
theorem components_append_intercalate (hnames : ∀ name ∈ names, IsName name) (hne : names ≠ []) :
    components ⟨start ++ slash :: [slash].intercalate names⟩ =
      components ⟨start ++ [slash]⟩ ++ names.map .name := by
  have hsegments : segments (start ++ slash :: [slash].intercalate names) =
      segments start ++ names := by
    rw [segments_append_slash,
      segments_intercalate hne fun name hmem => (hnames name hmem).slash_notMem]
  have hopening : segments (start ++ [slash]) = segments start ++ [[]] := segments_append_slash _ _
  have hsteps : names.filterMap Component.ofSegment? = names.map .name := by
    refine List.filterMap_eq_map_iff_forall_eq_some.2 fun name hmem => ?_
    have hname := hnames name hmem
    simp [Component.ofSegment?, hname.ne_nil, hname.ne_dot, hname.ne_dots]
  obtain ⟨first, rest, hstart⟩ := List.exists_cons_of_ne_nil (segments_ne_nil start)
  have hlead : (⟨start ++ slash :: [slash].intercalate names⟩ : Path).isAbsolute =
      (⟨start ++ [slash]⟩ : Path).isAbsolute := by
    cases start <;> simp [isAbsolute]
  simp only [components, hsegments, hopening, hlead, hstart, List.filterMap_append, hsteps]
  simp [Component.ofSegment?]

end BootChain.Path
