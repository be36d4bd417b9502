import BootChain.Job.Weave
import BootChain.Proofs.Job.Transcript
import Mathlib.Data.List.Induction

namespace BootChain

variable {σ α : Type}

namespace Strand

/-- How many requests a job makes until it is done, if nothing happens in between. -/
def length (strand : Strand σ α) (state : σ) : Nat :=
  (strand.rest.transcript strand.handler state).length

/-- A job that has no request left to make is done. -/
theorem result?_of_length_eq_zero {strand : Strand σ α} {state : σ}
    (hlength : strand.length state = 0) : strand.result? = some (strand.run state).1 := by
  obtain ⟨handler, rest⟩ := strand
  cases rest with
  | done result => rfl
  | ask request next => cases hlength

theorem run_of_result? {strand : Strand σ α} {state : σ} {result : α}
    (hresult : strand.result? = some result) : (strand.run state).1 = result := by
  obtain ⟨handler, rest⟩ := strand
  cases rest with
  | done found => exact Option.some.inj hresult
  | ask request next => cases hresult

end Strand

namespace Weave

variable {weave : Weave σ α} {index other : Nat} {strand : Strand σ α}

/-- The jobs do not disturb each other, whosever turn it is: what each comes to is what it would
    have come to alone, and it comes to it in as many turns as it would have needed alone. -/
structure Undisturbed (weave : Weave σ α) : Prop where
  agree : ∀ schedule index strand result, weave.strands[index]? = some strand →
    (weave.follow schedule).result? index = some result → result = (strand.run weave.state).1
  finish : ∀ schedule index strand, weave.strands[index]? = some strand →
    strand.length weave.state ≤ schedule.count index →
      (weave.follow schedule).result? index = some (strand.run weave.state).1

/-- A relation between the surroundings of a job when it is alone and when it is among others. It
    lasts while the job goes on, which gets the same answers on both sides, and while another job
    goes on. -/
structure Shielding (holds : Nat → Strand σ α → σ → σ → Prop) : Prop where
  own : ∀ {index handler request next alone shared},
    holds index ⟨handler, .ask request next⟩ alone shared →
      (handler request alone).1 = (handler request shared).1 ∧
        holds index ⟨handler, next (handler request alone).1⟩ (handler request alone).2
          (handler request shared).2
  other : ∀ {index other strand handler request next alone elsewhere shared},
    index ≠ other → holds index strand alone shared →
      holds other ⟨handler, .ask request next⟩ elsewhere shared →
        holds index strand alone (handler request shared).2

/-- A job among the others is where it would be alone after some turns. -/
structure OnCourse (holds : Nat → Strand σ α → σ → σ → Prop) (start : Strand σ α) (state : σ)
    (turns index : Nat) (strand : Strand σ α) (alone shared : σ) : Prop where
  related : holds index strand alone shared
  run_eq : (strand.run alone).1 = (start.run state).1
  length_le : strand.length alone ≤ start.length state - turns

theorem follow_append_singleton (schedule : List Nat) :
    weave.follow (schedule ++ [index]) = (weave.follow schedule).advance index := by
  rw [follow, List.foldl_append]
  rfl

theorem advance_of_none (hnone : weave.strands[index]? = none) : weave.advance index = weave := by
  rw [advance, hnone]

theorem advance_of_some (hsome : weave.strands[index]? = some strand) :
    weave.advance index =
      ⟨weave.strands.set index (strand.advance weave.state).1,
        (strand.advance weave.state).2⟩ := by
  rw [advance, hsome]

theorem getElem?_advance_self (hsome : weave.strands[index]? = some strand) :
    (weave.advance index).strands[index]? = some (strand.advance weave.state).1 := by
  rw [advance_of_some hsome, List.getElem?_set_self (List.getElem?_eq_some_iff.1 hsome).1]

theorem getElem?_advance_of_ne (hne : index ≠ other) :
    (weave.advance other).strands[index]? = weave.strands[index]? := by
  cases hother : weave.strands[other]? with
  | none => rw [advance_of_none hother]
  | some strand => rw [advance_of_some hother, List.getElem?_set_ne hne.symm]

theorem length_strands_advance :
    (weave.advance index).strands.length = weave.strands.length := by
  cases hindex : weave.strands[index]? with
  | none => rw [advance_of_none hindex]
  | some strand => rw [advance_of_some hindex, List.length_set]

theorem length_strands_follow (schedule : List Nat) :
    (weave.follow schedule).strands.length = weave.strands.length := by
  induction schedule using List.reverseRecOn with
  | nil => rfl
  | append_singleton schedule index ih =>
    rw [follow_append_singleton, length_strands_advance, ih]

section

variable {holds : Nat → Strand σ α → σ → σ → Prop} (hshield : Shielding holds)
  {start : Strand σ α} {state alone shared elsewhere : σ} {turns : Nat}
include hshield

/-- A turn of its own brings a job on by one request on both sides. -/
theorem OnCourse.advance_own
    (hcourse : OnCourse holds start state turns index strand alone shared) :
    OnCourse holds start state (turns + 1) index (strand.advance shared).1
      (strand.advance alone).2 (strand.advance shared).2 := by
  obtain ⟨hrelated, hrun, hlength⟩ := hcourse
  obtain ⟨handler, rest⟩ := strand
  cases rest with
  | done result => exact ⟨hrelated, hrun, Nat.zero_le _⟩
  | ask request next =>
    obtain ⟨hanswer, hlater⟩ := hshield.own hrelated
    have hadvance : ((⟨handler, .ask request next⟩ : Strand σ α).advance shared).1 =
        ⟨handler, next (handler request alone).1⟩ := by
      rw [hanswer]
      rfl
    rw [hadvance]
    have hstep : Strand.length ⟨handler, next (handler request alone).1⟩
        (handler request alone).2 + 1 ≤ start.length state - turns := hlength
    refine ⟨hlater, hrun, ?_⟩
    change Strand.length ⟨handler, next (handler request alone).1⟩ (handler request alone).2 ≤ _
    omega

/-- A turn of another job leaves a job where it is. -/
theorem OnCourse.advance_other {strange : Strand σ α} (hne : index ≠ other)
    (hcourse : OnCourse holds start state turns index strand alone shared)
    (hother : holds other strange elsewhere shared) :
    OnCourse holds start state turns index strand alone (strange.advance shared).2 := by
  obtain ⟨handler, rest⟩ := strange
  cases rest with
  | done result => exact hcourse
  | ask request next => exact { hcourse with related := hshield.other hne hcourse.related hother }

/-- Whosever turn it was, each job is where it would be alone after its own turns. -/
theorem onCourse_follow
    (hstart : ∀ index strand, weave.strands[index]? = some strand →
      holds index strand weave.state weave.state)
    (schedule : List Nat) {start : Strand σ α} (hindex : weave.strands[index]? = some start) :
    ∃ strand alone, (weave.follow schedule).strands[index]? = some strand ∧
      OnCourse holds start weave.state (schedule.count index) index strand alone
        (weave.follow schedule).state := by
  induction schedule using List.reverseRecOn generalizing index start with
  | nil => exact ⟨start, weave.state, hindex, hstart index start hindex, rfl, Nat.le_refl _⟩
  | append_singleton schedule turn ih =>
    obtain ⟨strand, alone, hstrand, hcourse⟩ := ih hindex
    rw [follow_append_singleton]
    -- the job whose turn it is, is on course itself, so that its turn is one that is allowed for
    by_cases hturn : index = turn
    · subst hturn
      refine ⟨_, (strand.advance alone).2, getElem?_advance_self hstrand, ?_⟩
      rw [List.count_append, List.count_singleton_self, advance_of_some hstrand]
      exact hcourse.advance_own hshield
    · refine ⟨strand, alone, (getElem?_advance_of_ne hturn).trans hstrand, ?_⟩
      have hcount : (schedule ++ [turn]).count index = schedule.count index := by
        rw [List.count_append, List.count_singleton, if_neg (by simpa using Ne.symm hturn),
          Nat.add_zero]
      rw [hcount]
      cases hother : (weave.follow schedule).strands[turn]? with
      | none => rwa [advance_of_none hother]
      | some strange =>
        rw [advance_of_some hother]
        have hbound := (List.getElem?_eq_some_iff.1 hother).1
        rw [length_strands_follow] at hbound
        obtain ⟨found, elsewhere, hfound, hfoundCourse⟩ := ih (List.getElem?_eq_getElem hbound)
        cases hother.symm.trans hfound
        exact hcourse.advance_other hshield hturn hfoundCourse.related

theorem undisturbed
    (hstart : ∀ index strand, weave.strands[index]? = some strand →
      holds index strand weave.state weave.state) : weave.Undisturbed where
  agree schedule index start result hindex hresult := by
    obtain ⟨strand, alone, hstrand, hcourse⟩ := onCourse_follow hshield hstart schedule hindex
    rw [result?, hstrand, Option.bind_some] at hresult
    exact (Strand.run_of_result? hresult).symm.trans hcourse.run_eq
  finish schedule index start hindex hcount := by
    obtain ⟨strand, alone, hstrand, hcourse⟩ := onCourse_follow hshield hstart schedule hindex
    have hlength : strand.length alone = 0 := by
      have := hcourse.length_le
      omega
    rw [result?, hstrand, Option.bind_some, Strand.result?_of_length_eq_zero hlength,
      hcourse.run_eq]

end

end Weave

end BootChain
