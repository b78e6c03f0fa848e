/-
What labelled partial steps carry over and what they cannot avoid.

One system simulates another when every step of it is a run of the other's.
A goal is inevitable from a state when no run can go on forever beside it and
none can get stuck short of it.
-/

import TlsProxyTunnel.Library.Transition

namespace Transition

section Simulation

variable {Concrete Abstract Event Action : Type}
  {step : Concrete → Event → Option Concrete}
  {spec : Abstract → Action → Option Abstract}

theorem Reachable.simulated {start state : Concrete}
    (abstraction : Concrete → Abstract) (reached : Reachable step start state)
    (simulates : ∀ before event after, step before event = some after →
      Reachable spec (abstraction before) (abstraction after)) :
    Reachable spec (abstraction start) (abstraction state) := by
  apply reached.invariant
    (fun state => Reachable spec (abstraction start) (abstraction state))
  · exact Reachable.refl spec _
  · intro before event after moved earlier
    exact earlier.trans (simulates before event after moved)

end Simulation

/-! ### Inevitability -/

section Inevitability

variable {State Event : Type} (step : State → Event → Option State)

/-- Whatever steps are taken, the goal is met: it holds, or some step is
possible and it is inevitable behind every one. -/
inductive Inevitable (goal : State → Prop) : State → Prop where
  | met (state : State) (holds : goal state) : Inevitable goal state
  | ahead (state : State) (event : Event) (after : State)
      (moves : step state event = some after)
      (everywhere : ∀ event after, step state event = some after →
        Inevitable goal after) :
      Inevitable goal state

variable {step}

theorem inevitable_of_rank {Rank : Type} [Preorder Rank] [WellFoundedLT Rank]
    (goal invariant : State → Prop) (rank : State → Rank)
    (preserved : ∀ state event after, step state event = some after →
      invariant state → invariant after)
    (lowers : ∀ state event after, step state event = some after →
      invariant state → rank after < rank state)
    (moves : ∀ state, invariant state → ¬ goal state →
      ∃ event after, step state event = some after)
    (state : State) (holds : invariant state) :
    Inevitable step goal state := by
  induction start : rank state using WellFoundedLT.induction
    generalizing state with
  | ind value ih =>
      by_cases done : goal state
      · exact .met state done
      obtain ⟨event, after, moved⟩ := moves state holds done
      refine .ahead state event after moved ?_
      intro event after moved
      have lower := lowers state event after moved holds
      rw [start] at lower
      exact ih _ lower after (preserved state event after moved holds) rfl

end Inevitability

section Rationed

variable {State Event : Type}

/-- The events of one kind are given out from a ration; the others are free. -/
def rationed (step : State → Event → Option State) (limited : Event → Bool)
    (state : State × Nat) (event : Event) : Option (State × Nat) :=
  match limited event, state.2 with
  | true, 0 => none
  | true, ration + 1 => (step state.1 event).map (fun next => (next, ration))
  | false, ration => (step state.1 event).map (fun next => (next, ration))

variable {step : State → Event → Option State} {limited : Event → Bool}

theorem rationed_cases (state after : State × Nat) (event : Event)
    (moved : rationed step limited state event = some after) :
    step state.1 event = some after.1 ∧
      (limited event = true ∧ after.2 < state.2 ∨
        limited event = false ∧ after.2 = state.2) := by
  obtain ⟨state, ration⟩ := state
  unfold rationed at moved
  cases kind : limited event with
  | true =>
      cases ration with
      | zero =>
          rw [kind] at moved
          cases moved
      | succ ration =>
          rw [kind] at moved
          obtain ⟨next, stepped, rfl⟩ := Option.map_eq_some_iff.mp moved
          exact ⟨stepped, Or.inl ⟨rfl, Nat.lt_succ_self ration⟩⟩
  | false =>
      rw [kind] at moved
      obtain ⟨next, stepped, rfl⟩ := Option.map_eq_some_iff.mp moved
      exact ⟨stepped, Or.inr ⟨rfl, rfl⟩⟩

theorem rationed_of_free (state : State) (ration : Nat) (event : Event)
    (next : State) (free : limited event = false)
    (moved : step state event = some next) :
    rationed step limited (state, ration) event = some (next, ration) := by
  unfold rationed
  rw [free]
  simp only [moved, Option.map_some]

theorem inevitable_rationed {Rank : Type} [LinearOrder Rank]
    [WellFoundedLT Rank] (goal invariant : State → Prop) (rank : State → Rank)
    (preserved : ∀ state event after, step state event = some after →
      invariant state → invariant after)
    (lowers : ∀ state event after, step state event = some after →
      limited event = false → invariant state → rank after < rank state)
    (moves : ∀ state, invariant state → ¬ goal state →
      ∃ event after, limited event = false ∧ step state event = some after)
    (state : State) (holds : invariant state) (ration : Nat) :
    Inevitable (rationed step limited) (fun both => goal both.1)
      (state, ration) := by
  refine inevitable_of_rank (fun both => goal both.1)
    (fun both => invariant both.1)
    (fun both => toLex (both.2, rank both.1)) ?_ ?_ ?_ (state, ration) holds
  · intro before event after moved
    exact preserved before.1 event after.1 (rationed_cases _ _ _ moved).1
  · intro before event after moved holds
    obtain ⟨stepped, ⟨_, fewer⟩ | ⟨free, same⟩⟩ := rationed_cases _ _ _ moved
    · exact Prod.Lex.toLex_lt_toLex.mpr (Or.inl fewer)
    · exact Prod.Lex.toLex_lt_toLex.mpr (Or.inr
        ⟨same, lowers before.1 event after.1 stepped free holds⟩)
  · intro before holds open_
    obtain ⟨event, after, free, stepped⟩ := moves before.1 holds open_
    exact ⟨event, (after, before.2),
      rationed_of_free before.1 before.2 event after free stepped⟩

end Rationed

end Transition
