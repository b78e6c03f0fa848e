/-
Systems that move by labelled partial steps.

A step function says which events a state admits and where each one leads.  A
run performs a list of events; a state is reachable when some run ends there.
-/

import Mathlib

namespace Transition

variable {State Event : Type} (step : State → Event → Option State)

/-- Perform the events in turn; the run is over at the first one that the state
it meets does not admit. -/
def run (state : State) : List Event → Option State
  | [] => some state
  | event :: events => (step state event).bind (fun next => run next events)

theorem run_append (state : State) (early late : List Event) :
    run step state (early ++ late) =
      (run step state early).bind (fun next => run step next late) := by
  induction early generalizing state with
  | nil => rfl
  | cons event early ih =>
      simp only [List.cons_append, run]
      cases step state event with
      | none => rfl
      | some next => exact ih next

def Reachable (start state : State) : Prop :=
  ∃ events, run step start events = some state

theorem Reachable.refl (state : State) : Reachable step state state :=
  ⟨[], rfl⟩

variable {step}

theorem Reachable.trans {start middle state : State}
    (early : Reachable step start middle) (late : Reachable step middle state) :
    Reachable step start state := by
  obtain ⟨earlyEvents, reached⟩ := early
  obtain ⟨lateEvents, continued⟩ := late
  refine ⟨earlyEvents ++ lateEvents, ?_⟩
  rw [run_append, reached]
  exact continued

theorem Reachable.tail {start state next : State} {event : Event}
    (reached : Reachable step start state)
    (moved : step state event = some next) : Reachable step start next := by
  refine reached.trans ⟨[event], ?_⟩
  simp only [run, moved, Option.bind_some]

theorem run_invariant (invariant : State → Prop)
    (preserved : ∀ state event next, step state event = some next →
      invariant state → invariant next)
    (state final : State) (events : List Event)
    (reached : run step state events = some final) (holds : invariant state) :
    invariant final := by
  induction events generalizing state with
  | nil =>
      rw [run, Option.some.injEq] at reached
      rw [← reached]
      exact holds
  | cons event events ih =>
      obtain ⟨next, moved, rest⟩ := Option.bind_eq_some_iff.mp reached
      exact ih next rest (preserved state event next moved holds)

theorem Reachable.invariant {start state : State} (invariant : State → Prop)
    (reached : Reachable step start state) (holds : invariant start)
    (preserved : ∀ state event next, step state event = some next →
      invariant state → invariant next) : invariant state := by
  obtain ⟨events, ran⟩ := reached
  exact run_invariant invariant preserved start state events ran holds

variable (step)

def Along (property : State → Event → Prop) (state : State) :
    List Event → Prop
  | [] => True
  | event :: events =>
      ∀ next, step state event = some next →
        property state event ∧ Along property next events

variable {step}

/-- Two properties that every step tells apart from no state of the invariant
hold along the same runs. -/
theorem along_iff_along (invariant : State → Prop)
    (left right : State → Event → Prop)
    (preserved : ∀ state event next, step state event = some next →
      invariant state → invariant next)
    (same : ∀ state event next, step state event = some next →
      invariant state → (left state event ↔ right state event))
    (state : State) (events : List Event) (holds : invariant state) :
    Along step left state events ↔ Along step right state events := by
  induction events generalizing state with
  | nil => exact Iff.rfl
  | cons event events ih =>
      refine forall_congr' (fun next => forall_congr' (fun moved => ?_))
      exact and_congr (same state event next moved holds)
        (ih next (preserved state event next moved holds))

/-! ### Machines that move on their own -/

section Machines

open StateTransition

variable {move : State → Option State}

theorem reaches_invariant {start state : State} (invariant : State → Prop)
    (reached : Reaches move start state) (holds : invariant start)
    (preserved : ∀ state next, Reaches move start state →
      move state = some next → invariant state → invariant next) :
    invariant state := by
  induction reached with
  | refl => exact holds
  | tail earlier moved ih => exact preserved _ _ earlier moved ih

theorem exists_halted (measure : State → Nat)
    (decreases : ∀ state next, move state = some next →
      measure next < measure state)
    (start : State) :
    ∃ final, Reaches move start final ∧ move final = none := by
  induction fuel : measure start using Nat.strong_induction_on
    generalizing start with
  | _ fuel ih =>
      cases moved : move start with
      | none => exact ⟨start, Relation.ReflTransGen.refl, moved⟩
      | some next =>
          have fewer := decreases start next moved
          rw [fuel] at fewer
          obtain ⟨final, reached, halted⟩ := ih _ fewer next rfl
          exact ⟨final, Relation.ReflTransGen.head moved reached, halted⟩

end Machines

end Transition
