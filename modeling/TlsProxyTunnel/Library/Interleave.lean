/-
Two deterministic machines that share nothing, run in any interleaving.

A schedule names the machine that is given the next turn; a machine that
cannot move lets its turn pass.  Each machine ends where its own turns lead
it, whatever the other one does.
-/

import Mathlib

namespace Interleave

variable {σ τ : Type}

inductive Side where
  | first
  | second
  deriving DecidableEq, Repr

def advance (step : σ → Option σ) (state : σ) : σ :=
  (step state).getD state

theorem advance_of_none (step : σ → Option σ) (state : σ)
    (halted : step state = none) : advance step state = state := by
  simp [advance, halted]

theorem advance_of_some (step : σ → Option σ) (state next : σ)
    (moved : step state = some next) : advance step state = next := by
  simp [advance, moved]

def turn (stepFirst : σ → Option σ) (stepSecond : τ → Option τ)
    (side : Side) (state : σ × τ) : σ × τ :=
  match side with
  | .first => (advance stepFirst state.1, state.2)
  | .second => (state.1, advance stepSecond state.2)

def run (stepFirst : σ → Option σ) (stepSecond : τ → Option τ) :
    List Side → σ × τ → σ × τ
  | [], state => state
  | side :: schedule, state =>
      run stepFirst stepSecond schedule (turn stepFirst stepSecond side state)

/-- Whatever the interleaving, each machine has made exactly its own turns. -/
theorem run_eq_iterate (stepFirst : σ → Option σ) (stepSecond : τ → Option τ)
    (schedule : List Side) (state : σ × τ) :
    run stepFirst stepSecond schedule state =
      ((advance stepFirst)^[schedule.count .first] state.1,
        (advance stepSecond)^[schedule.count .second] state.2) := by
  induction schedule generalizing state with
  | nil => rfl
  | cons side schedule ih =>
      cases side with
      | first => simp [run, turn, ih]
      | second => simp [run, turn, ih]

theorem iterate_invariant (step : σ → Option σ) (Invariant : σ → Prop)
    (preserved : ∀ state next, step state = some next →
      Invariant state → Invariant next)
    (turns : Nat) (state : σ) (initially : Invariant state) :
    Invariant ((advance step)^[turns] state) := by
  induction turns generalizing state with
  | zero => exact initially
  | succ turns ih =>
      rw [Function.iterate_succ_apply]
      apply ih
      cases moved : step state with
      | none => rwa [advance_of_none step state moved]
      | some next =>
          rw [advance_of_some step state next moved]
          exact preserved state next moved initially

/-- A machine whose steps use up a measure has halted after that many turns. -/
theorem iterate_halts (step : σ → Option σ) (measure : σ → Nat)
    (decreases : ∀ state next, step state = some next →
      measure next < measure state)
    (turns : Nat) (state : σ) (enough : measure state ≤ turns) :
    step ((advance step)^[turns] state) = none := by
  induction turns generalizing state with
  | zero =>
      cases moved : step state with
      | none => exact moved
      | some next =>
          have fewer := decreases state next moved
          omega
  | succ turns ih =>
      rw [Function.iterate_succ_apply]
      cases moved : step state with
      | none =>
          rw [advance_of_none step state moved,
            Function.iterate_fixed (advance_of_none step state moved)]
          exact moved
      | some next =>
          rw [advance_of_some step state next moved]
          apply ih
          have fewer := decreases state next moved
          omega

end Interleave
