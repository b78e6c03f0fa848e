/-
Tasks that share one store.

Each task has a state of its own; a move takes one task one step, which may
change the store.  What every task knows of the store holds along all
interleavings as soon as the steps of one task keep it for that task and no
change a step can make takes it from another.
-/

import TlsProxyTunnel.Library.Transition

namespace Tasks

open Transition

variable {Store Task Event : Type}

structure Configuration (Store Task : Type) where
  store : Store
  tasks : Nat → Task

variable (taskStep : Store → Task → Event → Option (Store × Task))

def step (configuration : Configuration Store Task) (move : Nat × Event) :
    Option (Configuration Store Task) :=
  (taskStep configuration.store (configuration.tasks move.1) move.2).map
    (fun after =>
      { store := after.1
        tasks := Function.update configuration.tasks move.1 after.2 })

def soloStep (state : Store × Task) (event : Event) : Option (Store × Task) :=
  taskStep state.1 state.2 event

theorem run_solo (configuration : Configuration Store Task) (task : Nat)
    (events : List Event) :
    run (step taskStep) configuration (events.map (Prod.mk task)) =
      (run (soloStep taskStep)
        (configuration.store, configuration.tasks task) events).map
        (fun after =>
          { store := after.1
            tasks := Function.update configuration.tasks task after.2 }) := by
  induction events generalizing configuration with
  | nil => simp [run]
  | cons event events ih =>
      simp only [List.map_cons, run, step, soloStep]
      cases taskStep configuration.store (configuration.tasks task) event with
      | none => rfl
      | some after =>
          simp only [Option.map_some, Option.bind_some, ih,
            Function.update_self, Function.update_idem]

variable {taskStep}

/-- What a task reaches on its own it reaches among others that wait. -/
theorem Reachable.of_solo {configuration : Configuration Store Task}
    (task : Nat) (store : Store) (final : Task)
    (alone : Reachable (soloStep taskStep)
      (configuration.store, configuration.tasks task) (store, final)) :
    Reachable (step taskStep) configuration
      { store := store
        tasks := Function.update configuration.tasks task final } := by
  obtain ⟨events, ran⟩ := alone
  exact ⟨events.map (Prod.mk task), by rw [run_solo, ran, Option.map_some]⟩

/-- `common` is what holds of the store, `known` what a task knows of it, and
`change` what a step of another task may do to it. -/
theorem Reachable.known {start state : Configuration Store Task}
    (common : Store → Prop) (known : Store → Task → Prop)
    (change : Store → Store → Prop)
    (reached : Reachable (step taskStep) start state)
    (initially : common start.store ∧
      ∀ task, known start.store (start.tasks task))
    (guarantee : ∀ store task event after,
      taskStep store task event = some after → common store →
      known store task →
      common after.1 ∧ known after.1 after.2 ∧ change store after.1)
    (stable : ∀ before after task, change before after →
      known before task → known after task) :
    common state.store ∧ ∀ task, known state.store (state.tasks task) := by
  refine reached.invariant (fun configuration =>
    common configuration.store ∧
      ∀ task, known configuration.store (configuration.tasks task))
    initially ?_
  rintro before ⟨moving, event⟩ next moved ⟨commonly, knowing⟩
  obtain ⟨after, own, rfl⟩ := Option.map_eq_some_iff.mp moved
  obtain ⟨still, knows, changed⟩ :=
    guarantee _ _ event after own commonly (knowing moving)
  refine ⟨still, fun task => ?_⟩
  by_cases same : task = moving
  · subst same
    simpa using knows
  · simpa [Function.update_of_ne same] using
      stable _ _ _ changed (knowing task)

end Tasks
