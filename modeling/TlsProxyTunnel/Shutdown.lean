/-
`Server::run`: the main task, and the tracker that counts all the others.

The main task spawns the listener loops one by one, waits for the token, closes
the tracker and waits for it.  Closing keeps nobody from spawning; that nobody
does once the wait is over rests on the loops being counted themselves.
-/

import TlsProxyTunnel.Exemption

namespace TlsProxyTunnel

open Transition

structure TaskTracker where
  closed : Bool
  live : Nat
  deriving DecidableEq, Repr

def TaskTracker.new : TaskTracker :=
  { closed := false
    live := 0 }

/-- Spawning is possible after `close` as before. -/
def TaskTracker.spawn (tracker : TaskTracker) : TaskTracker :=
  { tracker with live := tracker.live + 1 }

def TaskTracker.finish (tracker : TaskTracker) : TaskTracker :=
  { tracker with live := tracker.live - 1 }

def TaskTracker.close (tracker : TaskTracker) : TaskTracker :=
  { tracker with closed := true }

def TaskTracker.waited (tracker : TaskTracker) : Bool :=
  tracker.closed && tracker.live = 0

inductive MainPhase where
  | starting
  | closing
  | waiting
  | returned
  deriving DecidableEq, Repr

/-- The tasks, and the main task beside them.  `spawned` counts the listener
loops that have been spawned; `begun` and `finished` are the handlers whose
upstream was given the connection and those whose upstream was done with it,
kept for the statements only. -/
structure RunState where
  server : ServerState
  tracker : TaskTracker
  spawned : Nat
  main : MainPhase
  begun : List Handler
  finished : List Handler

def RunState.start (server : Server) : RunState :=
  { server := server.start
    tracker := TaskTracker.new
    spawned := 0
    main := .starting
    begun := []
    finished := [] }

inductive RunEvent where
  | loopSpawned
  | cancelled
  | closed
  | waited
  | task (event : ServerEvent)

/-- A loop moves once it is spawned; closing and returning are not steps of a
task. -/
def RunState.canMove (state : RunState) : ServerEvent → Bool
  | .started listener _ => listener < state.spawned
  | .trackerClosed => false
  | .drained => false
  | _ => true

/-- The tasks have moved to `next`.  A loop or a handler that ends leaves the
tracker, and a handler that is spawned enters it. -/
def RunState.afterTask (server : Server) (state : RunState)
    (event : ServerEvent) (next : ServerState) : RunState :=
  match event with
  | .started listener _ =>
      { state with
        server := next
        tracker :=
          if next.loops listener = .ended then state.tracker.finish
          else state.tracker }
  | .accepted listener (.ok _) =>
      { state with
        server := next
        tracker :=
          if (server.proxies[listener]?).any state.server.admits then
            state.tracker.spawn
          else
            state.tracker }
  | .accepted _ (.failed _) =>
      { state with
        server := next
        tracker := state.tracker.finish }
  | .stopped _ =>
      { state with
        server := next
        tracker := state.tracker.finish }
  | .dispatched position =>
      -- A handler that is not given an upstream has returned.
      if next.handlers.length < state.server.handlers.length then
        { state with
          server := next
          tracker := state.tracker.finish }
      else
        { state with
          server := next
          begun := state.begun ++ (next.handlers[position]?).toList }
  | .processed position =>
      { state with
        server := next
        tracker := state.tracker.finish
        finished :=
          state.finished ++ (state.server.handlers[position]?).toList }
  | .accepted _ .wouldBlock => { state with server := next }
  | .served _ => { state with server := next }
  | .signal => { state with server := next }
  | .trackerClosed => { state with server := next }
  | .drained => { state with server := next }

def runStep (server : Server) (parser : TlsParser) (state : RunState)
    (event : RunEvent) : Option RunState :=
  match event with
  | .loopSpawned =>
      if state.main = .starting ∧ state.spawned < server.proxies.length then
        some
          { state with
            spawned := state.spawned + 1
            tracker := state.tracker.spawn }
      else
        none
  | .cancelled =>
      if state.main = .starting ∧ state.spawned = server.proxies.length ∧
          state.server.cancelled = true then
        some { state with main := .closing }
      else
        none
  | .closed =>
      if state.main = .closing then
        (serverStep server parser state.server .trackerClosed).map (fun next =>
          { state with
            server := next
            tracker := state.tracker.close
            main := .waiting })
      else
        none
  | .waited =>
      if state.main = .waiting ∧ state.tracker.waited = true then
        some { state with main := .returned }
      else
        none
  | .task event =>
      if state.canMove event then
        (serverStep server parser state.server event).map
          (state.afterTask server event)
      else
        none

inductive RunStep (server : Server) (state : RunState) : RunState → Prop where
  | loopSpawned (main : state.main = .starting)
      (more : state.spawned < server.proxies.length) :
      RunStep server state
        { state with
          spawned := state.spawned + 1
          tracker := state.tracker.spawn }
  | cancelled (main : state.main = .starting)
      (complete : state.spawned = server.proxies.length) :
      RunStep server state { state with main := .closing }
  | closed (next : ServerState) (main : state.main = .closing)
      (loops : next.loops = state.server.loops)
      (handlers : next.handlers = state.server.handlers) :
      RunStep server state
        { state with
          server := next
          tracker := state.tracker.close
          main := .waiting }
  | returned (main : state.main = .waiting) (idle : state.tracker.live = 0) :
      RunStep server state { state with main := .returned }
  | listening (listener : Nat) (next : ServerState)
      (spawned : listener < state.spawned)
      (starting : state.server.loops listener = .starting)
      (loops : next.loops =
        Function.update state.server.loops listener .accepting)
      (handlers : next.handlers = state.server.handlers) :
      RunStep server state { state with server := next }
  | loopEnded (listener : Nat) (next : ServerState)
      (running : state.server.loops listener ≠ .ended)
      (known : state.server.loops listener ≠ .starting ∨
        listener < state.spawned)
      (loops : next.loops =
        Function.update state.server.loops listener .ended)
      (handlers : next.handlers = state.server.handlers) :
      RunStep server state
        { state with
          server := next
          tracker := state.tracker.finish }
  | quiet (next : ServerState) (loops : next.loops = state.server.loops)
      (handlers : next.handlers = state.server.handlers) :
      RunStep server state { state with server := next }
  | spawned (listener : Nat) (handler : Handler) (next : ServerState)
      (configured : listener < server.proxies.length)
      (accepting : state.server.loops listener = .accepting)
      (waiting : handler.processing = none)
      (loops : next.loops = state.server.loops)
      (handlers : next.handlers = state.server.handlers ++ [handler]) :
      RunStep server state
        { state with
          server := next
          tracker := state.tracker.spawn }
  | begun (before after : List Handler) (handler : Handler)
      (chosen : Upstream × Dispatch) (next : ServerState)
      (tasks : state.server.handlers = before ++ handler :: after)
      (waiting : handler.processing = none)
      (loops : next.loops = state.server.loops)
      (handlers : next.handlers =
        before ++ { handler with processing := some chosen } :: after) :
      RunStep server state
        { state with
          server := next
          begun := state.begun ++ [{ handler with processing := some chosen }] }
  | refused (before after : List Handler) (handler : Handler)
      (next : ServerState)
      (tasks : state.server.handlers = before ++ handler :: after)
      (waiting : handler.processing = none)
      (loops : next.loops = state.server.loops)
      (handlers : next.handlers = before ++ after) :
      RunStep server state
        { state with
          server := next
          tracker := state.tracker.finish }
  | finished (before after : List Handler) (handler : Handler)
      (chosen : Upstream × Dispatch) (next : ServerState)
      (tasks : state.server.handlers = before ++ handler :: after)
      (processing : handler.processing = some chosen)
      (loops : next.loops = state.server.loops)
      (handlers : next.handlers = before ++ after) :
      RunStep server state
        { state with
          server := next
          tracker := state.tracker.finish
          finished := state.finished ++ [handler] }

theorem runStep_task_cases (server : Server) (parser : TlsParser)
    (state : RunState) (event : ServerEvent) (next : ServerState)
    (canMove : state.canMove event = true)
    (moved : serverStep server parser state.server event = some next) :
    RunStep server state (state.afterTask server event next) := by
  cases event with
  | started listener bind =>
      obtain ⟨proxy, _, starting, ⟨_, _, rfl⟩ | ⟨_, rfl⟩⟩ :=
        serverStep_started server parser state.server next listener bind moved
      · have spawned : listener < state.spawned := of_decide_eq_true canMove
        have running : (state.server.beginLoop listener).loops listener ≠
            .ended := by simp [ServerState.beginLoop]
        simp only [RunState.afterTask, if_neg running]
        exact .listening listener _ spawned starting rfl rfl
      · have ended : (state.server.endLoop listener).loops listener =
            .ended := Function.update_self listener _ _
        simp only [RunState.afterTask, if_pos ended]
        exact .loopEnded listener _ (by simp [starting])
          (Or.inr (of_decide_eq_true canMove)) rfl rfl
  | accepted listener result =>
      obtain ⟨proxy, configured, accepting,
        ⟨connection, rfl, rfl⟩ | ⟨rfl, rfl⟩ | ⟨⟨error, rfl⟩, rfl⟩⟩ :=
        serverStep_accepted server parser state.server next listener result moved
      · simp only [RunState.afterTask, configured, Option.any_some]
        have handlers := state.server.onAccept_handlers listener proxy connection
        cases admitted : state.server.admits proxy with
        | true =>
            rw [admitted, if_pos rfl] at handlers
            rw [if_pos rfl]
            refine .spawned listener _ _ ?_ accepting rfl (by simp) handlers
            exact (List.getElem?_eq_some_iff.mp configured).1
        | false =>
            rw [admitted, if_neg Bool.false_ne_true, List.append_nil] at handlers
            rw [if_neg Bool.false_ne_true]
            exact .quiet _ (by simp) handlers
      · exact .quiet _ rfl rfl
      · exact .loopEnded listener _ (by simp [accepting])
          (Or.inl (by simp [accepting])) rfl rfl
  | stopped listener =>
      obtain ⟨accepting, _, rfl⟩ :=
        serverStep_stopped server parser state.server next listener moved
      exact .loopEnded listener _ (by simp [accepting])
        (Or.inl (by simp [accepting])) rfl rfl
  | dispatched position =>
      obtain ⟨before, handler, after, proxy, tasks, rfl, waiting, _,
        ⟨chosen, _, rfl⟩ | ⟨_, _, rfl⟩⟩ :=
        serverStep_dispatched server parser state.server next position moved
      · simp only [RunState.afterTask, tasks, List.length_append,
          List.length_cons, Nat.lt_irrefl, if_false, List.getElem?_append_right
          (Nat.le_refl _), Nat.sub_self, List.getElem?_cons_zero,
          Option.toList_some]
        exact .begun before after handler chosen _ tasks waiting rfl rfl
      · have shorter : (before ++ after).length < state.server.handlers.length :=
          by simp [tasks]
        simp only [RunState.afterTask, if_pos shorter]
        exact .refused before after handler _ tasks waiting (by simp) rfl
  | processed position =>
      obtain ⟨before, handler, after, chosen, tasks, rfl, processing, rfl⟩ :=
        serverStep_processed server parser state.server next position moved
      have found : state.server.handlers[before.length]? = some handler := by
        simp [tasks]
      simp only [RunState.afterTask, found, Option.toList_some]
      exact .finished before after handler chosen _ tasks processing (by simp)
        rfl
  | served position =>
      rw [serverStep_served server parser state.server next position moved]
      exact .quiet _ rfl rfl
  | signal =>
      rw [serverStep_signal server parser state.server next moved]
      exact .quiet _ rfl rfl
  | trackerClosed => cases canMove
  | drained => cases canMove

theorem runStep_cases (server : Server) (parser : TlsParser)
    (state next : RunState) (event : RunEvent)
    (moved : runStep server parser state event = some next) :
    RunStep server state next := by
  cases event with
  | loopSpawned =>
      simp only [runStep] at moved
      split at moved <;> cases moved
      rename_i guards
      exact .loopSpawned guards.1 guards.2
  | cancelled =>
      simp only [runStep] at moved
      split at moved <;> cases moved
      rename_i guards
      exact .cancelled guards.1 guards.2.1
  | closed =>
      simp only [runStep] at moved
      split at moved
      · rename_i main
        obtain ⟨after, closing, rfl⟩ := Option.map_eq_some_iff.mp moved
        obtain ⟨_, rfl⟩ :=
          serverStep_trackerClosed server parser state.server after closing
        exact .closed _ main rfl rfl
      · cases moved
  | waited =>
      simp only [runStep] at moved
      split at moved <;> cases moved
      rename_i guards
      obtain ⟨main, waited⟩ := guards
      rw [TaskTracker.waited, Bool.and_eq_true, decide_eq_true_eq] at waited
      exact .returned main waited.2
  | task event =>
      simp only [runStep] at moved
      split at moved
      · rename_i canMove
        obtain ⟨after, stepped, rfl⟩ := Option.map_eq_some_iff.mp moved
        exact runStep_task_cases server parser state event after canMove stepped
      · cases moved

def runningLoops (loops : Nat → LoopPhase) (spawned : Nat) : Nat :=
  ((Finset.range spawned).filter (fun listener =>
    loops listener ≠ .ended)).card

theorem runningLoops_succ (loops : Nat → LoopPhase) (spawned : Nat)
    (starting : loops spawned = .starting) :
    runningLoops loops (spawned + 1) = runningLoops loops spawned + 1 := by
  have running : loops spawned ≠ .ended := by simp [starting]
  rw [runningLoops, Finset.range_add_one, Finset.filter_insert, if_pos running,
    Finset.card_insert_of_notMem (by simp), runningLoops]

theorem runningLoops_begun (loops : Nat → LoopPhase) (spawned listener : Nat)
    (starting : loops listener = .starting) :
    runningLoops (Function.update loops listener .accepting) spawned =
      runningLoops loops spawned := by
  rw [runningLoops, runningLoops]
  congr 1
  apply Finset.filter_congr
  intro other _
  by_cases same : other = listener
  · subst same
    simp [starting]
  · simp [Function.update_of_ne same]

theorem runningLoops_ended (loops : Nat → LoopPhase) (spawned listener : Nat)
    (inside : listener < spawned) (running : loops listener ≠ .ended) :
    runningLoops (Function.update loops listener .ended) spawned + 1 =
      runningLoops loops spawned := by
  have member : listener ∈ (Finset.range spawned).filter (fun other =>
      loops other ≠ .ended) := by simp [inside, running]
  have erased : (Finset.range spawned).filter (fun other =>
      Function.update loops listener .ended other ≠ .ended) =
      ((Finset.range spawned).filter (fun other =>
        loops other ≠ .ended)).erase listener := by
    ext other
    by_cases same : other = listener
    · subst same
      simp
    · simp [same]
  rw [runningLoops, erased, Finset.card_erase_add_one member, runningLoops]

theorem runningLoops_eq_zero_iff (loops : Nat → LoopPhase) (spawned : Nat) :
    runningLoops loops spawned = 0 ↔
      ∀ listener, listener < spawned → loops listener = .ended := by
  simp [runningLoops, Finset.filter_eq_empty_iff]

/-! ### What the tracker counts -/

def Handler.isProcessing (handler : Handler) : Bool :=
  handler.processing.isSome

/-- The tracker counts the loops that run and the handlers that live; who has
begun has finished or is still at it; and after the return there is neither a
loop nor a handler. -/
structure RunState.Counted (server : Server) (state : RunState) : Prop where
  tasks :
    state.tracker.live =
      runningLoops state.server.loops state.spawned +
        state.server.handlers.length
  unspawned :
    ∀ listener, state.spawned ≤ listener →
      state.server.loops listener = .starting
  complete : state.main ≠ .starting → state.spawned = server.proxies.length
  ledger :
    state.begun.Perm
      (state.finished ++ state.server.handlers.filter Handler.isProcessing)
  returned :
    state.main = .returned →
      runningLoops state.server.loops state.spawned = 0 ∧
        state.server.handlers = []

theorem RunState.start_counted (server : Server) :
    (RunState.start server).Counted server :=
  { tasks := rfl
    unspawned := fun _ _ => rfl
    complete := fun later => absurd rfl later
    ledger := List.Perm.refl _
    returned := fun later => by cases later }

theorem RunState.Counted.of_same {server : Server} {state : RunState}
    (counted : state.Counted server) (next : ServerState)
    (loops : next.loops = state.server.loops)
    (handlers : next.handlers = state.server.handlers) :
    RunState.Counted server { state with server := next } :=
  { tasks := by rw [loops, handlers]; exact counted.tasks
    unspawned := by rw [loops]; exact counted.unspawned
    complete := counted.complete
    ledger := by rw [handlers]; exact counted.ledger
    returned := by rw [loops, handlers]; exact counted.returned }

theorem RunState.Counted.spawned_of_running {server : Server} {state : RunState}
    (counted : state.Counted server) (listener : Nat)
    (known : state.server.loops listener ≠ .starting ∨
      listener < state.spawned) : listener < state.spawned := by
  rcases known with begun | spawned
  · by_contra outside
    exact begun (counted.unspawned listener (Nat.le_of_not_lt outside))
  · exact spawned

theorem RunState.Counted.not_returned {server : Server} {state : RunState}
    (counted : state.Counted server) (listener : Nat)
    (inside : listener < state.spawned)
    (running : state.server.loops listener ≠ .ended) :
    state.main ≠ .returned := by
  intro main
  have ended := (runningLoops_eq_zero_iff _ _).mp (counted.returned main).1
  exact running (ended listener inside)

theorem RunState.Counted.not_returned_of_handler {server : Server}
    {state : RunState} (counted : state.Counted server) (handler : Handler)
    (member : handler ∈ state.server.handlers) : state.main ≠ .returned := by
  intro main
  rw [(counted.returned main).2] at member
  cases member

theorem RunState.Counted.unspawned_update {server : Server} {state : RunState}
    (counted : state.Counted server) (listener : Nat)
    (spawned : listener < state.spawned) (phase : LoopPhase) (other : Nat)
    (outside : state.spawned ≤ other) :
    Function.update state.server.loops listener phase other = .starting := by
  rw [Function.update_of_ne (by omega)]
  exact counted.unspawned other outside

theorem RunState.Counted.ledger_waiting {server : Server} {state : RunState}
    (counted : state.Counted server) (before after : List Handler)
    (handler : Handler)
    (tasks : state.server.handlers = before ++ handler :: after)
    (waiting : handler.processing = none) :
    state.begun.Perm
      (state.finished ++ (before ++ after).filter Handler.isProcessing) := by
  have idle : ¬ Handler.isProcessing handler = true := by
    simp [Handler.isProcessing, waiting]
  have ledger := counted.ledger
  rw [tasks, List.filter_append, List.filter_cons_of_neg idle] at ledger
  rw [List.filter_append]
  exact ledger

theorem RunState.Counted.ledger_done {server : Server} {state : RunState}
    (counted : state.Counted server) (before after : List Handler)
    (handler : Handler) (chosen : Upstream × Dispatch)
    (tasks : state.server.handlers = before ++ handler :: after)
    (processing : handler.processing = some chosen) :
    state.begun.Perm
      ((state.finished ++ [handler]) ++
        (before ++ after).filter Handler.isProcessing) := by
  have busy : Handler.isProcessing handler = true := by
    simp [Handler.isProcessing, processing]
  have ledger := counted.ledger
  rw [tasks, List.filter_append, List.filter_cons_of_pos busy] at ledger
  rw [List.filter_append, List.append_assoc]
  exact ledger.trans (List.Perm.append_left _ List.perm_middle)

theorem RunState.Counted.handler_left {server : Server} {state : RunState}
    (counted : state.Counted server) (before after : List Handler)
    (handler : Handler) (next : ServerState) (finished : List Handler)
    (tasks : state.server.handlers = before ++ handler :: after)
    (loops : next.loops = state.server.loops)
    (handlers : next.handlers = before ++ after)
    (ledger : state.begun.Perm
      (finished ++ (before ++ after).filter Handler.isProcessing)) :
    RunState.Counted server
      { state with
        server := next
        tracker := state.tracker.finish
        finished := finished } := by
  have live : state.main ≠ .returned :=
    counted.not_returned_of_handler handler (by simp [tasks])
  refine ⟨?_, ?_, counted.complete, ?_, fun main => absurd main live⟩
  · have count := counted.tasks
    rw [tasks, List.length_append, List.length_cons] at count
    dsimp only [TaskTracker.finish]
    rw [loops, handlers, List.length_append]
    omega
  · dsimp only
    rw [loops]
    exact counted.unspawned
  · dsimp only
    rw [handlers]
    exact ledger

theorem runStep_counted (server : Server) (state next : RunState)
    (step : RunStep server state next) (counted : state.Counted server) :
    next.Counted server := by
  have tasks := counted.tasks
  cases step with
  | loopSpawned main more =>
      have starting := counted.unspawned state.spawned (Nat.le_refl _)
      refine ⟨?_, ?_, fun later => absurd main later, counted.ledger,
        fun later => by rw [main] at later; cases later⟩
      · dsimp only [TaskTracker.spawn]
        rw [runningLoops_succ _ _ starting]
        omega
      · intro listener outside
        exact counted.unspawned listener (Nat.le_of_succ_le outside)
  | cancelled main complete =>
      exact ⟨tasks, counted.unspawned, fun _ => complete, counted.ledger,
        fun later => by cases later⟩
  | closed after main loops handlers =>
      have same := counted.of_same after loops handlers
      exact ⟨same.tasks, same.unspawned,
        fun _ => counted.complete (by simp [main]), same.ledger,
        fun later => by cases later⟩
  | returned main idle =>
      refine ⟨tasks, counted.unspawned,
        fun _ => counted.complete (by simp [main]), counted.ledger, fun _ => ?_⟩
      rw [idle] at tasks
      have nothing : runningLoops state.server.loops state.spawned = 0 ∧
          state.server.handlers.length = 0 := by omega
      exact ⟨nothing.1, List.eq_nil_of_length_eq_zero nothing.2⟩
  | listening listener after spawned starting loops handlers =>
      have running : state.server.loops listener ≠ .ended := by simp [starting]
      refine ⟨?_, ?_, counted.complete, ?_, fun main =>
        absurd main (counted.not_returned listener spawned running)⟩
      · dsimp only
        rw [loops, handlers, runningLoops_begun _ _ _ starting]
        exact tasks
      · dsimp only
        rw [loops]
        exact counted.unspawned_update listener spawned _
      · dsimp only
        rw [handlers]
        exact counted.ledger
  | loopEnded listener after running known loops handlers =>
      have spawned := counted.spawned_of_running listener known
      refine ⟨?_, ?_, counted.complete, ?_, fun main =>
        absurd main (counted.not_returned listener spawned running)⟩
      · dsimp only [TaskTracker.finish]
        have ended := runningLoops_ended _ _ listener spawned running
        rw [loops, handlers]
        omega
      · dsimp only
        rw [loops]
        exact counted.unspawned_update listener spawned _
      · dsimp only
        rw [handlers]
        exact counted.ledger
  | quiet after loops handlers => exact counted.of_same after loops handlers
  | spawned listener handler after configured accepting waiting loops handlers =>
      have inside := counted.spawned_of_running listener
        (Or.inl (by simp [accepting]))
      have running : state.server.loops listener ≠ .ended := by simp [accepting]
      refine ⟨?_, ?_, counted.complete, ?_, fun main =>
        absurd main (counted.not_returned listener inside running)⟩
      · dsimp only [TaskTracker.spawn]
        rw [loops, handlers, List.length_append, List.length_singleton]
        omega
      · dsimp only
        rw [loops]
        exact counted.unspawned
      · have idle : [handler].filter Handler.isProcessing = [] := by
          simp [Handler.isProcessing, waiting]
        dsimp only
        rw [handlers, List.filter_append, idle, List.append_nil]
        exact counted.ledger
  | begun before after handler chosen later held waiting loops handlers =>
      have ledger := counted.ledger_waiting before after handler held waiting
      refine ⟨?_, ?_, counted.complete, ?_, fun main =>
        absurd main (counted.not_returned_of_handler handler (by simp [held]))⟩
      · dsimp only
        rw [loops, handlers]
        rw [held] at tasks
        simpa using tasks
      · dsimp only
        rw [loops]
        exact counted.unspawned
      · -- The handler enters the ledger on both sides.
        dsimp only
        rw [handlers, List.filter_append, List.filter_cons_of_pos rfl]
        refine (ledger.append_right _).trans ?_
        rw [List.filter_append, List.append_assoc, List.append_assoc]
        exact List.Perm.append_left _
          (List.Perm.append_left _ (List.perm_append_singleton _ _))
  | refused before after handler later held waiting loops handlers =>
      exact counted.handler_left before after handler later state.finished held
        loops handlers
        (counted.ledger_waiting before after handler held waiting)
  | finished before after handler chosen later held processing loops handlers =>
      exact counted.handler_left before after handler later _ held loops
        handlers
        (counted.ledger_done before after handler chosen held processing)

theorem reachable_counted (server : Server) (parser : TlsParser)
    (state : RunState)
    (reached : Reachable (runStep server parser) (RunState.start server) state) :
    state.Counted server :=
  reached.invariant _ (RunState.start_counted server)
    (fun before event after moved holds =>
      runStep_counted server before after
        (runStep_cases server parser before after event moved) holds)

theorem reachable_server (server : Server) (parser : TlsParser)
    (state : RunState)
    (reached : Reachable (runStep server parser) (RunState.start server) state) :
    Reachable (serverStep server parser) server.start state.server := by
  refine reached.invariant
    (fun state => Reachable (serverStep server parser) server.start state.server)
    (Reachable.refl _ _) ?_
  intro before event after moved earlier
  cases event with
  | loopSpawned =>
      simp only [runStep] at moved
      split at moved <;> cases moved
      exact earlier
  | cancelled =>
      simp only [runStep] at moved
      split at moved <;> cases moved
      exact earlier
  | closed =>
      simp only [runStep] at moved
      split at moved
      · obtain ⟨next, closing, rfl⟩ := Option.map_eq_some_iff.mp moved
        exact earlier.tail closing
      · cases moved
  | waited =>
      simp only [runStep] at moved
      split at moved <;> cases moved
      exact earlier
  | task event =>
      simp only [runStep] at moved
      split at moved
      · obtain ⟨next, stepped, rfl⟩ := Option.map_eq_some_iff.mp moved
        have same : (before.afterTask server event next).server = next := by
          unfold RunState.afterTask
          repeat' split
          all_goals rfl
        rw [same]
        exact earlier.tail stepped
      · cases moved

/-! ### After the return -/

theorem RunState.Counted.quiet {server : Server} {state : RunState}
    (counted : state.Counted server) (main : state.main = .returned) :
    (∀ listener, listener < server.proxies.length →
      state.server.loops listener = .ended) ∧ state.server.handlers = [] := by
  obtain ⟨ended, idle⟩ := counted.returned main
  refine ⟨?_, idle⟩
  rw [← counted.complete (by simp [main])]
  exact (runningLoops_eq_zero_iff _ _).mp ended

theorem runStep_after_return (server : Server) (state next : RunState)
    (step : RunStep server state next) (counted : state.Counted server)
    (main : state.main = .returned) :
    next.main = .returned ∧ next.begun = state.begun := by
  cases step with
  | loopSpawned starting more => exact ⟨main, rfl⟩
  | cancelled starting complete =>
      rw [main] at starting
      cases starting
  | closed after closing loops handlers =>
      rw [main] at closing
      cases closing
  | returned waiting idle => exact ⟨rfl, rfl⟩
  | listening listener after spawned starting loops handlers =>
      exact ⟨main, rfl⟩
  | loopEnded listener after running known loops handlers => exact ⟨main, rfl⟩
  | quiet after loops handlers => exact ⟨main, rfl⟩
  | spawned listener handler after configured accepting waiting loops handlers =>
      exact ⟨main, rfl⟩
  | begun before after handler chosen later tasks waiting loops handlers =>
      exact absurd main
        (counted.not_returned_of_handler handler (by simp [tasks]))
  | refused before after handler later tasks waiting loops handlers =>
      exact ⟨main, rfl⟩
  | finished before after handler chosen later tasks processing loops handlers =>
      exact ⟨main, rfl⟩

theorem reachable_after_return (server : Server) (parser : TlsParser)
    (state later : RunState) (counted : state.Counted server)
    (main : state.main = .returned)
    (continued : Reachable (runStep server parser) state later) :
    later.server.handlers = [] ∧ later.begun = state.begun := by
  obtain ⟨holds, returned, same⟩ := continued.invariant
    (fun after => after.Counted server ∧ after.main = .returned ∧
      after.begun = state.begun) ⟨counted, main, rfl⟩ (by
        rintro before event after moved ⟨holds, returned, same⟩
        have step := runStep_cases server parser before after event moved
        obtain ⟨still, unchanged⟩ :=
          runStep_after_return server before after step holds returned
        exact ⟨runStep_counted server before after step holds, still,
          unchanged.trans same⟩)
  exact ⟨(holds.returned returned).2, same⟩

/-- The upstream is one whose processing the handler waits for to its end: ban,
echo or proxy. -/
def Handler.isAwaited (handler : Handler) : Bool :=
  handler.processing.any (fun chosen => !chosen.1.isHealth)

/-- `run` returns when every loop has ended and no handler lives, none is
spawned any more, and every connection that ban, echo or proxy upstreams began
to process has been finished. -/
theorem run_returns_drained (server : Server) (parser : TlsParser)
    (state : RunState)
    (reached : Reachable (runStep server parser) (RunState.start server) state)
    (returned : state.main = .returned) :
    (∀ listener, listener < server.proxies.length →
      state.server.loops listener = .ended) ∧
    state.server.handlers = [] ∧
    (∀ later, Reachable (runStep server parser) state later →
      later.server.handlers = [] ∧ later.begun = state.begun) ∧
    (state.begun.filter Handler.isAwaited).Perm
      (state.finished.filter Handler.isAwaited) := by
  have counted := reachable_counted server parser state reached
  obtain ⟨ended, idle⟩ := counted.quiet returned
  refine ⟨ended, idle, fun later =>
    reachable_after_return server parser state later counted returned, ?_⟩
  have ledger := counted.ledger
  rw [idle, List.filter_nil, List.append_nil] at ledger
  exact ledger.filter _

theorem run_returns_drained_after_late_client :
    ∃ server state,
      Server.fromParsedConfig AddrText.std
        (loopbackConfig ["127.0.0.1:9001"] none) = some server ∧
      Reachable (runStep server TlsParser.refusing) (RunState.start server)
        state ∧
      state.begun.length = 2 ∧
      ((∀ listener, listener < server.proxies.length →
        state.server.loops listener = .ended) ∧
      state.server.handlers = [] ∧
      (∀ later, Reachable (runStep server TlsParser.refusing) state later →
        later.server.handlers = [] ∧ later.begun = state.begun) ∧
      (state.begun.filter Handler.isAwaited).Perm
        (state.finished.filter Handler.isAwaited)) := by
  let config := loopbackConfig ["127.0.0.1:9001"] none
  let server : Server :=
    { proxies := (rawProxies AddrText.std config.servers).map (fun proxy =>
        { proxy with upstream := sharedUpstream AddrText.std config }) }
  have drained : Reachable (runStep server TlsParser.refusing)
      (RunState.start server) _ :=
    ⟨[.loopSpawned, .task (.started 0 (.ok ())),
      .task (.accepted 0 (.ok quietConnection)), .task (.dispatched 0),
      .task .signal, .cancelled, .closed, .task (.processed 0),
      .task (.accepted 0 (.ok quietConnection)), .task (.stopped 0),
      .task (.dispatched 0), .task (.processed 0), .waited], rfl⟩
  exact ⟨server, _, rfl, drained, rfl,
    run_returns_drained server TlsParser.refusing _ drained rfl⟩

end TlsProxyTunnel
