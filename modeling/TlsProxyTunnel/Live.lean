/-
The server with its connections: every handler that was given an upstream of
kind `Proxy` runs a session, beside the loops, the other handlers and the main
task.

The tasks of a run are told apart from what they do: seen without the sessions
the live server takes the steps of a run, and each session takes the steps it
would take alone.
-/

import TlsProxyTunnel.Session
import TlsProxyTunnel.Shutdown
import TlsProxyTunnel.Permits

namespace TlsProxyTunnel

open Transition

/-- What a handler meets behind `process`: the sockets of both peers, the
network, and what the cache of the upstream holds by then, which handlers of
the same upstream share. -/
structure Meeting where
  inbound : Socket
  outbound : Socket
  cache : UpstreamAddress
  dial : Dial
  outboundNodelay : Except IoError Unit
  inboundNodelay : Except IoError Unit

def Meeting.call (meeting : Meeting) (runtime : Runtime)
    (config : ProxyToUpstream) (dispatch : Dispatch) : ProxyCall :=
  { upstream :=
      { config with
        addresses :=
          { meeting.cache with address := config.addresses.address } }
    runtime := runtime
    inbound := meeting.inbound
    via := dispatch.via
    connectTarget := dispatch.connectTarget
    dial := meeting.dial
    outboundNodelay := meeting.outboundNodelay
    inboundNodelay := meeting.inboundNodelay
    outbound := meeting.outbound }

structure LiveTask where
  call : ProxyCall
  session : Session

/-- `sessions` runs beside the list of handlers, with `none` for those that are
not in a session.  `opened` and `ended`, the sessions begun and those whose
handler has gone, are kept for the statements only. -/
structure LiveState where
  run : RunState
  sessions : List (Option LiveTask)
  opened : List ProxyCall
  ended : List (ProxyCall × ProxyRun)

def LiveState.start (server : Server) : LiveState :=
  { run := RunState.start server
    sessions := []
    opened := []
    ended := [] }

inductive LiveEvent where
  | run (event : RunEvent)
  | dispatched (position : Nat) (meeting : Meeting)
  | moved (position : Nat) (event : SessionEvent)

def Handler.process (runtime : Runtime) (handler : Handler)
    (meeting : Meeting) : Option LiveTask :=
  match handler.processing with
  | some (.proxy config, dispatch) =>
      some
        { call := meeting.call runtime config dispatch
          session := .dialling }
  | _ => none

def LiveTask.outcome (task : LiveTask) : Option (ProxyCall × ProxyRun) :=
  match task.session with
  | .returned run => some (task.call, run)
  | _ => none

/-- A handler is not done before its session is. -/
def LiveState.admits (state : LiveState) : RunEvent → Bool
  | .task (.dispatched _) => false
  | .task (.processed position) =>
      match state.sessions[position]? with
      | some (some task) => task.session.hasReturned
      | _ => true
  | _ => true

def LiveState.afterRun (state : LiveState) (event : RunEvent)
    (next : RunState) : LiveState :=
  match event with
  | .task (.accepted _ _) =>
      { state with
        run := next
        sessions :=
          if state.run.server.handlers.length < next.server.handlers.length then
            state.sessions ++ [none]
          else
            state.sessions }
  | .task (.processed position) =>
      { state with
        run := next
        sessions := state.sessions.eraseIdx position
        ended := state.ended ++
          (state.sessions[position]?.join.bind LiveTask.outcome).toList }
  | _ => { state with run := next }

def LiveState.afterDispatch (runtime : Runtime) (state : LiveState)
    (position : Nat) (meeting : Meeting) (next : RunState) : LiveState :=
  if next.server.handlers.length < state.run.server.handlers.length then
    { state with
      run := next
      sessions := state.sessions.eraseIdx position }
  else
    let task := next.server.handlers[position]?.bind (fun handler =>
      handler.process runtime meeting)
    { state with
      run := next
      sessions := state.sessions.set position task
      opened := state.opened ++ (task.map LiveTask.call).toList }

def liveStep (server : Server) (parser : TlsParser) (runtime : Runtime)
    (state : LiveState) (event : LiveEvent) : Option LiveState :=
  match event with
  | .run event =>
      if state.admits event then
        (runStep server parser state.run event).map (state.afterRun event)
      else
        none
  | .dispatched position meeting =>
      (runStep server parser state.run (.task (.dispatched position))).map
        (state.afterDispatch runtime position meeting)
  | .moved position event =>
      match state.sessions[position]? with
      | some (some task) =>
          (task.call.step task.session event).map (fun session =>
            { state with
              sessions := state.sessions.set position
                (some { task with session := session }) })
      | _ => none

/-! ### What one step can do -/

@[simp] theorem RunState.afterTask_server (server : Server) (state : RunState)
    (event : ServerEvent) (next : ServerState) :
    (state.afterTask server event next).server = next := by
  unfold RunState.afterTask
  repeat' split
  all_goals rfl

inductive LiveStep (runtime : Runtime) (state : LiveState) :
    LiveState → Prop where
  | quiet (next : RunState)
      (handlers : next.server.handlers = state.run.server.handlers) :
      LiveStep runtime state { state with run := next }
  | accepted (handler : Handler) (next : RunState)
      (waiting : handler.processing = none)
      (handlers : next.server.handlers =
        state.run.server.handlers ++ [handler]) :
      LiveStep runtime state
        { state with
          run := next
          sessions := state.sessions ++ [none] }
  | opened (before after : List Handler) (handler : Handler)
      (chosen : Upstream × Dispatch) (meeting : Meeting) (next : RunState)
      (tasks : state.run.server.handlers = before ++ handler :: after)
      (waiting : handler.processing = none)
      (handlers : next.server.handlers =
        before ++ { handler with processing := some chosen } :: after) :
      LiveStep runtime state
        { state with
          run := next
          sessions := state.sessions.set before.length
            (Handler.process runtime
              { handler with processing := some chosen } meeting)
          opened := state.opened ++
            ((Handler.process runtime
              { handler with processing := some chosen } meeting).map
                LiveTask.call).toList }
  | refused (before after : List Handler) (handler : Handler)
      (next : RunState)
      (tasks : state.run.server.handlers = before ++ handler :: after)
      (waiting : handler.processing = none)
      (handlers : next.server.handlers = before ++ after) :
      LiveStep runtime state
        { state with
          run := next
          sessions := state.sessions.eraseIdx before.length }
  | finished (before after : List Handler) (handler : Handler)
      (next : RunState)
      (tasks : state.run.server.handlers = before ++ handler :: after)
      (handlers : next.server.handlers = before ++ after)
      (done : ∀ task, state.sessions[before.length]? = some (some task) →
        task.session.hasReturned = true) :
      LiveStep runtime state
        { state with
          run := next
          sessions := state.sessions.eraseIdx before.length
          ended := state.ended ++
            (state.sessions[before.length]?.join.bind
              LiveTask.outcome).toList }
  | moved (position : Nat) (task : LiveTask) (session : Session)
      (event : SessionEvent)
      (found : state.sessions[position]? = some (some task))
      (step : task.call.step task.session event = some session) :
      LiveStep runtime state
        { state with
          sessions := state.sessions.set position
            (some { task with session := session }) }

theorem runStep_handlers (server : Server) (parser : TlsParser)
    (state next : RunState) (event : RunEvent)
    (moved : runStep server parser state event = some next)
    (main : ∀ task, event ≠ .task task) :
    next.server.handlers = state.server.handlers := by
  cases event with
  | loopSpawned =>
      simp only [runStep] at moved
      split at moved <;> cases moved
      rfl
  | cancelled =>
      simp only [runStep] at moved
      split at moved <;> cases moved
      rfl
  | closed =>
      simp only [runStep] at moved
      split at moved
      · obtain ⟨after, closing, rfl⟩ := Option.map_eq_some_iff.mp moved
        obtain ⟨_, rfl⟩ :=
          serverStep_trackerClosed server parser state.server after closing
        rfl
      · cases moved
  | waited =>
      simp only [runStep] at moved
      split at moved <;> cases moved
      rfl
  | task event => exact absurd rfl (main event)

theorem runStep_task (server : Server) (parser : TlsParser)
    (state next : RunState) (event : ServerEvent)
    (moved : runStep server parser state (.task event) = some next) :
    serverStep server parser state.server event = some next.server := by
  simp only [runStep] at moved
  split at moved
  · obtain ⟨after, stepped, rfl⟩ := Option.map_eq_some_iff.mp moved
    rw [RunState.afterTask_server]
    exact stepped
  · cases moved

theorem liveStep_task_cases (server : Server) (parser : TlsParser)
    (runtime : Runtime) (state : LiveState) (event : ServerEvent)
    (next : RunState) (admitted : state.admits (.task event) = true)
    (moved : runStep server parser state.run (.task event) = some next) :
    LiveStep runtime state (state.afterRun (.task event) next) := by
  have stepped := runStep_task server parser state.run next event moved
  cases event with
  | started listener bind =>
      obtain ⟨proxy, _, _, ⟨_, _, same⟩ | ⟨_, same⟩⟩ :=
        serverStep_started server parser _ _ listener bind stepped
      · exact .quiet next (by rw [same]; rfl)
      · exact .quiet next (by rw [same]; rfl)
  | accepted listener result =>
      obtain ⟨proxy, _, _, ⟨connection, _, same⟩ | ⟨_, same⟩ | ⟨_, same⟩⟩ :=
        serverStep_accepted server parser _ _ listener result stepped
      · have handlers := state.run.server.onAccept_handlers listener proxy
          connection
        rw [← same] at handlers
        simp only [LiveState.afterRun]
        split at handlers
        · rw [if_pos (by rw [handlers]; simp)]
          exact .accepted _ next rfl handlers
        · rw [List.append_nil] at handlers
          rw [if_neg (by rw [handlers]; exact Nat.lt_irrefl _)]
          exact .quiet next handlers
      · simp only [LiveState.afterRun]
        rw [if_neg (by rw [same]; exact Nat.lt_irrefl _)]
        exact .quiet next (by rw [same])
      · have kept : next.server.handlers = state.run.server.handlers := by
          rw [same]
          rfl
        simp only [LiveState.afterRun]
        rw [if_neg (by rw [kept]; exact Nat.lt_irrefl _)]
        exact .quiet next kept
  | stopped listener =>
      obtain ⟨_, _, same⟩ :=
        serverStep_stopped server parser _ _ listener stepped
      exact .quiet next (by rw [same]; rfl)
  | dispatched position => cases admitted
  | processed position =>
      obtain ⟨before, handler, after, chosen, tasks, rfl, _, same⟩ :=
        serverStep_processed server parser _ _ position stepped
      refine .finished before after handler next tasks (by rw [same]) ?_
      intro task found
      simp only [LiveState.admits, found] at admitted
      exact admitted
  | served position =>
      have same := serverStep_served server parser _ _ position stepped
      exact .quiet next (by rw [same])
  | signal =>
      have same := serverStep_signal server parser _ _ stepped
      exact .quiet next (by rw [same])
  | trackerClosed =>
      obtain ⟨_, same⟩ := serverStep_trackerClosed server parser _ _ stepped
      exact .quiet next (by rw [same])
  | drained =>
      obtain ⟨_, same⟩ := serverStep_drained server parser _ _ stepped
      exact .quiet next (by rw [same])

theorem liveStep_cases (server : Server) (parser : TlsParser)
    (runtime : Runtime) (state next : LiveState) (event : LiveEvent)
    (moved : liveStep server parser runtime state event = some next) :
    LiveStep runtime state next := by
  cases event with
  | run event =>
      simp only [liveStep] at moved
      split at moved
      · rename_i admitted
        obtain ⟨after, stepped, rfl⟩ := Option.map_eq_some_iff.mp moved
        cases event with
        | task event =>
            exact liveStep_task_cases server parser runtime state event after
              admitted stepped
        | loopSpawned =>
            exact .quiet after (runStep_handlers server parser _ _ _ stepped
              (by simp))
        | cancelled =>
            exact .quiet after (runStep_handlers server parser _ _ _ stepped
              (by simp))
        | closed =>
            exact .quiet after (runStep_handlers server parser _ _ _ stepped
              (by simp))
        | waited =>
            exact .quiet after (runStep_handlers server parser _ _ _ stepped
              (by simp))
      · cases moved
  | dispatched position meeting =>
      obtain ⟨after, stepped, rfl⟩ := Option.map_eq_some_iff.mp moved
      obtain ⟨before, handler, later, proxy, tasks, rfl, waiting, _,
        ⟨chosen, _, same⟩ | ⟨_, _, same⟩⟩ := serverStep_dispatched server
          parser _ _ position (runStep_task server parser _ _ _ stepped)
      · have handlers : after.server.handlers =
            before ++ { handler with processing := some chosen } :: later := by
          rw [same]
        have begun : LiveStep runtime state _ := .opened before later handler
          chosen meeting after tasks waiting handlers
        have kept : ¬ after.server.handlers.length <
            state.run.server.handlers.length := by simp [handlers, tasks]
        simp only [LiveState.afterDispatch, if_neg kept]
        simpa [handlers] using begun
      · have handlers : after.server.handlers = before ++ later := by
          rw [same]
        have shorter : after.server.handlers.length <
            state.run.server.handlers.length := by simp [handlers, tasks]
        simp only [LiveState.afterDispatch, if_pos shorter]
        exact .refused before later handler after tasks waiting handlers
  | moved position event =>
      simp only [liveStep] at moved
      split at moved
      · rename_i task found
        obtain ⟨session, stepped, rfl⟩ := Option.map_eq_some_iff.mp moved
        exact .moved position task session event found stepped
      · cases moved

theorem liveStep_run (server : Server) (parser : TlsParser) (runtime : Runtime)
    (state : LiveState) (event : LiveEvent) (next : LiveState)
    (moved : liveStep server parser runtime state event = some next) :
    Reachable (runStep server parser) state.run next.run := by
  cases event with
  | run event =>
      simp only [liveStep] at moved
      split at moved
      · obtain ⟨after, stepped, rfl⟩ := Option.map_eq_some_iff.mp moved
        have same : (state.afterRun event after).run = after := by
          unfold LiveState.afterRun
          split <;> rfl
        rw [same]
        exact (Reachable.refl _ _).tail stepped
      · cases moved
  | dispatched position meeting =>
      obtain ⟨after, stepped, rfl⟩ := Option.map_eq_some_iff.mp moved
      have same :
          (state.afterDispatch runtime position meeting after).run = after := by
        unfold LiveState.afterDispatch
        split <;> rfl
      rw [same]
      exact (Reachable.refl _ _).tail stepped
  | moved position event =>
      simp only [liveStep] at moved
      split at moved
      · obtain ⟨session, _, rfl⟩ := Option.map_eq_some_iff.mp moved
        exact Reachable.refl _ _
      · cases moved

theorem reachable_run (server : Server) (parser : TlsParser)
    (runtime : Runtime) (state : LiveState)
    (reached : Reachable (liveStep server parser runtime)
      (LiveState.start server) state) :
    Reachable (runStep server parser) (RunState.start server) state.run :=
  reached.simulated LiveState.run (liveStep_run server parser runtime)

section Pairs

variable {α β γ : Type} {related : α → β → Prop}

theorem forall₂_middle (before after : List α) (item : α) (paired : List β)
    (beside : List.Forall₂ related (before ++ item :: after) paired) :
    ∃ early partner late, paired = early ++ partner :: late ∧
      early.length = before.length ∧ List.Forall₂ related before early ∧
      related item partner ∧ List.Forall₂ related after late := by
  induction before generalizing paired with
  | nil =>
      cases beside with
      | cons here rest => exact ⟨[], _, _, rfl, rfl, .nil, here, rest⟩
  | cons first before ih =>
      cases beside with
      | cons here rest =>
          obtain ⟨early, partner, late, rfl, length, front, middle, back⟩ :=
            ih _ rest
          exact ⟨_ :: early, partner, late, rfl, by simp [length],
            .cons here front, middle, back⟩

theorem forall₂_set (items : List α) (paired : List β)
    (beside : List.Forall₂ related items paired) (position : Nat)
    (partner replaced : β) (found : paired[position]? = some partner)
    (carried : ∀ item, related item partner → related item replaced) :
    List.Forall₂ related items (paired.set position replaced) := by
  induction beside generalizing position with
  | nil => simp at found
  | cons here rest ih =>
      cases position with
      | zero =>
          rw [List.getElem?_cons_zero, Option.some.injEq] at found
          subst found
          exact .cons (carried _ here) rest
      | succ position =>
          rw [List.getElem?_cons_succ] at found
          exact .cons here (ih position found)

theorem filterMap_set (paired : List β) (position : Nat) (partner replaced : β)
    (found : paired[position]? = some partner) (view : β → Option γ)
    (same : view replaced = view partner) :
    (paired.set position replaced).filterMap view = paired.filterMap view := by
  induction paired generalizing position with
  | nil => simp at found
  | cons first rest ih =>
      cases position with
      | zero =>
          rw [List.getElem?_cons_zero, Option.some.injEq] at found
          subst found
          simp only [List.set_cons_zero, List.filterMap_cons, same]
      | succ position =>
          rw [List.getElem?_cons_succ] at found
          simp only [List.set_cons_succ, List.filterMap_cons,
            ih position found]

theorem eraseIdx_middle (early late : List β) (partner : β) :
    (early ++ partner :: late).eraseIdx early.length = early ++ late := by
  rw [List.eraseIdx_append_of_length_le (Nat.le_refl _), Nat.sub_self]
  rfl

theorem set_middle (early late : List β) (partner replaced : β) :
    (early ++ partner :: late).set early.length replaced =
      early ++ replaced :: late := by
  rw [List.set_append_right _ _ (Nat.le_refl _), Nat.sub_self]
  rfl

end Pairs

/-! ### Every session is one of its own -/

/-- A handler is in a session exactly while a `Proxy` upstream has its
connection, and the session has come where it is by its own steps alone. -/
def Handler.Serves (runtime : Runtime) (handler : Handler) :
    Option LiveTask → Prop
  | some task =>
      ∃ config dispatch meeting,
        handler.processing = some (.proxy config, dispatch) ∧
        task.call = Meeting.call meeting runtime config dispatch ∧
        Reachable task.call.step .dialling task.session
  | none =>
      ∀ config dispatch, handler.processing ≠ some (.proxy config, dispatch)

theorem Handler.process_serves (runtime : Runtime) (handler : Handler)
    (meeting : Meeting) :
    handler.Serves runtime (handler.process runtime meeting) := by
  unfold Handler.process
  split
  · rename_i config dispatch processing
    exact ⟨config, dispatch, meeting, processing, rfl, Reachable.refl _ _⟩
  · rename_i other
    intro config dispatch processing
    exact other config dispatch processing

def LiveState.live (state : LiveState) : List ProxyCall :=
  state.sessions.filterMap (fun task => task.map LiveTask.call)

/-- Whoever was opened has ended, in a run that its session returned, or is
still there. -/
structure LiveState.Paired (runtime : Runtime) (state : LiveState) : Prop where
  sessions :
    List.Forall₂ (Handler.Serves runtime) state.run.server.handlers
      state.sessions
  ledger : state.opened.Perm (state.ended.map Prod.fst ++ state.live)
  outcomes :
    ∀ call run, (call, run) ∈ state.ended →
      Reachable call.step .dialling (.returned run)

theorem LiveState.start_paired (server : Server) (runtime : Runtime) :
    (LiveState.start server).Paired runtime :=
  { sessions := .nil
    ledger := List.Perm.refl _
    outcomes := fun _ _ member => absurd member List.not_mem_nil }

theorem LiveTask.outcome_of_returned (task : LiveTask)
    (returned : task.session.hasReturned = true) :
    ∃ run, task.session = .returned run ∧
      task.outcome = some (task.call, run) := by
  unfold LiveTask.outcome
  cases session : task.session with
  | returned run => exact ⟨run, rfl, rfl⟩
  | dialling =>
      rw [session] at returned
      cases returned
  | handshaking request exchange =>
      rw [session] at returned
      cases returned
  | relaying requestSent relay =>
      rw [session] at returned
      cases returned

theorem Handler.Serves.idle {runtime : Runtime} {handler : Handler}
    {partner : Option LiveTask} (serves : handler.Serves runtime partner)
    (waiting : handler.processing = none) : partner = none := by
  cases partner with
  | none => rfl
  | some task =>
      obtain ⟨config, dispatch, _, processing, _⟩ := serves
      rw [waiting] at processing
      cases processing

section Steps

variable {runtime : Runtime} {state : LiveState}

theorem LiveState.Paired.opened (paired : state.Paired runtime)
    (before after : List Handler) (handler : Handler)
    (chosen : Upstream × Dispatch) (meeting : Meeting) (next : RunState)
    (tasks : state.run.server.handlers = before ++ handler :: after)
    (waiting : handler.processing = none)
    (handlers : next.server.handlers =
      before ++ { handler with processing := some chosen } :: after) :
    LiveState.Paired runtime
      { state with
        run := next
        sessions := state.sessions.set before.length
          (Handler.process runtime
            { handler with processing := some chosen } meeting)
        opened := state.opened ++
          ((Handler.process runtime
            { handler with processing := some chosen } meeting).map
              LiveTask.call).toList } := by
  obtain ⟨sessions, ledger, outcomes⟩ := paired
  rw [tasks] at sessions
  obtain ⟨early, partner, late, whole, length, front, middle, back⟩ :=
    forall₂_middle before after handler state.sessions sessions
  obtain rfl := middle.idle waiting
  rw [LiveState.live, whole] at ledger
  refine ⟨?_, ?_, outcomes⟩
  · dsimp only
    rw [handlers, whole, ← length, set_middle]
    exact List.rel_append front
      (.cons (Handler.process_serves runtime _ meeting) back)
  · unfold LiveState.live
    dsimp only
    rw [whole, ← length, set_middle]
    simp only [List.filterMap_append, List.filterMap_cons,
      Option.map_none] at ledger ⊢
    cases Handler.process runtime
        { handler with processing := some chosen } meeting with
    | none => simpa using ledger
    | some task =>
        simp only [Option.map_some, Option.toList_some]
        refine (ledger.append_right [task.call]).trans ?_
        rw [List.append_assoc, List.append_assoc]
        exact List.Perm.append_left _ (List.Perm.append_left _
          (List.perm_append_singleton _ _))

theorem LiveState.Paired.refused (paired : state.Paired runtime)
    (before after : List Handler) (handler : Handler) (next : RunState)
    (tasks : state.run.server.handlers = before ++ handler :: after)
    (waiting : handler.processing = none)
    (handlers : next.server.handlers = before ++ after) :
    LiveState.Paired runtime
      { state with
        run := next
        sessions := state.sessions.eraseIdx before.length } := by
  obtain ⟨sessions, ledger, outcomes⟩ := paired
  rw [tasks] at sessions
  obtain ⟨early, partner, late, whole, length, front, middle, back⟩ :=
    forall₂_middle before after handler state.sessions sessions
  obtain rfl := middle.idle waiting
  rw [LiveState.live, whole] at ledger
  refine ⟨?_, ?_, outcomes⟩
  · dsimp only
    rw [handlers, whole, ← length, eraseIdx_middle]
    exact List.rel_append front back
  · unfold LiveState.live
    dsimp only
    rw [whole, ← length, eraseIdx_middle]
    simpa using ledger

theorem LiveState.Paired.finished (paired : state.Paired runtime)
    (before after : List Handler) (handler : Handler) (next : RunState)
    (tasks : state.run.server.handlers = before ++ handler :: after)
    (handlers : next.server.handlers = before ++ after)
    (done : ∀ task, state.sessions[before.length]? = some (some task) →
      task.session.hasReturned = true) :
    LiveState.Paired runtime
      { state with
        run := next
        sessions := state.sessions.eraseIdx before.length
        ended := state.ended ++
          (state.sessions[before.length]?.join.bind
            LiveTask.outcome).toList } := by
  obtain ⟨sessions, ledger, outcomes⟩ := paired
  rw [tasks] at sessions
  obtain ⟨early, partner, late, whole, length, front, middle, back⟩ :=
    forall₂_middle before after handler state.sessions sessions
  have found : state.sessions[before.length]? = some partner := by
    rw [whole, ← length, List.getElem?_append_right (Nat.le_refl _),
      Nat.sub_self, List.getElem?_cons_zero]
  have kept : List.Forall₂ (Handler.Serves runtime)
      next.server.handlers (state.sessions.eraseIdx before.length) := by
    rw [handlers, whole, ← length, eraseIdx_middle]
    exact List.rel_append front back
  rw [found]
  cases partner with
  | none =>
      refine ⟨kept, ?_, ?_⟩
      · unfold LiveState.live at ledger ⊢
        dsimp only
        rw [whole] at ledger
        rw [whole, ← length, eraseIdx_middle]
        simpa using ledger
      · simpa using outcomes
  | some task =>
      obtain ⟨run, session, outcome⟩ :=
        task.outcome_of_returned (done task found)
      obtain ⟨_, _, _, _, _, reached⟩ := middle
      rw [session] at reached
      simp only [Option.join_some, Option.bind_some, outcome,
        Option.toList_some]
      refine ⟨kept, ?_, ?_⟩
      · unfold LiveState.live at ledger ⊢
        dsimp only
        rw [whole] at ledger
        rw [whole, ← length, eraseIdx_middle]
        simp only [List.map_append, List.map_cons, List.map_nil,
          List.filterMap_append, List.filterMap_cons,
          Option.map_some] at ledger ⊢
        refine ledger.trans ?_
        rw [List.append_assoc]
        exact List.Perm.append_left _ List.perm_middle
      · intro call result member
        rcases List.mem_append.mp member with earlier | last
        · exact outcomes call result earlier
        · obtain ⟨rfl, rfl⟩ := Prod.mk.inj (List.mem_singleton.mp last)
          exact reached

theorem LiveState.Paired.moved (paired : state.Paired runtime)
    (position : Nat) (task : LiveTask) (session : Session)
    (event : SessionEvent)
    (found : state.sessions[position]? = some (some task))
    (stepped : task.call.step task.session event = some session) :
    LiveState.Paired runtime
      { state with
        sessions := state.sessions.set position
          (some { task with session := session }) } := by
  obtain ⟨sessions, ledger, outcomes⟩ := paired
  refine ⟨?_, ?_, outcomes⟩
  · refine forall₂_set _ _ sessions position _ _ found ?_
    rintro handler ⟨config, dispatch, meeting, processing, call, reached⟩
    exact ⟨config, dispatch, meeting, processing, call,
      reached.tail stepped⟩
  · unfold LiveState.live at ledger ⊢
    dsimp only
    rw [filterMap_set _ position _ _ found _ (by rfl)]
    exact ledger

end Steps

theorem liveStep_paired (runtime : Runtime) (state next : LiveState)
    (step : LiveStep runtime state next) (paired : state.Paired runtime) :
    next.Paired runtime := by
  cases step with
  | quiet after handlers =>
      refine ⟨?_, paired.ledger, paired.outcomes⟩
      dsimp only
      rw [handlers]
      exact paired.sessions
  | accepted handler after waiting handlers =>
      refine ⟨?_, ?_, paired.outcomes⟩
      · dsimp only
        rw [handlers]
        refine List.rel_append paired.sessions (.cons ?_ .nil)
        intro config dispatch processing
        rw [waiting] at processing
        cases processing
      · simpa [LiveState.live] using paired.ledger
  | opened before later handler chosen meeting after tasks waiting handlers =>
      exact paired.opened before later handler chosen meeting after tasks waiting
        handlers
  | refused before later handler after tasks waiting handlers =>
      exact paired.refused before later handler after tasks waiting handlers
  | finished before later handler after tasks handlers done =>
      exact paired.finished before later handler after tasks handlers done
  | moved position task session event found stepped =>
      exact paired.moved position task session event found stepped

theorem reachable_paired (server : Server) (parser : TlsParser)
    (runtime : Runtime) (state : LiveState)
    (reached : Reachable (liveStep server parser runtime)
      (LiveState.start server) state) : state.Paired runtime :=
  reached.invariant _ (LiveState.start_paired server runtime)
    (fun before event after moved holds =>
      liveStep_paired runtime before after
        (liveStep_cases server parser runtime before after event moved) holds)

theorem LiveState.Paired.at_position {runtime : Runtime} {state : LiveState}
    (paired : state.Paired runtime) (position : Nat) (partner : Option LiveTask)
    (found : state.sessions[position]? = some partner) :
    ∃ handler, state.run.server.handlers[position]? = some handler ∧
      handler.Serves runtime partner := by
  obtain ⟨inside, here⟩ := List.getElem?_eq_some_iff.mp found
  have within : position < state.run.server.handlers.length := by
    rw [paired.sessions.length_eq]
    exact inside
  refine ⟨state.run.server.handlers[position],
    List.getElem?_eq_getElem within, ?_⟩
  have beside := List.forall₂_iff_get.mp paired.sessions
  have serves := beside.2 position within inside
  rw [← here]
  exact serves

/-- In every interleaving of all listeners, handlers and sockets, a session
belongs to one client, goes to the upstream that `accept` routes this client
to, and does what it would do if it were alone: nothing of another connection
gets into it or out of it. -/
theorem live_sessions_isolated (server : Server) (parser : TlsParser)
    (runtime : Runtime) (state : LiveState)
    (reached : Reachable (liveStep server parser runtime)
      (LiveState.start server) state)
    (position : Nat) (task : LiveTask)
    (found : state.sessions[position]? = some (some task)) :
    ∃ handler proxy config dispatch meeting,
      state.run.server.handlers[position]? = some handler ∧
      server.proxies[handler.listener]? = some proxy ∧
      proxy.accept parser handler.connection.peerAddr
          handler.connection.peek = .ok (.proxy config, dispatch) ∧
      task.call = Meeting.call meeting runtime config dispatch ∧
      Reachable task.call.step .dialling task.session ∧
      task.call.InOrder task.session.observed := by
  have paired := reachable_paired server parser runtime state reached
  obtain ⟨handler, here, config, dispatch, meeting, processing, call, stepped⟩ :=
    paired.at_position position (some task) found
  have accounted := reachable_accounted server parser state.run.server
    (reachable_server server parser state.run
      (reachable_run server parser runtime state reached))
  obtain ⟨proxy, configured, _, _, routed⟩ := accounted.handlers handler
    (List.mem_of_getElem? here)
  exact ⟨handler, proxy, config, dispatch, meeting, here, configured,
    routed _ processing, call, stepped,
    task.call.observed_inOrder task.session
      (task.call.reachable_explains task.session stepped)⟩

def directListener : Proxy :=
  { corpListener "corp_proxy" with
    tls := false
    sni := none
    via := { corpVia with useSniAsTarget := false } }

def directServer : Server :=
  { proxies := [directListener] }

def greetedMeeting : Meeting :=
  { inbound := greetedClient
    outbound := { reads := [.data 104 (asBytes "ello")], writes := [] }
    cache := corpProxy.addresses
    dial := (greetingProxy []).dial
    outboundNodelay := .ok ()
    inboundNodelay := .ok () }

theorem live_sessions_isolated_of_two :
    ∃ (state : LiveState) (task : LiveTask),
      Reachable (liveStep directServer TlsParser.refusing bareRuntime)
        (LiveState.start directServer) state ∧
      state.sessions.length = 2 ∧
      task.session.observed.forwarded = stream greetedClient.reads ∧
      ∃ handler proxy config dispatch meeting,
        state.run.server.handlers[0]? = some handler ∧
        directServer.proxies[handler.listener]? = some proxy ∧
        proxy.accept TlsParser.refusing handler.connection.peerAddr
            handler.connection.peek = .ok (.proxy config, dispatch) ∧
        task.call = Meeting.call meeting bareRuntime config dispatch ∧
        Reachable task.call.step .dialling task.session ∧
        task.call.InOrder task.session.observed := by
  have reached : Reachable
      (liveStep directServer TlsParser.refusing bareRuntime)
      (LiveState.start directServer) _ :=
    ⟨[.run .loopSpawned, .run (.task (.started 0 (.ok ()))),
      .run (.task (.accepted 0 (.ok quietConnection))),
      .dispatched 0 greetedMeeting,
      .run (.task (.accepted 0 (.ok quietConnection))),
      .dispatched 1 greetedMeeting,
      .moved 0 .advanced, .moved 1 .advanced, .moved 0 (.polled .first),
      .moved 0 (.polled .first)], rfl⟩
  exact ⟨_, _, reached, rfl, rfl,
    live_sessions_isolated directServer TlsParser.refusing bareRuntime _
      reached 0 _ rfl⟩

end TlsProxyTunnel
