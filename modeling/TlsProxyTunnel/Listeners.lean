/-
The running server: listeners that admit connections, handlers that process
them, and the shutdown.

Every task of the runtime is in the state, and an event says which of them
moves next, so a statement about all runs is one about all interleavings.
-/

import TlsProxyTunnel.Library.Transition
import TlsProxyTunnel.Accept

namespace TlsProxyTunnel

structure Connection where
  peerAddr : Except IoError Unit
  peek : Except IoError Bytes

/-- The task spawned for a connection.  `processing` is the upstream it has
been handed to, once `accept` has chosen one. -/
structure Handler where
  listener : Nat
  connection : Connection
  permit : Option Semaphore
  processing : Option (Upstream × Dispatch)

inductive LoopPhase where
  | starting
  | accepting
  | ended
  deriving DecidableEq, Repr

/-- `detached` are the health connections whose handler has already returned;
`rejected` is kept for the statements only. -/
structure ServerState where
  loops : Nat → LoopPhase
  available : Semaphore → Nat
  handlers : List Handler
  detached : List (Nat × Connection)
  rejected : List (Nat × Connection)
  cancelled : Bool
  trackerClosed : Bool
  returned : Bool

def Server.start (server : Server) : ServerState :=
  { loops := fun _ => .starting
    available := fun semaphore =>
      match server.proxies[semaphore.index]? with
      | some proxy => proxy.maxclientsLimit
      | none => 0
    handlers := []
    detached := []
    rejected := []
    cancelled := false
    trackerClosed := false
    returned := false }

def Proxy.knownProtocol (proxy : Proxy) : Bool :=
  proxy.protocol = "tcp" ∨ proxy.protocol = "tcp4" ∨ proxy.protocol = "tcp6"

def ServerState.beginLoop (state : ServerState) (listener : Nat) : ServerState :=
  { state with loops := Function.update state.loops listener .accepting }

def ServerState.endLoop (state : ServerState) (listener : Nat) : ServerState :=
  { state with loops := Function.update state.loops listener .ended }

def ServerState.spawn (state : ServerState) (listener : Nat)
    (connection : Connection) (permit : Option Semaphore) : ServerState :=
  { state with
    handlers := state.handlers ++
      [{ listener := listener
         connection := connection
         permit := permit
         processing := none }] }

def ServerState.acquire (state : ServerState) (semaphore : Semaphore) :
    ServerState :=
  { state with
    available := Function.update state.available semaphore
      (state.available semaphore - 1) }

def ServerState.release (state : ServerState) (permit : Option Semaphore) :
    ServerState :=
  match permit with
  | some semaphore =>
      { state with
        available := Function.update state.available semaphore
          (state.available semaphore + 1) }
  | none => state

def ServerState.onAccept (state : ServerState) (listener : Nat) (proxy : Proxy)
    (connection : Connection) : ServerState :=
  if proxy.isHealthServer then
    state.spawn listener connection none
  else if 0 < state.available proxy.maxclients then
    (state.acquire proxy.maxclients).spawn listener connection
      (some proxy.maxclients)
  else
    { state with rejected := state.rejected ++ [(listener, connection)] }

inductive ServerEvent where
  | started (listener : Nat) (bind : Except IoError Unit)
  | accepted (listener : Nat) (result : Attempt Connection)
  | stopped (listener : Nat)
  | dispatched (position : Nat)
  | processed (position : Nat)
  | served (position : Nat)
  | signal
  | trackerClosed
  | drained

/-- One step of the process; `none` where nothing like it can happen.  A
cancelled listener may still accept: the two arms of its `select!` are both
ready then. -/
def serverStep (server : Server) (parser : TlsParser) (state : ServerState)
    (event : ServerEvent) : Option ServerState :=
  if state.returned then none
  else
    match event with
    | .started listener bind =>
        match server.proxies[listener]?, state.loops listener with
        | some proxy, .starting =>
            match proxy.knownProtocol, bind with
            | true, .ok () => some (state.beginLoop listener)
            | _, _ => some (state.endLoop listener)
        | _, _ => none
    | .accepted listener result =>
        match server.proxies[listener]?, state.loops listener with
        | some proxy, .accepting =>
            match result with
            | .ok connection => some (state.onAccept listener proxy connection)
            | .wouldBlock => some state
            | .failed _ => some (state.endLoop listener)
        | _, _ => none
    | .stopped listener =>
        if state.loops listener = .accepting ∧ state.cancelled = true then
          some (state.endLoop listener)
        else
          none
    | .dispatched position =>
        match state.handlers.splitAt position with
        | (before, handler :: after) =>
            match handler.processing, server.proxies[handler.listener]? with
            | none, some proxy =>
                match proxy.accept parser handler.connection.peerAddr
                    handler.connection.peek with
                | .ok chosen =>
                    some
                      { state with
                        handlers := before ++
                          { handler with processing := some chosen } :: after }
                | .error _ =>
                    some
                      { state.release handler.permit with
                        handlers := before ++ after }
            | _, _ => none
        | (_, []) => none
    | .processed position =>
        match state.handlers.splitAt position with
        | (before, handler :: after) =>
            match handler.processing with
            | some (upstream, _) =>
                some
                  { state.release handler.permit with
                    handlers := before ++ after
                    detached :=
                      if upstream.isHealth then
                        state.detached ++
                          [(handler.listener, handler.connection)]
                      else
                        state.detached }
            | none => none
        | (_, []) => none
    | .served position =>
        if position < state.detached.length then
          some { state with detached := state.detached.eraseIdx position }
        else
          none
    | .signal => some { state with cancelled := true }
    | .trackerClosed =>
        if state.cancelled then some { state with trackerClosed := true }
        else none
    | .drained =>
        if state.trackerClosed = true ∧ state.handlers.isEmpty = true ∧
            (List.range server.proxies.length).all (fun listener =>
              state.loops listener = .ended) = true then
          some { state with returned := true }
        else
          none

/-! ### What one step can do -/

inductive ServerStep (server : Server) (parser : TlsParser)
    (state : ServerState) : ServerState → Prop where
  | listening (listener : Nat) (proxy : Proxy)
      (configured : server.proxies[listener]? = some proxy)
      (starting : state.loops listener = .starting)
      (known : proxy.knownProtocol = true) :
      ServerStep server parser state (state.beginLoop listener)
  | loopEnded (listener : Nat) (running : state.loops listener ≠ .ended) :
      ServerStep server parser state (state.endLoop listener)
  | idle : ServerStep server parser state state
  | admitted (listener : Nat) (proxy : Proxy) (connection : Connection)
      (configured : server.proxies[listener]? = some proxy)
      (accepting : state.loops listener = .accepting) :
      ServerStep server parser state (state.onAccept listener proxy connection)
  | dispatched (before after : List Handler) (handler : Handler)
      (proxy : Proxy) (chosen : Upstream × Dispatch)
      (tasks : state.handlers = before ++ handler :: after)
      (waiting : handler.processing = none)
      (configured : server.proxies[handler.listener]? = some proxy)
      (routed : proxy.accept parser handler.connection.peerAddr
        handler.connection.peek = .ok chosen) :
      ServerStep server parser state
        { state with
          handlers := before ++
            { handler with processing := some chosen } :: after }
  | refused (before after : List Handler) (handler : Handler)
      (tasks : state.handlers = before ++ handler :: after)
      (waiting : handler.processing = none) :
      ServerStep server parser state
        { state.release handler.permit with handlers := before ++ after }
  | processed (before after : List Handler) (handler : Handler)
      (chosen : Upstream × Dispatch)
      (tasks : state.handlers = before ++ handler :: after)
      (processing : handler.processing = some chosen) :
      ServerStep server parser state
        { state.release handler.permit with
          handlers := before ++ after
          detached :=
            if chosen.1.isHealth then
              state.detached ++ [(handler.listener, handler.connection)]
            else
              state.detached }
  | served (position : Nat) :
      ServerStep server parser state
        { state with detached := state.detached.eraseIdx position }
  | signal : ServerStep server parser state { state with cancelled := true }
  | trackerClosed (cancelled : state.cancelled = true) :
      ServerStep server parser state { state with trackerClosed := true }
  | drained (closed : state.trackerClosed = true)
      (idleTasks : state.handlers = [])
      (ended : ∀ listener, listener < server.proxies.length →
        state.loops listener = .ended) :
      ServerStep server parser state { state with returned := true }

theorem splitAt_eq_cons {α : Type} (items before after : List α) (item : α)
    (position : Nat)
    (split : items.splitAt position = (before, item :: after)) :
    items = before ++ item :: after ∧ before.length = position := by
  rw [List.splitAt_eq, Prod.mk.injEq] at split
  have inside : position < items.length := by
    by_contra outside
    rw [List.drop_eq_nil_of_le (Nat.le_of_not_lt outside)] at split
    cases split.2
  refine ⟨by rw [← split.1, ← split.2, List.take_append_drop], ?_⟩
  rw [← split.1, List.length_take, Nat.min_eq_left (Nat.le_of_lt inside)]

section Events

variable (server : Server) (parser : TlsParser) (state next : ServerState)

theorem serverStep_started (listener : Nat) (bind : Except IoError Unit)
    (moved : serverStep server parser state (.started listener bind) =
      some next) :
    ∃ proxy, server.proxies[listener]? = some proxy ∧
      state.loops listener = .starting ∧
      (proxy.knownProtocol = true ∧ bind = .ok () ∧
          next = state.beginLoop listener ∨
        ¬ (proxy.knownProtocol = true ∧ bind = .ok ()) ∧
          next = state.endLoop listener) := by
  unfold serverStep at moved
  split at moved
  · cases moved
  simp only at moved
  split at moved
  · rename_i proxy configured starting
    refine ⟨proxy, configured, starting, ?_⟩
    split at moved <;> cases moved
    · rename_i known
      exact Or.inl ⟨known, rfl, rfl⟩
    · rename_i other
      exact Or.inr ⟨fun both => other both.1 both.2, rfl⟩
  · cases moved

theorem serverStep_accepted (listener : Nat) (result : Attempt Connection)
    (moved : serverStep server parser state (.accepted listener result) =
      some next) :
    ∃ proxy, server.proxies[listener]? = some proxy ∧
      state.loops listener = .accepting ∧
      ((∃ connection, result = .ok connection ∧
          next = state.onAccept listener proxy connection) ∨
        result = .wouldBlock ∧ next = state ∨
        (∃ error, result = .failed error) ∧ next = state.endLoop listener) := by
  unfold serverStep at moved
  split at moved
  · cases moved
  simp only at moved
  split at moved
  · rename_i proxy configured accepting
    refine ⟨proxy, configured, accepting, ?_⟩
    cases result with
    | ok connection =>
        cases moved
        exact Or.inl ⟨connection, rfl, rfl⟩
    | wouldBlock =>
        cases moved
        exact Or.inr (Or.inl ⟨rfl, rfl⟩)
    | failed error =>
        cases moved
        exact Or.inr (Or.inr ⟨⟨error, rfl⟩, rfl⟩)
  · cases moved

theorem serverStep_stopped (listener : Nat)
    (moved : serverStep server parser state (.stopped listener) = some next) :
    state.loops listener = .accepting ∧ state.cancelled = true ∧
      next = state.endLoop listener := by
  unfold serverStep at moved
  split at moved
  · cases moved
  simp only at moved
  split at moved <;> cases moved
  rename_i both
  exact ⟨both.1, both.2, rfl⟩

theorem serverStep_dispatched (position : Nat)
    (moved : serverStep server parser state (.dispatched position) =
      some next) :
    ∃ before handler after proxy,
      state.handlers = before ++ handler :: after ∧
      before.length = position ∧ handler.processing = none ∧
      server.proxies[handler.listener]? = some proxy ∧
      ((∃ chosen, proxy.accept parser handler.connection.peerAddr
            handler.connection.peek = .ok chosen ∧
          next =
            { state with
              handlers := before ++
                { handler with processing := some chosen } :: after }) ∨
        ∃ error, proxy.accept parser handler.connection.peerAddr
            handler.connection.peek = .error error ∧
          next =
            { state.release handler.permit with
              handlers := before ++ after }) := by
  unfold serverStep at moved
  split at moved
  · cases moved
  simp only at moved
  split at moved
  · rename_i before handler after split_
    obtain ⟨tasks, length⟩ := splitAt_eq_cons _ _ _ _ _ split_
    split at moved
    · rename_i proxy waiting configured
      refine ⟨before, handler, after, proxy, tasks, length, waiting, configured,
        ?_⟩
      split at moved <;> cases moved
      · rename_i chosen routed
        exact Or.inl ⟨chosen, routed, rfl⟩
      · rename_i error refused
        exact Or.inr ⟨error, refused, rfl⟩
    · cases moved
  · cases moved

theorem serverStep_processed (position : Nat)
    (moved : serverStep server parser state (.processed position) =
      some next) :
    ∃ before handler after chosen,
      state.handlers = before ++ handler :: after ∧
      before.length = position ∧ handler.processing = some chosen ∧
      next =
        { state.release handler.permit with
          handlers := before ++ after
          detached :=
            if chosen.1.isHealth then
              state.detached ++ [(handler.listener, handler.connection)]
            else
              state.detached } := by
  unfold serverStep at moved
  split at moved
  · cases moved
  simp only at moved
  split at moved
  · rename_i before handler after split_
    obtain ⟨tasks, length⟩ := splitAt_eq_cons _ _ _ _ _ split_
    split at moved <;> cases moved
    rename_i upstream dispatch processing
    exact ⟨before, handler, after, (upstream, dispatch), tasks, length,
      processing, rfl⟩
  · cases moved

theorem serverStep_served (position : Nat)
    (moved : serverStep server parser state (.served position) = some next) :
    next = { state with detached := state.detached.eraseIdx position } := by
  unfold serverStep at moved
  split at moved
  · cases moved
  simp only at moved
  split at moved <;> cases moved
  rfl

theorem serverStep_signal
    (moved : serverStep server parser state .signal = some next) :
    next = { state with cancelled := true } := by
  unfold serverStep at moved
  split at moved <;> cases moved
  rfl

theorem serverStep_trackerClosed
    (moved : serverStep server parser state .trackerClosed = some next) :
    state.cancelled = true ∧ next = { state with trackerClosed := true } := by
  unfold serverStep at moved
  split at moved
  · cases moved
  simp only at moved
  split at moved <;> cases moved
  rename_i cancelled
  exact ⟨cancelled, rfl⟩

theorem serverStep_drained
    (moved : serverStep server parser state .drained = some next) :
    (state.trackerClosed = true ∧ state.handlers = [] ∧
      ∀ listener, listener < server.proxies.length →
        state.loops listener = .ended) ∧
      next = { state with returned := true } := by
  unfold serverStep at moved
  split at moved
  · cases moved
  simp only at moved
  split at moved <;> cases moved
  rename_i guards
  obtain ⟨closed, idle, ended⟩ := guards
  exact ⟨⟨closed, List.isEmpty_iff.mp idle, by simpa using ended⟩, rfl⟩

end Events

theorem serverStep_cases (server : Server) (parser : TlsParser)
    (state next : ServerState) (event : ServerEvent)
    (moved : serverStep server parser state event = some next) :
    ServerStep server parser state next := by
  cases event with
  | started listener bind =>
      obtain ⟨proxy, configured, starting, ⟨known, _, rfl⟩ | ⟨_, rfl⟩⟩ :=
        serverStep_started server parser state next listener bind moved
      · exact .listening listener proxy configured starting known
      · exact .loopEnded listener (by simp [starting])
  | accepted listener result =>
      obtain ⟨proxy, configured, accepting,
        ⟨connection, _, rfl⟩ | ⟨_, rfl⟩ | ⟨_, rfl⟩⟩ :=
        serverStep_accepted server parser state next listener result moved
      · exact .admitted listener proxy connection configured accepting
      · exact .idle
      · exact .loopEnded listener (by simp [accepting])
  | stopped listener =>
      obtain ⟨accepting, _, rfl⟩ :=
        serverStep_stopped server parser state next listener moved
      exact .loopEnded listener (by simp [accepting])
  | dispatched position =>
      obtain ⟨before, handler, after, proxy, tasks, _, waiting, configured,
        ⟨chosen, routed, rfl⟩ | ⟨_, _, rfl⟩⟩ :=
        serverStep_dispatched server parser state next position moved
      · exact .dispatched before after handler proxy chosen tasks waiting
          configured routed
      · exact .refused before after handler tasks waiting
  | processed position =>
      obtain ⟨before, handler, after, chosen, tasks, _, processing, rfl⟩ :=
        serverStep_processed server parser state next position moved
      exact .processed before after handler chosen tasks processing
  | served position =>
      rw [serverStep_served server parser state next position moved]
      exact .served position
  | signal =>
      rw [serverStep_signal server parser state next moved]
      exact .signal
  | trackerClosed =>
      obtain ⟨cancelled, rfl⟩ :=
        serverStep_trackerClosed server parser state next moved
      exact .trackerClosed cancelled
  | drained =>
      obtain ⟨⟨closed, idle, ended⟩, rfl⟩ :=
        serverStep_drained server parser state next moved
      exact .drained closed idle ended

@[simp] theorem ServerState.release_loops (state : ServerState)
    (permit : Option Semaphore) :
    (state.release permit).loops = state.loops := by
  cases permit <;> rfl

@[simp] theorem ServerState.release_rejected (state : ServerState)
    (permit : Option Semaphore) :
    (state.release permit).rejected = state.rejected := by
  cases permit <;> rfl

theorem ServerState.onAccept_cases (state : ServerState) (listener : Nat)
    (proxy : Proxy) (connection : Connection) :
    (proxy.isHealthServer = true ∧
      state.onAccept listener proxy connection =
        state.spawn listener connection none) ∨
    (proxy.isHealthServer = false ∧ 0 < state.available proxy.maxclients ∧
      state.onAccept listener proxy connection =
        (state.acquire proxy.maxclients).spawn listener connection
          (some proxy.maxclients)) ∨
    (proxy.isHealthServer = false ∧ state.available proxy.maxclients = 0 ∧
      state.onAccept listener proxy connection =
        { state with rejected := state.rejected ++ [(listener, connection)] }) := by
  unfold ServerState.onAccept
  cases health : proxy.isHealthServer with
  | true => exact Or.inl ⟨rfl, rfl⟩
  | false =>
      refine Or.inr ?_
      by_cases room : 0 < state.available proxy.maxclients
      · exact Or.inl ⟨rfl, room, by simp [room]⟩
      · exact Or.inr ⟨rfl, by omega, by simp [room]⟩

@[simp] theorem ServerState.onAccept_loops (state : ServerState) (listener : Nat)
    (proxy : Proxy) (connection : Connection) :
    (state.onAccept listener proxy connection).loops = state.loops := by
  rcases state.onAccept_cases listener proxy connection with
    ⟨_, outcome⟩ | ⟨_, _, outcome⟩ | ⟨_, _, outcome⟩ <;> rw [outcome] <;> rfl

end TlsProxyTunnel
