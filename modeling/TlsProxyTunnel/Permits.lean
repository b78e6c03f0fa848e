/-
Which connections hold a permit.

A permit is taken before the first byte of a connection is read, by every
handler of a listener whose default action is not health.  Permits are
conserved: what is free and what handlers hold adds up to the limit.
-/

import TlsProxyTunnel.Listeners

namespace TlsProxyTunnel

open Transition

def ServerState.held (state : ServerState) (semaphore : Semaphore) : Nat :=
  state.handlers.countP (fun handler => handler.permit = some semaphore)

def Proxy.permit (proxy : Proxy) : Option Semaphore :=
  if proxy.isHealthServer then none else some proxy.maxclients

/-- A handler belongs to a listener that runs, holds that listener's permit and
processes what `accept` chose for its connection. -/
def Handler.Admitted (server : Server) (parser : TlsParser) (handler : Handler) :
    Prop :=
  ∃ proxy, server.proxies[handler.listener]? = some proxy ∧
    proxy.knownProtocol = true ∧ handler.permit = proxy.permit ∧
    ∀ chosen, handler.processing = some chosen →
      proxy.accept parser handler.connection.peerAddr
        handler.connection.peek = .ok chosen

structure ServerState.Accounted (server : Server) (parser : TlsParser)
    (state : ServerState) : Prop where
  listening :
    ∀ listener, state.loops listener = .accepting →
      ∃ proxy, server.proxies[listener]? = some proxy ∧
        proxy.knownProtocol = true
  handlers :
    ∀ handler, handler ∈ state.handlers → handler.Admitted server parser
  permits :
    ∀ semaphore, state.available semaphore + state.held semaphore =
      server.start.available semaphore
  rejections :
    ∀ entry, entry ∈ state.rejected →
      ∃ proxy, server.proxies[entry.1]? = some proxy ∧
        proxy.knownProtocol = true ∧ proxy.isHealthServer = false

theorem Server.start_accounted (server : Server) (parser : TlsParser) :
    server.start.Accounted server parser :=
  { listening := by simp [Server.start]
    handlers := by simp [Server.start]
    permits := fun semaphore => by simp [Server.start, ServerState.held]
    rejections := by simp [Server.start] }

def ServerState.admits (state : ServerState) (proxy : Proxy) : Bool :=
  proxy.isHealthServer || 0 < state.available proxy.maxclients

theorem ServerState.onAccept_handlers (state : ServerState) (listener : Nat)
    (proxy : Proxy) (connection : Connection) :
    (state.onAccept listener proxy connection).handlers =
      state.handlers ++
        if state.admits proxy = true then
          [{ listener := listener
             connection := connection
             permit := proxy.permit
             processing := none }]
        else
          [] := by
  rcases state.onAccept_cases listener proxy connection with
    ⟨health, outcome⟩ | ⟨ordinary, room, outcome⟩ | ⟨ordinary, full, outcome⟩
  · rw [outcome]
    simp [ServerState.admits, health, ServerState.spawn, Proxy.permit]
  · rw [outcome]
    simp [ServerState.admits, ordinary, room, ServerState.spawn, Proxy.permit,
      ServerState.acquire]
  · rw [outcome]
    simp [ServerState.admits, ordinary, full]

theorem ServerState.onAccept_rejected (state : ServerState) (listener : Nat)
    (proxy : Proxy) (connection : Connection) :
    (state.onAccept listener proxy connection).rejected =
      state.rejected ++
        if state.admits proxy = true then [] else [(listener, connection)] := by
  rcases state.onAccept_cases listener proxy connection with
    ⟨health, outcome⟩ | ⟨_, room, outcome⟩ | ⟨ordinary, full, outcome⟩
  · rw [outcome]
    simp [ServerState.admits, health, ServerState.spawn]
  · rw [outcome]
    simp [ServerState.admits, room, ServerState.spawn, ServerState.acquire]
  · rw [outcome]
    simp [ServerState.admits, ordinary, full]

/-! ### Conservation -/

theorem ServerState.held_spawn (state : ServerState) (listener : Nat)
    (connection : Connection) (permit : Option Semaphore)
    (semaphore : Semaphore) :
    (state.spawn listener connection permit).held semaphore =
      state.held semaphore + if permit = some semaphore then 1 else 0 := by
  simp [ServerState.held, ServerState.spawn, List.countP_append,
    List.countP_singleton]

theorem ServerState.available_acquire (state : ServerState)
    (taken semaphore : Semaphore) (room : 0 < state.available taken) :
    (state.acquire taken).available semaphore +
        (if some taken = some semaphore then 1 else 0) =
      state.available semaphore := by
  by_cases same : taken = semaphore
  · subst same
    simp only [ServerState.acquire, Function.update_self, if_pos]
    omega
  · simp [ServerState.acquire, Function.update_of_ne (Ne.symm same), same]

theorem ServerState.available_release (state : ServerState)
    (permit : Option Semaphore) (semaphore : Semaphore) :
    (state.release permit).available semaphore =
      state.available semaphore + if permit = some semaphore then 1 else 0 := by
  cases permit with
  | none => simp [ServerState.release]
  | some dropped =>
      by_cases same : dropped = semaphore
      · subst same
        simp [ServerState.release]
      · simp [ServerState.release, Function.update_of_ne (Ne.symm same), same]

theorem ServerState.held_removed (state : ServerState)
    (before after : List Handler) (handler : Handler)
    (tasks : state.handlers = before ++ handler :: after)
    (semaphore : Semaphore) :
    state.held semaphore =
      (before ++ after).countP (fun other => other.permit = some semaphore) +
        if handler.permit = some semaphore then 1 else 0 := by
  simp only [ServerState.held, tasks, List.countP_append, List.countP_cons,
    decide_eq_true_eq]
  omega

theorem ServerState.permits_removed (state : ServerState)
    (before after : List Handler) (handler : Handler)
    (tasks : state.handlers = before ++ handler :: after)
    (semaphore : Semaphore) :
    (state.release handler.permit).available semaphore +
        (before ++ after).countP
          (fun other => other.permit = some semaphore) =
      state.available semaphore + state.held semaphore := by
  have removed := state.held_removed before after handler tasks semaphore
  have returned := state.available_release handler.permit semaphore
  omega

theorem ServerState.mem_of_mem_removed (state : ServerState)
    (before after : List Handler) (leaving handler : Handler)
    (tasks : state.handlers = before ++ leaving :: after)
    (member : handler ∈ before ++ after) : handler ∈ state.handlers := by
  rw [tasks]
  rcases List.mem_append.mp member with early | late
  · exact List.mem_append_left _ early
  · exact List.mem_append_right _ (List.mem_cons_of_mem _ late)

theorem ServerState.held_replaced (state : ServerState)
    (before after : List Handler) (handler replacement : Handler)
    (tasks : state.handlers = before ++ handler :: after)
    (same : replacement.permit = handler.permit) (semaphore : Semaphore) :
    (before ++ replacement :: after).countP
        (fun other => other.permit = some semaphore) =
      state.held semaphore := by
  simp only [ServerState.held, tasks, List.countP_append, List.countP_cons, same]

theorem serverStep_permits (server : Server) (parser : TlsParser)
    (state next : ServerState) (step : ServerStep server parser state next)
    (semaphore : Semaphore) :
    next.available semaphore + next.held semaphore =
      state.available semaphore + state.held semaphore := by
  cases step with
  | listening listener proxy configured starting known => rfl
  | loopEnded listener running => rfl
  | idle => rfl
  | admitted listener proxy connection configured accepting =>
      rcases state.onAccept_cases listener proxy connection with
        ⟨_, outcome⟩ | ⟨_, room, outcome⟩ | ⟨_, _, outcome⟩
      · rw [outcome, ServerState.held_spawn]
        simp [ServerState.spawn]
      · rw [outcome, ServerState.held_spawn]
        have taken := state.available_acquire proxy.maxclients semaphore room
        change (state.acquire proxy.maxclients).available semaphore +
          (state.held semaphore + _) = _
        omega
      · rw [outcome]
        rfl
  | dispatched before after handler proxy chosen tasks waiting configured
      routed =>
      have kept := state.held_replaced before after handler
        { handler with processing := some chosen } tasks rfl semaphore
      change state.available semaphore + _ = _
      exact congrArg _ kept
  | refused before after handler tasks waiting =>
      exact state.permits_removed before after handler tasks semaphore
  | processed before after handler chosen tasks processing =>
      exact state.permits_removed before after handler tasks semaphore
  | served position => rfl
  | signal => rfl
  | trackerClosed cancelled => rfl
  | drained closed idleTasks ended => rfl

theorem serverStep_listening (server : Server) (parser : TlsParser)
    (state next : ServerState) (step : ServerStep server parser state next)
    (listener : Nat) (accepting : next.loops listener = .accepting) :
    state.loops listener = .accepting ∨
      ∃ proxy, server.proxies[listener]? = some proxy ∧
        proxy.knownProtocol = true := by
  cases step with
  | listening started proxy configured starting known =>
      by_cases same : listener = started
      · subst same
        exact Or.inr ⟨proxy, configured, known⟩
      · simp only [ServerState.beginLoop, Function.update_of_ne same]
          at accepting
        exact Or.inl accepting
  | loopEnded ended running =>
      by_cases same : listener = ended
      · subst same
        simp [ServerState.endLoop] at accepting
      · simp only [ServerState.endLoop, Function.update_of_ne same] at accepting
        exact Or.inl accepting
  | admitted opened proxy connection configured accepts =>
      rw [ServerState.onAccept_loops] at accepting
      exact Or.inl accepting
  | refused before after handler tasks waiting =>
      simp only [ServerState.release_loops] at accepting
      exact Or.inl accepting
  | processed before after handler chosen tasks processing =>
      simp only [ServerState.release_loops] at accepting
      exact Or.inl accepting
  | idle => exact Or.inl accepting
  | dispatched before after handler proxy chosen tasks waiting configured
      routed => exact Or.inl accepting
  | served position => exact Or.inl accepting
  | signal => exact Or.inl accepting
  | trackerClosed cancelled => exact Or.inl accepting
  | drained closed idleTasks ended => exact Or.inl accepting

/-- A handler after a step was there before, has just been spawned, or has just
been handed to the upstream chosen for it. -/
theorem serverStep_handler (server : Server) (parser : TlsParser)
    (state next : ServerState) (step : ServerStep server parser state next)
    (handler : Handler) (member : handler ∈ next.handlers) :
    handler ∈ state.handlers ∨
    (∃ proxy, server.proxies[handler.listener]? = some proxy ∧
      state.loops handler.listener = .accepting ∧
      handler.permit = proxy.permit ∧ handler.processing = none) ∨
    (∃ waiting proxy chosen, waiting ∈ state.handlers ∧
      server.proxies[waiting.listener]? = some proxy ∧
      proxy.accept parser waiting.connection.peerAddr waiting.connection.peek =
        .ok chosen ∧
      handler = { waiting with processing := some chosen }) := by
  cases step with
  | admitted listener proxy connection configured accepting =>
      have spawned (admitting : ServerState) (permit : Option Semaphore)
          (same : admitting.handlers = state.handlers)
          (own : permit = proxy.permit)
          (inside : handler ∈
            (admitting.spawn listener connection permit).handlers) :
          handler ∈ state.handlers ∨
            ∃ proxy, server.proxies[handler.listener]? = some proxy ∧
              state.loops handler.listener = .accepting ∧
              handler.permit = proxy.permit ∧ handler.processing = none := by
        rw [ServerState.spawn, same] at inside
        rcases List.mem_append.mp inside with old | new
        · exact Or.inl old
        · rw [List.mem_singleton.mp new]
          exact Or.inr ⟨proxy, configured, accepting, own, rfl⟩
      refine or_assoc.mp (Or.inl ?_)
      rcases state.onAccept_cases listener proxy connection with
        ⟨health, outcome⟩ | ⟨health, _, outcome⟩ | ⟨_, _, outcome⟩
      · rw [outcome] at member
        exact spawned state none rfl (by simp [Proxy.permit, health]) member
      · rw [outcome] at member
        exact spawned _ _ rfl (by simp [Proxy.permit, health]) member
      · rw [outcome] at member
        exact Or.inl member
  | dispatched before after waiting proxy chosen tasks idle configured routed =>
      rw [tasks]
      simp only [List.mem_append, List.mem_cons] at member ⊢
      rcases member with early | same | late
      · exact Or.inl (Or.inl early)
      · exact Or.inr (Or.inr ⟨waiting, proxy, chosen, by simp, configured,
          routed, same⟩)
      · exact Or.inl (Or.inr (Or.inr late))
  | refused before after leaving tasks waiting =>
      exact Or.inl
        (state.mem_of_mem_removed before after leaving handler tasks member)
  | processed before after leaving chosen tasks processing =>
      exact Or.inl
        (state.mem_of_mem_removed before after leaving handler tasks member)
  | listening listener proxy configured starting known => exact Or.inl member
  | loopEnded listener running => exact Or.inl member
  | idle => exact Or.inl member
  | served position => exact Or.inl member
  | signal => exact Or.inl member
  | trackerClosed cancelled => exact Or.inl member
  | drained closed idleTasks ended => exact Or.inl member

theorem serverStep_rejection (server : Server) (parser : TlsParser)
    (state next : ServerState) (step : ServerStep server parser state next)
    (entry : Nat × Connection) (member : entry ∈ next.rejected) :
    entry ∈ state.rejected ∨
      ∃ proxy, server.proxies[entry.1]? = some proxy ∧
        state.loops entry.1 = .accepting ∧ proxy.isHealthServer = false := by
  cases step with
  | admitted listener proxy connection configured accepting =>
      rcases state.onAccept_cases listener proxy connection with
        ⟨_, outcome⟩ | ⟨_, _, outcome⟩ | ⟨ordinary, _, outcome⟩ <;>
        rw [outcome] at member
      · exact Or.inl member
      · exact Or.inl member
      · rcases List.mem_append.mp member with old | new
        · exact Or.inl old
        · rw [List.mem_singleton.mp new]
          exact Or.inr ⟨proxy, configured, accepting, ordinary⟩
  | refused before after handler tasks waiting =>
      simp only [ServerState.release_rejected] at member
      exact Or.inl member
  | processed before after handler chosen tasks processing =>
      simp only [ServerState.release_rejected] at member
      exact Or.inl member
  | listening listener proxy configured starting known => exact Or.inl member
  | loopEnded listener running => exact Or.inl member
  | idle => exact Or.inl member
  | dispatched before after handler proxy chosen tasks waiting configured
      routed => exact Or.inl member
  | served position => exact Or.inl member
  | signal => exact Or.inl member
  | trackerClosed cancelled => exact Or.inl member
  | drained closed idleTasks ended => exact Or.inl member

theorem serverStep_accounted (server : Server) (parser : TlsParser)
    (state next : ServerState) (step : ServerStep server parser state next)
    (before : state.Accounted server parser) :
    next.Accounted server parser := by
  have listening (listener : Nat)
      (accepting : state.loops listener = .accepting) (proxy : Proxy)
      (configured : server.proxies[listener]? = some proxy) :
      proxy.knownProtocol = true := by
    obtain ⟨same, found, known⟩ := before.listening listener accepting
    rw [configured, Option.some.injEq] at found
    rw [found]
    exact known
  refine ⟨?_, ?_, ?_, ?_⟩
  · intro listener accepting
    rcases serverStep_listening server parser state next step listener accepting
      with already | started
    · exact before.listening listener already
    · exact started
  · intro handler member
    rcases serverStep_handler server parser state next step handler member with
      old | ⟨proxy, configured, accepting, permit, idle⟩ |
        ⟨waiting, proxy, chosen, old, configured, routed, rfl⟩
    · exact before.handlers handler old
    · refine ⟨proxy, configured, listening _ accepting proxy configured, permit,
        ?_⟩
      intro chosen processing
      rw [idle] at processing
      cases processing
    · obtain ⟨same, found, known, permit, _⟩ := before.handlers waiting old
      rw [configured, Option.some.injEq] at found
      subst found
      refine ⟨proxy, configured, known, permit, ?_⟩
      intro upstream processing
      cases processing
      exact routed
  · intro semaphore
    rw [serverStep_permits server parser state next step semaphore]
    exact before.permits semaphore
  · intro entry member
    rcases serverStep_rejection server parser state next step entry member with
      old | ⟨proxy, configured, accepting, ordinary⟩
    · exact before.rejections entry old
    · exact ⟨proxy, configured, listening _ accepting proxy configured,
        ordinary⟩

theorem reachable_accounted (server : Server) (parser : TlsParser)
    (state : ServerState)
    (reached : Reachable (serverStep server parser) server.start state) :
    state.Accounted server parser :=
  reached.invariant _ (server.start_accounted parser)
    (fun before event after moved holds =>
      serverStep_accounted server parser before after
        (serverStep_cases server parser before after event moved) holds)

end TlsProxyTunnel
