/-
How long a listener goes on accepting.

Rejections, handlers and whatever becomes of them leave the accept loop alone.
An error of `accept` itself ends it for good, whether it concerns one connection
that was aborted or a process that is out of file descriptors for a moment.
-/

import TlsProxyTunnel.Exemption

namespace TlsProxyTunnel

open Transition

variable (server : Server) (parser : TlsParser)

theorem serverStep_loop (state next : ServerState) (event : ServerEvent)
    (moved : serverStep server parser state event = some next)
    (listener : Nat) :
    next.loops listener = state.loops listener ∨
    ((∃ bind, event = .started listener bind) ∧
      state.loops listener = .starting) ∨
    (((∃ error, event = .accepted listener (.failed error)) ∨
        state.cancelled = true) ∧
      state.loops listener = .accepting ∧ next.loops listener = .ended) := by
  cases event with
  | started starting bind =>
      obtain ⟨proxy, _, waiting, outcome⟩ :=
        serverStep_started server parser state next starting bind moved
      by_cases same : listener = starting
      · subst same
        exact Or.inr (Or.inl ⟨⟨bind, rfl⟩, waiting⟩)
      · rcases outcome with ⟨_, _, rfl⟩ | ⟨_, rfl⟩
        · exact Or.inl (Function.update_of_ne same _ _)
        · exact Or.inl (Function.update_of_ne same _ _)
  | accepted accepting result =>
      obtain ⟨proxy, _, running, ⟨connection, _, rfl⟩ | ⟨_, rfl⟩ |
        ⟨⟨error, rfl⟩, rfl⟩⟩ :=
        serverStep_accepted server parser state next accepting result moved
      · exact Or.inl (by simp)
      · exact Or.inl rfl
      · by_cases same : listener = accepting
        · subst same
          exact Or.inr (Or.inr ⟨Or.inl ⟨error, rfl⟩, running,
            Function.update_self listener _ _⟩)
        · exact Or.inl (Function.update_of_ne same _ _)
  | stopped stopping =>
      obtain ⟨running, cancelled, rfl⟩ :=
        serverStep_stopped server parser state next stopping moved
      by_cases same : listener = stopping
      · subst same
        exact Or.inr (Or.inr ⟨Or.inr cancelled, running,
          Function.update_self listener _ _⟩)
      · exact Or.inl (Function.update_of_ne same _ _)
  | dispatched position =>
      obtain ⟨_, _, _, _, _, _, _, _, ⟨_, _, rfl⟩ | ⟨_, _, rfl⟩⟩ :=
        serverStep_dispatched server parser state next position moved
      · exact Or.inl rfl
      · exact Or.inl (by simp)
  | processed position =>
      obtain ⟨_, _, _, _, _, _, _, rfl⟩ :=
        serverStep_processed server parser state next position moved
      exact Or.inl (by simp)
  | served position =>
      rw [serverStep_served server parser state next position moved]
      exact Or.inl rfl
  | signal =>
      rw [serverStep_signal server parser state next moved]
      exact Or.inl rfl
  | trackerClosed =>
      obtain ⟨_, rfl⟩ := serverStep_trackerClosed server parser state next moved
      exact Or.inl rfl
  | drained =>
      obtain ⟨_, rfl⟩ := serverStep_drained server parser state next moved
      exact Or.inl rfl

/-! ### The way down -/

def ServerState.flags (state : ServerState) : Bool × Bool × Bool :=
  (state.cancelled, state.trackerClosed, state.returned)

@[simp] theorem ServerState.release_flags (state : ServerState)
    (permit : Option Semaphore) (handlers : List Handler)
    (detached : List (Nat × Connection)) :
    ServerState.flags
        { state.release permit with
          handlers := handlers
          detached := detached } = state.flags := by
  cases permit <;> rfl

/-- A step leaves the flags alone or raises one; the second and the third wait
for the one before. -/
theorem serverStep_flags (state next : ServerState)
    (step : ServerStep server parser state next) :
    next.flags = state.flags ∨
    next.flags = (true, state.trackerClosed, state.returned) ∨
    (state.cancelled = true ∧
      next.flags = (state.cancelled, true, state.returned)) ∨
    (state.trackerClosed = true ∧
      next.flags = (state.cancelled, state.trackerClosed, true)) := by
  cases step with
  | admitted listener proxy connection configured accepting =>
      rcases state.onAccept_cases listener proxy connection with
        ⟨_, outcome⟩ | ⟨_, _, outcome⟩ | ⟨_, _, outcome⟩ <;>
        rw [outcome] <;> exact Or.inl rfl
  | refused before after handler tasks waiting =>
      exact Or.inl (state.release_flags handler.permit _ _)
  | processed before after handler chosen tasks processing =>
      exact Or.inl (state.release_flags handler.permit _ _)
  | signal => exact Or.inr (Or.inl rfl)
  | trackerClosed cancelled => exact Or.inr (Or.inr (Or.inl ⟨cancelled, rfl⟩))
  | drained closed idleTasks ended =>
      exact Or.inr (Or.inr (Or.inr ⟨closed, rfl⟩))
  | listening listener proxy configured starting known => exact Or.inl rfl
  | loopEnded listener running => exact Or.inl rfl
  | idle => exact Or.inl rfl
  | dispatched before after handler proxy chosen tasks waiting configured
      routed => exact Or.inl rfl
  | served position => exact Or.inl rfl

def ServerState.Orderly (state : ServerState) : Prop :=
  (state.trackerClosed = true → state.cancelled = true) ∧
    (state.returned = true → state.cancelled = true)

theorem serverStep_orderly (state next : ServerState)
    (step : ServerStep server parser state next) (orderly : state.Orderly) :
    next.Orderly ∧ (state.cancelled = true → next.cancelled = true) := by
  have flags := serverStep_flags server parser state next step
  simp only [ServerState.flags, Prod.mk.injEq] at flags
  unfold ServerState.Orderly at orderly ⊢
  grind

theorem reachable_orderly (state : ServerState)
    (reached : Reachable (serverStep server parser) server.start state) :
    state.Orderly :=
  reached.invariant _ (by simp [ServerState.Orderly, Server.start])
    (fun before event after moved holds =>
      (serverStep_orderly server parser before after
        (serverStep_cases server parser before after event moved) holds).1)

theorem run_not_cancelled (state final : ServerState)
    (events : List ServerEvent)
    (ran : run (serverStep server parser) state events = some final)
    (orderly : state.Orderly) (running : final.cancelled = false) :
    state.cancelled = false := by
  by_contra cancelled
  rw [Bool.not_eq_false] at cancelled
  have late := (run_invariant
    (fun state => state.Orderly ∧ state.cancelled = true)
    (fun before event after moved holds => by
      have step := serverStep_cases server parser before after event moved
      obtain ⟨still, later⟩ :=
        serverStep_orderly server parser before after step holds.1
      exact ⟨still, later holds.2⟩)
    state final events ran ⟨orderly, cancelled⟩).2
  rw [running] at late
  cases late

theorem run_ended (listener : Nat) (state final : ServerState)
    (events : List ServerEvent)
    (ran : run (serverStep server parser) state events = some final)
    (ended : state.loops listener = .ended) :
    final.loops listener = .ended := by
  refine run_invariant (fun state => state.loops listener = .ended)
    (fun before event after moved holds => ?_) state final events ran ended
  rcases serverStep_loop server parser before after event moved listener with
    same | ⟨_, starting⟩ | ⟨_, _, outcome⟩
  · rw [same, holds]
  · rw [holds] at starting
    cases starting
  · exact outcome

theorem run_failed (listener : Nat) (error : IoError)
    (events : List ServerEvent) (state final : ServerState)
    (ran : run (serverStep server parser) state events = some final)
    (failed : .accepted listener (.failed error) ∈ events) :
    final.loops listener = .ended := by
  obtain ⟨early, late, rfl⟩ := List.append_of_mem failed
  rw [run_append] at ran
  obtain ⟨before, _, rest⟩ := Option.bind_eq_some_iff.mp ran
  obtain ⟨next, moved, after⟩ := Option.bind_eq_some_iff.mp rest
  refine run_ended server parser listener next final late after ?_
  obtain ⟨_, _, _, ⟨_, arrived, _⟩ | ⟨blocked, _⟩ | ⟨_, rfl⟩⟩ :=
    serverStep_accepted server parser before next listener _ moved
  · cases arrived
  · cases blocked
  · exact Function.update_self listener _ _

/-- As long as the token is not cancelled, a loop that accepts goes on through
everything but a failure of `accept`. -/
theorem run_accepting (listener : Nat) (events : List ServerEvent)
    (state final : ServerState)
    (ran : run (serverStep server parser) state events = some final)
    (orderly : state.Orderly) (running : final.cancelled = false)
    (accepting : state.loops listener = .accepting)
    (unfailing : ∀ error, .accepted listener (.failed error) ∉ events) :
    final.loops listener = .accepting := by
  induction events generalizing state with
  | nil =>
      rw [run, Option.some.injEq] at ran
      rw [← ran, accepting]
  | cons event events ih =>
      have uncancelled := run_not_cancelled server parser state final
        (event :: events) ran orderly running
      obtain ⟨next, moved, rest⟩ := Option.bind_eq_some_iff.mp ran
      have step := serverStep_cases server parser state next event moved
      refine ih next rest (serverStep_orderly server parser state next step
        orderly).1 ?_ (fun error member =>
          unfailing error (List.mem_cons_of_mem _ member))
      rcases serverStep_loop server parser state next event moved listener with
        same | ⟨_, starting⟩ | ⟨⟨error, rfl⟩ | cancelled, _, _⟩
      · rw [same, accepting]
      · rw [accepting] at starting
        cases starting
      · exact absurd List.mem_cons_self (unfailing error)
      · rw [uncancelled] at cancelled
        cases cancelled

def ServerState.Accepts (state : ServerState) (listener : Nat) : Prop :=
  state.loops listener = .accepting ∧
    ∀ connection : Connection,
      (serverStep server parser state
        (.accepted listener (.ok connection))).isSome = true

theorem accepts_of_accepting (state : ServerState)
    (reached : Reachable (serverStep server parser) server.start state)
    (running : state.cancelled = false) (listener : Nat) (proxy : Proxy)
    (configured : server.proxies[listener]? = some proxy)
    (accepting : state.loops listener = .accepting) :
    state.Accepts server parser listener := by
  refine ⟨accepting, fun connection => ?_⟩
  have present : state.returned = false := by
    by_contra returned
    have cancelled := (reachable_orderly server parser state reached).2
      (by simpa using returned)
    rw [running] at cancelled
    cases cancelled
  simp [serverStep, present, configured, accepting]

theorem listener_survives_iff (events : List ServerEvent)
    (state : ServerState)
    (ran : run (serverStep server parser) server.start events = some state)
    (listener : Nat) (proxy : Proxy)
    (configured : server.proxies[listener]? = some proxy)
    (known : proxy.knownProtocol = true)
    (bound : .started listener (.ok ()) ∈ events)
    (running : state.cancelled = false) :
    state.Accepts server parser listener ↔
      ∀ error, .accepted listener (.failed error) ∉ events := by
  constructor
  · intro accepts error failed
    have ended := run_failed server parser listener error events server.start
      state ran failed
    rw [accepts.1] at ended
    cases ended
  · intro unfailing
    refine accepts_of_accepting server parser state ⟨events, ran⟩ running listener
      proxy configured ?_
    obtain ⟨early, late, rfl⟩ := List.append_of_mem bound
    rw [run_append] at ran
    obtain ⟨before, first, rest⟩ := Option.bind_eq_some_iff.mp ran
    obtain ⟨next, moved, after⟩ := Option.bind_eq_some_iff.mp rest
    have reached : Reachable (serverStep server parser) server.start next :=
      Reachable.tail ⟨early, first⟩ moved
    refine run_accepting server parser listener late next state after
      (reachable_orderly server parser next reached) running ?_
      (fun error member => unfailing error (by simp [member]))
    obtain ⟨same, found, _, ⟨_, _, rfl⟩ | ⟨unbound, _⟩⟩ :=
      serverStep_started server parser before next listener _ moved
    · exact Function.update_self listener _ _
    · rw [configured, Option.some.injEq] at found
      exact absurd ⟨found ▸ known, rfl⟩ unbound

def busyEvents : List ServerEvent :=
  [.started 0 (.ok ()), .accepted 0 (.ok quietConnection),
    .accepted 0 .wouldBlock, .accepted 0 (.ok quietConnection),
    .dispatched 0, .processed 0]

theorem listener_survives_clients :
    ∃ server state,
      Server.fromParsedConfig AddrText.std
        (loopbackConfig ["127.0.0.1:9001"] none) = some server ∧
      run (serverStep server TlsParser.refusing) server.start busyEvents =
        some state ∧
      (state.Accepts server TlsParser.refusing 0 ↔
        ∀ error, .accepted 0 (.failed error) ∉ busyEvents) :=
  ⟨_, _, rfl, rfl, listener_survives_iff _ TlsParser.refusing busyEvents _ rfl 0
    _ rfl rfl (by simp [busyEvents]) rfl⟩

def abortedConnection : IoError :=
  { kind := .connectionAborted
    message := "Software caused connection abort (os error 103)" }

/-- One aborted connection ends a listener nobody has told to stop. -/
theorem aborted_connection_ends_listener :
    ∃ server state,
      Server.fromParsedConfig AddrText.std
        (loopbackConfig ["127.0.0.1:9001"] none) = some server ∧
      run (serverStep server TlsParser.refusing) server.start
        [.started 0 (.ok ()), .accepted 0 (.failed abortedConnection)] =
          some state ∧
      state.cancelled = false ∧ state.loops 0 = .ended ∧
      ¬ state.Accepts server TlsParser.refusing 0 := by
  refine ⟨_, _, rfl, rfl, rfl, rfl, fun accepts => ?_⟩
  cases accepts.1

end TlsProxyTunnel
