/-
How much the server holds for its connections.

A copy reads its next chunk only when the one before is written, and the
handshake reads into one buffer, so what a peer sends faster than the other
takes stays in the network.  With the permits of the listeners that bounds what
the whole server holds.
-/

import TlsProxyTunnel.Classification
import TlsProxyTunnel.Deployment
import TlsProxyTunnel.Gauge

namespace TlsProxyTunnel

open Transition

def CopyState.held (state : CopyState) : Bytes :=
  match state.phase with
  | .writing _ rest => rest
  | _ => []

def CopyState.isCopying (state : CopyState) : Bool :=
  match state.phase with
  | .reading => true
  | .writing _ _ => true
  | _ => false

def Session.held : Session → Nat
  | .handshaking _ exchange => exchange.inbufs.length
  | .relaying _ state => state.tx.held.length + state.rx.held.length
  | _ => 0

theorem CopyState.Invariant.held_le {input : Bytes} {state : CopyState}
    (holds : state.Invariant input) :
    state.held.length ≤ copyBufferSize := by
  have account := holds.accounted
  unfold CopyState.held
  cases phase : state.phase with
  | writing chunk rest =>
      simp only [CopyState.Accounted, phase] at account
      obtain ⟨bound, ⟨taken, rfl, _⟩, _⟩ := account
      rw [List.length_append] at bound
      exact (Nat.le_add_left _ _).trans bound
  | _ => exact Nat.zero_le _

/-- While it copies, what was read is what was delivered and what is held; when
it is over all of it was delivered, unless a write has failed. -/
def CopyState.Conserves (input : Bytes) (state : CopyState) : Prop :=
  (state.isCopying = true →
    state.delivered ++ (state.held ++ stream state.reads) = input) ∧
  (state.isCopying = false → state.phase.failure = none →
    state.delivered = input)

theorem CopyState.Invariant.conserves {input : Bytes} {state : CopyState}
    (holds : state.Invariant input) : state.Conserves input := by
  have account := holds.accounted
  unfold CopyState.Conserves CopyState.held CopyState.isCopying
  cases phase : state.phase with
  | reading =>
      simp only [CopyState.Accounted, phase] at account
      obtain ⟨delivered, whole, _⟩ := account
      refine ⟨fun _ => ?_, fun stopped => by cases stopped⟩
      rw [delivered]
      exact whole.symm
  | writing chunk rest =>
      simp only [CopyState.Accounted, phase] at account
      obtain ⟨_, ⟨taken, rfl, delivered⟩, whole, _⟩ := account
      refine ⟨fun _ => ?_, fun stopped => by cases stopped⟩
      rw [delivered, whole]
      simp only [List.append_assoc]
  | closing exit =>
      simp only [CopyState.Accounted, phase] at account
      refine ⟨fun copying => absurd copying Bool.false_ne_true, fun _ fine => ?_⟩
      have noWriteError : ∀ error, exit ≠ .writeError error := by
        rintro error rfl
        cases fine
      exact (account.1.whole input state exit noWriteError).1
  | returned exit =>
      simp only [CopyState.Accounted, phase] at account
      refine ⟨fun copying => absurd copying Bool.false_ne_true, fun _ fine => ?_⟩
      have noWriteError : ∀ error, exit ≠ .writeError error := by
        rintro error rfl
        cases fine
      exact (account.1.whole input state exit noWriteError).1

/-- What the process has taken from the client and not passed on is in one
buffer, and so is what it has taken from the upstream; the bytes of the
handshake are not passed on. -/
structure Session.Backpressured (call : ProxyCall) (session : Session) :
    Prop where
  handshake :
    ∀ request exchange, session = .handshaking request exchange →
      exchange.inbufs.length ≤ copyBufferSize ∧
        exchange.inbufs <+: stream call.outbound.reads ∧
        exchange.Arriving (stream call.outbound.reads)
  client :
    ∀ requestSent state, session = .relaying requestSent state →
      state.tx.held.length ≤ copyBufferSize ∧
        state.tx.Conserves (stream call.inbound.reads)
  upstream :
    ∀ requestSent state, session = .relaying requestSent state →
      state.rx.held.length ≤ copyBufferSize ∧
        ∃ header left, call.Swallows header ∧
          header ++ left = stream call.outbound.reads ∧
          state.rx.Conserves left

theorem Session.Backpressured.held_le {call : ProxyCall} {session : Session}
    (bounded : session.Backpressured call) :
    session.held ≤ 2 * copyBufferSize := by
  cases session with
  | dialling => exact Nat.zero_le _
  | handshaking request exchange =>
      have handshake := (bounded.handshake request exchange rfl).1
      rw [Session.held]
      omega
  | relaying requestSent state =>
      have client := (bounded.client requestSent state rfl).1
      have upstream := (bounded.upstream requestSent state rfl).1
      rw [Session.held]
      omega
  | returned run => exact Nat.zero_le _

theorem ProxyCall.backpressured (call : ProxyCall) (session : Session)
    (explained : call.Explains session) : session.Backpressured call := by
  cases session with
  | dialling => exact ⟨by simp, by simp, by simp⟩
  | handshaking request exchange =>
      obtain ⟨_, _, _, _, _, reached, _⟩ := explained
      have within := reaches_withinBuffer request _ _ exchange reached
      have arriving := reaches_arriving request _ _ exchange reached
      refine ⟨?_, by simp, by simp⟩
      rintro _ _ ⟨⟩
      exact ⟨within.bounded, within.ofStream, arriving⟩
  | relaying requestSent state =>
      obtain ⟨outbound, taken, rfl, proxied⟩ := explained
      have up : (relay taken (RelayState.start call.inbound outbound)).tx.Invariant
          (stream call.inbound.reads) := by
        rw [relay_tx]
        exact copy_invariant call.inbound.reads outbound.writes _
      have down :
          (relay taken (RelayState.start call.inbound outbound)).rx.Invariant
            (stream outbound.reads) := by
        rw [relay_rx]
        exact copy_invariant outbound.reads call.inbound.writes _
      obtain ⟨header, swallows, split⟩ :=
        (call.relays_of_proxied requestSent outbound proxied).reads
      refine ⟨by simp, ?_, ?_⟩
      · rintro other same ⟨⟩
        exact ⟨up.held_le, up.conserves⟩
      · rintro other same ⟨⟩
        exact ⟨down.held_le, header, _, swallows, split, down.conserves⟩
  | returned run => exact ⟨by simp, by simp, by simp⟩

/-! ### All connections -/

def LiveState.held (state : LiveState) : Nat :=
  (state.sessions.map (fun session =>
    match session with
    | some task => task.session.held
    | none => 0)).sum

def Proxy.permits (proxy : Proxy) : Nat :=
  if proxy.isHealthServer then 0 else proxy.maxclientsLimit

def Server.permits (server : Server) : Nat :=
  (server.proxies.map Proxy.permits).sum

def Handler.isExempt (server : Server) (handler : Handler) : Bool :=
  match server.proxies[handler.listener]? with
  | some proxy => proxy.isHealthServer
  | none => false

theorem countP_eq_sum {α : Type} (items : List α) (selected : α → Bool)
    (index : α → Nat) (count : Nat)
    (within : ∀ item, item ∈ items → index item < count) :
    items.countP selected =
      ∑ position ∈ Finset.range count,
        items.countP (fun item => selected item && index item = position) := by
  induction items with
  | nil => simp
  | cons item items ih =>
      simp only [List.countP_cons]
      rw [Finset.sum_add_distrib,
        ← ih (fun other member => within other (List.mem_cons_of_mem _ member))]
      congr 1
      have inside := Finset.mem_range.mpr (within item List.mem_cons_self)
      cases selected item with
      | false => simp
      | true =>
          simp only [Bool.true_and, decide_eq_true_eq, if_true]
          rw [Finset.sum_ite_eq, if_pos inside]

theorem sum_map_eq_sum_range {α : Type} (items : List α) (weight : α → Nat) :
    (items.map weight).sum =
      ∑ position ∈ Finset.range items.length,
        (items[position]?.map weight).getD 0 := by
  induction items with
  | nil => rfl
  | cons item items ih =>
      rw [List.length_cons, Finset.sum_range_succ', List.map_cons,
        List.sum_cons, ih, Nat.add_comm]
      rfl

theorem live_le_permits {text : AddrText} {config : ParsedConfig}
    {server : Server} (built : Server.fromParsedConfig text config = some server)
    (parser : TlsParser) (state : ServerState)
    (accounted : state.Accounted server parser) (listener : Nat) :
    state.handlers.countP (fun handler =>
        !handler.isExempt server && handler.listener = listener) ≤
      (server.proxies[listener]?.map Proxy.permits).getD 0 := by
  cases configured : server.proxies[listener]? with
  | none =>
      refine Nat.le_of_eq (List.countP_eq_zero.mpr ?_)
      intro handler member counted
      obtain ⟨proxy, found, _⟩ := accounted.handlers handler member
      rw [Bool.and_eq_true, decide_eq_true_eq] at counted
      rw [counted.2, configured] at found
      cases found
  | some proxy =>
      rw [Option.map_some, Option.getD_some, Proxy.permits]
      cases health : proxy.isHealthServer with
      | true =>
          refine Nat.le_of_eq (List.countP_eq_zero.mpr ?_)
          intro handler member counted
          rw [Bool.and_eq_true, decide_eq_true_eq] at counted
          simp [Handler.isExempt, counted.2, configured, health] at counted
      | false =>
          have full := available_add_live text config server parser built state
            accounted listener proxy configured health
          calc state.handlers.countP (fun handler =>
                !handler.isExempt server && handler.listener = listener)
              ≤ state.live listener :=
                List.countP_mono_left (fun handler _ counted => by
                  rw [Bool.and_eq_true] at counted
                  exact counted.2)
            _ ≤ state.available proxy.maxclients + state.live listener :=
                Nat.le_add_left _ _
            _ = proxy.maxclientsLimit := full

theorem handlers_le_permits {text : AddrText} {config : ParsedConfig}
    {server : Server} (built : Server.fromParsedConfig text config = some server)
    (parser : TlsParser) (state : ServerState)
    (accounted : state.Accounted server parser) :
    state.handlers.length ≤
      server.permits + state.handlers.countP (Handler.isExempt server) := by
  have within : ∀ handler, handler ∈ state.handlers →
      handler.listener < server.proxies.length := by
    intro handler member
    obtain ⟨proxy, found, _⟩ := accounted.handlers handler member
    exact (List.getElem?_eq_some_iff.mp found).1
  have ordinary : state.handlers.countP
      (fun handler => !handler.isExempt server) ≤ server.permits := by
    rw [Server.permits, sum_map_eq_sum_range, countP_eq_sum state.handlers _
      Handler.listener server.proxies.length within]
    exact Finset.sum_le_sum (fun listener _ =>
      live_le_permits built parser state accounted listener)
  calc state.handlers.length
      = state.handlers.countP (Handler.isExempt server) +
          state.handlers.countP (fun handler => !handler.isExempt server) := by
        rw [List.length_eq_countP_add_countP (Handler.isExempt server)]
        simp
    _ ≤ state.handlers.countP (Handler.isExempt server) + server.permits :=
        Nat.add_le_add_left ordinary _
    _ = _ := Nat.add_comm _ _

/-- Whatever its peers send and however slowly they take it, a session holds no
more than one buffer each way, and all sessions together no more than that for
every permit and every handler of a health server. -/
theorem held_bytes_bounded (text : AddrText) (config : ParsedConfig)
    (server : Server)
    (built : Server.fromParsedConfig text config = some server)
    (parser : TlsParser) (runtime : Runtime) (state : LiveState)
    (reached : Reachable (liveStep server parser runtime)
      (LiveState.start server) state) :
    (∀ (position : Nat) task,
      state.sessions[position]? = some (some task) →
      task.session.Backpressured task.call) ∧
    state.held ≤
      (server.permits +
        state.run.server.handlers.countP (Handler.isExempt server)) *
        (2 * copyBufferSize) := by
  have paired := reachable_paired server parser runtime state reached
  have accounted := reachable_accounted server parser state.run.server
    (reachable_server server parser state.run
      (reachable_run server parser runtime state reached))
  have each (position : Nat) (task : LiveTask)
      (found : state.sessions[position]? = some (some task)) :
      task.session.Backpressured task.call := by
    obtain ⟨_, _, _, _, _, _, _, stepped⟩ :=
      paired.at_position position (some task) found
    exact task.call.backpressured task.session
      (task.call.reachable_explains task.session stepped)
  refine ⟨each, ?_⟩
  calc state.held
      ≤ state.sessions.length * (2 * copyBufferSize) := by
        rw [LiveState.held, ← smul_eq_mul, ← List.length_map]
        refine List.sum_le_card_nsmul _ _ (fun weight member => ?_)
        obtain ⟨session, listed, rfl⟩ := List.mem_map.mp member
        cases session with
        | none => exact Nat.zero_le _
        | some task =>
            obtain ⟨position, found⟩ := List.mem_iff_getElem?.mp listed
            exact (each position task found).held_le
    _ = state.run.server.handlers.length * (2 * copyBufferSize) := by
        rw [paired.sessions.length_eq]
    _ ≤ _ := Nat.mul_le_mul_right _
        (handlers_le_permits built parser state.run.server accounted)

def forwardingConfig : ParsedConfig :=
  { version := forwardingBase.version
    log := forwardingBase.log
    servers := forwardingBase.servers
    upstream := builtinUpstreams.insert "corp_proxy"
      (.proxy (ProxyToUpstream.new "proxy.internal:3128" "tcp4")) }

theorem held_bytes_bounded_of_forwarding :
    ∃ server state,
      Server.fromParsedConfig AddrText.std forwardingConfig = some server ∧
      run (liveStep server TlsParser.refusing bareRuntime)
        (LiveState.start server) (forwardingEvents.take 6) = some state ∧
      state.held = 3 ∧
      state.held ≤
        (server.permits +
          state.run.server.handlers.countP (Handler.isExempt server)) *
          (2 * copyBufferSize) := by
  refine ⟨_, _, rfl, rfl, rfl, ?_⟩
  exact (held_bytes_bounded AddrText.std forwardingConfig _ rfl
    TlsParser.refusing bareRuntime _ ⟨forwardingEvents.take 6, rfl⟩).2

end TlsProxyTunnel
