/-
One connection through an upstream of kind `Proxy`, a socket call at a time.

`proxy` is a function of everything the connection meets, the order in which
its copies are polled included.  Here the connection is a machine whose states
are the ones between two awaits, so that what has crossed at any instant can be
told, and so that connections can run beside each other.
-/

import TlsProxyTunnel.Library.Progress
import TlsProxyTunnel.Exchange
import TlsProxyTunnel.Leakage
import TlsProxyTunnel.Tunnel

namespace TlsProxyTunnel

open Interleave hiding run
open StateTransition Transition

structure ProxyCall where
  upstream : ProxyToUpstream
  runtime : Runtime
  inbound : Socket
  via : ViaUpstream
  connectTarget : Option String
  dial : Dial
  outboundNodelay : Except IoError Unit
  inboundNodelay : Except IoError Unit
  outbound : Socket

def ProxyCall.surroundings (call : ProxyCall) (schedule : List Side) :
    Surroundings :=
  { dial := call.dial
    outboundNodelay := call.outboundNodelay
    inboundNodelay := call.inboundNodelay
    outbound := call.outbound
    schedule := schedule }

def ProxyCall.proxy (call : ProxyCall) (schedule : List Side) : ProxyRun :=
  call.upstream.proxy call.runtime call.inbound call.via call.connectTarget
    (call.surroundings schedule)

/-- Where the connection stands: before its upstream is connected, within
`http_connect`, within the relay, or done. -/
inductive Session where
  | dialling
  | handshaking (request : Bytes) (exchange : Exchange)
  | relaying (requestSent : Bytes) (relay : RelayState)
  | returned (run : ProxyRun)

inductive SessionEvent where
  | advanced
  | polled (side : Side)
  deriving DecidableEq, Repr

def ProxyRun.ofRelay (requestSent : Bytes) (state : RelayState) : ProxyRun :=
  { result := state.result.map (fun value =>
      match value with
      | .ok _ => .ok ()
      | .error error => .error (.io error))
    requestSent := requestSent
    relayed := some state }

theorem ProxyRun.relaying_eq_ofRelay (requestSent : Bytes)
    (schedule : List Side) (inbound outbound : Socket) :
    ProxyRun.relaying requestSent schedule inbound outbound =
      .ofRelay requestSent
        (relay schedule (RelayState.start inbound outbound)) := rfl

/-- From the call to the first state that is not `dialling`: connect, set both
sockets up, and build the request where there is a target. -/
def ProxyCall.dialled (call : ProxyCall) : Session :=
  match connectUpstream call.upstream.addresses call.upstream.protocol
      call.via.connectTimeout call.dial with
  | .error error => .returned (.failed error [])
  | .ok () =>
      match call.outboundNodelay with
      | .error error => .returned (.failed (.io error) [])
      | .ok () =>
          match call.inboundNodelay with
          | .error error => .returned (.failed (.io error) [])
          | .ok () =>
              match call.connectTarget with
              | none =>
                  .relaying [] (RelayState.start call.inbound call.outbound)
              | some target =>
                  match buildRequest call.runtime target call.via.headers with
                  | .error error => .returned (.failed error [])
                  | .ok buf =>
                      .handshaking (asBytes buf)
                        (Exchange.start call.outbound.reads
                          call.outbound.writes)

def ProxyCall.opened (call : ProxyCall) (exchange : Exchange) : Session :=
  .relaying exchange.sent
    (RelayState.start call.inbound
      { reads := exchange.reads, writes := exchange.writes })

def RelayState.copied (side : Side) (state : RelayState) : Option RelayState :=
  match side with
  | .first => (copyCounted state.tx).map (fun tx => { state with tx := tx })
  | .second => (copyCounted state.rx).map (fun rx => { state with rx := rx })

def ProxyCall.step (call : ProxyCall) (session : Session)
    (event : SessionEvent) : Option Session :=
  match session, event with
  | .dialling, .advanced => some call.dialled
  | .handshaking request exchange, .advanced =>
      match exchange.phase with
      | .returned (.ok ()) => some (call.opened exchange)
      | .returned (.error error) =>
          some (.returned (.failed error exchange.sent))
      | _ => (exchangeStep request exchange).map (.handshaking request)
  | .relaying requestSent state, .polled side =>
      (state.copied side).map (.relaying requestSent)
  | .relaying requestSent state, .advanced =>
      state.result.map (fun _ => .returned (.ofRelay requestSent state))
  | _, _ => none

inductive SessionStep (call : ProxyCall) : Session → Session → Prop where
  | dialled : SessionStep call .dialling call.dialled
  | exchanged (request : Bytes) (exchange next : Exchange)
      (moved : exchangeStep request exchange = some next) :
      SessionStep call (.handshaking request exchange)
        (.handshaking request next)
  | opened (request : Bytes) (exchange : Exchange)
      (phase : exchange.phase = .returned (.ok ())) :
      SessionStep call (.handshaking request exchange) (call.opened exchange)
  | declined (request : Bytes) (exchange : Exchange) (error : BoxError)
      (phase : exchange.phase = .returned (.error error)) :
      SessionStep call (.handshaking request exchange)
        (.returned (.failed error exchange.sent))
  | copied (requestSent : Bytes) (state next : RelayState) (side : Side)
      (moved : state.copied side = some next) :
      SessionStep call (.relaying requestSent state)
        (.relaying requestSent next)
  | joined (requestSent : Bytes) (state : RelayState)
      (value : Except IoError (UInt64 × UInt64))
      (ended : state.result = some value) :
      SessionStep call (.relaying requestSent state)
        (.returned (.ofRelay requestSent state))

theorem ProxyCall.step_cases (call : ProxyCall) (session next : Session)
    (event : SessionEvent) (moved : call.step session event = some next) :
    SessionStep call session next := by
  unfold ProxyCall.step at moved
  split at moved
  · cases moved
    exact .dialled
  · rename_i request exchange
    split at moved
    · rename_i phase
      cases moved
      exact .opened request exchange phase
    · rename_i error phase
      cases moved
      exact .declined request exchange error phase
    · obtain ⟨after, stepped, rfl⟩ := Option.map_eq_some_iff.mp moved
      exact .exchanged request exchange after stepped
  · rename_i requestSent state side
    obtain ⟨after, copied, rfl⟩ := Option.map_eq_some_iff.mp moved
    exact .copied requestSent state after side copied
  · rename_i requestSent state
    obtain ⟨value, ended, rfl⟩ := Option.map_eq_some_iff.mp moved
    exact .joined requestSent state value ended
  · cases moved

/-! ### Every session returns -/

theorem tryRead_lighter (capacity : Nat) (events rest : List ReadEvent)
    (chunk : Bytes) (read : tryRead capacity events = (.ok chunk, rest)) :
    readWeight rest ≤ readWeight events := by
  cases events with
  | nil =>
      cases read
      exact Nat.le_refl _
  | cons event events =>
      cases event with
      | data first more =>
          cases read
          have bound := readWeight_pushBack
            ((first :: more).drop capacity) events
          rw [List.length_drop, List.length_cons] at bound
          simp only [readWeight]
          omega
      | wouldBlock => cases read
      | eof =>
          cases read
          exact Nat.le_refl _
      | failed error => cases read

theorem exchangeStep_lighter (request : Bytes) (state next : Exchange)
    (step : ExchangeStep request state next) :
    readWeight next.reads ≤ readWeight state.reads ∧
      next.writes.length ≤ state.writes.length := by
  cases step with
  | taken count rest phase unfinished write progress =>
      exact ⟨Nat.le_refl _, (tryWrite_suffix _ _ _ _ write).length_le⟩
  | stalled rest phase unfinished write =>
      exact ⟨Nat.le_refl _, (tryWrite_suffix _ _ _ _ write).length_le⟩
  | writePending rest phase unfinished pending =>
      simp [pending]
  | writeFailed error rest phase unfinished failed =>
      simp [failed]
  | written phase finished => exact ⟨Nat.le_refl _, Nat.le_refl _⟩
  | received first more rest phase read =>
      exact ⟨tryRead_lighter _ _ _ _ read, Nat.le_refl _⟩
  | closed rest phase read =>
      exact ⟨tryRead_lighter _ _ _ _ read, Nat.le_refl _⟩
  | readPending rest phase pending =>
      simp [pending, readWeight]
  | readFailed error rest phase failed =>
      simp [failed, readWeight]
  | parsed phase => exact ⟨Nat.le_refl _, Nat.le_refl _⟩

def RelayState.remaining (state : RelayState) : Nat :=
  state.tx.remaining + state.rx.remaining

theorem RelayState.copied_remaining (side : Side) (state next : RelayState)
    (moved : state.copied side = some next) :
    next.remaining < state.remaining := by
  unfold RelayState.remaining
  cases side with
  | first =>
      obtain ⟨tx, stepped, rfl⟩ := Option.map_eq_some_iff.mp moved
      have fewer := copyStep_remaining state.tx tx
        (copyStep_of_copyCounted _ _ stepped)
      dsimp only
      omega
  | second =>
      obtain ⟨rx, stepped, rfl⟩ := Option.map_eq_some_iff.mp moved
      have fewer := copyStep_remaining state.rx rx
        (copyStep_of_copyCounted _ _ stepped)
      dsimp only
      omega

def ProxyCall.behindDial (call : ProxyCall) : Session → Nat
  | .dialling => 0
  | .handshaking request exchange =>
      exchange.remaining request +
        (RelayState.start call.inbound
          { reads := exchange.reads, writes := exchange.writes }).remaining + 2
  | .relaying _ state => state.remaining + 1
  | .returned _ => 0

def ProxyCall.remaining (call : ProxyCall) (session : Session) : Nat :=
  match session with
  | .dialling => call.behindDial call.dialled + 1
  | _ => call.behindDial session

def ProxyCall.continued (call : ProxyCall) (handshake : Handshake)
    (schedule : List Side) : ProxyRun :=
  match handshake.result with
  | .error error => .failed error handshake.sent
  | .ok () =>
      .relaying handshake.sent schedule call.inbound
        { reads := handshake.reads, writes := handshake.writes }

theorem ProxyCall.dialled_cases (call : ProxyCall) :
    (∃ error, call.dialled = .returned (.failed error []) ∧
      ∀ schedule, call.proxy schedule = .failed error []) ∨
    (call.connectTarget = none ∧
      call.dialled =
        .relaying [] (RelayState.start call.inbound call.outbound) ∧
      ∀ schedule, call.proxy schedule =
        .relaying [] schedule call.inbound call.outbound) ∨
    (∃ target buf, call.connectTarget = some target ∧
      buildRequest call.runtime target call.via.headers = .ok buf ∧
      call.dialled =
        .handshaking (asBytes buf)
          (Exchange.start call.outbound.reads call.outbound.writes) ∧
      ∀ schedule, call.proxy schedule =
        call.continued (httpConnect call.runtime target call.via.headers
          call.outbound.reads call.outbound.writes) schedule) := by
  unfold ProxyCall.proxy ProxyToUpstream.proxy ProxyCall.dialled
    ProxyCall.surroundings
  dsimp only
  cases connectUpstream call.upstream.addresses call.upstream.protocol
      call.via.connectTimeout call.dial with
  | error error => exact Or.inl ⟨error, rfl, fun _ => rfl⟩
  | ok done =>
      cases call.outboundNodelay with
      | error error => exact Or.inl ⟨.io error, rfl, fun _ => rfl⟩
      | ok done =>
          cases call.inboundNodelay with
          | error error => exact Or.inl ⟨.io error, rfl, fun _ => rfl⟩
          | ok done =>
              cases call.connectTarget with
              | none => exact Or.inr (Or.inl ⟨rfl, rfl, fun _ => rfl⟩)
              | some target =>
                  dsimp only
                  cases built : buildRequest call.runtime target
                      call.via.headers with
                  | error error =>
                      refine Or.inl ⟨error, rfl, fun _ => ?_⟩
                      unfold httpConnect
                      rw [built]
                  | ok buf =>
                      exact Or.inr (Or.inr
                        ⟨target, buf, rfl, built, rfl, fun _ => rfl⟩)

theorem ProxyCall.dialled_ne (call : ProxyCall) : call.dialled ≠ .dialling := by
  rcases call.dialled_cases with ⟨error, ended, _⟩ | ⟨_, direct, _⟩ |
    ⟨target, buf, _, _, begun, _⟩
  · simp [ended]
  · simp [direct]
  · simp [begun]

theorem sessionStep_remaining (call : ProxyCall) (session next : Session)
    (step : SessionStep call session next) :
    call.remaining next < call.remaining session := by
  cases step with
  | dialled =>
      have left : call.remaining call.dialled =
          call.behindDial call.dialled := by
        unfold ProxyCall.remaining
        split
        · rename_i same
          exact absurd same call.dialled_ne
        · rfl
      rw [left]
      exact Nat.lt_succ_self _
  | exchanged request exchange next moved =>
      have step := exchangeStep_cases request exchange next moved
      have fewer := exchangeStep_remaining request exchange next step
      have lighter := exchangeStep_lighter request exchange next step
      simp only [ProxyCall.remaining, ProxyCall.behindDial,
        RelayState.remaining, RelayState.start, CopyState.start,
        CopyState.remaining]
      omega
  | opened request exchange phase =>
      simp only [ProxyCall.remaining, ProxyCall.opened, ProxyCall.behindDial]
      omega
  | declined request exchange error phase =>
      simp only [ProxyCall.remaining, ProxyCall.behindDial]
      omega
  | copied requestSent state next side moved =>
      have fewer := RelayState.copied_remaining side state next moved
      simp only [ProxyCall.remaining, ProxyCall.behindDial]
      omega
  | joined requestSent state value ended =>
      simp only [ProxyCall.remaining, ProxyCall.behindDial]
      omega

theorem exchangeStep_isSome (request : Bytes) (state : Exchange)
    (running : ∀ result, state.phase ≠ .returned result) :
    ∃ next, exchangeStep request state = some next := by
  cases stepped : exchangeStep request state with
  | some next => exact ⟨next, rfl⟩
  | none =>
      unfold exchangeStep at stepped
      split at stepped
      · repeat' split at stepped
        all_goals cases stepped
      · repeat' split at stepped
        all_goals cases stepped
      · cases stepped
      · rename_i result phase
        exact absurd phase (running result)

theorem RelayState.copied_or_joined (state : RelayState) :
    (∃ side next, state.copied side = some next) ∨
      ∃ value, state.result = some value := by
  cases first : copyCounted state.tx with
  | some tx =>
      exact Or.inl ⟨.first, { state with tx := tx }, by
        simp only [RelayState.copied, first, Option.map_some]⟩
  | none =>
      cases second : copyCounted state.rx with
      | some rx =>
          exact Or.inl ⟨.second, { state with rx := rx }, by
            simp only [RelayState.copied, second, Option.map_some]⟩
      | none =>
          refine Or.inr ⟨_, (RelayState.result_eq_some_iff state _).mpr
            ⟨?_, ?_, rfl⟩⟩
          · exact (copyCounted_eq_none_iff state.tx).mp first
          · exact (copyCounted_eq_none_iff state.rx).mp second

def Session.hasReturned : Session → Bool
  | .returned _ => true
  | _ => false

theorem ProxyCall.step_isSome (call : ProxyCall) (session : Session)
    (running : session.hasReturned = false) :
    ∃ event next, call.step session event = some next := by
  cases session with
  | dialling => exact ⟨.advanced, call.dialled, rfl⟩
  | handshaking request exchange =>
      refine ⟨.advanced, ?_⟩
      cases phase : exchange.phase with
      | returned result =>
          cases result with
          | ok done =>
              exact ⟨call.opened exchange, by
                simp only [ProxyCall.step, phase]⟩
          | error error =>
              exact ⟨.returned (.failed error exchange.sent), by
                simp only [ProxyCall.step, phase]⟩
      | writing =>
          obtain ⟨next, stepped⟩ := exchangeStep_isSome request exchange
            (by simp [phase])
          exact ⟨.handshaking request next, by
            simp only [ProxyCall.step, phase, stepped, Option.map_some]⟩
      | reading =>
          obtain ⟨next, stepped⟩ := exchangeStep_isSome request exchange
            (by simp [phase])
          exact ⟨.handshaking request next, by
            simp only [ProxyCall.step, phase, stepped, Option.map_some]⟩
      | parsing =>
          obtain ⟨next, stepped⟩ := exchangeStep_isSome request exchange
            (by simp [phase])
          exact ⟨.handshaking request next, by
            simp only [ProxyCall.step, phase, stepped, Option.map_some]⟩
  | relaying requestSent state =>
      rcases state.copied_or_joined with ⟨side, next, moved⟩ | ⟨value, ended⟩
      · exact ⟨.polled side, .relaying requestSent next, by
          simp only [ProxyCall.step, moved, Option.map_some]⟩
      · exact ⟨.advanced, .returned (.ofRelay requestSent state), by
          simp only [ProxyCall.step, ended, Option.map_some]⟩
  | returned run => cases running

/-! ### Runs of the machine and runs of `proxy` -/

theorem RelayState.poll_eq_copied (side : Side) (state : RelayState) :
    state.poll side = (state.copied side).getD state := by
  unfold RelayState.poll
  cases ended : state.result with
  | some value =>
      obtain ⟨txDone, rxDone, _⟩ :=
        (RelayState.result_eq_some_iff state value).mp ended
      cases side with
      | first =>
          have stays := (copyCounted_eq_none_iff state.tx).mpr txDone
          simp only [RelayState.copied, stays, Option.map_none,
            Option.getD_none]
      | second =>
          have stays := (copyCounted_eq_none_iff state.rx).mpr rxDone
          simp only [RelayState.copied, stays, Option.map_none,
            Option.getD_none]
  | none =>
      cases side with
      | first =>
          unfold RelayState.copied advance
          cases copyCounted state.tx <;> rfl
      | second =>
          unfold RelayState.copied advance
          cases copyCounted state.rx <;> rfl

theorem relay_append (early late : List Side) (state : RelayState) :
    relay (early ++ late) state = relay late (relay early state) := by
  induction early generalizing state with
  | nil => rfl
  | cons side early ih =>
      simp only [List.cons_append, relay]
      exact ih (state.poll side)

theorem ProxyCall.reaches_relay (call : ProxyCall) (requestSent : Bytes)
    (schedule : List Side) (state : RelayState) :
    Reachable call.step (.relaying requestSent state)
      (.relaying requestSent (relay schedule state)) := by
  induction schedule generalizing state with
  | nil => exact Reachable.refl _ _
  | cons side schedule ih =>
      have first : Reachable call.step (.relaying requestSent state)
          (.relaying requestSent (state.poll side)) := by
        rw [RelayState.poll_eq_copied]
        cases moved : state.copied side with
        | none => exact Reachable.refl _ _
        | some next =>
            have polled : call.step (.relaying requestSent state)
                (.polled side) = some (.relaying requestSent next) := by
              simp only [ProxyCall.step, moved, Option.map_some]
            exact (Reachable.refl _ _).tail polled
      exact first.trans (ih (state.poll side))

theorem ProxyCall.reaches_joined (call : ProxyCall) (requestSent : Bytes)
    (schedule : List Side) (outbound : Socket)
    (ended : (ProxyRun.relaying requestSent schedule call.inbound
      outbound).result.isSome = true) :
    Reachable call.step
      (.relaying requestSent (RelayState.start call.inbound outbound))
      (.returned
        (.relaying requestSent schedule call.inbound outbound)) := by
  have relayed := call.reaches_relay requestSent schedule
    (RelayState.start call.inbound outbound)
  rw [ProxyRun.relaying_eq_ofRelay] at ended ⊢
  unfold ProxyRun.ofRelay at ended
  rw [Option.isSome_map] at ended
  obtain ⟨value, joined⟩ := Option.isSome_iff_exists.mp ended
  have returns : call.step
      (.relaying requestSent
        (relay schedule (RelayState.start call.inbound outbound))) .advanced =
      some (.returned (.ofRelay requestSent
        (relay schedule (RelayState.start call.inbound outbound)))) := by
    simp only [ProxyCall.step, joined, Option.map_some]
  exact relayed.tail returns

theorem ProxyCall.reaches_exchange (call : ProxyCall) (request : Bytes)
    (start final : Exchange)
    (reached : Reaches (exchangeStep request) start final) :
    Reachable call.step (.handshaking request start)
      (.handshaking request final) := by
  induction reached with
  | refl => exact Reachable.refl _ _
  | @tail before after earlier moved ih =>
      have stepped : exchangeStep request before = some after := moved
      have advances : call.step (.handshaking request before) .advanced =
          some (.handshaking request after) := by
        unfold ProxyCall.step
        dsimp only
        cases phase : before.phase with
        | returned result =>
            unfold exchangeStep at stepped
            rw [phase] at stepped
            cases stepped
        | writing => simp only [stepped, Option.map_some]
        | reading => simp only [stepped, Option.map_some]
        | parsing => simp only [stepped, Option.map_some]
      exact ih.tail advances

/-- What a state of the connection says about `proxy`. -/
def ProxyCall.Explains (call : ProxyCall) : Session → Prop
  | .dialling => True
  | .handshaking request exchange =>
      ∃ target buf, call.connectTarget = some target ∧
        buildRequest call.runtime target call.via.headers = .ok buf ∧
        request = asBytes buf ∧
        Reaches (exchangeStep request)
          (.start call.outbound.reads call.outbound.writes) exchange ∧
        ∀ schedule, call.proxy schedule =
          call.continued (exchange.conclude request) schedule
  | .relaying requestSent state =>
      ∃ outbound taken,
        state = relay taken (RelayState.start call.inbound outbound) ∧
        ∀ schedule, call.proxy schedule =
          .relaying requestSent schedule call.inbound outbound
  | .returned run =>
      run.result.isSome = true ∧ ∃ schedule, call.proxy schedule = run

theorem sessionStep_explains (call : ProxyCall) (session next : Session)
    (step : SessionStep call session next)
    (before : call.Explains session) : call.Explains next := by
  cases step with
  | dialled =>
      rcases call.dialled_cases with ⟨error, ended, proxied⟩ |
        ⟨_, direct, proxied⟩ | ⟨target, buf, targeted, built, begun, proxied⟩
      · rw [ended]
        exact ⟨rfl, [], proxied []⟩
      · rw [direct]
        exact ⟨call.outbound, [], rfl, proxied⟩
      · rw [begun]
        refine ⟨target, buf, targeted, built, rfl, Relation.ReflTransGen.refl,
          fun schedule => ?_⟩
        rw [proxied schedule]
        unfold httpConnect
        rw [built]
        rfl
  | exchanged request exchange next moved =>
      obtain ⟨target, buf, targeted, built, same, reached, proxied⟩ := before
      refine ⟨target, buf, targeted, built, same,
        Relation.ReflTransGen.tail reached moved, fun schedule => ?_⟩
      rw [exchangeStep_conclude request exchange next
        (exchangeStep_cases request exchange next moved)
        (reaches_inOrder request _ _ exchange reached)]
      exact proxied schedule
  | opened request exchange phase =>
      obtain ⟨target, buf, targeted, built, same, reached, proxied⟩ := before
      refine ⟨_, [], rfl, fun schedule => ?_⟩
      rw [proxied schedule]
      simp only [ProxyCall.continued, Exchange.conclude, phase]
  | declined request exchange error phase =>
      obtain ⟨target, buf, targeted, built, same, reached, proxied⟩ := before
      refine ⟨rfl, [], ?_⟩
      rw [proxied []]
      simp only [ProxyCall.continued, Exchange.conclude, phase]
  | copied requestSent state next side moved =>
      obtain ⟨outbound, taken, rfl, proxied⟩ := before
      refine ⟨outbound, taken ++ [side], ?_, proxied⟩
      rw [relay_append]
      simp only [relay, RelayState.poll_eq_copied, moved, Option.getD_some]
  | joined requestSent state value ended =>
      obtain ⟨outbound, taken, rfl, proxied⟩ := before
      refine ⟨?_, taken, proxied taken⟩
      simp only [ProxyRun.ofRelay, ended, Option.map_some, Option.isSome_some]

theorem ProxyCall.reachable_explains (call : ProxyCall) (session : Session)
    (reached : Reachable call.step .dialling session) :
    call.Explains session :=
  reached.invariant call.Explains True.intro
    (fun before event after moved holds =>
      sessionStep_explains call before after
        (call.step_cases before after event moved) holds)

theorem ProxyCall.reaches_proxy (call : ProxyCall) (schedule : List Side)
    (ended : (call.proxy schedule).result.isSome = true) :
    Reachable call.step .dialling (.returned (call.proxy schedule)) := by
  have begins : call.step .dialling .advanced = some call.dialled := rfl
  have dialled : Reachable call.step .dialling call.dialled :=
    (Reachable.refl _ _).tail begins
  rcases call.dialled_cases with ⟨error, failed, proxied⟩ |
    ⟨_, direct, proxied⟩ | ⟨target, buf, _, built, begun, proxied⟩
  · rw [proxied schedule, ← failed]
    exact dialled
  · rw [direct] at dialled
    rw [proxied schedule] at ended ⊢
    exact dialled.trans (call.reaches_joined [] schedule call.outbound ended)
  · rw [begun] at dialled
    rw [proxied schedule] at ended ⊢
    obtain ⟨final, exchanged, phase, concluded⟩ := exchange_refines
      call.runtime target call.via.headers call.outbound.reads
      call.outbound.writes buf built
    rw [← concluded] at phase ended ⊢
    have there := dialled.trans (call.reaches_exchange _ _ final exchanged)
    cases result : (final.conclude (asBytes buf)).result with
    | error error =>
        rw [result] at phase
        have declined : call.continued (final.conclude (asBytes buf)) schedule =
            .failed error final.sent := by
          simp only [ProxyCall.continued, Exchange.conclude, phase]
        have ends : call.step (.handshaking (asBytes buf) final) .advanced =
            some (.returned (.failed error final.sent)) := by
          simp only [ProxyCall.step, phase]
        rw [declined]
        exact there.tail ends
    | ok done =>
        rw [result] at phase
        have opened : call.continued (final.conclude (asBytes buf)) schedule =
            .relaying final.sent schedule call.inbound
              { reads := final.reads, writes := final.writes } := by
          simp only [ProxyCall.continued, Exchange.conclude, phase]
        have opens : call.step (.handshaking (asBytes buf) final) .advanced =
            some (call.opened final) := by
          simp only [ProxyCall.step, phase]
        rw [opened] at ended ⊢
        exact (there.tail opens).trans
          (call.reaches_joined final.sent schedule _ ended)

/-- Stepped in whatever order, the connection ends in the runs of `proxy` that
have a result and in no others.  And it does end, in every order of its socket
calls, since the scripts of both peers are finite and end their streams: a peer
that is silent or sends for ever has no script. -/
theorem session_refines_proxy (call : ProxyCall) :
    (∀ run, Reachable call.step .dialling (.returned run) ↔
      run.result.isSome = true ∧ ∃ schedule, call.proxy schedule = run) ∧
    ∀ session, Inevitable call.step
      (fun later => later.hasReturned = true) session := by
  constructor
  · intro run
    constructor
    · intro reached
      exact call.reachable_explains _ reached
    · rintro ⟨ended, schedule, rfl⟩
      exact call.reaches_proxy schedule ended
  · intro session
    apply inevitable_of_rank _ (fun _ => True) call.remaining
    · intro before event after moved holds
      exact holds
    · intro before event after moved _
      exact sessionStep_remaining call before after
        (call.step_cases before after event moved)
    · intro before _ running
      exact call.step_isSome before (Bool.not_eq_true _ ▸ running)
    · exact True.intro

/-! ### What has crossed at any instant -/

def Session.observed : Session → ProxyRun
  | .dialling => { result := none, requestSent := [], relayed := none }
  | .handshaking _ exchange =>
      { result := none, requestSent := exchange.sent, relayed := none }
  | .relaying requestSent state => .ofRelay requestSent state
  | .returned run => run

def ProxyCall.Sends (call : ProxyCall) (requestSent : Bytes) : Prop :=
  requestSent ≠ [] →
    ∃ target buf, call.connectTarget = some target ∧
      buildRequest call.runtime target call.via.headers = .ok buf ∧
      requestSent <+: asBytes buf

/-- What the handshake reads, which no client ever sees: nothing without a
target. -/
def ProxyCall.Swallows (call : ProxyCall) (header : Bytes) : Prop :=
  (call.connectTarget = none → header = []) ∧
    (call.connectTarget ≠ none →
      header = (readLoop [] call.outbound.reads).inbufs)

/-- Only the request and the client's bytes go up, and only what follows the
bytes the handshake has read comes down, each in its order; through a tunnel
nothing does before it is established. -/
structure ProxyCall.InOrder (call : ProxyCall) (seen : ProxyRun) : Prop where
  request : call.Sends seen.requestSent
  forwarded : seen.forwarded <+: stream call.inbound.reads
  returned :
    seen.returned ≠ [] →
      ∃ header, call.Swallows header ∧
        header ++ seen.returned <+: stream call.outbound.reads
  established :
    seen.forwarded ≠ [] ∨ seen.returned ≠ [] →
      ∀ target, call.connectTarget = some target →
        ∀ schedule, Established call.upstream call.runtime call.via target
          (call.surroundings schedule)

theorem ProxyCall.InOrder.of_unrelayed (call : ProxyCall) (seen : ProxyRun)
    (unrelayed : seen.relayed = none) (request : call.Sends seen.requestSent) :
    call.InOrder seen := by
  have up : seen.forwarded = [] := by
    simp only [ProxyRun.forwarded, unrelayed]
  have down : seen.returned = [] := by
    simp only [ProxyRun.returned, unrelayed]
  refine ⟨request, ?_, fun some_ => absurd down some_, ?_⟩
  · rw [up]
    exact List.nil_prefix
  · rintro (some_ | some_)
    · exact absurd up some_
    · exact absurd down some_

theorem readLoop_conserves (inbufs : Bytes) (events : List ReadEvent)
    (status : Nat) (reported : (readLoop inbufs events).status = .ok status) :
    (readLoop inbufs events).inbufs ++ stream (readLoop inbufs events).reads =
      inbufs ++ stream events := by
  induction events generalizing inbufs with
  | nil => cases reported
  | cons event rest ih =>
      cases event with
      | eof => cases reported
      | wouldBlock => exact ih inbufs reported
      | failed error => cases reported
      | data first more =>
          simp only [readLoop] at reported ⊢
          split at reported
          · cases reported
          rename_i room
          rw [if_neg room]
          split at reported
          · rename_i complete
            rw [if_pos complete]
            simp only [stream_pushBack, stream, List.append_assoc]
            rw [← List.append_assoc (List.take _ _), List.take_append_drop]
          rename_i incomplete
          rw [if_neg incomplete]
          split at reported
          · cases reported
          rename_i short
          rw [if_neg short, ih _ reported]
          have whole : (first :: more).take (responseLimit - inbufs.length) =
              first :: more := by
            apply List.take_of_length_le
            rw [List.length_append, List.length_take] at short
            omega
          rw [whole, List.append_assoc]
          rfl

theorem httpConnect_leaves (runtime : Runtime) (target : String)
    (headers : HashMap String) (reads : List ReadEvent)
    (writes : List WriteEvent)
    (opened : (httpConnect runtime target headers reads writes).result =
      .ok ()) :
    (readLoop [] reads).inbufs ++
        stream (httpConnect runtime target headers reads writes).reads =
      stream reads ∧
    (WritesClean writes →
      WritesClean (httpConnect runtime target headers reads writes).writes) := by
  obtain ⟨request, built, wrote, complete, status, parsed, _⟩ :=
    (httpConnect_ok_iff runtime target headers reads writes).mp opened
  have reported := (readLoop_status_ok_iff [] reads rfl status).mpr
    ⟨complete, parsed⟩
  simp only [httpConnect, built, wrote]
  refine ⟨readLoop_conserves [] reads status reported, fun clean => ?_⟩
  exact clean.suffix (writeLoop_clean (asBytes request) 0 writes clean).2.2

/-- The relay works on the client's socket and on what is left of the
upstream's. -/
structure ProxyCall.Relays (call : ProxyCall) (requestSent : Bytes)
    (outbound : Socket) : Prop where
  request : call.Sends requestSent
  reads :
    ∃ header, call.Swallows header ∧
      header ++ stream outbound.reads = stream call.outbound.reads
  writes : WritesClean call.outbound.writes → WritesClean outbound.writes
  established :
    ∀ target, call.connectTarget = some target →
      ∀ schedule, Established call.upstream call.runtime call.via target
        (call.surroundings schedule)
  proxied :
    ∀ schedule, call.proxy schedule =
      .relaying requestSent schedule call.inbound outbound

theorem ProxyCall.proxy_cases (call : ProxyCall) :
    (∃ error requestSent, call.Sends requestSent ∧
      ∀ schedule, call.proxy schedule = .failed error requestSent) ∨
    ∃ requestSent outbound, call.Relays requestSent outbound := by
  rcases call.dialled_cases with ⟨error, _, proxied⟩ |
    ⟨untargeted, _, proxied⟩ | ⟨target, buf, targeted, built, _, proxied⟩
  · exact Or.inl ⟨error, [], fun some_ => absurd rfl some_, proxied⟩
  · refine Or.inr ⟨[], call.outbound,
      { request := fun some_ => absurd rfl some_
        reads := ⟨[], ⟨fun _ => rfl, fun some_ => absurd untargeted some_⟩, rfl⟩
        writes := fun clean => clean
        established := ?_
        proxied := proxied }⟩
    intro target some_
    rw [untargeted] at some_
    cases some_
  · have sent := httpConnect_sent call.runtime target call.via.headers
      call.outbound.reads call.outbound.writes
    have leaves := httpConnect_leaves call.runtime target call.via.headers
      call.outbound.reads call.outbound.writes
    rw [built] at sent
    generalize httpConnect call.runtime target call.via.headers
      call.outbound.reads call.outbound.writes = handshake at *
    cases opened : handshake.result with
    | error error =>
        refine Or.inl ⟨error, handshake.sent,
          fun _ => ⟨target, buf, targeted, built, sent⟩, fun schedule => ?_⟩
        rw [proxied schedule]
        simp only [ProxyCall.continued, opened]
    | ok done =>
        have relayed (schedule : List Side) :
            call.proxy schedule =
              .relaying handshake.sent schedule call.inbound
                { reads := handshake.reads, writes := handshake.writes } := by
          rw [proxied schedule]
          simp only [ProxyCall.continued, opened]
        have established (schedule : List Side) :
            Established call.upstream call.runtime call.via target
              (call.surroundings schedule) := by
          by_contra absent
          obtain ⟨error, early, failed, _⟩ := proxy_of_not_established
            call.upstream call.runtime call.inbound call.via target
            (call.surroundings schedule) absent
          have same := relayed schedule
          unfold ProxyCall.proxy at same
          rw [targeted, failed] at same
          cases congrArg ProxyRun.relayed same
        obtain ⟨reads, writes⟩ := leaves opened
        have swallows : call.Swallows
            (readLoop [] call.outbound.reads).inbufs := by
          refine ⟨fun untargeted => ?_, fun _ => rfl⟩
          rw [untargeted] at targeted
          cases targeted
        refine Or.inr ⟨handshake.sent, _,
          { request := fun _ => ⟨target, buf, targeted, built, sent⟩
            reads := ⟨_, swallows, reads⟩
            writes := writes
            established := ?_
            proxied := relayed }⟩
        intro other some_
        rw [targeted] at some_
        cases some_
        exact established

theorem ProxyCall.relays_of_proxied (call : ProxyCall) (requestSent : Bytes)
    (outbound : Socket)
    (proxied : ∀ schedule, call.proxy schedule =
      .relaying requestSent schedule call.inbound outbound) :
    call.Relays requestSent outbound := by
  rcases call.proxy_cases with ⟨error, sent, _, failed⟩ | ⟨sent, found, relays⟩
  · have same := (failed []).symm.trans (proxied [])
    cases congrArg ProxyRun.relayed same
  · have same := (relays.proxied []).symm.trans (proxied [])
    have requests : sent = requestSent := congrArg ProxyRun.requestSent same
    have started : RelayState.start call.inbound found =
        RelayState.start call.inbound outbound :=
      Option.some.inj (congrArg ProxyRun.relayed same)
    have reads : found.reads = outbound.reads :=
      congrArg (fun state => state.rx.reads) started
    have writes : found.writes = outbound.writes :=
      congrArg (fun state => state.tx.writes) started
    have sockets : found = outbound := by
      cases found
      cases outbound
      cases reads
      cases writes
      rfl
    rw [← requests, ← sockets]
    exact relays

theorem ProxyCall.proxy_inOrder (call : ProxyCall) (schedule : List Side) :
    call.InOrder (call.proxy schedule) := by
  rcases call.proxy_cases with ⟨error, requestSent, request, proxied⟩ |
    ⟨requestSent, outbound, relays⟩
  · rw [proxied schedule]
    exact .of_unrelayed call _ rfl request
  · obtain ⟨header, swallows, left⟩ := relays.reads
    rw [relays.proxied schedule]
    refine
      { request := relays.request
        forwarded := (relay_tx_exact schedule call.inbound outbound).inOrder
        returned := fun _ => ⟨header, swallows, ?_⟩
        established := fun _ => relays.established }
    rw [← left]
    apply (List.prefix_append_right_inj header).mpr
    exact (relay_rx_exact schedule call.inbound outbound).inOrder

theorem ProxyCall.observed_inOrder (call : ProxyCall) (session : Session)
    (explained : call.Explains session) : call.InOrder session.observed := by
  cases session with
  | dialling =>
      exact .of_unrelayed call _ rfl (fun some_ => absurd rfl some_)
  | handshaking request exchange =>
      obtain ⟨target, buf, targeted, built, same, reached, _⟩ := explained
      refine .of_unrelayed call _ rfl (fun _ => ⟨target, buf, targeted, built, ?_⟩)
      have sent := (reaches_inOrder request _ _ exchange reached).2
      rw [← same]
      simp only [Session.observed, sent]
      exact List.take_prefix _ _
  | relaying requestSent state =>
      obtain ⟨outbound, taken, rfl, proxied⟩ := explained
      have inOrder := call.proxy_inOrder taken
      rw [proxied taken] at inOrder
      exact inOrder
  | returned run =>
      obtain ⟨_, schedule, rfl⟩ := explained
      exact call.proxy_inOrder schedule

theorem exchangeStep_sent (request : Bytes) (state next : Exchange)
    (step : ExchangeStep request state next) : state.sent <+: next.sent := by
  cases step with
  | taken count rest phase unfinished write progress =>
      exact List.prefix_append _ _
  | stalled rest phase unfinished write => exact List.prefix_refl _
  | writePending rest phase unfinished pending => exact List.prefix_refl _
  | writeFailed error rest phase unfinished failed => exact List.prefix_refl _
  | written phase finished => exact List.prefix_refl _
  | received first more rest phase read => exact List.prefix_refl _
  | closed rest phase read => exact List.prefix_refl _
  | readPending rest phase pending => exact List.prefix_refl _
  | readFailed error rest phase failed => exact List.prefix_refl _
  | parsed phase => exact List.prefix_refl _

theorem copyStep_delivered (state next : CopyState)
    (step : CopyStep state next) : state.delivered <+: next.delivered := by
  cases step with
  | bytesTaken chunk rest count writes phase someTaken within answered =>
      exact List.prefix_append _ _
  | endOfStream rest phase read => exact List.prefix_refl _
  | chunkRead rest first more phase read => exact List.prefix_refl _
  | readPending rest phase read => exact List.prefix_refl _
  | readFailed rest error phase read => exact List.prefix_refl _
  | chunkWritten chunk phase => exact List.prefix_refl _
  | writePending chunk rest writes phase pending => exact List.prefix_refl _
  | writeFailed chunk rest error writes phase unfinished blamed =>
      exact List.prefix_refl _
  | shutdown exit phase => exact List.prefix_refl _

def ProxyRun.Grows (early late : ProxyRun) : Prop :=
  early.toUpstream <+: late.toUpstream ∧ early.returned <+: late.returned

theorem ProxyRun.Grows.refl (run : ProxyRun) : run.Grows run :=
  ⟨List.prefix_refl _, List.prefix_refl _⟩

theorem sessionStep_grows (call : ProxyCall) (session next : Session)
    (step : SessionStep call session next) :
    session.observed.Grows next.observed := by
  cases step with
  | dialled => exact ⟨List.nil_prefix, List.nil_prefix⟩
  | exchanged request exchange next moved =>
      refine ⟨?_, List.prefix_refl _⟩
      have grown := exchangeStep_sent request exchange next
        (exchangeStep_cases request exchange next moved)
      simpa [Session.observed, ProxyRun.toUpstream, ProxyRun.forwarded] using
        grown
  | opened request exchange phase =>
      exact ⟨List.prefix_refl _, List.prefix_refl _⟩
  | declined request exchange error phase =>
      exact ⟨List.prefix_refl _, List.prefix_refl _⟩
  | copied requestSent state next side moved =>
      cases side with
      | first =>
          obtain ⟨tx, stepped, rfl⟩ := Option.map_eq_some_iff.mp moved
          refine ⟨?_, List.prefix_refl _⟩
          apply (List.prefix_append_right_inj requestSent).mpr
          exact copyStep_delivered _ _ (copyStep_of_copyCounted _ _ stepped)
      | second =>
          obtain ⟨rx, stepped, rfl⟩ := Option.map_eq_some_iff.mp moved
          refine ⟨List.prefix_refl _, ?_⟩
          exact copyStep_delivered _ _ (copyStep_of_copyCounted _ _ stepped)
  | joined requestSent state value ended => exact .refl _

theorem session_in_order (call : ProxyCall) (session : Session)
    (reached : Reachable call.step .dialling session) :
    call.InOrder session.observed ∧
      ∀ later, Reachable call.step session later →
        session.observed.Grows later.observed := by
  refine ⟨call.observed_inOrder session
    (call.reachable_explains session reached), ?_⟩
  intro later continued
  apply continued.invariant
    (fun later => session.observed.Grows later.observed) (.refl _)
  intro before event after moved ⟨up, down⟩
  obtain ⟨more, further⟩ := sessionStep_grows call before after
    (call.step_cases before after event moved)
  exact ⟨up.trans more, down.trans further⟩

def greetedCall : ProxyCall :=
  { upstream := corpProxy
    runtime := bareRuntime
    inbound := greetedClient
    via := corpVia
    connectTarget := some "www.example.org:443"
    dial := (greetingProxy []).dial
    outboundNodelay := .ok ()
    inboundNodelay := .ok ()
    outbound :=
      { reads := [.data 72 (asBytes "TTP/1.1 200 OK\r\n\r\n")]
        writes := [] } }

theorem session_in_order_of_greeted :
    ∃ session,
      session.observed.forwarded = stream greetedClient.reads ∧
      greetedCall.InOrder session.observed ∧
      ∀ later, Reachable greetedCall.step session later →
        session.observed.Grows later.observed := by
  have reached : Reachable greetedCall.step .dialling _ :=
    ⟨[.advanced, .advanced, .advanced, .advanced, .advanced, .advanced,
      .polled .first, .polled .first], rfl⟩
  exact ⟨_, rfl, session_in_order greetedCall _ reached⟩

end TlsProxyTunnel
