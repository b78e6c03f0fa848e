/-
The statistics logger of the relay.

Where an interval is set a task of its own reads the two counters at every tick
and logs them, while the copies go on; it is aborted once they have been joined.
Ticks are due at multiples of the interval, also when the task is late.
-/

import TlsProxyTunnel.Session

namespace TlsProxyTunnel

open Interleave hiding run
open Transition

/-- `skipping` waits for the first tick, which is due at once.  The two
counters are loaded one after the other. -/
inductive LoggerPhase where
  | skipping
  | waiting
  | loadingTx
  | loadingRx (tx : UInt64)
  deriving DecidableEq, Repr

/-- `deadline` is when the next tick is due, counted from the first. -/
structure StatsLogger where
  phase : LoggerPhase
  deadline : Duration
  deriving DecidableEq, Repr

structure LoggedRelay where
  relay : RelayState
  elapsed : Duration
  logger : Option StatsLogger
  aborted : Bool
  lines : List String

def ProxyToUpstream.label (upstream : ProxyToUpstream)
    (connectTarget : Option String) : String :=
  match connectTarget with
  | some target => upstream.addr ++ " → " ++ target
  | none => upstream.addr ++ " (direct)"

def statsLine (label : String) (tx rx : UInt64) : String :=
  "[relay:" ++ label ++ "] in-flight tx=" ++ toString tx.toNat ++ " rx=" ++
    toString rx.toNat

def LoggedRelay.start (statsInterval : Duration) (inbound outbound : Socket) :
    LoggedRelay :=
  { relay := RelayState.start inbound outbound
    elapsed := 0
    logger :=
      if 0 < statsInterval then some { phase := .skipping, deadline := 0 }
      else none
    aborted := false
    lines := [] }

def LoggedRelay.ticked (statsInterval : Duration) (state : LoggedRelay)
    (logger : StatsLogger) (phase : LoggerPhase) : Option LoggedRelay :=
  if state.aborted = false ∧ logger.deadline ≤ state.elapsed then
    some
      { state with
        logger := some
          { phase := phase
            deadline := logger.deadline + statsInterval } }
  else
    none

/-- The task up to its next await or load; an abort finds it at the await. -/
def LoggedRelay.logged (statsInterval : Duration) (label : String)
    (state : LoggedRelay) : Option LoggedRelay :=
  match state.logger with
  | none => none
  | some logger =>
      match logger.phase with
      | .skipping => state.ticked statsInterval logger .waiting
      | .waiting => state.ticked statsInterval logger .loadingTx
      | .loadingTx =>
          some
            { state with
              logger := some
                { logger with phase := .loadingRx state.relay.tx.counter } }
      | .loadingRx tx =>
          some
            { state with
              logger := some { logger with phase := .waiting }
              lines := state.lines ++
                [statsLine label tx state.relay.rx.counter] }

inductive LoggedEvent where
  | polled (side : Side)
  | passed (time : Duration)
  | logged
  | aborted

def loggedStep (statsInterval : Duration) (label : String)
    (state : LoggedRelay) (event : LoggedEvent) : Option LoggedRelay :=
  match event with
  | .polled side =>
      (state.relay.copied side).map (fun relay => { state with relay := relay })
  | .passed time => some { state with elapsed := state.elapsed + time }
  | .logged => state.logged statsInterval label
  | .aborted =>
      state.relay.result.map (fun _ => { state with aborted := true })

def countOf (chunks : List Bytes) : UInt64 :=
  UInt64.ofNat chunks.flatten.length

theorem copyStep_chunks (state next : CopyState)
    (step : CopyStep state next) : state.chunks <+: next.chunks := by
  cases step with
  | chunkWritten chunk phase => exact List.prefix_append _ _
  | endOfStream rest phase read => exact List.prefix_refl _
  | chunkRead rest first more phase read => exact List.prefix_refl _
  | readPending rest phase read => exact List.prefix_refl _
  | readFailed rest error phase read => exact List.prefix_refl _
  | bytesTaken chunk rest count writes phase someTaken within answered =>
      exact List.prefix_refl _
  | writePending chunk rest writes phase pending => exact List.prefix_refl _
  | writeFailed chunk rest error writes phase unfinished blamed =>
      exact List.prefix_refl _
  | shutdown exit phase => exact List.prefix_refl _

theorem RelayState.copied_chunks (side : Side) (state next : RelayState)
    (moved : state.copied side = some next) :
    state.tx.chunks <+: next.tx.chunks ∧
      state.rx.chunks <+: next.rx.chunks := by
  cases side with
  | first =>
      obtain ⟨tx, stepped, rfl⟩ := Option.map_eq_some_iff.mp moved
      exact ⟨copyStep_chunks _ _ (copyStep_of_copyCounted _ _ stepped),
        List.prefix_refl _⟩
  | second =>
      obtain ⟨rx, stepped, rfl⟩ := Option.map_eq_some_iff.mp moved
      exact ⟨List.prefix_refl _,
        copyStep_chunks _ _ (copyStep_of_copyCounted _ _ stepped)⟩

theorem CopyState.Invariant.counter_eq {input : Bytes} {state : CopyState}
    (holds : state.Invariant input) : state.counter = countOf state.chunks :=
  holds.counter.trans holds.total

theorem CopyState.Ended.chunks_delivered {input : Bytes} {state : CopyState}
    {exit : CopyExit} (ended : state.Ended input exit) :
    state.chunks.flatten <+: state.delivered := by
  cases exit with
  | eof =>
      rw [ended.1]
  | readError error =>
      rw [ended.1]
  | writeError error =>
      obtain ⟨taken, missing, _, _, delivered, _⟩ := ended
      rw [delivered]
      exact List.prefix_append _ _

theorem CopyState.Invariant.chunks_delivered {input : Bytes}
    {state : CopyState} (holds : state.Invariant input) :
    state.chunks.flatten <+: state.delivered := by
  have account := holds.accounted
  cases phase : state.phase with
  | reading =>
      simp only [CopyState.Accounted, phase] at account
      rw [account.1]
  | writing chunk rest =>
      simp only [CopyState.Accounted, phase] at account
      obtain ⟨_, ⟨taken, _, delivered⟩, _⟩ := account
      rw [delivered]
      exact List.prefix_append _ _
  | closing exit =>
      simp only [CopyState.Accounted, phase] at account
      exact CopyState.Ended.chunks_delivered account.1
  | returned exit =>
      simp only [CopyState.Accounted, phase] at account
      exact CopyState.Ended.chunks_delivered account.1

/-! ### What the lines say -/

/-- The chunks that had been counted when the two counters of a line were
loaded. -/
abbrev Sighting := List Bytes × List Bytes

def Sighting.line (label : String) (sighting : Sighting) : String :=
  statsLine label (countOf sighting.1) (countOf sighting.2)

def Sighting.Before (early late : Sighting) : Prop :=
  early.1 <+: late.1 ∧ early.2 <+: late.2

def RelayState.counted (state : RelayState) : Sighting :=
  (state.tx.chunks, state.rx.chunks)

/-- The next tick is due as many intervals after the first as there have been
ticks, and the last one was due when it came. -/
def StatsLogger.OnTime (statsInterval : Duration) (logger : StatsLogger)
    (elapsed : Duration) (logged : Nat) : Prop :=
  match logger.phase with
  | .skipping => logger.deadline = 0 ∧ logged = 0
  | .waiting =>
      logger.deadline = statsInterval * (logged + 1) ∧
        logger.deadline ≤ elapsed + statsInterval
  | _ =>
      logger.deadline = statsInterval * (logged + 2) ∧
        logger.deadline ≤ elapsed + statsInterval

theorem StatsLogger.OnTime.later {statsInterval : Duration}
    {logger : StatsLogger} {elapsed : Duration} {logged : Nat}
    (onTime : logger.OnTime statsInterval elapsed logged) (later : Duration)
    (passed : elapsed ≤ later) :
    logger.OnTime statsInterval later logged := by
  unfold StatsLogger.OnTime at onTime ⊢
  have bound := Nat.add_le_add_right passed statsInterval
  cases phase : logger.phase with
  | skipping =>
      rw [phase] at onTime
      exact onTime
  | waiting =>
      rw [phase] at onTime
      exact ⟨onTime.1, onTime.2.trans bound⟩
  | loadingTx =>
      rw [phase] at onTime
      exact ⟨onTime.1, onTime.2.trans bound⟩
  | loadingRx tx =>
      rw [phase] at onTime
      exact ⟨onTime.1, onTime.2.trans bound⟩

structure LoggedRelay.Reports (statsInterval : Duration) (label : String)
    (state : LoggedRelay) (seen : List Sighting) : Prop where
  lines : state.lines = seen.map (Sighting.line label)
  ordered : seen.Pairwise Sighting.Before
  past : ∀ sighting, sighting ∈ seen → sighting.Before state.relay.counted
  loaded :
    ∀ logger tx, state.logger = some logger → logger.phase = .loadingRx tx →
      ∃ chunks, tx = countOf chunks ∧ chunks <+: state.relay.tx.chunks ∧
        ∀ sighting, sighting ∈ seen → sighting.1 <+: chunks
  onTime :
    ∀ logger, state.logger = some logger →
      logger.OnTime statsInterval state.elapsed seen.length
  enabled : state.logger = none → seen = []

structure LoggedRelay.Relayed (inbound outbound : Socket)
    (state : LoggedRelay) : Prop where
  tx : state.relay.tx.Invariant (stream inbound.reads)
  rx : state.relay.rx.Invariant (stream outbound.reads)
  scheduled :
    ∃ schedule, state.relay =
      TlsProxyTunnel.relay schedule (RelayState.start inbound outbound)

theorem LoggedRelay.start_reports (statsInterval : Duration) (label : String)
    (inbound outbound : Socket) :
    (LoggedRelay.start statsInterval inbound outbound).Reports statsInterval
      label [] where
  lines := rfl
  ordered := List.Pairwise.nil
  past := fun _ member => absurd member List.not_mem_nil
  loaded := by
    intro logger tx running phase
    simp only [LoggedRelay.start, Option.ite_none_right_eq_some,
      Option.some.injEq] at running
    rw [← running.2] at phase
    cases phase
  onTime := by
    intro logger running
    simp only [LoggedRelay.start, Option.ite_none_right_eq_some,
      Option.some.injEq] at running
    rw [← running.2]
    exact ⟨rfl, rfl⟩
  enabled := fun _ => rfl

theorem loggedStep_relayed (statsInterval : Duration) (label : String)
    (inbound outbound : Socket) (state next : LoggedRelay) (event : LoggedEvent)
    (moved : loggedStep statsInterval label state event = some next)
    (relayed : state.Relayed inbound outbound) :
    next.Relayed inbound outbound := by
  obtain ⟨tx, rx, taken, scheduled⟩ := relayed
  cases event with
  | polled side =>
      obtain ⟨after, copied, rfl⟩ := Option.map_eq_some_iff.mp moved
      have polled : after = relay (taken ++ [side])
          (RelayState.start inbound outbound) := by
        rw [relay_append, ← scheduled]
        simp only [relay, RelayState.poll_eq_copied, copied, Option.getD_some]
      cases side with
      | first =>
          obtain ⟨later, stepped, rfl⟩ := Option.map_eq_some_iff.mp copied
          exact ⟨copyStep_invariant _ _ _ (copyStep_of_copyCounted _ _ stepped)
            tx, rx, _, polled⟩
      | second =>
          obtain ⟨later, stepped, rfl⟩ := Option.map_eq_some_iff.mp copied
          exact ⟨tx, copyStep_invariant _ _ _
            (copyStep_of_copyCounted _ _ stepped) rx, _, polled⟩
  | passed time =>
      cases moved
      exact ⟨tx, rx, taken, scheduled⟩
  | logged =>
      simp only [loggedStep, LoggedRelay.logged, LoggedRelay.ticked] at moved
      repeat' split at moved
      all_goals cases moved
      all_goals exact ⟨tx, rx, taken, scheduled⟩
  | aborted =>
      obtain ⟨value, joined, rfl⟩ := Option.map_eq_some_iff.mp moved
      exact ⟨tx, rx, taken, scheduled⟩

theorem LoggedRelay.Reports.later {statsInterval : Duration} {label : String}
    {state : LoggedRelay} {seen : List Sighting}
    (reports : state.Reports statsInterval label seen) (next : LoggedRelay)
    (lines : next.lines = state.lines) (logger : next.logger = state.logger)
    (elapsed : state.elapsed ≤ next.elapsed)
    (further : state.relay.counted.Before next.relay.counted) :
    next.Reports statsInterval label seen where
  lines := lines.trans reports.lines
  ordered := reports.ordered
  past := fun sighting member =>
    ⟨(reports.past sighting member).1.trans further.1,
      (reports.past sighting member).2.trans further.2⟩
  loaded := by
    intro running tx same phase
    obtain ⟨chunks, count, within, after⟩ :=
      reports.loaded running tx (logger ▸ same) phase
    exact ⟨chunks, count, within.trans further.1, after⟩
  onTime := fun running same =>
    (reports.onTime running (logger ▸ same)).later next.elapsed elapsed
  enabled := fun off => reports.enabled (logger ▸ off)

theorem LoggedRelay.Reports.ticked {statsInterval : Duration} {label : String}
    {state next : LoggedRelay} {seen : List Sighting} (logger : StatsLogger)
    (phase : LoggerPhase) (reports : state.Reports statsInterval label seen)
    (moved : state.ticked statsInterval logger phase = some next)
    (unloaded : ∀ tx, phase ≠ .loadingRx tx)
    (onTime : logger.deadline ≤ state.elapsed →
      StatsLogger.OnTime statsInterval
        { phase := phase, deadline := logger.deadline + statsInterval }
        state.elapsed seen.length) :
    next.Reports statsInterval label seen := by
  unfold LoggedRelay.ticked at moved
  split at moved
  · rename_i due
    cases moved
    exact
      { lines := reports.lines
        ordered := reports.ordered
        past := reports.past
        loaded := by
          intro running tx same loading
          cases same
          exact absurd loading (unloaded tx)
        onTime := by
          intro running same
          cases same
          exact onTime due.2
        enabled := fun off => by cases off }
  · cases moved

theorem LoggedRelay.Reports.loadedTx {statsInterval : Duration}
    {label : String} {state : LoggedRelay} {seen : List Sighting}
    {inbound outbound : Socket} (logger : StatsLogger)
    (reports : state.Reports statsInterval label seen)
    (relayed : state.Relayed inbound outbound)
    (onTime : StatsLogger.OnTime statsInterval
      { logger with phase := .loadingRx state.relay.tx.counter }
      state.elapsed seen.length) :
    LoggedRelay.Reports statsInterval label
      { state with
        logger := some
          { logger with phase := .loadingRx state.relay.tx.counter } }
      seen where
  lines := reports.lines
  ordered := reports.ordered
  past := reports.past
  loaded := by
    intro running tx same loading
    cases same
    cases loading
    exact ⟨state.relay.tx.chunks, relayed.tx.counter_eq, List.prefix_refl _,
      fun sighting member => (reports.past sighting member).1⟩
  onTime := by
    intro running same
    cases same
    exact onTime
  enabled := fun off => by cases off

theorem LoggedRelay.Reports.wrote {statsInterval : Duration} {label : String}
    {state : LoggedRelay} {seen : List Sighting} {inbound outbound : Socket}
    (logger : StatsLogger) (tx : UInt64) (chunks : List Bytes)
    (reports : state.Reports statsInterval label seen)
    (relayed : state.Relayed inbound outbound) (count : tx = countOf chunks)
    (within : chunks <+: state.relay.tx.chunks)
    (after : ∀ sighting, sighting ∈ seen → sighting.1 <+: chunks)
    (onTime : StatsLogger.OnTime statsInterval { logger with phase := .waiting }
      state.elapsed (seen.length + 1)) :
    LoggedRelay.Reports statsInterval label
      { state with
        logger := some { logger with phase := .waiting }
        lines := state.lines ++ [statsLine label tx state.relay.rx.counter] }
      (seen ++ [(chunks, state.relay.rx.chunks)]) where
  lines := by
    rw [List.map_append, ← reports.lines, count, relayed.rx.counter_eq]
    rfl
  ordered := by
    refine List.pairwise_append.mpr
      ⟨reports.ordered, List.pairwise_singleton _ _, ?_⟩
    intro sighting member last same
    rw [List.mem_singleton] at same
    rw [same]
    exact ⟨after sighting member, (reports.past sighting member).2⟩
  past := by
    intro sighting member
    rcases List.mem_append.mp member with earlier | last
    · exact reports.past sighting earlier
    · rw [List.mem_singleton] at last
      rw [last]
      exact ⟨within, List.prefix_refl _⟩
  loaded := by
    intro running later same loading
    cases same
    cases loading
  onTime := by
    intro running same
    cases same
    rw [List.length_append, List.length_singleton]
    exact onTime
  enabled := fun off => by cases off

theorem loggedStep_reports (statsInterval : Duration) (label : String)
    (inbound outbound : Socket) (state next : LoggedRelay) (event : LoggedEvent)
    (moved : loggedStep statsInterval label state event = some next)
    (relayed : state.Relayed inbound outbound) (seen : List Sighting)
    (reports : state.Reports statsInterval label seen) :
    ∃ later, next.Reports statsInterval label later := by
  cases event with
  | polled side =>
      obtain ⟨after, copied, rfl⟩ := Option.map_eq_some_iff.mp moved
      exact ⟨seen, reports.later _ rfl rfl (Nat.le_refl _)
        (RelayState.copied_chunks side state.relay after copied)⟩
  | passed time =>
      cases moved
      exact ⟨seen, reports.later _ rfl rfl (Nat.le_add_right _ _)
        ⟨List.prefix_refl _, List.prefix_refl _⟩⟩
  | aborted =>
      obtain ⟨value, joined, rfl⟩ := Option.map_eq_some_iff.mp moved
      exact ⟨seen, reports.later _ rfl rfl (Nat.le_refl _)
        ⟨List.prefix_refl _, List.prefix_refl _⟩⟩
  | logged =>
      simp only [loggedStep, LoggedRelay.logged] at moved
      split at moved
      · cases moved
      rename_i logger running
      have due := reports.onTime logger running
      unfold StatsLogger.OnTime at due
      cases phase : logger.phase with
      | skipping =>
          simp only [phase] at moved due
          obtain ⟨atOnce, nothing⟩ := due
          refine ⟨seen, reports.ticked logger .waiting moved (by simp) ?_⟩
          intro passed
          refine ⟨?_, Nat.add_le_add_right passed _⟩
          simp [atOnce, nothing]
      | waiting =>
          simp only [phase] at moved due
          obtain ⟨intervals, _⟩ := due
          refine ⟨seen, reports.ticked logger .loadingTx moved (by simp) ?_⟩
          intro passed
          refine ⟨?_, Nat.add_le_add_right passed _⟩
          dsimp only
          rw [intervals]
          ring
      | loadingTx =>
          simp only [phase] at moved due
          cases moved
          exact ⟨seen, reports.loadedTx logger relayed due⟩
      | loadingRx tx =>
          simp only [phase] at moved due
          cases moved
          obtain ⟨chunks, count, within, after⟩ :=
            reports.loaded logger tx running phase
          exact ⟨_, reports.wrote logger tx chunks relayed count within after
            due⟩

theorem LoggedRelay.start_relayed (statsInterval : Duration)
    (inbound outbound : Socket) :
    (LoggedRelay.start statsInterval inbound outbound).Relayed inbound
      outbound :=
  { tx := CopyState.start_invariant inbound.reads outbound.writes
    rx := CopyState.start_invariant outbound.reads inbound.writes
    scheduled := ⟨[], rfl⟩ }

theorem loggedStep_off (statsInterval : Duration) (label : String)
    (state next : LoggedRelay) (event : LoggedEvent)
    (moved : loggedStep statsInterval label state event = some next)
    (off : state.logger = none) : next.logger = none := by
  cases event with
  | polled side =>
      obtain ⟨after, copied, rfl⟩ := Option.map_eq_some_iff.mp moved
      exact off
  | passed time =>
      cases moved
      exact off
  | logged =>
      simp only [loggedStep, LoggedRelay.logged, off] at moved
      cases moved
  | aborted =>
      obtain ⟨value, joined, rfl⟩ := Option.map_eq_some_iff.mp moved
      exact off

theorem reachable_reports (statsInterval : Duration) (label : String)
    (inbound outbound : Socket) (state : LoggedRelay)
    (reached : Reachable (loggedStep statsInterval label)
      (LoggedRelay.start statsInterval inbound outbound) state) :
    state.Relayed inbound outbound ∧
      ∃ seen, state.Reports statsInterval label seen :=
  reached.invariant
    (fun state => state.Relayed inbound outbound ∧
      ∃ seen, state.Reports statsInterval label seen)
    ⟨LoggedRelay.start_relayed statsInterval inbound outbound, [],
      LoggedRelay.start_reports statsInterval label inbound outbound⟩
    (by
      rintro before event after moved ⟨relayed, seen, reports⟩
      exact ⟨loggedStep_relayed statsInterval label inbound outbound before
          after event moved relayed,
        loggedStep_reports statsInterval label inbound outbound before after
          event moved relayed seen reports⟩)

theorem intervals_le {statsInterval deadline elapsed : Duration} {logged : Nat}
    (due : deadline = statsInterval * (logged + 2))
    (came : deadline ≤ elapsed + statsInterval) :
    statsInterval * logged ≤ elapsed := by
  rw [due, Nat.mul_add_one] at came
  have further := Nat.le_of_add_le_add_right came
  rw [Nat.mul_add_one] at further
  exact (Nat.le_add_right _ _).trans further

/-- However the logger is scheduled against the copies, the relay is one it
could have been alone, and the lines are true: each counts bytes that had been
delivered by then, modulo the width of a counter, no line is behind an earlier
one or ahead of the relay, and before the n-th of them n intervals have passed.
Without an interval there are none. -/
theorem stats_log_exact (statsInterval : Duration) (label : String)
    (inbound outbound : Socket) (state : LoggedRelay)
    (reached : Reachable (loggedStep statsInterval label)
      (LoggedRelay.start statsInterval inbound outbound) state) :
    (∃ schedule, state.relay =
      relay schedule (RelayState.start inbound outbound)) ∧
    (∃ seen : List Sighting,
      state.lines = seen.map (Sighting.line label) ∧
      seen.Pairwise Sighting.Before ∧
      ∀ sighting, sighting ∈ seen →
        sighting.Before state.relay.counted ∧
        sighting.1.flatten <+: state.relay.tx.delivered ∧
        sighting.2.flatten <+: state.relay.rx.delivered) ∧
    statsInterval * state.lines.length ≤ state.elapsed ∧
    (statsInterval = 0 → state.lines = []) := by
  obtain ⟨relayed, seen, reports⟩ :=
    reachable_reports statsInterval label inbound outbound state reached
  have counted : state.lines.length = seen.length := by
    rw [reports.lines, List.length_map]
  refine ⟨relayed.scheduled, ⟨seen, reports.lines, reports.ordered, ?_⟩, ?_, ?_⟩
  · intro sighting member
    obtain ⟨⟨tx, moreTx⟩, ⟨rx, moreRx⟩⟩ := reports.past sighting member
    refine ⟨reports.past sighting member, ?_, ?_⟩
    · refine List.IsPrefix.trans ⟨tx.flatten, ?_⟩ relayed.tx.chunks_delivered
      rw [← List.flatten_append, moreTx]
      rfl
    · refine List.IsPrefix.trans ⟨rx.flatten, ?_⟩ relayed.rx.chunks_delivered
      rw [← List.flatten_append, moreRx]
      rfl
  · rw [counted]
    cases running : state.logger with
    | none =>
        rw [reports.enabled running, List.length_nil, Nat.mul_zero]
        exact Nat.zero_le _
    | some logger =>
        have due := reports.onTime logger running
        unfold StatsLogger.OnTime at due
        cases phase : logger.phase with
        | skipping =>
            simp only [phase] at due
            rw [due.2, Nat.mul_zero]
            exact Nat.zero_le _
        | waiting =>
            simp only [phase] at due
            have bound := due.2
            rw [due.1, Nat.mul_add_one] at bound
            exact Nat.le_of_add_le_add_right bound
        | loadingTx =>
            simp only [phase] at due
            exact intervals_le due.1 due.2
        | loadingRx tx =>
            simp only [phase] at due
            exact intervals_le due.1 due.2
  · rintro rfl
    have off : state.logger = none := by
      apply reached.invariant (fun state => state.logger = none) rfl
      intro before event after moved off
      exact loggedStep_off 0 label before after event moved off
    rw [reports.lines, reports.enabled off, List.map_nil]

theorem stats_log_exact_of_one_line :
    ∃ state : LoggedRelay,
      Reachable (loggedStep 10 (corpProxy.label none))
        (LoggedRelay.start 10 greetedClient { reads := [], writes := [] })
        state ∧
      state.lines =
        ["[relay:proxy.internal:3128 (direct)] in-flight tx=3 rx=0"] ∧
      (∃ schedule, state.relay = relay schedule
        (RelayState.start greetedClient { reads := [], writes := [] })) ∧
      (∃ seen : List Sighting,
        state.lines = seen.map (Sighting.line (corpProxy.label none)) ∧
        seen.Pairwise Sighting.Before ∧
        ∀ sighting, sighting ∈ seen →
          sighting.Before state.relay.counted ∧
          sighting.1.flatten <+: state.relay.tx.delivered ∧
          sighting.2.flatten <+: state.relay.rx.delivered) ∧
      10 * state.lines.length ≤ state.elapsed ∧
      ((10 : Duration) = 0 → state.lines = []) := by
  have reached : Reachable (loggedStep 10 (corpProxy.label none))
      (LoggedRelay.start 10 greetedClient { reads := [], writes := [] }) _ :=
    ⟨[.logged, .polled .first, .passed 12, .logged, .polled .first,
      .polled .first, .logged, .polled .second, .logged], rfl⟩
  exact ⟨_, reached, rfl, stats_log_exact 10 (corpProxy.label none)
    greetedClient { reads := [], writes := [] } _ reached⟩

end TlsProxyTunnel
