/-
`http_connect` one socket call at a time.

Each step is one `try_write` or `try_read`, or the verdict on what was read.
The two loops of the handshake come out as runs of this machine, and what has
to hold between two calls can be said of its states.
-/

import TlsProxyTunnel.Library.Transition
import TlsProxyTunnel.Handshake
import TlsProxyTunnel.RelayExact

namespace TlsProxyTunnel

open Delimiter StateTransition Transition

/-- `parsing` has handed the buffer to `parse_connect_status`. -/
inductive ExchangePhase where
  | writing
  | reading
  | parsing
  | returned (result : Except BoxError Unit)

/-- `written` and `inbufs[..total]` are the variables of the two loops.  `sent`
is what the socket has accepted, and `received` counts the reads that brought
something; both are kept for the statements only. -/
structure Exchange where
  phase : ExchangePhase
  written : Nat
  inbufs : Bytes
  reads : List ReadEvent
  writes : List WriteEvent
  sent : Bytes
  received : Nat

def Exchange.start (reads : List ReadEvent) (writes : List WriteEvent) :
    Exchange :=
  { phase := .writing
    written := 0
    inbufs := []
    reads := reads
    writes := writes
    sent := []
    received := 0 }

def exchangeStep (request : Bytes) (state : Exchange) : Option Exchange :=
  match state.phase with
  | .writing =>
      if state.written < request.length then
        match tryWrite (request.drop state.written) state.writes with
        | (.ok count, rest) =>
            if count = 0 then
              some { state with phase := .reading, writes := rest }
            else
              some
                { state with
                  written := state.written + count
                  writes := rest
                  sent := state.sent ++
                    (request.drop state.written).take count }
        | (.wouldBlock, rest) => some { state with writes := rest }
        | (.failed error, rest) =>
            some
              { state with
                phase := .returned (.error (.io error))
                writes := rest }
      else
        some { state with phase := .reading }
  | .reading =>
      match tryRead (responseLimit - state.inbufs.length) state.reads with
      | (.ok [], rest) =>
          some
            { state with
              phase := .returned (.error closedEarly)
              reads := rest }
      | (.ok (first :: more), rest) =>
          let filled := state.inbufs ++ first :: more
          some
            { state with
              phase :=
                if occurs headerEnd filled then .parsing
                else if responseLimit ≤ filled.length then
                  .returned (.error headerTooLarge)
                else .reading
              inbufs := filled
              reads := rest
              received := state.received + 1 }
      | (.wouldBlock, rest) => some { state with reads := rest }
      | (.failed error, rest) =>
          some
            { state with
              phase := .returned (.error (.io error))
              reads := rest }
  | .parsing =>
      some
        { state with
          phase := .returned
            ((parseConnectStatus state.inbufs).bind checkStatus) }
  | .returned _ => none

/-! ### What one step can do -/

inductive ExchangeStep (request : Bytes) (state : Exchange) : Exchange → Prop where
  | taken (count : Nat) (rest : List WriteEvent) (phase : state.phase = .writing)
      (unfinished : state.written < request.length)
      (write : tryWrite (request.drop state.written) state.writes =
        (.ok count, rest))
      (progress : count ≠ 0) :
      ExchangeStep request state
        { state with
          written := state.written + count
          writes := rest
          sent := state.sent ++ (request.drop state.written).take count }
  | stalled (rest : List WriteEvent) (phase : state.phase = .writing)
      (unfinished : state.written < request.length)
      (write : tryWrite (request.drop state.written) state.writes =
        (.ok 0, rest)) :
      ExchangeStep request state
        { state with phase := .reading, writes := rest }
  | writePending (rest : List WriteEvent) (phase : state.phase = .writing)
      (unfinished : state.written < request.length)
      (pending : state.writes = .wouldBlock :: rest) :
      ExchangeStep request state { state with writes := rest }
  | writeFailed (error : IoError) (rest : List WriteEvent)
      (phase : state.phase = .writing)
      (unfinished : state.written < request.length)
      (failed : state.writes = .failed error :: rest) :
      ExchangeStep request state
        { state with
          phase := .returned (.error (.io error))
          writes := rest }
  | written (phase : state.phase = .writing)
      (finished : request.length ≤ state.written) :
      ExchangeStep request state { state with phase := .reading }
  | received (first : UInt8) (more : Bytes) (rest : List ReadEvent)
      (phase : state.phase = .reading)
      (read : tryRead (responseLimit - state.inbufs.length) state.reads =
        (.ok (first :: more), rest)) :
      ExchangeStep request state
        { state with
          phase :=
            if occurs headerEnd (state.inbufs ++ first :: more) then .parsing
            else if responseLimit ≤ (state.inbufs ++ first :: more).length then
              .returned (.error headerTooLarge)
            else .reading
          inbufs := state.inbufs ++ first :: more
          reads := rest
          received := state.received + 1 }
  | closed (rest : List ReadEvent) (phase : state.phase = .reading)
      (read : tryRead (responseLimit - state.inbufs.length) state.reads =
        (.ok [], rest)) :
      ExchangeStep request state
        { state with
          phase := .returned (.error closedEarly)
          reads := rest }
  | readPending (rest : List ReadEvent) (phase : state.phase = .reading)
      (pending : state.reads = .wouldBlock :: rest) :
      ExchangeStep request state { state with reads := rest }
  | readFailed (error : IoError) (rest : List ReadEvent)
      (phase : state.phase = .reading)
      (failed : state.reads = .failed error :: rest) :
      ExchangeStep request state
        { state with
          phase := .returned (.error (.io error))
          reads := rest }
  | parsed (phase : state.phase = .parsing) :
      ExchangeStep request state
        { state with
          phase := .returned
            ((parseConnectStatus state.inbufs).bind checkStatus) }

theorem exchangeStep_cases (request : Bytes) (state next : Exchange)
    (moved : exchangeStep request state = some next) :
    ExchangeStep request state next := by
  unfold exchangeStep at moved
  split at moved
  · rename_i phase
    split at moved
    · rename_i unfinished
      split at moved
      · rename_i count rest write
        split at moved <;> cases moved
        · rename_i nothing
          subst nothing
          exact .stalled rest phase unfinished write
        · rename_i progress
          exact .taken count rest phase unfinished write progress
      · rename_i rest write
        cases moved
        exact .writePending rest phase unfinished
          (tryWrite_wouldBlock _ _ _ write)
      · rename_i error rest write
        cases moved
        exact .writeFailed error rest phase unfinished
          (tryWrite_failed _ _ _ _ write)
    · rename_i finished
      cases moved
      exact .written phase (Nat.le_of_not_lt finished)
  · rename_i phase
    split at moved
    · rename_i rest read
      cases moved
      exact .closed rest phase read
    · rename_i first more rest read
      cases moved
      exact .received first more rest phase read
    · rename_i rest read
      cases moved
      exact .readPending rest phase (tryRead_wouldBlock _ _ _ read)
    · rename_i error rest read
      cases moved
      exact .readFailed error rest phase (tryRead_failed _ _ _ _ read)
  · rename_i phase
    cases moved
    exact .parsed phase
  · cases moved

theorem received_cases (filled : Bytes) :
    let next : ExchangePhase :=
      if occurs headerEnd filled then .parsing
      else if responseLimit ≤ filled.length then
        .returned (.error headerTooLarge)
      else .reading
    (headerEnd <:+: filled ∧ next = .parsing) ∨
      (¬ headerEnd <:+: filled ∧ responseLimit ≤ filled.length ∧
        next = .returned (.error headerTooLarge)) ∨
      (¬ headerEnd <:+: filled ∧ filled.length < responseLimit ∧
        next = .reading) := by
  dsimp only
  rw [← occurs_iff]
  by_cases complete : occurs headerEnd filled = true
  · exact Or.inl ⟨complete, if_pos complete⟩
  rw [if_neg complete]
  by_cases full : responseLimit ≤ filled.length
  · exact Or.inr (Or.inl ⟨complete, full, if_pos full⟩)
  · exact Or.inr (Or.inr ⟨complete, Nat.lt_of_not_le full, if_neg full⟩)

def Exchange.remaining (request : Bytes) (state : Exchange) : Nat :=
  match state.phase with
  | .writing =>
      (request.length - state.written) + state.writes.length +
        readWeight state.reads + 3
  | .reading => readWeight state.reads + 2
  | .parsing => 1
  | .returned _ => 0

theorem exchangeStep_remaining (request : Bytes) (state next : Exchange)
    (step : ExchangeStep request state next) :
    next.remaining request < state.remaining request := by
  cases step with
  | taken count rest phase unfinished write progress =>
      have fewer := (tryWrite_suffix _ _ _ _ write).length_le
      simp only [Exchange.remaining, phase]
      omega
  | stalled rest phase unfinished write =>
      simp only [Exchange.remaining, phase]
      omega
  | writePending rest phase unfinished pending =>
      simp only [Exchange.remaining, phase, pending, List.length_cons]
      omega
  | writeFailed error rest phase unfinished failed =>
      simp only [Exchange.remaining, phase]
      omega
  | written phase finished =>
      simp only [Exchange.remaining, phase]
      omega
  | received first more rest phase read =>
      have lighter := tryRead_weight _ _ _ _ _ read
      rcases received_cases (state.inbufs ++ first :: more) with
        ⟨_, next⟩ | ⟨_, _, next⟩ | ⟨_, _, next⟩
      · simp only [Exchange.remaining, phase, next]
        omega
      · simp only [Exchange.remaining, phase, next]
        omega
      · simp only [Exchange.remaining, phase, next]
        omega
  | closed rest phase read =>
      simp only [Exchange.remaining, phase]
      omega
  | readPending rest phase pending =>
      simp only [Exchange.remaining, phase, pending, readWeight]
      omega
  | readFailed error rest phase failed =>
      simp only [Exchange.remaining, phase]
      omega
  | parsed phase =>
      simp only [Exchange.remaining, phase]
      omega

theorem exchange_returns (request : Bytes) (start : Exchange) :
    ∃ final result, Reaches (exchangeStep request) start final ∧
      final.phase = .returned result := by
  obtain ⟨final, reached, halted⟩ := exists_halted
    (Exchange.remaining request)
    (fun state next moved => exchangeStep_remaining request state next
      (exchangeStep_cases request state next moved)) start
  refine ⟨final, ?_⟩
  unfold exchangeStep at halted
  split at halted
  · repeat' split at halted
    all_goals cases halted
  · repeat' split at halted
    all_goals cases halted
  · cases halted
  · rename_i result phase
    exact ⟨result, reached, phase⟩

/-! ### The loops as runs -/

/-- The loop body as it is written, on the answer of one `try_write`. -/
theorem writeLoop_eq_tryWrite (bytes : Bytes) (written : Nat)
    (events : List WriteEvent) (unfinished : written < bytes.length) :
    writeLoop bytes written events =
      match tryWrite (bytes.drop written) events with
      | (.ok count, rest) =>
          if count = 0 then
            { outcome := .ok (), sent := bytes.take written, writes := rest }
          else
            writeLoop bytes (written + count) rest
      | (.wouldBlock, rest) => writeLoop bytes written rest
      | (.failed error, rest) =>
          { outcome := .error error
            sent := bytes.take written
            writes := rest } := by
  cases events with
  | nil =>
      have some_ : ¬ bytes.length - written = 0 := by omega
      simp only [writeLoop, tryWrite, List.length_drop, if_neg some_]
  | cons event rest =>
      cases event <;>
        simp only [writeLoop, tryWrite, if_pos unfinished, List.length_drop]

/-- What the two loops make of the handshake from a state of it. -/
def Exchange.conclude (request : Bytes) (state : Exchange) : Handshake :=
  match state.phase with
  | .writing =>
      let written := writeLoop request state.written state.writes
      match written.outcome with
      | .error error =>
          { result := .error (.io error)
            sent := written.sent
            inbufs := state.inbufs
            reads := state.reads
            writes := written.writes }
      | .ok () =>
          let response := readLoop state.inbufs state.reads
          { result := response.status.bind checkStatus
            sent := written.sent
            inbufs := response.inbufs
            reads := response.reads
            writes := written.writes }
  | .reading =>
      let response := readLoop state.inbufs state.reads
      { result := response.status.bind checkStatus
        sent := state.sent
        inbufs := response.inbufs
        reads := response.reads
        writes := state.writes }
  | .parsing =>
      { result := (parseConnectStatus state.inbufs).bind checkStatus
        sent := state.sent
        inbufs := state.inbufs
        reads := state.reads
        writes := state.writes }
  | .returned result =>
      { result := result
        sent := state.sent
        inbufs := state.inbufs
        reads := state.reads
        writes := state.writes }

def Exchange.InOrder (request : Bytes) (state : Exchange) : Prop :=
  state.written ≤ request.length ∧ state.sent = request.take state.written

theorem exchangeStep_inOrder (request : Bytes) (state next : Exchange)
    (step : ExchangeStep request state next)
    (before : state.InOrder request) : next.InOrder request := by
  obtain ⟨bounded, sent⟩ := before
  cases step with
  | taken count rest phase unfinished write progress =>
      have within := tryWrite_ok _ _ _ _ write
      rw [List.length_drop] at within
      refine ⟨?_, ?_⟩
      · dsimp only
        omega
      · dsimp only
        rw [sent, List.take_add]
  | stalled rest phase unfinished write => exact ⟨bounded, sent⟩
  | writePending rest phase unfinished pending => exact ⟨bounded, sent⟩
  | writeFailed error rest phase unfinished failed => exact ⟨bounded, sent⟩
  | written phase finished => exact ⟨bounded, sent⟩
  | received first more rest phase read => exact ⟨bounded, sent⟩
  | closed rest phase read => exact ⟨bounded, sent⟩
  | readPending rest phase pending => exact ⟨bounded, sent⟩
  | readFailed error rest phase failed => exact ⟨bounded, sent⟩
  | parsed phase => exact ⟨bounded, sent⟩

theorem reaches_inOrder (request : Bytes) (reads : List ReadEvent)
    (writes : List WriteEvent) (state : Exchange)
    (reached : Reaches (exchangeStep request) (.start reads writes) state) :
    state.InOrder request :=
  reaches_invariant (Exchange.InOrder request) reached
    ⟨Nat.zero_le _, rfl⟩ (fun before after _ moved holds =>
      exchangeStep_inOrder request before after
        (exchangeStep_cases request before after moved) holds)

theorem exchangeStep_conclude (request : Bytes) (state next : Exchange)
    (step : ExchangeStep request state next)
    (before : state.InOrder request) :
    next.conclude request = state.conclude request := by
  obtain ⟨bounded, sent⟩ := before
  cases step with
  | taken count rest phase unfinished write progress =>
      have body := writeLoop_eq_tryWrite request state.written state.writes
        unfinished
      simp only [write, if_neg progress] at body
      simp only [Exchange.conclude, phase, body]
  | stalled rest phase unfinished write =>
      have body := writeLoop_eq_tryWrite request state.written state.writes
        unfinished
      simp only [write, if_true, ← sent] at body
      simp only [Exchange.conclude, phase, body]
  | writePending rest phase unfinished pending =>
      have body := writeLoop_eq_tryWrite request state.written state.writes
        unfinished
      simp only [pending, tryWrite] at body
      simp only [Exchange.conclude, phase, pending, body]
  | writeFailed error rest phase unfinished failed =>
      have body := writeLoop_eq_tryWrite request state.written state.writes
        unfinished
      simp only [failed, tryWrite, ← sent] at body
      simp only [Exchange.conclude, phase, failed, body]
  | written phase finished =>
      have whole : state.sent = request := by
        rw [sent, List.take_of_length_le finished]
      have done : writeLoop request state.written state.writes =
          { outcome := .ok (), sent := request, writes := state.writes } := by
        cases state.writes with
        | nil => rfl
        | cons event rest =>
            simp only [writeLoop, if_neg (Nat.not_lt.mpr finished)]
      simp only [Exchange.conclude, phase, done, whole]
  | received first more rest phase read =>
      have body := readLoop_eq_tryRead state.inbufs state.reads
      simp only [read] at body
      simp only [Exchange.conclude, phase, body]
      by_cases complete :
          occurs headerEnd (state.inbufs ++ first :: more) = true
      · simp only [if_pos complete]
      by_cases full : responseLimit ≤ (state.inbufs ++ first :: more).length
      · simp only [if_neg complete, if_pos full, Except.bind]
      · simp only [if_neg complete, if_neg full]
  | closed rest phase read =>
      have body := readLoop_eq_tryRead state.inbufs state.reads
      simp only [read] at body
      simp only [Exchange.conclude, phase, body, Except.bind]
  | readPending rest phase pending =>
      simp only [Exchange.conclude, phase, pending, readLoop]
  | readFailed error rest phase failed =>
      simp only [Exchange.conclude, phase, failed, readLoop, Except.bind]
  | parsed phase => simp only [Exchange.conclude, phase]

/-- The machine ends where `http_connect` does, with the same bytes sent, read
and left over. -/
theorem exchange_refines (runtime : Runtime) (target : String)
    (headers : HashMap String) (reads : List ReadEvent)
    (writes : List WriteEvent) (request : String)
    (built : buildRequest runtime target headers = .ok request) :
    ∃ final, Reaches (exchangeStep (asBytes request)) (.start reads writes)
        final ∧
      final.phase =
        .returned (httpConnect runtime target headers reads writes).result ∧
      final.conclude (asBytes request) =
        httpConnect runtime target headers reads writes := by
  obtain ⟨final, result, reached, phase⟩ := exchange_returns (asBytes request)
    (.start reads writes)
  have same : final.conclude (asBytes request) =
      (Exchange.start reads writes).conclude (asBytes request) := by
    refine reaches_invariant (fun state => state.conclude (asBytes request) =
      (Exchange.start reads writes).conclude (asBytes request)) reached rfl ?_
    intro before after earlier moved holds
    rw [← holds]
    exact exchangeStep_conclude _ before after
      (exchangeStep_cases _ before after moved)
      (reaches_inOrder _ reads writes before earlier)
  have connects : (Exchange.start reads writes).conclude (asBytes request) =
      httpConnect runtime target headers reads writes := by
    unfold httpConnect
    rw [built]
    rfl
  rw [connects] at same
  refine ⟨final, reached, ?_, same⟩
  rw [← same]
  simp only [Exchange.conclude, phase]

/-! ### Writes that take nothing -/

def acceptedCount : List WriteEvent → Nat
  | [] => 0
  | .accepted count :: rest => count + acceptedCount rest
  | .wouldBlock :: rest => acceptedCount rest
  | .failed _ :: rest => acceptedCount rest

/-- While less than `length` bytes have been accepted and no write has failed, a
write takes nothing. -/
def WriteStalls (length : Nat) (writes : List WriteEvent) : Prop :=
  ∃ early late, writes = early ++ .accepted 0 :: late ∧
    (∀ error, .failed error ∉ early) ∧ acceptedCount early < length

theorem not_writeStalls_nil (length : Nat) : ¬ WriteStalls length [] := by
  rintro ⟨early, late, whole, _⟩
  simp at whole

theorem not_writeStalls_zero (writes : List WriteEvent) :
    ¬ WriteStalls 0 writes := by
  rintro ⟨early, late, _, _, short⟩
  omega

theorem not_writeStalls_failed (length : Nat) (error : IoError)
    (rest : List WriteEvent) :
    ¬ WriteStalls length (.failed error :: rest) := by
  rintro ⟨early, late, whole, unfailing, _⟩
  cases early with
  | nil => cases whole
  | cons event early =>
      obtain ⟨rfl, _⟩ := List.cons.inj whole
      exact unfailing error List.mem_cons_self

theorem writeStalls_wouldBlock_iff (length : Nat) (rest : List WriteEvent) :
    WriteStalls length (.wouldBlock :: rest) ↔ WriteStalls length rest := by
  constructor
  · rintro ⟨early, late, whole, unfailing, short⟩
    cases early with
    | nil => cases whole
    | cons event early =>
        obtain ⟨rfl, rfl⟩ := List.cons.inj whole
        exact ⟨early, late, rfl, fun error member =>
          unfailing error (List.mem_cons_of_mem _ member), short⟩
  · rintro ⟨early, late, rfl, unfailing, short⟩
    exact ⟨.wouldBlock :: early, late, rfl, by simpa using unfailing, short⟩

theorem writeStalls_accepted_iff (length offered : Nat)
    (rest : List WriteEvent) :
    WriteStalls length (.accepted offered :: rest) ↔
      (0 < length ∧ offered = 0) ∨ WriteStalls (length - offered) rest := by
  constructor
  · rintro ⟨early, late, whole, unfailing, short⟩
    cases early with
    | nil =>
        cases whole
        exact Or.inl ⟨short, rfl⟩
    | cons event early =>
        obtain ⟨rfl, rfl⟩ := List.cons.inj whole
        rw [acceptedCount] at short
        exact Or.inr ⟨early, late, rfl, fun error member =>
          unfailing error (List.mem_cons_of_mem _ member), by omega⟩
  · rintro (⟨positive, rfl⟩ | ⟨early, late, rfl, unfailing, short⟩)
    · exact ⟨[], rest, rfl, by simp, positive⟩
    · refine ⟨.accepted offered :: early, late, rfl, by simpa using unfailing,
        ?_⟩
      rw [acceptedCount]
      omega

structure Exchange.SentWhole (request : Bytes) (state : Exchange) : Prop where
  inOrder : state.sent <+: request
  beforeReading :
    state.phase = .reading ∨ state.phase = .parsing → state.sent = request
  beforeOk : state.phase = .returned (.ok ()) → state.sent = request

/-- What keeps the write loop going until the request is through. -/
def Exchange.Unstalled (request : Bytes) (state : Exchange) : Prop :=
  match state.phase with
  | .writing => ¬ WriteStalls (request.length - state.written) state.writes
  | .reading => state.sent = request
  | .parsing => state.sent = request
  | .returned (.ok ()) => state.sent = request
  | .returned (.error _) => True

theorem not_writeStalls_of_tryWrite (buffer : Bytes) (count : Nat)
    (writes rest : List WriteEvent)
    (write : tryWrite buffer writes = (.ok count, rest))
    (unstalled : ¬ WriteStalls buffer.length writes) :
    ¬ WriteStalls (buffer.length - count) rest := by
  cases writes with
  | nil =>
      cases write
      exact not_writeStalls_nil _
  | cons event writes =>
      cases event with
      | wouldBlock => cases write
      | failed error => cases write
      | accepted offered =>
          cases write
          rw [writeStalls_accepted_iff, not_or] at unstalled
          by_cases whole : buffer.length ≤ offered
          · rw [Nat.min_eq_right whole, Nat.sub_self]
            exact not_writeStalls_zero _
          · rw [Nat.min_eq_left (Nat.le_of_not_le whole)]
            exact unstalled.2

theorem exchangeStep_unstalled (request : Bytes) (state next : Exchange)
    (step : ExchangeStep request state next)
    (inOrder : state.InOrder request) (before : state.Unstalled request) :
    next.Unstalled request := by
  obtain ⟨bounded, sent⟩ := inOrder
  cases step with
  | taken count rest phase unfinished write progress =>
      simp only [Exchange.Unstalled, phase] at before ⊢
      rw [← List.length_drop] at before
      have later := not_writeStalls_of_tryWrite _ count _ rest write before
      rw [List.length_drop, Nat.sub_sub] at later
      exact later
  | stalled rest phase unfinished write =>
      simp only [Exchange.Unstalled, phase] at before
      have nonempty : request.drop state.written ≠ [] := by
        rw [Ne, List.drop_eq_nil_iff]
        omega
      rw [tryWrite_zero _ _ _ nonempty write, writeStalls_accepted_iff]
        at before
      exact absurd (Or.inl ⟨Nat.sub_pos_of_lt unfinished, rfl⟩) before
  | writePending rest phase unfinished pending =>
      simp only [Exchange.Unstalled, phase] at before ⊢
      rw [pending, writeStalls_wouldBlock_iff] at before
      exact before
  | writeFailed error rest phase unfinished failed => trivial
  | written phase finished =>
      simp only [Exchange.Unstalled]
      rw [sent, List.take_of_length_le finished]
  | received first more rest phase read =>
      simp only [Exchange.Unstalled, phase] at before
      rcases received_cases (state.inbufs ++ first :: more) with
        ⟨_, next⟩ | ⟨_, _, next⟩ | ⟨_, _, next⟩
      · simp only [Exchange.Unstalled, next]
        exact before
      · simp only [Exchange.Unstalled, next]
      · simp only [Exchange.Unstalled, next]
        exact before
  | closed rest phase read => trivial
  | readPending rest phase pending =>
      simp only [Exchange.Unstalled, phase] at before ⊢
      exact before
  | readFailed error rest phase failed => trivial
  | parsed phase =>
      simp only [Exchange.Unstalled, phase] at before
      simp only [Exchange.Unstalled]
      cases (parseConnectStatus state.inbufs).bind checkStatus with
      | error error => trivial
      | ok done => exact before

theorem reaches_unstalled (request : Bytes) (reads : List ReadEvent)
    (writes : List WriteEvent) (unstalled : ¬ WriteStalls request.length writes)
    (state : Exchange)
    (reached : Reaches (exchangeStep request) (.start reads writes) state) :
    state.Unstalled request :=
  reaches_invariant (Exchange.Unstalled request) reached unstalled
    (fun before after earlier moved holds =>
      exchangeStep_unstalled request before after
        (exchangeStep_cases request before after moved)
        (reaches_inOrder request reads writes before earlier) holds)

theorem Exchange.sentWhole_of_unstalled (request : Bytes) (state : Exchange)
    (inOrder : state.InOrder request) (unstalled : state.Unstalled request) :
    state.SentWhole request := by
  unfold Exchange.Unstalled at unstalled
  refine ⟨?_, ?_, ?_⟩
  · rw [inOrder.2]
    exact List.take_prefix _ _
  · rintro (phase | phase) <;> rw [phase] at unstalled <;> exact unstalled
  · intro phase
    rw [phase] at unstalled
    exact unstalled

theorem reaches_of_stalls (request : Bytes) (state : Exchange)
    (phase : state.phase = .writing) (inOrder : state.InOrder request)
    (stalls : WriteStalls (request.length - state.written) state.writes) :
    ∃ after, Reaches (exchangeStep request) state after ∧
      after.phase = .reading ∧ after.sent ≠ request := by
  have unfinished : state.written < request.length := by
    by_contra finished
    rw [Nat.sub_eq_zero_of_le (Nat.le_of_not_lt finished)] at stalls
    exact not_writeStalls_zero _ stalls
  induction writes : state.writes generalizing state with
  | nil =>
      rw [writes] at stalls
      exact absurd stalls (not_writeStalls_nil _)
  | cons event rest ih =>
      rw [writes] at stalls
      cases event with
      | failed error => exact absurd stalls (not_writeStalls_failed _ _ _)
      | wouldBlock =>
          rw [writeStalls_wouldBlock_iff] at stalls
          have moved : exchangeStep request state =
              some { state with writes := rest } := by
            simp [exchangeStep, phase, unfinished, writes, tryWrite]
          obtain ⟨after, reached, reading⟩ := ih { state with writes := rest }
            phase inOrder stalls unfinished rfl
          exact ⟨after, .head moved reached, reading⟩
      | accepted offered =>
          rw [writeStalls_accepted_iff] at stalls
          by_cases nothing : offered = 0
          · have moved : exchangeStep request state =
                some { state with phase := .reading, writes := rest } := by
              simp [exchangeStep, phase, unfinished, writes, tryWrite, nothing]
            refine ⟨_, .single moved, rfl, ?_⟩
            intro whole
            have lengths := congrArg List.length whole
            rw [inOrder.2, List.length_take] at lengths
            omega
          · have later : WriteStalls
                (request.length - state.written - offered) rest := by
              rcases stalls with ⟨_, zero⟩ | later
              · exact absurd zero nothing
              · exact later
            have within : offered < request.length - state.written := by
              by_contra beyond
              rw [Nat.sub_eq_zero_of_le (Nat.le_of_not_lt beyond)] at later
              exact not_writeStalls_zero _ later
            have count : min offered (request.length - state.written) =
                offered := Nat.min_eq_left (Nat.le_of_lt within)
            have moved : exchangeStep request state =
                some
                  { state with
                    written := state.written + offered
                    writes := rest
                    sent := state.sent ++
                      (request.drop state.written).take offered } := by
              simp [exchangeStep, phase, unfinished, writes, tryWrite, count,
                nothing]
            have next := exchangeStep_inOrder request state _
              (exchangeStep_cases request state _ moved) inOrder
            rw [Nat.sub_sub] at later
            obtain ⟨after, reached, reading⟩ := ih
              { state with
                written := state.written + offered
                writes := rest
                sent := state.sent ++
                  (request.drop state.written).take offered }
              phase next later (by dsimp only; omega) rfl
            exact ⟨after, .head moved reached, reading⟩

theorem request_sent_whole_iff (request : Bytes) (reads : List ReadEvent)
    (writes : List WriteEvent) :
    (∀ state,
      Reaches (exchangeStep request) (.start reads writes) state →
        state.SentWhole request) ↔
      ¬ WriteStalls request.length writes := by
  constructor
  · intro whole stalls
    obtain ⟨state, reached, reading, part⟩ := reaches_of_stalls request
      (.start reads writes) rfl ⟨Nat.zero_le _, rfl⟩ stalls
    exact part ((whole state reached).beforeReading (Or.inl reading))
  · intro unstalled state reached
    exact state.sentWhole_of_unstalled request
      (reaches_inOrder request reads writes state reached)
      (reaches_unstalled request reads writes unstalled state reached)

/-- Eight bytes are taken and then none; the upstream answers nevertheless. -/
theorem half_request_is_answered :
    let request := asBytes "CONNECT www.example.org:443 HTTP/1.1\r\n\r\n"
    let reads : List ReadEvent :=
      [.data 72 (asBytes "TTP/1.1 200 OK\r\n\r\n")]
    let writes : List WriteEvent := [.accepted 8, .accepted 0]
    (∃ state, Reaches (exchangeStep request) (.start reads writes) state ∧
      state.phase = .returned (.ok ()) ∧ state.sent = asBytes "CONNECT ") ∧
    ¬ ∀ state, Reaches (exchangeStep request) (.start reads writes) state →
      state.SentWhole request := by
  intro request reads writes
  let begun : Exchange :=
    { Exchange.start reads [.accepted 0] with
      written := 8
      sent := asBytes "CONNECT " }
  let stalled : Exchange := { begun with phase := .reading, writes := [] }
  let answered : Exchange :=
    { stalled with
      phase := .parsing
      inbufs := asBytes "HTTP/1.1 200 OK\r\n\r\n"
      reads := []
      received := 1 }
  let accepted : Exchange := { answered with phase := .returned (.ok ()) }
  have first : exchangeStep request (.start reads writes) = some begun := rfl
  have second : exchangeStep request begun = some stalled := rfl
  have third : exchangeStep request stalled = some answered := rfl
  have fourth : exchangeStep request answered = some accepted := rfl
  have reached : Reaches (exchangeStep request) (.start reads writes)
      accepted :=
    .head first (.head second (.head third (.single fourth)))
  refine ⟨⟨accepted, reached, rfl, rfl⟩, fun whole => ?_⟩
  have all : asBytes "CONNECT " = request :=
    (whole accepted reached).beforeOk rfl
  exact absurd all (by decide)

end TlsProxyTunnel
