/-
How the read loop of the CONNECT handshake takes an upstream's stream.

The stream is judged by its first bytes, as many as the buffer holds, however
they are split into reads.  What holds between two calls is one invariant of
the machine, and the three exits are read off the state it ends in.
-/

import TlsProxyTunnel.Exchange
import TlsProxyTunnel.Tunnel

namespace TlsProxyTunnel

open Delimiter StateTransition Text Transition

/-- A read that brings something fills some of the room, so there are no more
such reads than bytes, and the next read is only made while there is room. -/
structure Exchange.WithinBuffer (arriving : Bytes) (state : Exchange) :
    Prop where
  ofStream : state.inbufs <+: arriving
  bounded : state.inbufs.length ≤ responseLimit
  counted : state.received ≤ state.inbufs.length
  room : state.phase = .reading → state.inbufs.length < responseLimit

def Exchange.Arriving (arriving : Bytes) (state : Exchange) : Prop :=
  match state.phase with
  | .writing => state.inbufs = [] ∧ stream state.reads = arriving
  | .reading => state.inbufs ++ stream state.reads = arriving
  | .parsing => True
  | .returned _ => True

theorem Exchange.Arriving.toReading {arriving : Bytes} {state : Exchange}
    (before : state.Arriving arriving) (phase : state.phase = .writing) :
    state.inbufs ++ stream state.reads = arriving := by
  simp only [Exchange.Arriving, phase] at before
  rw [before.1, before.2, List.nil_append]

theorem Exchange.Arriving.ofReading {arriving : Bytes} {state : Exchange}
    (before : state.Arriving arriving) (phase : state.phase = .reading) :
    state.inbufs ++ stream state.reads = arriving := by
  simpa only [Exchange.Arriving, phase] using before

theorem exchangeStep_arriving (request arriving : Bytes)
    (state next : Exchange) (step : ExchangeStep request state next)
    (before : state.Arriving arriving) : next.Arriving arriving := by
  cases step with
  | taken count rest phase unfinished write progress =>
      simp only [Exchange.Arriving, phase] at before ⊢
      exact before
  | stalled rest phase unfinished write => exact before.toReading phase
  | writePending rest phase unfinished pending =>
      simp only [Exchange.Arriving, phase] at before ⊢
      exact before
  | writeFailed error rest phase unfinished failed => trivial
  | written phase finished => exact before.toReading phase
  | received first more rest phase read =>
      have whole := before.ofReading phase
      rw [(tryRead_ok _ _ _ _ read).1, ← List.append_assoc] at whole
      rcases received_cases (state.inbufs ++ first :: more) with
        ⟨_, next⟩ | ⟨_, _, next⟩ | ⟨_, _, next⟩
      · simp only [Exchange.Arriving, next]
      · simp only [Exchange.Arriving, next]
      · simp only [Exchange.Arriving, next]
        exact whole
  | closed rest phase read => trivial
  | readPending rest phase pending =>
      have whole := before.ofReading phase
      rw [pending] at whole
      simp only [Exchange.Arriving, phase]
      exact whole
  | readFailed error rest phase failed => trivial
  | parsed phase => trivial

theorem exchangeStep_withinBuffer (request arriving : Bytes)
    (state next : Exchange) (step : ExchangeStep request state next)
    (arrived : state.Arriving arriving)
    (before : state.WithinBuffer arriving) : next.WithinBuffer arriving := by
  obtain ⟨ofStream, bounded, counted, room⟩ := before
  have started (phase : state.phase = .writing) :
      state.inbufs.length < responseLimit := by
    simp only [Exchange.Arriving, phase] at arrived
    rw [arrived.1]
    decide
  have returned (result : Except BoxError Unit) (size : Nat)
      (reading : ExchangePhase.returned result = .reading) :
      size < responseLimit := by
    cases reading
  cases step with
  | taken count rest phase unfinished write progress =>
      exact ⟨ofStream, bounded, counted, room⟩
  | stalled rest phase unfinished write =>
      exact ⟨ofStream, bounded, counted, fun _ => started phase⟩
  | writePending rest phase unfinished pending =>
      exact ⟨ofStream, bounded, counted, room⟩
  | writeFailed error rest phase unfinished failed =>
      exact ⟨ofStream, bounded, counted, returned _ _⟩
  | written phase finished =>
      exact ⟨ofStream, bounded, counted, fun _ => started phase⟩
  | received first more rest phase read =>
      obtain ⟨taken, fits, _⟩ := tryRead_ok _ _ _ _ read
      have whole := arrived.ofReading phase
      rw [taken, ← List.append_assoc] at whole
      have some_ : 0 < (first :: more).length := Nat.succ_pos _
      refine ⟨whole ▸ List.prefix_append _ _, ?_, ?_, ?_⟩
      · rw [List.length_append]
        omega
      · dsimp only
        rw [List.length_append]
        omega
      · rcases received_cases (state.inbufs ++ first :: more) with
          ⟨_, next⟩ | ⟨_, _, next⟩ | ⟨_, less, next⟩
        · rw [next]
          intro reading
          cases reading
        · rw [next]
          exact returned _ _
        · exact fun _ => less
  | closed rest phase read => exact ⟨ofStream, bounded, counted, returned _ _⟩
  | readPending rest phase pending =>
      exact ⟨ofStream, bounded, counted, room⟩
  | readFailed error rest phase failed =>
      exact ⟨ofStream, bounded, counted, returned _ _⟩
  | parsed phase => exact ⟨ofStream, bounded, counted, returned _ _⟩

theorem reaches_arriving (request : Bytes) (reads : List ReadEvent)
    (writes : List WriteEvent) (state : Exchange)
    (reached : Reaches (exchangeStep request) (.start reads writes) state) :
    state.Arriving (stream reads) :=
  reaches_invariant (Exchange.Arriving (stream reads)) reached ⟨rfl, rfl⟩
    (fun before after _ moved holds => exchangeStep_arriving request _ before
      after (exchangeStep_cases request before after moved) holds)

theorem reaches_withinBuffer (request : Bytes) (reads : List ReadEvent)
    (writes : List WriteEvent) (state : Exchange)
    (reached : Reaches (exchangeStep request) (.start reads writes) state) :
    state.WithinBuffer (stream reads) :=
  reaches_invariant (Exchange.WithinBuffer (stream reads)) reached
    ⟨List.nil_prefix, Nat.zero_le _, Nat.zero_le _, nofun⟩
    (fun before after earlier moved holds =>
      exchangeStep_withinBuffer request _ before after
        (exchangeStep_cases request before after moved)
        (reaches_arriving request reads writes before earlier) holds)

theorem append_ne_of_not_front (text rest whole : String)
    (differs : ¬ text.toList <+: whole.toList) : text ++ rest ≠ whole := by
  intro same
  rw [← same, String.toList_append] at differs
  exact differs (List.prefix_append _ _)

theorem verdict_ne (inbufs : Bytes) :
    (parseConnectStatus inbufs).bind checkStatus ≠ .error closedEarly ∧
      (parseConnectStatus inbufs).bind checkStatus ≠ .error headerTooLarge := by
  cases parsed : parseConnectStatus inbufs with
  | error error =>
      simp only [Except.bind, Ne, Except.error.injEq]
      unfold parseConnectStatus at parsed
      split at parsed
      · cases parsed
        exact ⟨by decide, by decide⟩
      · split at parsed <;> cases parsed
        simp only [closedEarly, headerTooLarge, BoxError.proxyError.injEq,
          String.append_assoc]
        exact ⟨append_ne_of_not_front _ _ _ (by decide),
          append_ne_of_not_front _ _ _ (by decide)⟩
  | ok status =>
      simp only [Except.bind, checkStatus]
      split_ifs
      · exact ⟨nofun, nofun⟩
      · exact ⟨by decide, by decide⟩
      · exact ⟨by decide, by decide⟩
      · exact ⟨by decide, by decide⟩
      · simp only [closedEarly, headerTooLarge, Ne, Except.error.injEq,
          BoxError.proxyError.injEq]
        exact ⟨append_ne_of_not_front _ _ _ (by decide),
          append_ne_of_not_front _ _ _ (by decide)⟩

/-! ### The three exits -/

/-- What the read loop has seen when it is left, and what becomes of it. -/
inductive ReadExit (request : Bytes) (start state : Exchange) :
    Except BoxError Unit → Prop where
  | closed (whole : state.inbufs = stream start.reads)
      (short : state.inbufs.length < responseLimit)
      (incomplete : ¬ headerEnd <:+: state.inbufs) :
      ReadExit request start state (.error closedEarly)
  | full (filled : responseLimit ≤ state.inbufs.length)
      (incomplete : ¬ headerEnd <:+: state.inbufs) :
      ReadExit request start state (.error headerTooLarge)
  | parsed (parsing : Exchange)
      (reached : Reaches (exchangeStep request) start parsing)
      (phase : parsing.phase = .parsing) :
      ReadExit request start state
        ((parseConnectStatus parsing.inbufs).bind checkStatus)

def Exchange.Judged (request : Bytes) (state start : Exchange) : Prop :=
  match state.phase with
  | .writing =>
      ReadsClean state.reads ∧ state.inbufs = [] ∧
        (writeLoop request state.written state.writes).outcome = .ok ()
  | .reading => ReadsClean state.reads ∧ ¬ headerEnd <:+: state.inbufs
  | .parsing => headerEnd <:+: state.inbufs
  | .returned result => ReadExit request start state result

theorem not_headerEnd_infix_nil : ¬ headerEnd <:+: [] := by
  decide

theorem exchangeStep_judged (request : Bytes) (start state next : Exchange)
    (step : ExchangeStep request state next)
    (reached : Reaches (exchangeStep request) start state)
    (arrived : state.Arriving (stream start.reads))
    (within : state.WithinBuffer (stream start.reads))
    (before : state.Judged request start) : next.Judged request start := by
  cases step with
  | taken count rest phase unfinished write progress =>
      simp only [Exchange.Judged, phase] at before ⊢
      rw [writeLoop_eq_tryWrite request _ _ unfinished, write] at before
      simp only [if_neg progress] at before
      exact before
  | stalled rest phase unfinished write =>
      simp only [Exchange.Judged, phase] at before ⊢
      rw [before.2.1]
      exact ⟨before.1, not_headerEnd_infix_nil⟩
  | writePending rest phase unfinished pending =>
      simp only [Exchange.Judged, phase] at before ⊢
      rw [writeLoop_eq_tryWrite request _ _ unfinished, pending] at before
      exact before
  | writeFailed error rest phase unfinished failed =>
      simp only [Exchange.Judged, phase] at before
      rw [writeLoop_eq_tryWrite request _ _ unfinished, failed] at before
      cases before.2.2
  | written phase finished =>
      simp only [Exchange.Judged, phase] at before ⊢
      rw [before.2.1]
      exact ⟨before.1, not_headerEnd_infix_nil⟩
  | received first more rest phase read =>
      simp only [Exchange.Judged, phase] at before
      have clean := tryRead_clean _ _ _ _ before.1 read
      rcases received_cases (state.inbufs ++ first :: more) with
        ⟨complete, next⟩ | ⟨incomplete, full, next⟩ | ⟨incomplete, _, next⟩
      · simp only [Exchange.Judged, next]
        exact complete
      · simp only [Exchange.Judged, next]
        exact .full full incomplete
      · simp only [Exchange.Judged, next]
        exact ⟨clean, incomplete⟩
  | closed rest phase read =>
      have short := within.room phase
      have whole := arrived.ofReading phase
      have ended := (tryRead_ok _ _ _ _ read).2.2 (Nat.sub_pos_of_lt short) rfl
      rw [ended, List.append_nil] at whole
      simp only [Exchange.Judged, phase] at before
      exact .closed whole short before.2
  | readPending rest phase pending =>
      simp only [Exchange.Judged, phase] at before ⊢
      rw [pending] at before
      exact ⟨before.1.tail, before.2⟩
  | readFailed error rest phase failed =>
      simp only [Exchange.Judged, phase] at before
      rw [failed] at before
      exact absurd List.mem_cons_self (before.1 error)
  | parsed phase => exact .parsed state reached phase

theorem reaches_judged (request : Bytes) (reads : List ReadEvent)
    (writes : List WriteEvent) (clean : ReadsClean reads)
    (wrote : (writeLoop request 0 writes).outcome = .ok ()) (state : Exchange)
    (reached : Reaches (exchangeStep request) (.start reads writes) state) :
    state.Judged request (.start reads writes) :=
  reaches_invariant
    (fun state => state.Judged request (.start reads writes)) reached
    ⟨clean, rfl, wrote⟩ (fun before after earlier moved holds =>
      exchangeStep_judged request _ before after
        (exchangeStep_cases request before after moved) earlier
        (reaches_arriving request reads writes before earlier)
        (reaches_withinBuffer request reads writes before earlier) holds)

theorem readExit_iff {request arriving : Bytes} {start final : Exchange}
    {result : Except BoxError Unit} (from_ : stream start.reads = arriving)
    (parsedInfix : ∀ state, Reaches (exchangeStep request) start state →
      state.phase = .parsing → headerEnd <:+: arriving.take responseLimit)
    (within : final.WithinBuffer arriving)
    (exit : ReadExit request start final result) :
    ((∃ state, Reaches (exchangeStep request) start state ∧
        state.phase = .parsing) ↔
      headerEnd <:+: arriving.take responseLimit) ∧
    (result = .error headerTooLarge ↔
      responseLimit ≤ arriving.length ∧
        ¬ headerEnd <:+: arriving.take responseLimit) ∧
    (result = .error closedEarly ↔
      arriving.length < responseLimit ∧ ¬ headerEnd <:+: arriving) := by
  cases exit with
  | closed whole short incomplete =>
      rw [← from_, ← whole] at parsedInfix ⊢
      rw [List.take_of_length_le (Nat.le_of_lt short)] at parsedInfix ⊢
      refine ⟨⟨?_, fun complete => absurd complete incomplete⟩,
        ⟨fun same => ?_, fun large => ?_⟩, ⟨fun _ => ⟨short, incomplete⟩,
        fun _ => rfl⟩⟩
      · rintro ⟨state, reached, phase⟩
        exact parsedInfix state reached phase
      · exact absurd same (by decide)
      · exact absurd short (Nat.not_lt.mpr large.1)
  | full filled incomplete =>
      have front : final.inbufs = arriving.take responseLimit := by
        rw [List.prefix_iff_eq_take.mp within.ofStream,
          Nat.le_antisymm within.bounded filled]
      have large : responseLimit ≤ arriving.length :=
        Nat.le_trans filled within.ofStream.length_le
      rw [front] at incomplete
      refine ⟨⟨?_, fun complete => absurd complete incomplete⟩,
        ⟨fun _ => ⟨large, incomplete⟩, fun _ => rfl⟩,
        ⟨fun same => ?_, fun small => ?_⟩⟩
      · rintro ⟨state, reached, phase⟩
        exact parsedInfix state reached phase
      · exact absurd same (by decide)
      · exact absurd small.1 (Nat.not_lt.mpr large)
  | parsed parsing reached phase =>
      have complete := parsedInfix parsing reached phase
      obtain ⟨notClosed, notLarge⟩ := verdict_ne parsing.inbufs
      refine ⟨⟨fun _ => complete, fun _ => ⟨parsing, reached, phase⟩⟩,
        ⟨fun same => absurd same notLarge,
          fun large => absurd complete large.2⟩,
        ⟨fun same => absurd same notClosed, fun small => ?_⟩⟩
      exact absurd (complete.trans (List.take_prefix _ _).isInfix) small.2

/-- `arriving` is all the upstream sends.  The three exits are told apart by
what fits the buffer, and no call is made that could be misread. -/
structure ResponseClassified (request : Bytes) (start : Exchange)
    (arriving : Bytes) (result : Except BoxError Unit) : Prop where
  parses :
    (∃ state, Reaches (exchangeStep request) start state ∧
      state.phase = .parsing) ↔ headerEnd <:+: arriving.take responseLimit
  tooLarge :
    result = .error headerTooLarge ↔
      responseLimit ≤ arriving.length ∧
        ¬ headerEnd <:+: arriving.take responseLimit
  closedEarly :
    result = .error closedEarly ↔
      arriving.length < responseLimit ∧ ¬ headerEnd <:+: arriving
  within : ∀ state, Reaches (exchangeStep request) start state →
    state.WithinBuffer arriving
  readsBounded : ∀ state, Reaches (exchangeStep request) start state →
    state.received ≤ responseLimit

theorem response_classified (runtime : Runtime) (target : String)
    (headers : HashMap String) (request : String) (reads : List ReadEvent)
    (writes : List WriteEvent)
    (built : buildRequest runtime target headers = .ok request)
    (wrote : (writeLoop (asBytes request) 0 writes).outcome = .ok ())
    (clean : ReadsClean reads) :
    ResponseClassified (asBytes request) (.start reads writes) (stream reads)
      (httpConnect runtime target headers reads writes).result := by
  have within := reaches_withinBuffer (asBytes request) reads writes
  have parsedInfix (state : Exchange)
      (reached : Reaches (exchangeStep (asBytes request))
        (.start reads writes) state) (phase : state.phase = .parsing) :
      headerEnd <:+: (stream reads).take responseLimit := by
    have judged := reaches_judged _ reads writes clean wrote state reached
    simp only [Exchange.Judged, phase] at judged
    obtain ⟨ofStream, bounded, _, _⟩ := within state reached
    exact judged.trans
      (List.prefix_take_iff.mpr ⟨ofStream, bounded⟩).isInfix
  obtain ⟨final, reached, returned, _⟩ := exchange_refines runtime target
    headers reads writes request built
  have exit := reaches_judged _ reads writes clean wrote final reached
  simp only [Exchange.Judged, returned] at exit
  obtain ⟨parses, tooLarge, early⟩ := readExit_iff rfl parsedInfix
    (within final reached) exit
  exact ⟨parses, tooLarge, early, within, fun state reaches =>
    Nat.le_trans (within state reaches).counted (within state reaches).bounded⟩

theorem split_header_end_classified :
    let reads : List ReadEvent :=
      [.data 72 (asBytes "TTP/1.1 200 OK\r\n"), .wouldBlock, .data 13 [10]]
    ResponseClassified (asBytes "CONNECT www.example.org:443 HTTP/1.1\r\n\r\n")
      (.start reads [.wouldBlock, .accepted 8]) (stream reads)
      (httpConnect bareRuntime "www.example.org:443" ∅ reads
        [.wouldBlock, .accepted 8]).result :=
  response_classified bareRuntime "www.example.org:443" ∅
    "CONNECT www.example.org:443 HTTP/1.1\r\n\r\n" _
    [.wouldBlock, .accepted 8] (by decide) (by decide) (by simp [ReadsClean])

end TlsProxyTunnel
