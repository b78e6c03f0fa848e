/-
What the relay delivers, counts and returns.

The invariant of one direction accounts for every byte read: it is in a chunk
written in full, or in the part of the current chunk that was taken, or still
to be written.  The totals count full chunks, so they lag behind the writer by
less than the chunk in flight.
-/

import TlsProxyTunnel.Relay

namespace TlsProxyTunnel

open Interleave

def WriteEvent.isAccepted : WriteEvent → Bool
  | .accepted _ => true
  | _ => false

/-- The answer that `write_all` makes this error of. -/
def WriteEvent.Reports (event : WriteEvent) (error : IoError) : Prop :=
  event = .failed error ∨ event = .accepted 0 ∧ error = writeZero

theorem WriteEvent.Reports.not_clean {event : WriteEvent} {error : IoError}
    (reports : event.Reports error) (events : List WriteEvent)
    (member : event ∈ events) : ¬ WritesClean events := by
  intro clean
  have good := clean event member
  rcases reports with failed | ⟨empty, _⟩
  · simp [failed] at good
  · simp [empty] at good

inductive CopyStep : CopyState → CopyState → Prop where
  | endOfStream (state : CopyState) (rest : List ReadEvent)
      (phase : state.phase = .reading)
      (read : tryRead copyBufferSize state.reads = (.ok [], rest)) :
      CopyStep state { state with reads := rest, phase := .closing .eof }
  | chunkRead (state : CopyState) (rest : List ReadEvent) (first : UInt8)
      (more : Bytes) (phase : state.phase = .reading)
      (read : tryRead copyBufferSize state.reads = (.ok (first :: more), rest)) :
      CopyStep state
        { state with
          reads := rest
          phase := .writing (first :: more) (first :: more) }
  | readPending (state : CopyState) (rest : List ReadEvent)
      (phase : state.phase = .reading)
      (read : state.reads = .wouldBlock :: rest) :
      CopyStep state { state with reads := rest }
  | readFailed (state : CopyState) (rest : List ReadEvent) (error : IoError)
      (phase : state.phase = .reading)
      (read : state.reads = .failed error :: rest) :
      CopyStep state
        { state with reads := rest, phase := .closing (.readError error) }
  | chunkWritten (state : CopyState) (chunk : Bytes)
      (phase : state.phase = .writing chunk []) :
      CopyStep state
        { state with
          phase := .reading
          total := state.total + UInt64.ofNat chunk.length
          counter := state.counter + UInt64.ofNat chunk.length
          chunks := state.chunks ++ [chunk] }
  | bytesTaken (state : CopyState) (chunk rest : Bytes) (count : Nat)
      (writes : List WriteEvent) (phase : state.phase = .writing chunk rest)
      (someTaken : 0 < count) (within : count ≤ rest.length)
      (answered : state.writes = [] ∧ writes = [] ∨
        ∃ offered, 0 < offered ∧ state.writes = .accepted offered :: writes) :
      CopyStep state
        { state with
          writes := writes
          phase := .writing chunk (rest.drop count)
          delivered := state.delivered ++ rest.take count }
  | writePending (state : CopyState) (chunk rest : Bytes)
      (writes : List WriteEvent) (phase : state.phase = .writing chunk rest)
      (pending : state.writes = .wouldBlock :: writes) :
      CopyStep state { state with writes := writes }
  | writeFailed (state : CopyState) (chunk rest : Bytes) (error : IoError)
      (writes : List WriteEvent) (phase : state.phase = .writing chunk rest)
      (unfinished : rest ≠ [])
      (blamed : ∃ event, event.Reports error ∧ state.writes = event :: writes) :
      CopyStep state
        { state with writes := writes, phase := .closing (.writeError error) }
  | shutdown (state : CopyState) (exit : CopyExit)
      (phase : state.phase = .closing exit) :
      CopyStep state
        { state with
          phase := .returned exit
          shutdowns := state.shutdowns + 1 }

theorem copyStep_of_copyCounted (state next : CopyState)
    (moved : copyCounted state = some next) : CopyStep state next := by
  unfold copyCounted at moved
  cases phase : state.phase with
  | reading =>
      simp only [phase] at moved
      split at moved <;> cases moved
      · rename_i rest read
        exact .endOfStream state rest phase read
      · rename_i chunk rest nonempty read
        cases chunk with
        | nil => exact absurd rfl nonempty
        | cons first more => exact .chunkRead state rest first more phase read
      · rename_i rest read
        rw [← phase]
        exact .readPending state rest phase
          (tryRead_wouldBlock _ _ _ read)
      · rename_i error rest read
        exact .readFailed state rest error phase (tryRead_failed _ _ _ _ read)
  | writing chunk rest =>
      cases rest with
      | nil =>
          simp only [phase] at moved
          cases moved
          exact .chunkWritten state chunk phase
      | cons byte rest =>
          simp only [phase] at moved
          split at moved <;> cases moved
          · rename_i writes write
            exact .writeFailed state chunk (byte :: rest) writeZero writes phase
              (List.cons_ne_nil _ _)
              ⟨.accepted 0, Or.inr ⟨rfl, rfl⟩,
                tryWrite_zero _ _ _ (List.cons_ne_nil _ _) write⟩
          · rename_i count writes nonzero write
            cases count with
            | zero => exact absurd rfl nonzero
            | succ count =>
                exact .bytesTaken state chunk (byte :: rest) (count + 1) writes
                  phase (Nat.succ_pos count) (tryWrite_ok _ _ _ _ write)
                  (tryWrite_taken _ _ _ _ (Nat.succ_pos count) write)
          · rename_i writes write
            rw [← phase]
            exact .writePending state chunk (byte :: rest) writes phase
              (tryWrite_wouldBlock _ _ _ write)
          · rename_i error writes write
            exact .writeFailed state chunk (byte :: rest) error writes phase
              (List.cons_ne_nil _ _)
              ⟨.failed error, Or.inl rfl, tryWrite_failed _ _ _ _ write⟩
  | closing exit =>
      simp only [phase] at moved
      cases moved
      exact .shutdown state exit phase
  | returned exit =>
      simp only [phase] at moved
      cases moved

/-! ### The accounting invariant -/

def CopyState.Ended (input : Bytes) (state : CopyState) : CopyExit → Prop
  | .eof => state.delivered = state.chunks.flatten ∧ state.chunks.flatten = input
  | .readError _ =>
      state.delivered = state.chunks.flatten ∧ state.chunks.flatten = input
  | .writeError _ =>
      ∃ taken missing : Bytes, missing ≠ [] ∧
        (taken ++ missing).length ≤ copyBufferSize ∧
        state.delivered = state.chunks.flatten ++ taken ∧
        state.chunks.flatten ++ (taken ++ missing) <+: input

/-- Where the input's bytes are, phase by phase. -/
def CopyState.Accounted (input : Bytes) (state : CopyState) : Prop :=
  match state.phase with
  | .reading =>
      state.delivered = state.chunks.flatten ∧
        input = state.chunks.flatten ++ stream state.reads ∧
        state.shutdowns = 0
  | .writing chunk rest =>
      chunk.length ≤ copyBufferSize ∧
        (∃ taken, chunk = taken ++ rest ∧
          state.delivered = state.chunks.flatten ++ taken) ∧
        input = state.chunks.flatten ++ (chunk ++ stream state.reads) ∧
        state.shutdowns = 0
  | .closing exit => state.Ended input exit ∧ state.shutdowns = 0
  | .returned exit => state.Ended input exit ∧ state.shutdowns = 1

structure CopyState.Invariant (input : Bytes) (state : CopyState) : Prop where
  total : state.total = UInt64.ofNat state.chunks.flatten.length
  counter : state.counter = state.total
  accounted : state.Accounted input

theorem CopyState.start_invariant (reads : List ReadEvent)
    (writes : List WriteEvent) :
    (CopyState.start reads writes).Invariant (stream reads) :=
  { total := rfl
    counter := rfl
    accounted := by simp [CopyState.Accounted, CopyState.start] }

theorem copyStep_invariant (input : Bytes) (state next : CopyState)
    (step : CopyStep state next) (before : state.Invariant input) :
    next.Invariant input := by
  have account := before.accounted
  cases step with
  | endOfStream rest phase read =>
      simp only [CopyState.Accounted, phase] at account
      obtain ⟨delivered, whole, open_⟩ := account
      have done : stream state.reads = [] :=
        (tryRead_ok _ _ _ _ read).2.2 (by decide) rfl
      refine ⟨before.total, before.counter, ?_⟩
      rw [done, List.append_nil] at whole
      exact ⟨⟨delivered, whole.symm⟩, open_⟩
  | chunkRead rest first more phase read =>
      simp only [CopyState.Accounted, phase] at account
      obtain ⟨delivered, whole, open_⟩ := account
      obtain ⟨split, bound, _⟩ := tryRead_ok _ _ _ _ read
      refine ⟨before.total, before.counter, bound, ⟨[], rfl, ?_⟩, ?_, open_⟩
      · rw [List.append_nil]
        exact delivered
      · rw [whole, split]
  | readPending rest phase read =>
      simp only [CopyState.Accounted, phase] at account
      obtain ⟨delivered, whole, open_⟩ := account
      refine ⟨before.total, before.counter, ?_⟩
      simp only [CopyState.Accounted, phase]
      rw [read] at whole
      exact ⟨delivered, whole, open_⟩
  | readFailed rest error phase read =>
      simp only [CopyState.Accounted, phase] at account
      obtain ⟨delivered, whole, open_⟩ := account
      refine ⟨before.total, before.counter, ?_⟩
      rw [read] at whole
      simp only [stream, List.append_nil] at whole
      exact ⟨⟨delivered, whole.symm⟩, open_⟩
  | chunkWritten chunk phase =>
      simp only [CopyState.Accounted, phase] at account
      obtain ⟨_, ⟨taken, chunkEq, delivered⟩, whole, open_⟩ := account
      rw [List.append_nil] at chunkEq
      subst chunkEq
      have flat : (state.chunks ++ [chunk]).flatten =
          state.chunks.flatten ++ chunk := by simp
      constructor
      · simp only [flat, List.length_append, UInt64.ofNat_add, before.total]
      · simp only [before.counter]
      · refine ⟨?_, ?_, open_⟩
        · rw [flat]
          exact delivered
        · rw [flat, List.append_assoc]
          exact whole
  | bytesTaken chunk rest count writes phase someTaken within answered =>
      simp only [CopyState.Accounted, phase] at account
      obtain ⟨bound, ⟨taken, chunkEq, delivered⟩, whole, open_⟩ := account
      refine ⟨before.total, before.counter, bound,
        ⟨taken ++ rest.take count, ?_, ?_⟩, whole, open_⟩
      · rw [List.append_assoc, List.take_append_drop]
        exact chunkEq
      · simp only [delivered, List.append_assoc]
  | writePending chunk rest writes phase pending =>
      refine ⟨before.total, before.counter, ?_⟩
      simp only [CopyState.Accounted, phase] at account ⊢
      exact account
  | writeFailed chunk rest error writes phase unfinished blamed =>
      simp only [CopyState.Accounted, phase] at account
      obtain ⟨bound, ⟨taken, chunkEq, delivered⟩, whole, open_⟩ := account
      subst chunkEq
      refine ⟨before.total, before.counter,
        ⟨taken, rest, unfinished, bound, delivered, ?_⟩, open_⟩
      exact ⟨stream state.reads, by rw [whole, List.append_assoc]⟩
  | shutdown exit phase =>
      simp only [CopyState.Accounted, phase] at account
      obtain ⟨ended, open_⟩ := account
      refine ⟨before.total, before.counter, ?_, ?_⟩
      · cases exit <;> exact ended
      · simp only [open_]

theorem copy_invariant (reads : List ReadEvent) (writes : List WriteEvent)
    (turns : Nat) :
    ((advance copyCounted)^[turns] (CopyState.start reads writes)).Invariant
      (stream reads) :=
  iterate_invariant copyCounted (CopyState.Invariant (stream reads))
    (fun state next moved => copyStep_invariant _ state next
      (copyStep_of_copyCounted state next moved))
    turns _ (CopyState.start_invariant reads writes)

/-! ### What the writer answered -/

def CopyPhase.failure : CopyPhase → Option IoError
  | .closing (.writeError error) => some error
  | .returned (.writeError error) => some error
  | _ => none

/-- The writer has taken something each time it did not ask to wait, up to the
answer that ended the copy. -/
def CopyState.Answered (script : List WriteEvent) (state : CopyState) : Prop :=
  ∃ passed, WritesClean passed ∧
    passed.countP WriteEvent.isAccepted ≤ state.delivered.length ∧
    match state.phase.failure with
    | none => script = passed ++ state.writes
    | some error =>
        ∃ event, event.Reports error ∧ script = passed ++ event :: state.writes

theorem WritesClean.append {first second : List WriteEvent}
    (clean : WritesClean first) (others : WritesClean second) :
    WritesClean (first ++ second) := by
  intro event member
  rcases List.mem_append.mp member with front | back
  · exact clean event front
  · exact others event back

theorem copyStep_answered (script : List WriteEvent) (state next : CopyState)
    (step : CopyStep state next) (before : state.Answered script) :
    next.Answered script := by
  obtain ⟨passed, clean, counted, answers⟩ := before
  cases step with
  | endOfStream rest phase read =>
      rw [phase] at answers
      exact ⟨passed, clean, counted, answers⟩
  | chunkRead rest first more phase read =>
      rw [phase] at answers
      exact ⟨passed, clean, counted, answers⟩
  | readPending rest phase read => exact ⟨passed, clean, counted, answers⟩
  | readFailed rest error phase read =>
      rw [phase] at answers
      exact ⟨passed, clean, counted, answers⟩
  | chunkWritten chunk phase =>
      rw [phase] at answers
      exact ⟨passed, clean, counted, answers⟩
  | bytesTaken chunk rest count writes phase someTaken within answered =>
      rw [phase] at answers
      have more : state.delivered.length + count =
          (state.delivered ++ rest.take count).length := by
        rw [List.length_append, List.length_take, Nat.min_eq_left within]
      rcases answered with ⟨done, rfl⟩ | ⟨offered, positive, taken⟩
      · rw [done] at answers
        exact ⟨passed, clean, by dsimp only; omega, answers⟩
      · refine ⟨passed ++ [.accepted offered], ?_, ?_, ?_⟩
        · refine clean.append (fun event member => ?_)
          rw [List.mem_singleton.mp member]
          exact Or.inr ⟨offered, positive, rfl⟩
        · rw [List.countP_append, ← more]
          exact Nat.add_le_add counted someTaken
        · rw [taken] at answers
          simpa only [CopyPhase.failure, List.append_assoc,
            List.singleton_append] using answers
  | writePending chunk rest writes phase pending =>
      rw [phase, pending] at answers
      refine ⟨passed ++ [.wouldBlock], ?_, ?_, ?_⟩
      · refine clean.append (fun event member => Or.inl ?_)
        exact List.mem_singleton.mp member
      · rw [List.countP_append]
        exact counted
      · rw [phase]
        simpa only [CopyPhase.failure, List.append_assoc,
          List.singleton_append] using answers
  | writeFailed chunk rest error writes phase unfinished blamed =>
      obtain ⟨event, reports, events⟩ := blamed
      rw [phase, events] at answers
      exact ⟨passed, clean, counted, event, reports, answers⟩
  | shutdown exit phase =>
      refine ⟨passed, clean, counted, ?_⟩
      rw [phase] at answers
      cases exit <;> exact answers

theorem copy_answered (reads : List ReadEvent) (writes : List WriteEvent)
    (turns : Nat) :
    ((advance copyCounted)^[turns] (CopyState.start reads writes)).Answered
      writes :=
  iterate_invariant copyCounted (CopyState.Answered writes)
    (fun state next moved => copyStep_answered writes state next
      (copyStep_of_copyCounted state next moved))
    turns _ ⟨[], fun _ member => absurd member List.not_mem_nil,
      Nat.zero_le _, rfl⟩

def readWeight : List ReadEvent → Nat
  | [] => 0
  | .data _ more :: rest => more.length + 2 + readWeight rest
  | _ :: rest => readWeight rest + 1

theorem readWeight_pushBack (left : Bytes) (events : List ReadEvent) :
    readWeight (pushBack left events) ≤ left.length + 1 + readWeight events := by
  cases left with
  | nil =>
      simp only [pushBack]
      omega
  | cons first more =>
      simp only [pushBack, readWeight, List.length_cons]
      omega

theorem tryRead_weight (capacity : Nat) (events rest : List ReadEvent)
    (first : UInt8) (more : Bytes)
    (read : tryRead capacity events = (.ok (first :: more), rest)) :
    readWeight rest + more.length + 1 ≤ readWeight events := by
  cases events with
  | nil => cases read
  | cons event events =>
      cases event with
      | data head tail =>
          simp only [tryRead, Prod.mk.injEq, Attempt.ok.injEq] at read
          obtain ⟨taken, rfl⟩ := read
          have bound := readWeight_pushBack ((head :: tail).drop capacity) events
          have lengths := congrArg List.length
            (List.take_append_drop capacity (head :: tail))
          rw [taken] at lengths
          simp only [List.length_append, List.length_cons] at lengths
          simp only [readWeight]
          omega
      | wouldBlock => cases read
      | eof => cases read
      | failed error => cases read

def CopyState.remaining (state : CopyState) : Nat :=
  3 * readWeight state.reads + state.writes.length +
    match state.phase with
    | .reading => 2
    | .writing _ rest => rest.length + 3
    | .closing _ => 1
    | .returned _ => 0

theorem tryRead_eof_weight (capacity : Nat) (events rest : List ReadEvent)
    (room : 0 < capacity) (read : tryRead capacity events = (.ok [], rest)) :
    readWeight rest = readWeight events := by
  cases events with
  | nil =>
      cases read
      rfl
  | cons event events =>
      cases event with
      | data first more =>
          cases capacity with
          | zero => omega
          | succ capacity => simp [tryRead] at read
      | wouldBlock => cases read
      | eof =>
          cases read
          rfl
      | failed error => cases read

theorem copyStep_remaining (state next : CopyState)
    (step : CopyStep state next) : next.remaining < state.remaining := by
  cases step with
  | endOfStream rest phase read =>
      have weight := tryRead_eof_weight _ _ _ (by decide) read
      simp only [CopyState.remaining, phase]
      omega
  | chunkRead rest first more phase read =>
      have weight := tryRead_weight _ _ _ _ _ read
      simp only [CopyState.remaining, phase, List.length_cons]
      omega
  | readPending rest phase read =>
      simp only [CopyState.remaining, phase, read, readWeight]
      omega
  | readFailed rest error phase read =>
      simp only [CopyState.remaining, phase, read, readWeight]
      omega
  | chunkWritten chunk phase =>
      simp only [CopyState.remaining, phase, List.length_nil]
      omega
  | bytesTaken chunk rest count writes phase someTaken within answered =>
      have fewer : writes.length ≤ state.writes.length := by
        rcases answered with ⟨done, rfl⟩ | ⟨offered, _, taken⟩
        · exact Nat.zero_le _
        · rw [taken]
          exact Nat.le_succ _
      simp only [CopyState.remaining, phase, List.length_drop]
      omega
  | writePending chunk rest writes phase pending =>
      simp only [CopyState.remaining, phase, pending, List.length_cons]
      omega
  | writeFailed chunk rest error writes phase unfinished blamed =>
      obtain ⟨event, _, events⟩ := blamed
      simp only [CopyState.remaining, phase, events, List.length_cons]
      omega
  | shutdown exit phase =>
      simp only [CopyState.remaining, phase]
      omega

theorem copy_returns (state : CopyState) (turns : Nat)
    (enough : state.remaining ≤ turns) :
    ((advance copyCounted)^[turns] state).result.isSome = true :=
  (copyCounted_eq_none_iff _).mp
    (iterate_halts copyCounted CopyState.remaining
      (fun before after moved => copyStep_remaining before after
        (copyStep_of_copyCounted before after moved))
      turns state enough)

/-! ### The contract of one direction -/

structure CopyState.Exact (input : Bytes) (script : List WriteEvent)
    (state : CopyState) : Prop where
  inOrder : state.delivered <+: input
  openUntilReturn :
    (∀ exit, state.phase ≠ .returned exit) → state.shutdowns = 0
  closedOnce : ∀ exit, state.phase = .returned exit → state.shutdowns = 1
  /-- After end of stream or a read error nothing that was read is missing. -/
  cleanExit :
    ∀ exit, state.phase = .returned exit →
      (∀ error, exit ≠ .writeError error) →
      state.delivered = input ∧ state.total = state.counter ∧
        state.total = UInt64.ofNat state.delivered.length
  /-- After a write error the totals are those of the chunks written in full,
  and the writer has a proper part of one more chunk. -/
  writeFailure :
    ∀ error, state.phase = .returned (.writeError error) →
      ∃ taken missing : Bytes, missing ≠ [] ∧
        (taken ++ missing).length ≤ copyBufferSize ∧
        state.delivered = state.chunks.flatten ++ taken ∧
        state.chunks.flatten ++ (taken ++ missing) <+: input ∧
        state.total = state.counter ∧
        state.total = UInt64.ofNat state.chunks.flatten.length
  /-- A write error is the writer's answer to the last of the writes, and all it
  has taken before is delivered. -/
  blamed :
    ∀ error, state.phase = .returned (.writeError error) →
      ∃ passed event, script = passed ++ event :: state.writes ∧
        event.Reports error ∧ WritesClean passed ∧
        passed.countP WriteEvent.isAccepted ≤ state.delivered.length
  cleanWriter :
    WritesClean script → ∀ exit, state.phase = .returned exit →
      state.delivered = input

theorem CopyState.Ended.inOrder (input : Bytes) (state : CopyState)
    (exit : CopyExit) (ended : state.Ended input exit) :
    state.delivered <+: input := by
  cases exit with
  | eof => exact ⟨[], by rw [List.append_nil, ended.1, ended.2]⟩
  | readError error => exact ⟨[], by rw [List.append_nil, ended.1, ended.2]⟩
  | writeError error =>
      obtain ⟨taken, missing, _, _, delivered, within⟩ := ended
      rw [delivered]
      rw [← List.append_assoc] at within
      exact (List.prefix_append _ missing).trans within

theorem CopyState.Ended.whole (input : Bytes) (state : CopyState)
    (exit : CopyExit) (ended : state.Ended input exit)
    (clean : ∀ error, exit ≠ .writeError error) :
    state.delivered = input ∧ state.chunks.flatten = state.delivered := by
  cases exit with
  | eof => exact ⟨ended.1.trans ended.2, ended.1.symm⟩
  | readError error => exact ⟨ended.1.trans ended.2, ended.1.symm⟩
  | writeError error => exact absurd rfl (clean error)

theorem CopyState.Answered.blamed {script : List WriteEvent} {state : CopyState}
    (answered : state.Answered script) (error : IoError)
    (failed : state.phase.failure = some error) :
    ∃ passed event, script = passed ++ event :: state.writes ∧
      event.Reports error ∧ WritesClean passed ∧
      passed.countP WriteEvent.isAccepted ≤ state.delivered.length := by
  obtain ⟨passed, clean, counted, answers⟩ := answered
  rw [failed] at answers
  obtain ⟨event, reports, split⟩ := answers
  exact ⟨passed, event, split, reports, clean, counted⟩

theorem CopyState.Answered.sound {script : List WriteEvent} {state : CopyState}
    (answered : state.Answered script) (clean : WritesClean script) :
    state.phase.failure = none := by
  cases failed : state.phase.failure with
  | none => rfl
  | some error =>
      obtain ⟨passed, event, split, reports, _⟩ := answered.blamed error failed
      exact absurd clean (reports.not_clean script (by simp [split]))

theorem CopyState.Invariant.exact {input : Bytes} {script : List WriteEvent}
    {state : CopyState} (holds : state.Invariant input)
    (answered : state.Answered script) : state.Exact input script := by
  have account := holds.accounted
  cases phase : state.phase with
  | reading =>
      simp only [CopyState.Accounted, phase] at account
      obtain ⟨delivered, whole, open_⟩ := account
      exact
        { inOrder := ⟨stream state.reads, by rw [delivered, whole]⟩
          openUntilReturn := fun _ => open_
          closedOnce := by simp [phase]
          cleanExit := by simp [phase]
          writeFailure := by simp [phase]
          blamed := by simp [phase]
          cleanWriter := by simp [phase] }
  | writing chunk rest =>
      simp only [CopyState.Accounted, phase] at account
      obtain ⟨_, ⟨taken, chunkEq, delivered⟩, whole, open_⟩ := account
      exact
        { inOrder := ⟨rest ++ stream state.reads, by
            rw [delivered, whole, chunkEq]
            simp only [List.append_assoc]⟩
          openUntilReturn := fun _ => open_
          closedOnce := by simp [phase]
          cleanExit := by simp [phase]
          writeFailure := by simp [phase]
          blamed := by simp [phase]
          cleanWriter := by simp [phase] }
  | closing exit =>
      simp only [CopyState.Accounted, phase] at account
      exact
        { inOrder := account.1.inOrder
          openUntilReturn := fun _ => account.2
          closedOnce := by simp [phase]
          cleanExit := by simp [phase]
          writeFailure := by simp [phase]
          blamed := by simp [phase]
          cleanWriter := by simp [phase] }
  | returned exit =>
      simp only [CopyState.Accounted, phase] at account
      obtain ⟨ended, closed⟩ := account
      refine
        { inOrder := ended.inOrder
          openUntilReturn := fun notReturned => absurd phase (notReturned exit)
          closedOnce := fun _ _ => closed
          cleanExit := ?_
          writeFailure := ?_
          blamed := fun error same => answered.blamed error (by rw [same]; rfl)
          cleanWriter := ?_ }
      · intro shown same clean
        rw [phase] at same
        cases same
        obtain ⟨whole, written⟩ := ended.whole input state exit clean
        refine ⟨whole, holds.counter.symm, ?_⟩
        rw [holds.total, written]
      · intro error same
        rw [phase] at same
        cases same
        obtain ⟨taken, missing, nonempty, bound, delivered, within⟩ := ended
        exact ⟨taken, missing, nonempty, bound, delivered, within,
          holds.counter.symm, holds.total⟩
      · intro clean _ _
        have sound := answered.sound clean
        have noWriteError : ∀ error, exit ≠ .writeError error := by
          rintro error rfl
          rw [phase] at sound
          cases sound
        exact (ended.whole input state exit noWriteError).1

theorem copy_exact (reads : List ReadEvent) (writes : List WriteEvent)
    (turns : Nat) :
    ((advance copyCounted)^[turns] (CopyState.start reads writes)).Exact
      (stream reads) writes :=
  (copy_invariant reads writes turns).exact (copy_answered reads writes turns)

theorem copy_whole (reads : List ReadEvent) (writes : List WriteEvent)
    (clean : WritesClean writes) (turns : Nat)
    (done : ((advance copyCounted)^[turns]
      (CopyState.start reads writes)).result.isSome = true) :
    ((advance copyCounted)^[turns] (CopyState.start reads writes)).delivered =
      stream reads := by
  obtain ⟨exit, returned⟩ := (CopyState.result_isSome_iff _).mp done
  exact (copy_exact reads writes turns).cleanWriter clean exit returned

theorem relay_tx_exact (schedule : List Side) (inbound outbound : Socket) :
    (relay schedule (RelayState.start inbound outbound)).tx.Exact
      (stream inbound.reads) outbound.writes := by
  rw [relay_tx]
  exact copy_exact inbound.reads outbound.writes _

theorem relay_rx_exact (schedule : List Side) (inbound outbound : Socket) :
    (relay schedule (RelayState.start inbound outbound)).rx.Exact
      (stream outbound.reads) inbound.writes := by
  rw [relay_rx]
  exact copy_exact outbound.reads inbound.writes _

def EnoughTurns (inbound outbound : Socket) (schedule : List Side) : Prop :=
  (RelayState.start inbound outbound).tx.remaining ≤ schedule.count .first ∧
    (RelayState.start inbound outbound).rx.remaining ≤ schedule.count .second

theorem relay_returns (schedule : List Side) (inbound outbound : Socket)
    (enough : EnoughTurns inbound outbound schedule) :
    (relay schedule (RelayState.start inbound outbound)).tx.result.isSome = true ∧
      (relay schedule (RelayState.start inbound outbound)).rx.result.isSome =
        true := by
  rw [relay_tx, relay_rx]
  exact ⟨copy_returns _ _ enough.1, copy_returns _ _ enough.2⟩

/-- In every interleaving each direction is an exact copier on its own: it
depends on its own reader, writer and turns only, the join ends with `Ok` of
the two totals once both have returned and never before, and with enough turns
both return. -/
theorem relay_is_exact_copier (inbound outbound : Socket) :
    (∀ schedule : List Side,
      let final := relay schedule (RelayState.start inbound outbound)
      final.tx.Exact (stream inbound.reads) outbound.writes ∧
      final.rx.Exact (stream outbound.reads) inbound.writes ∧
      (∀ value, final.result = some value ↔
        final.tx.result.isSome = true ∧ final.rx.result.isSome = true ∧
          value = .ok (final.tx.total, final.rx.total)) ∧
      (EnoughTurns inbound outbound schedule →
        final.result = some (.ok (final.tx.total, final.rx.total)))) ∧
    (∀ (inbound' outbound' : Socket) (schedule schedule' : List Side),
      (inbound'.reads = inbound.reads → outbound'.writes = outbound.writes →
        schedule'.count .first = schedule.count .first →
        (relay schedule' (RelayState.start inbound' outbound')).tx =
          (relay schedule (RelayState.start inbound outbound)).tx) ∧
      (outbound'.reads = outbound.reads → inbound'.writes = inbound.writes →
        schedule'.count .second = schedule.count .second →
        (relay schedule' (RelayState.start inbound' outbound')).rx =
          (relay schedule (RelayState.start inbound outbound)).rx)) := by
  constructor
  · intro schedule
    refine ⟨relay_tx_exact schedule inbound outbound,
      relay_rx_exact schedule inbound outbound,
      fun value => RelayState.result_eq_some_iff _ value, ?_⟩
    intro enough
    obtain ⟨txDone, rxDone⟩ := relay_returns schedule inbound outbound enough
    exact (RelayState.result_eq_some_iff _ _).mpr ⟨txDone, rxDone, rfl⟩
  · intro inbound' outbound' schedule schedule'
    constructor
    · intro sameReads sameWrites sameTurns
      rw [relay_tx, relay_tx, sameTurns]
      simp only [RelayState.start, sameReads, sameWrites]
    · intro sameReads sameWrites sameTurns
      rw [relay_rx, relay_rx, sameTurns]
      simp only [RelayState.start, sameReads, sameWrites]

end TlsProxyTunnel
