/-
The handover from the handshake to the relay.

The read that completes the response header may bring bytes that come after
it.  They stay in the handshake's buffer, which nobody reads again, so the
relay starts behind them.  Everything else arrives.
-/

import TlsProxyTunnel.Framing

namespace TlsProxyTunnel

open Delimiter Text Interleave

def FirstHeaderEnd (header : Bytes) : Prop :=
  headerEnd <:+ header ∧ ¬ headerEnd <:+: header.dropLast

instance (header : Bytes) : Decidable (FirstHeaderEnd header) :=
  inferInstanceAs (Decidable (_ ∧ _))

def ReadEndsAt (count : Nat) (events : List ReadEvent) : Prop :=
  ∃ early late, events = early ++ late ∧ (stream early).length = count ∧
    stream events = stream early ++ stream late

theorem readEndsAt_wouldBlock (count : Nat) (positive : 0 < count)
    (events : List ReadEvent) :
    ReadEndsAt count (.wouldBlock :: events) ↔ ReadEndsAt count events := by
  constructor
  · rintro ⟨early, late, whole, length, joined⟩
    cases early with
    | nil => simp [stream] at length; omega
    | cons event early =>
        obtain ⟨rfl, rfl⟩ := List.cons.inj whole
        exact ⟨early, late, rfl, length, joined⟩
  · rintro ⟨early, late, rfl, length, joined⟩
    exact ⟨.wouldBlock :: early, late, rfl, length, joined⟩

theorem readEndsAt_data (count : Nat) (positive : 0 < count) (first : UInt8)
    (more : Bytes) (events : List ReadEvent) :
    ReadEndsAt count (.data first more :: events) ↔
      ∃ rest, count = (first :: more).length + rest ∧
        ReadEndsAt rest events := by
  constructor
  · rintro ⟨early, late, whole, length, joined⟩
    cases early with
    | nil => simp [stream] at length; omega
    | cons event early =>
        obtain ⟨rfl, rfl⟩ := List.cons.inj whole
        simp only [stream, List.length_append] at length
        simp only [stream, List.append_assoc] at joined
        exact ⟨_, length.symm, early, late, rfl, rfl,
          List.append_cancel_left joined⟩
  · rintro ⟨rest, rfl, early, late, rfl, length, joined⟩
    refine ⟨.data first more :: early, late, rfl, ?_, ?_⟩
    · simp only [stream, List.length_append, length]
    · rw [stream, joined, stream, List.append_assoc]

theorem readEndsAt_zero (events : List ReadEvent) : ReadEndsAt 0 events :=
  ⟨[], events, rfl, rfl, rfl⟩

theorem ReadsClean.tail {event : ReadEvent} {events : List ReadEvent}
    (clean : ReadsClean (event :: events)) : ReadsClean events :=
  fun error member => clean error (List.mem_cons_of_mem _ member)

theorem ReadsClean.pushBack {events : List ReadEvent} (left : Bytes)
    (clean : ReadsClean events) : ReadsClean (pushBack left events) := by
  cases left with
  | nil => exact clean
  | cons first more =>
      intro error member
      rcases List.mem_cons.mp member with same | later
      · cases same
      · exact clean error later

/-! ### Where the read loop stops -/

/-- What the read loop leaves behind when the stream begins with `header`:
the whole header and an `excess` of the bytes after it are in the buffer. -/
structure HeaderRead (header : Bytes) (payload : Bytes)
    (events : List ReadEvent) (missing : Nat) (excess : Bytes)
    (response : Response) : Prop where
  status : response.status = parseConnectStatus (header ++ excess)
  inbufs : response.inbufs = header ++ excess
  split : payload = excess ++ stream response.reads
  clean : ReadsClean response.reads
  lighter : readWeight response.reads ≤ readWeight events
  atBoundary :
    excess = [] ↔ header.length = responseLimit ∨ ReadEndsAt missing events

theorem occurs_of_headerRead (header excess : Bytes)
    (ends : headerEnd <:+ header) :
    occurs headerEnd (header ++ excess) = true := by
  rw [occurs_iff]
  exact ends.isInfix.trans (List.prefix_append header excess).isInfix

theorem not_occurs_of_shorter (header payload filled rest : Bytes)
    (notEarlier : ¬ headerEnd <:+: header.dropLast)
    (arrives : filled ++ rest = header ++ payload)
    (short : filled.length < header.length) :
    occurs headerEnd filled = false := by
  rw [Bool.eq_false_iff, Ne, occurs_iff]
  intro inside
  apply notEarlier
  have within : filled <+: header.dropLast := by
    rw [List.dropLast_eq_take, List.prefix_take_iff]
    refine ⟨?_, by omega⟩
    exact List.prefix_of_prefix_length_le ⟨rest, arrives⟩ ⟨payload, rfl⟩
      (Nat.le_of_lt short)
  exact inside.trans within.isInfix

theorem readLoop_completes (header payload : Bytes) (inbufs : Bytes)
    (first : UInt8) (more : Bytes) (rest : List ReadEvent)
    (ends : headerEnd <:+ header) (short : header.length ≤ responseLimit)
    (unread : inbufs.length < header.length)
    (arrives : inbufs ++ (first :: more ++ stream rest) = header ++ payload)
    (clean : ReadsClean rest)
    (reaches : header.length ≤ (inbufs ++ (first :: more).take
      (responseLimit - inbufs.length)).length) :
    ∃ excess,
      HeaderRead header payload (.data first more :: rest)
        (header.length - inbufs.length) excess
        (readLoop inbufs (.data first more :: rest)) := by
  have positive : 0 < header.length - inbufs.length := by omega
  have room : responseLimit - inbufs.length ≠ 0 := by omega
  have cut := List.take_append_drop (responseLimit - inbufs.length)
    (first :: more)
  have joined : (inbufs ++ (first :: more).take
        (responseLimit - inbufs.length)) ++
      ((first :: more).drop (responseLimit - inbufs.length) ++ stream rest) =
        header ++ payload := by
    rw [← arrives]
    conv => rhs; rw [← cut]
    simp only [List.append_assoc]
  obtain ⟨excess, filled⟩ :=
    List.prefix_of_prefix_length_le ⟨payload, rfl⟩ ⟨_, joined⟩ reaches
  refine ⟨excess, ?_⟩
  simp only [readLoop, if_neg room, ← filled,
    occurs_of_headerRead header excess ends, if_true]
  rw [← filled, List.append_assoc] at joined
  have split := List.append_cancel_left joined
  have lengths := congrArg List.length filled
  simp only [List.length_append, List.length_take] at lengths
  refine ⟨rfl, rfl, ?_, clean.pushBack _, ?_, ?_⟩
  · rw [stream_pushBack]
    exact split.symm
  · have weight := readWeight_pushBack
      ((first :: more).drop (responseLimit - inbufs.length)) rest
    simp only [List.length_drop, List.length_cons] at weight
    simp only [readWeight]
    omega
  · rw [← List.length_eq_zero_iff, readEndsAt_data _ positive]
    constructor
    · intro nothing
      by_cases full : header.length = responseLimit
      · exact Or.inl full
      · refine Or.inr ⟨0, ?_, readEndsAt_zero rest⟩
        omega
    · rintro (full | ⟨left, boundary, _⟩) <;> omega

theorem HeaderRead.behind_wouldBlock {header payload excess : Bytes}
    {events : List ReadEvent} {missing : Nat} {response : Response}
    (read : HeaderRead header payload events missing excess response)
    (positive : 0 < missing) :
    HeaderRead header payload (.wouldBlock :: events) missing excess
      response :=
  { status := read.status
    inbufs := read.inbufs
    split := read.split
    clean := read.clean
    lighter := Nat.le_succ_of_le read.lighter
    atBoundary := by
      rw [readEndsAt_wouldBlock missing positive]
      exact read.atBoundary }

theorem HeaderRead.behind_data {header payload excess : Bytes}
    {events : List ReadEvent} {missing : Nat} {response : Response}
    (read : HeaderRead header payload events missing excess response)
    (first : UInt8) (more : Bytes) :
    HeaderRead header payload (.data first more :: events)
      ((first :: more).length + missing) excess response :=
  { status := read.status
    inbufs := read.inbufs
    split := read.split
    clean := read.clean
    lighter := by
      have lighter := read.lighter
      simp only [readWeight]
      omega
    atBoundary := by
      have positive : 0 < (first :: more).length + missing :=
        Nat.add_pos_left (Nat.succ_pos more.length) missing
      rw [read.atBoundary, readEndsAt_data _ positive]
      refine or_congr Iff.rfl ⟨fun boundary => ⟨missing, rfl, boundary⟩, ?_⟩
      rintro ⟨left, position, boundary⟩
      rw [Nat.add_left_cancel position]
      exact boundary }

theorem readLoop_goesOn (inbufs : Bytes) (first : UInt8) (more : Bytes)
    (rest : List ReadEvent)
    (room : (inbufs ++ first :: more).length < responseLimit)
    (unfinished : occurs headerEnd (inbufs ++ first :: more) = false) :
    readLoop inbufs (.data first more :: rest) =
      readLoop (inbufs ++ first :: more) rest := by
  have fits : (first :: more).take (responseLimit - inbufs.length) =
      first :: more := by
    apply List.take_of_length_le
    rw [List.length_append] at room
    omega
  have some_ : responseLimit - inbufs.length ≠ 0 := by
    rw [List.length_append, List.length_cons] at room
    omega
  rw [readLoop, fits]
  simp only [unfinished, if_neg some_, if_neg (Nat.not_le.mpr room)]
  rfl

/-- However the stream is split into reads, the loop stops with the first read
that completes the header. -/
theorem readLoop_header (header payload : Bytes) (inbufs : Bytes)
    (events : List ReadEvent) (ends : FirstHeaderEnd header)
    (short : header.length ≤ responseLimit)
    (unread : inbufs.length < header.length)
    (arrives : inbufs ++ stream events = header ++ payload)
    (clean : ReadsClean events) :
    ∃ excess,
      HeaderRead header payload events (header.length - inbufs.length) excess
        (readLoop inbufs events) := by
  induction events generalizing inbufs with
  | nil =>
      have lengths := congrArg List.length arrives
      simp only [stream, List.append_nil, List.length_append] at lengths
      omega
  | cons event rest ih =>
      cases event with
      | eof =>
          have lengths := congrArg List.length arrives
          simp only [stream, List.append_nil, List.length_append] at lengths
          omega
      | failed error => exact absurd List.mem_cons_self (clean error)
      | wouldBlock =>
          obtain ⟨excess, read⟩ := ih inbufs unread arrives clean.tail
          exact ⟨excess, read.behind_wouldBlock (Nat.sub_pos_of_lt unread)⟩
      | data first more =>
          by_cases reaches : header.length ≤ (inbufs ++ (first :: more).take
              (responseLimit - inbufs.length)).length
          · exact readLoop_completes header payload inbufs first more rest
              ends.1 short unread arrives clean.tail reaches
          · rw [Nat.not_le] at reaches
            -- The chunk fits, or the buffer would be as long as the header.
            have fits :
                (first :: more).take (responseLimit - inbufs.length) =
                  first :: more := by
              apply List.take_of_length_le
              rw [List.length_append, List.length_take] at reaches
              omega
            rw [fits] at reaches
            have joined : (inbufs ++ first :: more) ++ stream rest =
                header ++ payload := by
              rw [← arrives, stream, List.append_assoc]
            have unfinished := not_occurs_of_shorter header payload _ _
              ends.2 joined reaches
            obtain ⟨excess, read⟩ := ih (inbufs ++ first :: more) reaches
              joined clean.tail
            have missing : header.length - inbufs.length =
                (first :: more).length +
                  (header.length - (inbufs ++ first :: more).length) := by
              rw [List.length_append] at reaches ⊢
              omega
            rw [readLoop_goesOn inbufs first more rest
              (Nat.lt_of_lt_of_le reaches short) unfinished, missing]
            exact ⟨excess, read.behind_data first more⟩

theorem splitWhitespace_header_append (header after : Bytes)
    (ends : headerEnd <:+ header) :
    splitWhitespace (fromUtf8Lossy (header ++ after)) =
      splitWhitespace (fromUtf8Lossy header) ++
        splitWhitespace (fromUtf8Lossy after) := by
  obtain ⟨before, rfl⟩ := ends
  have words (later : Bytes) :
      splitWhitespace (fromUtf8Lossy (before ++ headerEnd ++ later)) =
        splitWhitespace (fromUtf8Lossy (before ++ [13, 10] ++ [13])) ++
          splitWhitespace (fromUtf8Lossy later) := by
    have shape : before ++ headerEnd ++ later =
        (before ++ [13, 10]) ++ 13 :: ([] ++ 10 :: later) := by
      simp [headerEnd, crlf]
    rw [shape, fromUtf8Lossy_append _ 13 (by decide),
      fromUtf8Lossy_append [] 10 (by decide) later]
    have newline : fromUtf8Lossy ([] ++ [10]) = [Char.ofNat 10] :=
      fromUtf8Lossy_singleton 10 (by decide)
    rw [newline, List.singleton_append,
      splitWhitespace_append _ _ (by decide)]
  have alone := words []
  have nothing : splitWhitespace (fromUtf8Lossy []) = [] := by decide
  rw [List.append_nil, nothing, List.append_nil] at alone
  rw [words after, alone]

/-- Words that stand before the end of the header do not change with what comes
after it. -/
theorem parseConnectStatus_append (header excess : Bytes) (status : Nat)
    (ends : headerEnd <:+ header)
    (parsed : parseConnectStatus header = .ok status) :
    parseConnectStatus (header ++ excess) = .ok status := by
  simp only [parseConnectStatus] at parsed
  simp only [parseConnectStatus,
    splitWhitespace_header_append header excess ends]
  cases second : (splitWhitespace (fromUtf8Lossy header))[1]? with
  | none =>
      rw [second] at parsed
      cases parsed
  | some word =>
      rw [List.getElem?_append_left (List.getElem?_eq_some_iff.mp second).1,
        second]
      rw [second] at parsed
      exact parsed

theorem tryRead_clean (capacity : Nat) (events rest : List ReadEvent)
    (chunk : Bytes) (clean : ReadsClean events)
    (read : tryRead capacity events = (.ok chunk, rest)) : ReadsClean rest := by
  cases events with
  | nil =>
      cases read
      exact clean
  | cons event events =>
      cases event with
      | data first more =>
          cases read
          exact clean.tail.pushBack _
      | wouldBlock => cases read
      | eof =>
          cases read
          exact clean
      | failed error => cases read

theorem WritesClean.suffix {later events : List WriteEvent}
    (clean : WritesClean events) (suffix : later <:+ events) :
    WritesClean later :=
  fun event member => clean event (suffix.subset member)

/-! ### The whole connection -/

/-- A connection on which nothing goes wrong: the tunnel opens, the upstream
sends `header` and then `payload`, no call on a socket fails, and the relay is
given the turns it needs to reach both ends of stream. -/
structure CleanTunnel (upstream : ProxyToUpstream) (runtime : Runtime)
    (inbound : Socket) (via : ViaUpstream) (target : String)
    (surroundings : Surroundings) (request : String)
    (header payload : Bytes) : Prop where
  connected :
    connectUpstream upstream.addresses upstream.protocol via.connectTimeout
      surroundings.dial = .ok ()
  outboundNodelay : surroundings.outboundNodelay = .ok ()
  inboundNodelay : surroundings.inboundNodelay = .ok ()
  built : buildRequest runtime target via.headers = .ok request
  arrives : stream surroundings.outbound.reads = header ++ payload
  headerFirst : FirstHeaderEnd header
  headerShort : header.length ≤ responseLimit
  accepted :
    ∃ status, parseConnectStatus header = .ok status ∧
      200 ≤ status ∧ status ≤ 299
  inboundReads : ReadsClean inbound.reads
  inboundWrites : WritesClean inbound.writes
  outboundReads : ReadsClean surroundings.outbound.reads
  outboundWrites : WritesClean surroundings.outbound.writes
  enough : EnoughTurns inbound surroundings.outbound surroundings.schedule

theorem FirstHeaderEnd.nonempty {header : Bytes}
    (ends : FirstHeaderEnd header) : 0 < header.length := by
  have length := ends.1.length_le
  change 4 ≤ header.length at length
  omega

theorem CleanTunnel.handshake {upstream : ProxyToUpstream} {runtime : Runtime}
    {inbound : Socket} {via : ViaUpstream} {target : String}
    {surroundings : Surroundings} {request : String} {header payload : Bytes}
    (clean : CleanTunnel upstream runtime inbound via target surroundings
      request header payload) :
    ∃ excess left writes,
      upstream.proxy runtime inbound via (some target) surroundings =
        .relaying (asBytes request) surroundings.schedule inbound
          { reads := left, writes := writes } ∧
      payload = excess ++ stream left ∧
      ReadsClean left ∧ readWeight left ≤ readWeight surroundings.outbound.reads ∧
      writes <:+ surroundings.outbound.writes ∧
      (excess = [] ↔ header.length = responseLimit ∨
        ReadEndsAt header.length surroundings.outbound.reads) := by
  obtain ⟨wrote, sent, suffix⟩ := writeLoop_clean (asBytes request) 0
    surroundings.outbound.writes clean.outboundWrites
  obtain ⟨excess, read⟩ := readLoop_header header payload []
    surroundings.outbound.reads clean.headerFirst clean.headerShort
    clean.headerFirst.nonempty clean.arrives clean.outboundReads
  obtain ⟨status, parsed, accepted⟩ := clean.accepted
  refine ⟨excess, _, _, ?_, read.split, read.clean, read.lighter, suffix,
    read.atBoundary⟩
  have opened : (readLoop [] surroundings.outbound.reads).status.bind
      checkStatus = .ok () := by
    rw [read.status, parseConnectStatus_append header excess status
      clean.headerFirst.1 parsed]
    exact (checkStatus_ok_iff status).mpr accepted
  simp only [ProxyToUpstream.proxy, httpConnect, clean.connected,
    clean.outboundNodelay, clean.inboundNodelay, clean.built, wrote, opened,
    sent]

theorem CleanTunnel.bytes {upstream : ProxyToUpstream} {runtime : Runtime}
    {inbound : Socket} {via : ViaUpstream} {target : String}
    {surroundings : Surroundings} {request : String} {header payload : Bytes}
    (clean : CleanTunnel upstream runtime inbound via target surroundings
      request header payload) :
    let run := upstream.proxy runtime inbound via (some target) surroundings
    run.result = some (.ok ()) ∧
      run.toUpstream = asBytes request ++ stream inbound.reads ∧
      ∃ excess, payload = excess ++ run.returned ∧
        (excess = [] ↔ header.length = responseLimit ∨
          ReadEndsAt header.length surroundings.outbound.reads) := by
  intro run
  obtain ⟨excess, left, writes, relayed, split, leftClean, lighter, suffix,
    boundary⟩ := clean.handshake
  have runEq : run = .relaying (asBytes request) surroundings.schedule inbound
      { reads := left, writes := writes } := relayed
  have fewerWrites := suffix.length_le
  have enough := clean.enough
  simp only [EnoughTurns, RelayState.start, CopyState.remaining,
    CopyState.start] at enough
  have txEnough : (CopyState.start inbound.reads writes).remaining ≤
      surroundings.schedule.count .first := by
    simp only [CopyState.remaining, CopyState.start]
    omega
  have rxEnough : (CopyState.start left inbound.writes).remaining ≤
      surroundings.schedule.count .second := by
    simp only [CopyState.remaining, CopyState.start]
    omega
  have txDelivered := copy_whole inbound.reads writes
    (clean.outboundWrites.suffix suffix) _ (copy_returns _ _ txEnough)
  have rxDelivered := copy_whole left inbound.writes clean.inboundWrites _
    (copy_returns _ _ rxEnough)
  obtain ⟨txDone, rxDone⟩ := relay_returns surroundings.schedule inbound
    { reads := left, writes := writes } ⟨txEnough, rxEnough⟩
  have result := (RelayState.result_eq_some_iff _ _).mpr
    ⟨txDone, rxDone, rfl⟩
  rw [runEq]
  refine ⟨?_, ?_, excess, ?_, boundary⟩
  · simp only [ProxyRun.relaying, result, Option.map_some]
  · simp only [ProxyRun.toUpstream, ProxyRun.forwarded, ProxyRun.relaying,
      relay_tx, RelayState.start, txDelivered]
  · simp only [ProxyRun.returned, ProxyRun.relaying, relay_rx,
      RelayState.start, rxDelivered]
    exact split

structure Lossless (run : ProxyRun) (request : String) (client payload : Bytes) :
    Prop where
  completed : run.result = some (.ok ())
  toUpstream : run.toUpstream = asBytes request ++ client
  toClient : run.returned = payload

/-- Without errors the tunnel is lossless exactly when the reads stop at the end
of the header: one of them ends there, or the buffer does. -/
theorem tunnel_lossless_iff (upstream : ProxyToUpstream) (runtime : Runtime)
    (inbound : Socket) (via : ViaUpstream) (target : String)
    (surroundings : Surroundings) (request : String) (header payload : Bytes)
    (clean : CleanTunnel upstream runtime inbound via target surroundings
      request header payload) :
    Lossless (upstream.proxy runtime inbound via (some target) surroundings)
        request (stream inbound.reads) payload ↔
      header.length = responseLimit ∨
        ReadEndsAt header.length surroundings.outbound.reads := by
  obtain ⟨completed, toUpstream, excess, split, boundary⟩ := clean.bytes
  rw [← boundary]
  constructor
  · intro lossless
    have whole := lossless.toClient
    rw [split] at whole
    exact List.append_left_eq_self.mp whole.symm
  · intro nothing
    rw [nothing, List.nil_append] at split
    exact ⟨completed, toUpstream, split.symm⟩

def okHeader : Bytes := asBytes "HTTP/1.1 200 OK\r\n\r\n"

def greeting : Bytes := asBytes "hello"

def greetedClient : Socket :=
  { reads := [.data 22 [3, 1]], writes := [] }

def greetingProxy (reads : List ReadEvent) : Surroundings :=
  { dial :=
      { called := 0
        completed := 0
        lookup := .ok [.v4 (fun _ => 10) 3128]
        attempt := fun _ => .ok ()
        elapsed := fun _ => 0 }
    outboundNodelay := .ok ()
    inboundNodelay := .ok ()
    outbound := { reads := reads, writes := [] }
    schedule := List.replicate 200 .first ++ List.replicate 200 .second }

theorem greetingProxy_clean (reads : List ReadEvent)
    (arrives : stream reads = okHeader ++ greeting) (clean : ReadsClean reads)
    (light : readWeight reads ≤ 60) :
    CleanTunnel corpProxy bareRuntime greetedClient corpVia
      "www.example.org:443" (greetingProxy reads)
      "CONNECT www.example.org:443 HTTP/1.1\r\n\r\n" okHeader greeting :=
  { connected := rfl
    outboundNodelay := rfl
    inboundNodelay := rfl
    built := rfl
    arrives := arrives
    headerFirst := by decide
    headerShort := by decide
    accepted := ⟨200, by decide, by decide, by decide⟩
    inboundReads := by simp [ReadsClean, greetedClient]
    inboundWrites := fun _ member => absurd member List.not_mem_nil
    outboundReads := clean
    outboundWrites := fun _ member => absurd member List.not_mem_nil
    enough := by
      simp only [EnoughTurns, RelayState.start, CopyState.start,
        CopyState.remaining, greetedClient, greetingProxy, readWeight,
        List.count_append, List.count_replicate_self, List.length_nil,
        List.length_cons]
      rw [List.count_replicate, List.count_replicate]
      constructor
      · decide
      · simp only [beq_iff_eq, reduceCtorEq, if_false]
        omega }

theorem greeting_after_header_lossless :
    let reads : List ReadEvent :=
      [.data 72 (asBytes "TTP/1.1 200 OK\r\n\r\n"), .data 104 (asBytes "ello")]
    Lossless (corpProxy.proxy bareRuntime greetedClient corpVia
        (some "www.example.org:443") (greetingProxy reads))
        "CONNECT www.example.org:443 HTTP/1.1\r\n\r\n"
        (stream greetedClient.reads) greeting ↔
      okHeader.length = responseLimit ∨ ReadEndsAt okHeader.length reads :=
  tunnel_lossless_iff corpProxy bareRuntime greetedClient corpVia
    "www.example.org:443" (greetingProxy _) _ okHeader greeting
    (greetingProxy_clean _ (by decide) (by simp [ReadsClean]) (by decide))

/-- The header and the greeting in one read: the client never sees the
greeting. -/
theorem greeting_with_header_lost :
    let reads : List ReadEvent :=
      [.data 72 (asBytes "TTP/1.1 200 OK\r\n\r\nhello")]
    CleanTunnel corpProxy bareRuntime greetedClient corpVia
        "www.example.org:443" (greetingProxy reads)
        "CONNECT www.example.org:443 HTTP/1.1\r\n\r\n" okHeader greeting ∧
      ¬ Lossless (corpProxy.proxy bareRuntime greetedClient corpVia
          (some "www.example.org:443") (greetingProxy reads))
          "CONNECT www.example.org:443 HTTP/1.1\r\n\r\n"
          (stream greetedClient.reads) greeting := by
  intro reads
  have clean := greetingProxy_clean reads (by decide)
    (by simp [reads, ReadsClean]) (by decide)
  refine ⟨clean, fun lossless => ?_⟩
  obtain ⟨_, _, excess, split, boundary⟩ := clean.bytes
  have whole := lossless.toClient
  rw [split] at whole
  rcases boundary.mp (List.append_left_eq_self.mp whole.symm) with
    full | endsThere
  · exact absurd full (by decide)
  · obtain ⟨rest, position, _⟩ :=
      (readEndsAt_data okHeader.length (by decide) _ _ _).mp endsThere
    have tooLong : okHeader.length <
        (72 :: asBytes "TTP/1.1 200 OK\r\n\r\nhello").length := by decide
    omega

end TlsProxyTunnel
