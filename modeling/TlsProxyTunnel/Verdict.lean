/-
What the verdict on a CONNECT response depends on.

The status is the second word of everything that is in the buffer when the end
of the header is.  That is the header and whatever else the last read brought,
so a header with fewer than two words is completed by the bytes behind it.
-/

import TlsProxyTunnel.Tunnel

namespace TlsProxyTunnel

open Delimiter Text

/-- However the upstream continues after `header`, and however its bytes are
split into reads, the handshake accepts all of these responses or none. -/
def VerdictFromHeader (runtime : Runtime) (target : String)
    (headers : HashMap String) (writes : List WriteEvent) (header : Bytes) :
    Prop :=
  ∀ (payload payload' : Bytes) (reads reads' : List ReadEvent),
    ReadsClean reads → ReadsClean reads' →
    stream reads = header ++ payload → stream reads' = header ++ payload' →
    ((httpConnect runtime target headers reads writes).result = .ok () ↔
      (httpConnect runtime target headers reads' writes).result = .ok ())

def RequestWritten (runtime : Runtime) (target : String)
    (headers : HashMap String) (writes : List WriteEvent) : Prop :=
  ∃ request, buildRequest runtime target headers = .ok request ∧
    (writeLoop (asBytes request) 0 writes).outcome = .ok ()

/-- Two words decide the verdict.  With fewer, the buffer must be too full for
the bytes that would make up a 2xx status. -/
def SettlesStatus (header : Bytes) : Prop :=
  match (splitWhitespace (fromUtf8Lossy header)).length with
  | 0 => responseLimit < header.length + 5
  | 1 => responseLimit < header.length + 3
  | _ => True

def Accepts (buf : Bytes) : Prop :=
  ∃ status, parseConnectStatus buf = .ok status ∧ 200 ≤ status ∧ status ≤ 299

theorem accepts_iff (buf : Bytes) :
    Accepts buf ↔
      ∃ word, (splitWhitespace (fromUtf8Lossy buf))[1]? = some word ∧
        ∃ status, parseUnsigned 65535 word = .ok status ∧
          200 ≤ status ∧ status ≤ 299 := by
  unfold Accepts parseConnectStatus
  cases second : (splitWhitespace (fromUtf8Lossy buf))[1]? with
  | none => simp
  | some word =>
      cases read : parseUnsigned 65535 word with
      | error error => simp [read]
      | ok status => simp [read]

theorem httpConnect_ok_of_inbufs (runtime : Runtime) (target : String)
    (headers : HashMap String) (reads : List ReadEvent)
    (writes : List WriteEvent) (header excess : Bytes)
    (ends : headerEnd <:+ header)
    (filled : (readLoop [] reads).inbufs = header ++ excess) :
    (httpConnect runtime target headers reads writes).result = .ok () ↔
      RequestWritten runtime target headers writes ∧
        Accepts (header ++ excess) := by
  have complete := occurs_of_headerRead header excess ends
  rw [httpConnect_ok_iff, filled]
  constructor
  · rintro ⟨request, built, wrote, _, accepted⟩
    exact ⟨⟨request, built, wrote⟩, accepted⟩
  · rintro ⟨⟨request, built, wrote⟩, accepted⟩
    exact ⟨request, built, wrote, complete, accepted⟩

theorem httpConnect_ok_of_header (runtime : Runtime) (target : String)
    (headers : HashMap String) (reads : List ReadEvent)
    (writes : List WriteEvent) (header payload : Bytes)
    (ends : FirstHeaderEnd header) (short : header.length ≤ responseLimit)
    (clean : ReadsClean reads) (arrives : stream reads = header ++ payload) :
    ∃ excess, (header ++ excess).length ≤ responseLimit ∧
      ((httpConnect runtime target headers reads writes).result = .ok () ↔
        RequestWritten runtime target headers writes ∧
          Accepts (header ++ excess)) := by
  obtain ⟨excess, read⟩ := readLoop_header header payload [] reads ends short
    ends.nonempty arrives clean
  refine ⟨excess, ?_, httpConnect_ok_of_inbufs runtime target headers reads
    writes header excess ends.1 read.inbufs⟩
  rw [← read.inbufs]
  exact readLoop_inbufs_length [] reads (Nat.zero_le _)

theorem httpConnect_ok_of_one_read (runtime : Runtime) (target : String)
    (headers : HashMap String) (writes : List WriteEvent)
    (header extra : Bytes) (ends : FirstHeaderEnd header)
    (fits : (header ++ extra).length ≤ responseLimit) :
    (httpConnect runtime target headers (pushBack (header ++ extra) [])
        writes).result = .ok () ↔
      RequestWritten runtime target headers writes ∧
        Accepts (header ++ extra) := by
  refine httpConnect_ok_of_inbufs runtime target headers _ writes header extra
    ends.1 ?_
  have complete := occurs_of_headerRead header extra ends.1
  cases whole : header ++ extra with
  | nil =>
      have nonempty := ends.nonempty
      have lengths := congrArg List.length whole
      simp only [List.length_append, List.length_nil] at lengths
      omega
  | cons first more =>
      rw [whole] at complete fits
      simp only [List.length_cons] at fits
      have taken : (first :: more).take (responseLimit - 0) =
          first :: more := List.take_of_length_le fits
      have room : responseLimit - 0 ≠ 0 := by decide
      simp only [pushBack, readLoop, List.length_nil, taken,
        List.nil_append, if_neg room, complete, if_true]

/-! ### Headers that settle the status -/

theorem accepted_word_long (word : List Char) (status : Nat)
    (read : parseUnsigned 65535 word = .ok status) (accepted : 200 ≤ status) :
    3 ≤ word.length := by
  have bound := parseUnsigned_lt 65535 word status read
  by_contra shorter
  have small : 10 ^ word.length ≤ 10 ^ 2 :=
    Nat.pow_le_pow_right (by decide) (by omega)
  omega

theorem words_short (bytes : Bytes) :
    ((splitWhitespace (fromUtf8Lossy bytes)).map
      (fun word => word.length + 1)).sum ≤ bytes.length + 1 :=
  Nat.le_trans (splitWhitespace_lengths _)
    (Nat.succ_le_succ (fromUtf8Lossy_length_le bytes))

theorem accepts_append_iff (header excess : Bytes)
    (ends : FirstHeaderEnd header) (settles : SettlesStatus header)
    (fits : (header ++ excess).length ≤ responseLimit) :
    Accepts (header ++ excess) ↔ Accepts header := by
  rw [List.length_append] at fits
  simp only [accepts_iff,
    splitWhitespace_header_append header excess ends.1]
  have short := words_short excess
  cases own : splitWhitespace (fromUtf8Lossy header) with
  | nil =>
      simp only [SettlesStatus, own, List.length_nil] at settles
      simp only [List.nil_append, List.getElem?_nil, reduceCtorEq,
        false_and, exists_false, iff_false]
      rintro ⟨word, second, status, read, accepted, _⟩
      have long := accepted_word_long word status read accepted
      cases behind : splitWhitespace (fromUtf8Lossy excess) with
      | nil => simp [behind] at second
      | cons before words =>
          have some_ := splitWhitespace_nonempty (fromUtf8Lossy excess) before
            (behind ▸ List.mem_cons_self)
          rw [behind] at second short
          obtain ⟨rest, rfl⟩ : ∃ rest, words = word :: rest := by
            cases words with
            | nil => simp at second
            | cons next rest =>
                exact ⟨rest, by rw [Option.some.inj second]⟩
          simp only [List.map_cons, List.sum_cons] at short
          omega
  | cons first words =>
      cases words with
      | nil =>
          simp only [SettlesStatus, own, List.length_cons, List.length_nil]
            at settles
          simp only [List.singleton_append, List.getElem?_cons_succ,
            List.getElem?_nil, reduceCtorEq, false_and, exists_false,
            iff_false]
          rintro ⟨word, second, status, read, accepted, _⟩
          have long := accepted_word_long word status read accepted
          cases behind : splitWhitespace (fromUtf8Lossy excess) with
          | nil => simp [behind] at second
          | cons next rest =>
              rw [behind] at second short
              obtain rfl := Option.some.inj second
              simp only [List.map_cons, List.sum_cons] at short
              omega
      | cons second rest => simp

theorem accepted_of_not_settles (header : Bytes)
    (ends : FirstHeaderEnd header) (open_ : ¬ SettlesStatus header) :
    ¬ Accepts header ∧
      ∃ extra, (header ++ extra).length ≤ responseLimit ∧
        Accepts (header ++ extra) := by
  have status : parseUnsigned 65535 "200".toList = .ok 200 := by decide
  simp only [accepts_iff]
  cases own : splitWhitespace (fromUtf8Lossy header) with
  | nil =>
      simp only [SettlesStatus, own, List.length_nil, Nat.not_lt] at open_
      refine ⟨by simp, asBytes "x 200", ?_, "200".toList, ?_, 200, status,
        by decide, by decide⟩
      · rw [List.length_append]
        exact open_
      · rw [splitWhitespace_header_append header _ ends.1, own]
        decide
  | cons first words =>
      cases words with
      | nil =>
          simp only [SettlesStatus, own, List.length_cons, List.length_nil,
            Nat.not_lt] at open_
          refine ⟨by simp, asBytes "200", ?_, "200".toList, ?_, 200, status,
            by decide, by decide⟩
          · rw [List.length_append]
            exact open_
          · have word : splitWhitespace (fromUtf8Lossy (asBytes "200")) =
                ["200".toList] := by decide
            rw [splitWhitespace_header_append header _ ends.1, own, word]
            rfl
      | cons second rest =>
          simp [SettlesStatus, own] at open_

theorem readsClean_pushBack (bytes : Bytes) : ReadsClean (pushBack bytes []) :=
  ReadsClean.pushBack bytes (fun _ member => absurd member List.not_mem_nil)

/-- The verdict is fixed by a header exactly when the header settles the
status, or no response is read at all. -/
theorem verdict_from_header_iff (runtime : Runtime) (target : String)
    (headers : HashMap String) (writes : List WriteEvent) (header : Bytes)
    (ends : FirstHeaderEnd header) (short : header.length ≤ responseLimit) :
    VerdictFromHeader runtime target headers writes header ↔
      (RequestWritten runtime target headers writes →
        SettlesStatus header) := by
  constructor
  · intro fixed written
    by_contra open_
    obtain ⟨rejected, extra, fits, accepted⟩ :=
      accepted_of_not_settles header ends open_
    have alone : (header ++ []).length ≤ responseLimit := by
      rwa [List.append_nil]
    have verdicts := fixed [] extra (pushBack (header ++ []) [])
      (pushBack (header ++ extra) []) (readsClean_pushBack _)
      (readsClean_pushBack _)
      (by rw [stream_pushBack, stream, List.append_nil])
      (by rw [stream_pushBack, stream, List.append_nil])
    rw [httpConnect_ok_of_one_read runtime target headers writes header []
        ends alone,
      httpConnect_ok_of_one_read runtime target headers writes header extra
        ends fits, List.append_nil] at verdicts
    exact rejected (verdicts.mpr ⟨written, accepted⟩).2
  · intro settles payload payload' reads reads' clean clean' arrives arrives'
    obtain ⟨excess, fits, verdict⟩ := httpConnect_ok_of_header runtime target
      headers reads writes header payload ends short clean arrives
    obtain ⟨excess', fits', verdict'⟩ := httpConnect_ok_of_header runtime
      target headers reads' writes header payload' ends short clean' arrives'
    rw [verdict, verdict']
    refine and_congr_right fun written => ?_
    rw [accepts_append_iff header excess ends (settles written) fits,
      accepts_append_iff header excess' ends (settles written) fits']

theorem ok_header_settles_verdict :
    VerdictFromHeader bareRuntime "www.example.org:443" ∅ [] okHeader ↔
      (RequestWritten bareRuntime "www.example.org:443" ∅ [] →
        SettlesStatus okHeader) :=
  verdict_from_header_iff bareRuntime "www.example.org:443" ∅ [] okHeader
    (by decide) (by decide)

def versionHeader : Bytes := asBytes "HTTP/1.1\r\n\r\n"

/-- The same twelve bytes and `200` behind them, in one read and in two: the
first handshake takes the tunnel for open, the second misses the status. -/
theorem status_behind_header_is_accepted :
    let verdict (reads : List ReadEvent) :=
      (httpConnect bareRuntime "www.example.org:443" ∅ reads []).result
    FirstHeaderEnd versionHeader ∧ versionHeader.length ≤ responseLimit ∧
      verdict [.data 72 (asBytes "TTP/1.1\r\n\r\n200")] = .ok () ∧
      verdict [.data 72 (asBytes "TTP/1.1\r\n\r\n"),
          .data 50 (asBytes "00")] =
        .error (.proxyError
          "malformed CONNECT response: no status code") ∧
      ¬ VerdictFromHeader bareRuntime "www.example.org:443" ∅ []
          versionHeader := by
  refine ⟨by decide, by decide, by rfl, by rfl, fun fixed => ?_⟩
  have verdicts := fixed (asBytes "200") (asBytes "200")
    [.data 72 (asBytes "TTP/1.1\r\n\r\n200")]
    [.data 72 (asBytes "TTP/1.1\r\n\r\n"), .data 50 (asBytes "00")]
    (by simp [ReadsClean]) (by simp [ReadsClean]) (by decide) (by decide)
  have accepted := verdicts.mp (by rfl)
  cases accepted

end TlsProxyTunnel
