/-
HTTP status lines and what the status parser takes for one.

The parser reads the second word of a whole text, so it also takes a status
from text that is no status line.  It never misses one that is.
-/

import TlsProxyTunnel.Verdict

namespace TlsProxyTunnel

open Delimiter Text

def IsVisible (byte : UInt8) : Prop := 33 ≤ byte ∧ byte ≤ 126

def IsDigitByte (byte : UInt8) : Prop := 48 ≤ byte ∧ byte ≤ 57

structure StatusCode where
  hundreds : UInt8
  tens : UInt8
  units : UInt8
  digits : IsDigitByte hundreds ∧ IsDigitByte tens ∧ IsDigitByte units

def StatusCode.bytes (code : StatusCode) : Bytes :=
  [code.hundreds, code.tens, code.units]

def StatusCode.status (code : StatusCode) : Nat :=
  100 * (code.hundreds.toNat - 48) + 10 * (code.tens.toNat - 48) +
    (code.units.toNat - 48)

/-- The first line of `header` is a version, a space, three digits that denote
`status` and then nothing or a space and a reason phrase. -/
def StatusLine (header : Bytes) (status : Nat) : Prop :=
  ∃ (version reason : Bytes) (code : StatusCode) (rest : Bytes),
    (∀ byte, byte ∈ version → IsVisible byte) ∧
    asBytes "HTTP/" <+: version ∧
    (reason = [] ∨ ∃ phrase, reason = 32 :: phrase) ∧
    ¬ crlf <:+: version ++ 32 :: code.bytes ++ reason ∧
    header = version ++ 32 :: code.bytes ++ reason ++ crlf ++ rest ∧
    status = code.status

theorem isVisible_ascii (byte : UInt8) (visible : IsVisible byte) :
    byte < 0x80 :=
  Nat.lt_of_le_of_lt (UInt8.le_iff_toNat_le.mp visible.2) (by decide)

theorem isDigitByte_visible (byte : UInt8) (digit : IsDigitByte byte) :
    IsVisible byte :=
  ⟨UInt8.le_trans (by decide) digit.1, UInt8.le_trans digit.2 (by decide)⟩

theorem isDigitByte_ascii (byte : UInt8) (digit : IsDigitByte byte) :
    byte < 0x80 :=
  isVisible_ascii byte (isDigitByte_visible byte digit)

def asciiChar (byte : UInt8) : Char := Char.ofNat byte.toNat

theorem asciiChar_toNat (byte : UInt8) (ascii : byte < 0x80) :
    (asciiChar byte).toNat = byte.toNat := by
  have small : byte.toNat < 128 := UInt8.lt_iff_toNat_lt.mp ascii
  have valid : byte.toNat.isValidChar := Or.inl (by omega)
  simp [asciiChar, Char.ofNat, valid]

theorem isVisible_not_whitespace (byte : UInt8) (visible : IsVisible byte) :
    isWhitespace (asciiChar byte) = false := by
  have low : 33 ≤ byte.toNat := UInt8.le_iff_toNat_le.mp visible.1
  have high : byte.toNat ≤ 126 := UInt8.le_iff_toNat_le.mp visible.2
  simp only [isWhitespace, asciiChar_toNat byte (isVisible_ascii byte visible)]
  simp only [Bool.or_eq_false_iff, Bool.and_eq_false_iff, beq_eq_false_iff_ne,
    decide_eq_false_iff_not]
  omega

theorem words_cons_of_visible (word : Bytes) (space : UInt8) (after : Bytes)
    (nonempty : word ≠ []) (visible : ∀ byte, byte ∈ word → IsVisible byte)
    (isSpace : isWhitespace (asciiChar space) = true)
    (ascii : space < 0x80) :
    splitWhitespace (fromUtf8Lossy (word ++ space :: after)) =
      word.map asciiChar :: splitWhitespace (fromUtf8Lossy after) := by
  rw [fromUtf8Lossy_ascii_append word _ (fun byte member =>
    isVisible_ascii byte (visible byte member)),
    fromUtf8Lossy_cons_ascii space ascii]
  refine splitWhitespace_word _ _ _ isSpace (by simpa using nonempty) ?_
  intro c member
  obtain ⟨byte, inWord, rfl⟩ := List.mem_map.mp member
  exact isVisible_not_whitespace byte (visible byte inWord)

theorem isDigit_asciiChar (byte : UInt8) (digit : IsDigitByte byte) :
    IsDigit (asciiChar byte) := by
  have toNat := asciiChar_toNat byte (isDigitByte_ascii byte digit)
  have low : 48 ≤ byte.toNat := UInt8.le_iff_toNat_le.mp digit.1
  have high : byte.toNat ≤ 57 := UInt8.le_iff_toNat_le.mp digit.2
  rw [← toNat] at low high
  exact ⟨low, high⟩

theorem StatusCode.isDigitByte (code : StatusCode) :
    ∀ byte, byte ∈ code.bytes → IsDigitByte byte := by
  obtain ⟨hundreds, tens, units⟩ := code.digits
  simp only [StatusCode.bytes, List.mem_cons, List.not_mem_nil, or_false]
  rintro byte (rfl | rfl | rfl)
  · exact hundreds
  · exact tens
  · exact units

theorem StatusCode.numeral (code : StatusCode) :
    Numeral (code.bytes.map asciiChar) code.status ∧ code.status ≤ 999 := by
  have bound (byte : UInt8) (member : byte ∈ code.bytes) :
      (asciiChar byte).toNat = byte.toNat ∧ byte.toNat ≤ 57 := by
    have digit := code.isDigitByte byte member
    exact ⟨asciiChar_toNat byte (isDigitByte_ascii byte digit),
      UInt8.le_iff_toNat_le.mp digit.2⟩
  obtain ⟨hundreds, hundredsLe⟩ := bound code.hundreds (by simp [bytes])
  obtain ⟨tens, tensLe⟩ := bound code.tens (by simp [bytes])
  obtain ⟨units, unitsLe⟩ := bound code.units (by simp [bytes])
  refine ⟨⟨_, Or.inl rfl, by simp [bytes], ?_, ?_⟩, ?_⟩
  · intro c member
    obtain ⟨byte, inCode, rfl⟩ := List.mem_map.mp member
    exact isDigit_asciiChar byte (code.isDigitByte byte inCode)
  · have zero : '0'.toNat = 48 := rfl
    simp only [digitsValue, bytes, List.map_cons, List.map_nil,
      List.foldl_cons, List.foldl_nil, hundreds, tens, units, status, zero]
    omega
  · simp only [status]
    omega

theorem parseConnectStatus_ok_iff (buf : Bytes) (status : Nat) :
    parseConnectStatus buf = .ok status ↔
      ∃ word, (splitWhitespace (fromUtf8Lossy buf))[1]? = some word ∧
        Numeral word status ∧ status ≤ 65535 := by
  unfold parseConnectStatus
  cases second : (splitWhitespace (fromUtf8Lossy buf))[1]? with
  | none => simp
  | some word =>
      simp only [Option.some.injEq, exists_eq_left', ← parseUnsigned_ok_iff]
      cases parseUnsigned 65535 word with
      | error error => simp
      | ok read => simp

theorem statusLine_words (header : Bytes) (status : Nat)
    (line : StatusLine header status) :
    ∃ word, (splitWhitespace (fromUtf8Lossy header))[1]? = some word ∧
      Numeral word status ∧ status ≤ 999 := by
  obtain ⟨version, reason, code, rest, visible, begins, ending, _, rfl, rfl⟩ :=
    line
  refine ⟨code.bytes.map asciiChar, ?_, code.numeral⟩
  have versionSome : version ≠ [] := by
    rintro rfl
    exact absurd begins (by decide)
  have codeVisible (byte : UInt8) (member : byte ∈ code.bytes) :
      IsVisible byte := isDigitByte_visible byte (code.isDigitByte byte member)
  obtain ⟨space, later, behind, isSpace, ascii⟩ :
      ∃ space later, reason ++ crlf ++ rest = space :: later ∧
        isWhitespace (asciiChar space) = true ∧ space < 0x80 := by
    rcases ending with rfl | ⟨phrase, rfl⟩
    · exact ⟨13, 10 :: rest, rfl, by decide, by decide⟩
    · exact ⟨32, _, rfl, by decide, by decide⟩
  have regrouped : version ++ 32 :: code.bytes ++ reason ++ crlf ++ rest =
      version ++ 32 :: (code.bytes ++ space :: later) := by
    rw [← behind]
    simp
  rw [regrouped,
    words_cons_of_visible version 32 _ versionSome visible (by decide)
      (by decide),
    words_cons_of_visible code.bytes space later (by simp [StatusCode.bytes])
      codeVisible isSpace ascii]
  rfl

theorem parseConnectStatus_of_statusLine (header : Bytes) (status : Nat)
    (line : StatusLine header status) :
    parseConnectStatus header = .ok status := by
  obtain ⟨word, second, numeral, bounded⟩ := statusLine_words header status line
  exact (parseConnectStatus_ok_iff header status).mpr
    ⟨word, second, numeral, Nat.le_trans bounded (by decide)⟩

/-! ### What is taken for a status line -/

/-- On `header` the parser accepts its status line and nothing else, and a
tunnel is only opened on a 2xx status line, whatever follows the header. -/
structure GenuineStatus (header : Bytes) : Prop where
  parsed : ∀ status,
    parseConnectStatus header = .ok status ↔ StatusLine header status
  accepted : ∀ (runtime : Runtime) (target : String) (headers : HashMap String)
    (reads : List ReadEvent) (writes : List WriteEvent) (payload : Bytes),
    stream reads = header ++ payload →
    (httpConnect runtime target headers reads writes).result = .ok () →
    ∃ status, StatusLine header status ∧ 200 ≤ status ∧ status ≤ 299

/-- The second word of the header cannot be read as a number, or there is none
and no room for one behind the header. -/
def Unreadable (header : Bytes) : Prop :=
  SettlesStatus header ∧
    ∀ word, (splitWhitespace (fromUtf8Lossy header))[1]? = some word →
      ∀ status, Numeral word status → 65535 < status

theorem accepts_of_httpConnect_ok (runtime : Runtime) (target : String)
    (headers : HashMap String) (reads : List ReadEvent)
    (writes : List WriteEvent) (header payload : Bytes)
    (ends : FirstHeaderEnd header) (arrives : stream reads = header ++ payload)
    (opened :
      (httpConnect runtime target headers reads writes).result = .ok ()) :
    ∃ excess, (header ++ excess).length ≤ responseLimit ∧
      Accepts (header ++ excess) := by
  obtain ⟨_, _, _, complete, accepts⟩ :=
    (httpConnect_ok_iff runtime target headers reads writes).mp opened
  have ofStream := readLoop_inbufs_prefix [] reads
  rw [List.nil_append, arrives] at ofStream
  have reaches : header.length ≤ (readLoop [] reads).inbufs.length := by
    by_contra shorter
    obtain ⟨rest, whole⟩ := ofStream
    have incomplete := not_occurs_of_shorter header payload _ rest ends.2 whole
      (Nat.lt_of_not_le shorter)
    rw [incomplete] at complete
    cases complete
  obtain ⟨excess, filled⟩ := List.prefix_of_prefix_length_le
    (List.prefix_append header payload) ofStream reaches
  refine ⟨excess, ?_, filled ▸ accepts⟩
  rw [filled]
  exact readLoop_inbufs_length [] reads (Nat.zero_le _)

theorem accepts_second_word (buf : Bytes) :
    Accepts buf ↔
      ∃ word, (splitWhitespace (fromUtf8Lossy buf))[1]? = some word ∧
        ∃ status, Numeral word status ∧ 200 ≤ status ∧ status ≤ 299 := by
  rw [accepts_iff]
  simp only [parseUnsigned_ok_iff]
  refine exists_congr fun word => and_congr_right fun _ =>
    exists_congr fun status => ?_
  constructor
  · rintro ⟨⟨numeral, _⟩, bounds⟩
    exact ⟨numeral, bounds⟩
  · rintro ⟨numeral, low, high⟩
    exact ⟨⟨numeral, Nat.le_trans high (by decide)⟩, low, high⟩

theorem genuineStatus_of_statusLine (header : Bytes) (status : Nat)
    (ends : FirstHeaderEnd header) (line : StatusLine header status) :
    GenuineStatus header := by
  have own := parseConnectStatus_of_statusLine header status line
  refine ⟨fun other => ⟨fun parsed => ?_,
    parseConnectStatus_of_statusLine header other⟩, ?_⟩
  · rw [own] at parsed
    exact Except.ok.inj parsed ▸ line
  · intro runtime target headers reads writes payload arrives opened
    obtain ⟨excess, fits, code, parsed, low, high⟩ :=
      accepts_of_httpConnect_ok runtime target headers reads writes header
        payload ends arrives opened
    rw [parseConnectStatus_append header excess status ends.1 own] at parsed
    obtain rfl := Except.ok.inj parsed
    exact ⟨status, line, low, high⟩

theorem genuineStatus_of_unreadable (header : Bytes)
    (ends : FirstHeaderEnd header) (unreadable : Unreadable header) :
    GenuineStatus header := by
  obtain ⟨settles, noNumeral⟩ := unreadable
  refine ⟨fun status => ⟨fun parsed => ?_, fun line => ?_⟩, ?_⟩
  · obtain ⟨word, second, numeral, bounded⟩ :=
      (parseConnectStatus_ok_iff header status).mp parsed
    exact absurd (noNumeral word second status numeral)
      (Nat.not_lt.mpr bounded)
  · obtain ⟨word, second, numeral, bounded⟩ :=
      statusLine_words header status line
    have large := noNumeral word second status numeral
    omega
  · intro runtime target headers reads writes payload arrives opened
    obtain ⟨excess, fits, accepts⟩ := accepts_of_httpConnect_ok runtime target
      headers reads writes header payload ends arrives opened
    rw [accepts_append_iff header excess ends settles fits,
      accepts_second_word] at accepts
    obtain ⟨word, second, status, numeral, _, high⟩ := accepts
    have large := noNumeral word second status numeral
    omega

theorem status_lines_accepted_iff (header : Bytes)
    (ends : FirstHeaderEnd header) :
    GenuineStatus header ↔
      (∃ status, StatusLine header status) ∨ Unreadable header := by
  constructor
  · intro genuine
    by_cases line : ∃ status, StatusLine header status
    · exact Or.inl line
    refine Or.inr ⟨?_, fun word second status numeral => ?_⟩
    · by_contra open_
      obtain ⟨_, extra, fits, accepts⟩ :=
        accepted_of_not_settles header ends open_
      have opened := (httpConnect_ok_of_one_read bareRuntime
        "www.example.org:443" ∅ [] header extra ends fits).mpr
        ⟨⟨_, rfl, rfl⟩, accepts⟩
      obtain ⟨status, genuineLine, _⟩ := genuine.accepted bareRuntime
        "www.example.org:443" ∅ _ [] extra
        (by rw [stream_pushBack, stream, List.append_nil]) opened
      exact line ⟨status, genuineLine⟩
    · by_contra small
      refine line ⟨status, (genuine.parsed status).mp ?_⟩
      exact (parseConnectStatus_ok_iff header status).mpr
        ⟨word, second, numeral, Nat.le_of_not_lt small⟩
  · rintro (⟨status, line⟩ | unreadable)
    · exact genuineStatus_of_statusLine header status ends line
    · exact genuineStatus_of_unreadable header ends unreadable

theorem ok_status_line_accepted_iff :
    GenuineStatus okHeader ↔
      (∃ status, StatusLine okHeader status) ∨ Unreadable okHeader :=
  status_lines_accepted_iff okHeader (by decide)

theorem prefix_of_statusLine (header : Bytes) (status : Nat)
    (line : StatusLine header status) : asBytes "HTTP/" <+: header := by
  obtain ⟨version, reason, code, rest, _, begins, _, _, rfl, _⟩ := line
  refine begins.trans ⟨32 :: code.bytes ++ reason ++ crlf ++ rest, ?_⟩
  simp

/-- The first response has no status line and 65535 is no status.  Both are
parsed, and the first opens the tunnel. -/
theorem garbage_opens_tunnel :
    let garbage := asBytes "GARBAGE 200 OK\r\n\r\n"
    let large := asBytes "HTTP/1.1 65535 OK\r\n\r\n"
    (FirstHeaderEnd garbage ∧ parseConnectStatus garbage = .ok 200 ∧
      (httpConnect bareRuntime "www.example.org:443" ∅
        (pushBack garbage []) []).result = .ok () ∧
      (∀ status, ¬ StatusLine garbage status) ∧ ¬ GenuineStatus garbage) ∧
    FirstHeaderEnd large ∧ parseConnectStatus large = .ok 65535 ∧
      ∀ status, ¬ StatusLine large status := by
  intro garbage large
  have read : parseConnectStatus garbage = .ok 200 := by rfl
  have noLine (status : Nat) : ¬ StatusLine garbage status := by
    intro line
    exact absurd (prefix_of_statusLine garbage status line) (by decide)
  have largeRead : parseConnectStatus large = .ok 65535 := by rfl
  refine ⟨⟨by decide, read, by rfl, noLine, fun genuine => ?_⟩, by decide,
    largeRead, fun status line => ?_⟩
  · exact noLine 200 ((genuine.parsed 200).mp read)
  · have parsed := parseConnectStatus_of_statusLine large status line
    rw [largeRead] at parsed
    obtain rfl := Except.ok.inj parsed
    obtain ⟨_, _, _, bounded⟩ := statusLine_words large 65535 line
    omega

end TlsProxyTunnel
