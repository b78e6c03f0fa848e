/-
The ClientHello on the wire, and the parser that reads it.

The record, handshake and extension formats are those of TLS.  A parser
conforms when it reads them; which extensions and messages of other kinds it
accepts is left open.
-/

import TlsProxyTunnel.Sni
import TlsProxyTunnel.Library.Fading

namespace TlsProxyTunnel

open Wire Wire.Decoder

/-- What the record layer permits a plain record to hold. -/
def maxRecordLen : Nat := 16384

def recordHeader : Decoder TlsRecordHeader :=
  byte.andThen (fun recordType => uint16.andThen (fun version =>
    uint16.andThen (fun len => succeed
      { recordType := recordType
        version := UInt16.ofNat version
        len := UInt16.ofNat len })))

def rawRecord : Decoder TlsRawRecord :=
  recordHeader.andThen (fun hdr =>
    (require (hdr.len.toNat ≤ maxRecordLen)).andThen (fun _ =>
      (bytes hdr.len.toNat).andThen (fun data =>
        succeed { hdr := hdr, data := data })))

def sniHostname : Decoder (UInt8 × Bytes) :=
  byte.andThen (fun nameType => vector16.andThen (fun hostName =>
    succeed (nameType, hostName)))

/-- The list ends at its length, or at the first entry that does not fit. -/
def sniList : Decoder (List (UInt8 × Bytes)) :=
  uint16.andThen (fun listLen => (bytes listLen).andThen (fun list =>
    succeed (many sniHostname list)))

/-- An empty extension, as a server sends it, has no names. -/
def sniContent (content : Bytes) : Option (List (UInt8 × Bytes)) :=
  if content = [] then some [] else (sniList content).map Prod.fst

/-- Which other extensions and messages parse. -/
structure Acceptance where
  extension : Nat → Bytes → Bool
  message : UInt8 → Bytes → Bool

def clientHelloHead : Decoder Unit :=
  uint16.andThen (fun _ => (bytes 32).andThen (fun _ =>
    byte.andThen (fun sidLen => (require (sidLen.toNat ≤ 32)).andThen (fun _ =>
      (bytes sidLen.toNat).andThen (fun _ =>
        uint16.andThen (fun ciphersLen =>
          (require (ciphersLen % 2 = 0)).andThen (fun _ =>
            (bytes ciphersLen).andThen (fun _ =>
              byte.andThen (fun compLen => (bytes compLen.toNat).andThen
                (fun _ => succeed ()))))))))))

def clientHello (body : Bytes) : Option TlsMessage :=
  match clientHelloHead body with
  | some (_, rest) => some (.clientHello ((vector16 rest).map Prod.fst))
  | none => none

namespace Acceptance

variable (acceptance : Acceptance)

def extensionContent (kind : Nat) (content : Bytes) : Option TlsExtension :=
  if kind = 0 then
    (sniContent content).map .sni
  else if acceptance.extension kind content then
    some .other
  else
    none

def tlsExtension : Decoder TlsExtension :=
  uint16.andThen (fun kind => vector16.andThen (fun content =>
    ofOption (acceptance.extensionContent kind content)))

def messageContent (kind : UInt8) (body : Bytes) : Option TlsMessage :=
  if kind = 1 then
    clientHello body
  else if acceptance.message kind body then
    some .other
  else
    none

def messageHandshake : Decoder TlsMessage :=
  byte.andThen (fun kind => uint24.andThen (fun len =>
    (bytes len).andThen (fun body =>
      ofOption (acceptance.messageContent kind body))))

end Acceptance

/-- Extensions are read up to the first that does not parse; of the messages of
a handshake record there has to be at least one.  No other record holds a
ClientHello. -/
structure Conforms (acceptance : Acceptance) (parser : TlsParser) : Prop where
  record :
    ∀ buf, (parser.parseTlsRawRecord buf).map Prod.snd =
      (rawRecord buf).map Prod.fst
  handshake :
    ∀ data hdr, hdr.recordType = 22 →
      (parser.parseTlsRecordWithHeader data hdr).map Prod.snd =
        if many acceptance.messageHandshake data = [] then none
        else some (many acceptance.messageHandshake data)
  otherRecords :
    ∀ data hdr rest messages, hdr.recordType ≠ 22 →
      parser.parseTlsRecordWithHeader data hdr = some (rest, messages) →
      ∀ message, message ∈ messages → message = .other
  extensions :
    ∀ ext, (parser.parseTlsExtensions ext).map Prod.snd =
      some (many acceptance.tlsExtension ext)

def Acceptance.parser (acceptance : Acceptance) : TlsParser :=
  { parseTlsRawRecord := fun buf =>
      (rawRecord buf).map (fun parsed => (parsed.2, parsed.1))
    parseTlsRecordWithHeader := fun data hdr =>
      if hdr.recordType = 22 ∧ many acceptance.messageHandshake data ≠ [] then
        some ([], many acceptance.messageHandshake data)
      else
        none
    parseTlsExtensions := fun ext =>
      some ([], many acceptance.tlsExtension ext) }

theorem Acceptance.parser_conforms (acceptance : Acceptance) :
    Conforms acceptance acceptance.parser := by
  constructor
  · intro buf
    simp only [parser, Option.map_map]
    rfl
  · intro data hdr handshake
    by_cases empty : many acceptance.messageHandshake data = []
    · simp [parser, handshake, empty]
    · simp [parser, handshake, empty]
  · intro data hdr rest messages other parsed
    simp [parser, other] at parsed
  · intro ext
    rfl

theorem selfDelimiting_recordHeader : SelfDelimiting recordHeader :=
  selfDelimiting_byte.andThen (fun _ => selfDelimiting_uint16.andThen
    (fun _ => selfDelimiting_uint16.andThen
      (fun _ => selfDelimiting_succeed _)))

theorem selfDelimiting_sniHostname : SelfDelimiting sniHostname :=
  selfDelimiting_byte.andThen (fun _ => selfDelimiting_vector16.andThen
    (fun _ => selfDelimiting_succeed _))

theorem selfDelimiting_clientHelloHead : SelfDelimiting clientHelloHead :=
  selfDelimiting_uint16.andThen (fun _ =>
    (selfDelimiting_bytes _).andThen (fun _ =>
      selfDelimiting_byte.andThen (fun _ =>
        (selfDelimiting_require _).andThen (fun _ =>
          (selfDelimiting_bytes _).andThen (fun _ =>
            selfDelimiting_uint16.andThen (fun _ =>
              (selfDelimiting_require _).andThen (fun _ =>
                (selfDelimiting_bytes _).andThen (fun _ =>
                  selfDelimiting_byte.andThen (fun _ =>
                    (selfDelimiting_bytes _).andThen (fun _ =>
                      selfDelimiting_succeed _))))))))))

theorem consuming_sniHostname : Consuming sniHostname :=
  consuming_byte.andThen (fun _ => selfDelimiting_vector16.andThen
    (fun _ => selfDelimiting_succeed _))

namespace Acceptance

variable (acceptance : Acceptance)

theorem selfDelimiting_tlsExtension : SelfDelimiting acceptance.tlsExtension :=
  selfDelimiting_uint16.andThen (fun _ => selfDelimiting_vector16.andThen
    (fun _ => selfDelimiting_ofOption _))

theorem selfDelimiting_messageHandshake :
    SelfDelimiting acceptance.messageHandshake :=
  selfDelimiting_byte.andThen (fun _ => selfDelimiting_uint24.andThen
    (fun _ => (selfDelimiting_bytes _).andThen
      (fun _ => selfDelimiting_ofOption _)))

theorem consuming_tlsExtension : Consuming acceptance.tlsExtension :=
  (consuming_byte.andThen (fun _ => selfDelimiting_byte.andThen
    (fun _ => selfDelimiting_succeed _))).andThen
      (fun _ => selfDelimiting_vector16.andThen
        (fun _ => selfDelimiting_ofOption _))

theorem consuming_messageHandshake : Consuming acceptance.messageHandshake :=
  consuming_byte.andThen (fun _ => selfDelimiting_uint24.andThen
    (fun _ => (selfDelimiting_bytes _).andThen
      (fun _ => selfDelimiting_ofOption _)))

end Acceptance

/-! ### Names in each part -/

def entryNames (list : Bytes) : List String :=
  (many sniHostname list).filterMap (fun entry => fromUtf8 entry.2)

def sniNames (content : Bytes) : List String :=
  reading uint16 (fun listLen => reading (bytes listLen) (fun list _ =>
    entryNames list)) content

theorem sniContent_names (content : Bytes) :
    ((sniContent content).map .sni).elim [] TlsParser.extensionNames =
      sniNames content := by
  unfold sniContent
  split
  · rename_i empty
    subst empty
    rfl
  · have listed : sniNames content =
        reading sniList (fun names _ =>
          TlsParser.extensionNames (.sni names)) content := by
      rw [sniList, reading_andThen, sniNames]
      simp only [reading_andThen]
      rfl
    rw [listed, reading]
    cases sniList content with
    | none => rfl
    | some parsed => rfl

namespace Acceptance

variable (acceptance : Acceptance)

def blockNames (ext : Bytes) : List String :=
  (many acceptance.tlsExtension ext).flatMap TlsParser.extensionNames

/-- From one extension on: what it names and what the block goes on to name, if
it parses. -/
def extensionStep (kind : Nat) (content rest : Bytes) : List String :=
  match acceptance.extensionContent kind content with
  | some extension =>
      TlsParser.extensionNames extension ++ acceptance.blockNames rest
  | none => []

theorem blockNames_eq (ext : Bytes) :
    acceptance.blockNames ext =
      reading uint16 (fun kind =>
        reading vector16 (acceptance.extensionStep kind)) ext := by
  rw [blockNames, flatMap_many _ acceptance.consuming_tlsExtension,
    tlsExtension, reading_andThen]
  simp only [reading_andThen]
  congr 1
  funext kind
  congr 1
  funext content rest
  rw [reading_ofOption, extensionStep]
  cases acceptance.extensionContent kind content with
  | none => rfl
  | some extension => rfl

def messageNames : TlsMessage → List String
  | .clientHello ext => acceptance.blockNames (ext.getD [])
  | .other => []

def helloNames (body : Bytes) : List String :=
  reading clientHelloHead (fun _ => reading vector16 (fun ext _ =>
    acceptance.blockNames ext)) body

theorem clientHello_names (body : Bytes) :
    (clientHello body).elim [] acceptance.messageNames =
      acceptance.helloNames body := by
  unfold clientHello helloNames
  rw [reading]
  cases clientHelloHead body with
  | none => rfl
  | some parsed =>
      simp only [Option.elim, messageNames]
      rw [reading]
      cases vector16 parsed.2 with
      | none => rfl
      | some block => rfl

def recordNames (data : Bytes) : List String :=
  (many acceptance.messageHandshake data).flatMap acceptance.messageNames

def messageStep (kind : UInt8) (body rest : Bytes) : List String :=
  match acceptance.messageContent kind body with
  | some message =>
      acceptance.messageNames message ++ acceptance.recordNames rest
  | none => []

theorem recordNames_eq (data : Bytes) :
    acceptance.recordNames data =
      reading byte (fun kind => reading uint24 (fun len =>
        reading (bytes len) (acceptance.messageStep kind))) data := by
  rw [recordNames, flatMap_many _ acceptance.consuming_messageHandshake,
    messageHandshake, reading_andThen]
  simp only [reading_andThen]
  congr 1
  funext kind
  congr 1
  funext len
  congr 1
  funext body rest
  rw [reading_ofOption, messageStep]
  cases acceptance.messageContent kind body with
  | none => rfl
  | some message => rfl

def bufferNames (buf : Bytes) : List String :=
  reading recordHeader (fun hdr =>
    reading (require (hdr.len.toNat ≤ maxRecordLen)) (fun _ =>
      reading (bytes hdr.len.toNat) (fun data _ =>
        if hdr.recordType = 22 then acceptance.recordNames data else []))) buf

end Acceptance

theorem Acceptance.bufferNames_eq (acceptance : Acceptance) (buf : Bytes) :
    acceptance.bufferNames buf =
      reading rawRecord (fun record _ =>
        if record.hdr.recordType = 22 then acceptance.recordNames record.data
        else []) buf := by
  rw [rawRecord, reading_andThen]
  simp only [reading_andThen]
  rfl

/-! ### Conforming parsers -/

namespace Conforms

variable {acceptance : Acceptance} {parser : TlsParser}

theorem messageNames (conforms : Conforms acceptance parser) :
    parser.messageNames = acceptance.messageNames := by
  funext message
  cases message with
  | other => rfl
  | clientHello ext =>
      have parsed := conforms.extensions (ext.getD [])
      obtain ⟨⟨rest, extensions⟩, found, same⟩ :=
        Option.map_eq_some_iff.mp parsed
      simp only at same
      subst same
      simp only [TlsParser.messageNames, found, Acceptance.messageNames]
      rfl

theorem recordNames (conforms : Conforms acceptance parser)
    (hdr : TlsRecordHeader) (data : Bytes) :
    (parser.parseTlsRecordWithHeader data hdr).elim []
        (fun parsed => parsed.2.flatMap parser.messageNames) =
      if hdr.recordType = 22 then acceptance.recordNames data else [] := by
  have expected := conforms.handshake data hdr
  have plain := conforms.otherRecords data hdr
  by_cases handshake : hdr.recordType = 22
  · have listed := expected handshake
    rw [if_pos handshake, conforms.messageNames, Acceptance.recordNames]
    cases parsed : parser.parseTlsRecordWithHeader data hdr with
    | none =>
        rw [parsed, Option.map_none] at listed
        split at listed
        · rename_i empty
          rw [empty]
          rfl
        · cases listed
    | some result =>
        rw [parsed, Option.map_some] at listed
        split at listed
        · cases listed
        · rw [← Option.some.inj listed]
          rfl
  · rw [if_neg handshake]
    cases parsed : parser.parseTlsRecordWithHeader data hdr with
    | none => rfl
    | some result =>
        apply List.flatMap_eq_nil_iff.mpr
        intro message member
        rw [plain result.1 result.2 handshake parsed message member]
        rfl

theorem getSni (conforms : Conforms acceptance parser) (buf : Bytes) :
    parser.getSni buf = acceptance.bufferNames buf := by
  have recorded := conforms.record buf
  rw [acceptance.bufferNames_eq, reading, TlsParser.getSni]
  cases parsed : parser.parseTlsRawRecord buf with
  | none =>
      rw [parsed, Option.map_none] at recorded
      rw [Option.map_eq_none_iff.mp recorded.symm]
  | some result =>
      rw [parsed, Option.map_some] at recorded
      obtain ⟨record, found, same⟩ := Option.map_eq_some_iff.mp recorded.symm
      have named := conforms.recordNames record.1.hdr record.1.data
      rw [found]
      simp only at same ⊢
      rw [← same, ← named]
      cases parser.parseTlsRecordWithHeader record.1.data record.1.hdr with
      | none => rfl
      | some messages => rfl

end Conforms

end TlsProxyTunnel
