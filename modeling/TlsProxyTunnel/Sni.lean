/-
Server names out of the bytes at the front of a connection.

The TLS parser is a library of its own; it enters as the three functions the
extraction calls.  What a parser has to satisfy is stated where it is used.
-/

import TlsProxyTunnel.Socket

namespace TlsProxyTunnel

structure TlsRecordHeader where
  recordType : UInt8
  version : UInt16
  len : UInt16
  deriving DecidableEq, Repr

structure TlsRawRecord where
  hdr : TlsRecordHeader
  data : Bytes
  deriving DecidableEq, Repr

inductive TlsExtension where
  | sni (names : List (UInt8 × Bytes))
  | other
  deriving DecidableEq, Repr

inductive TlsMessage where
  | clientHello (ext : Option Bytes)
  | other
  deriving DecidableEq, Repr

/-- The `tls_parser` functions in use; `none` is a parse error. -/
structure TlsParser where
  parseTlsRawRecord : Bytes → Option (Bytes × TlsRawRecord)
  parseTlsRecordWithHeader :
    Bytes → TlsRecordHeader → Option (Bytes × List TlsMessage)
  parseTlsExtensions : Bytes → Option (Bytes × List TlsExtension)

namespace TlsParser

variable (parser : TlsParser)

/-- Entries that are not UTF-8 are logged and left out. -/
def extensionNames : TlsExtension → List String
  | .sni names => names.filterMap (fun entry => fromUtf8 entry.2)
  | .other => []

def messageNames : TlsMessage → List String
  | .clientHello ext =>
      match parser.parseTlsExtensions (ext.getD []) with
      | some (_, extensions) => extensions.flatMap extensionNames
      | none => []
  | .other => []

def getSni (buf : Bytes) : List String :=
  match parser.parseTlsRawRecord buf with
  | some (_, record) =>
      match parser.parseTlsRecordWithHeader record.data record.hdr with
      | some (_, messages) => messages.flatMap parser.messageNames
      | none => []
  | none => []

def refusing : TlsParser :=
  { parseTlsRawRecord := fun _ => none
    parseTlsRecordWithHeader := fun _ _ => none
    parseTlsExtensions := fun _ => none }

end TlsParser

/-- `peek` fills the front of a zeroed array of 4096 bytes; the whole array is
what the parser is given. -/
def helloBuffer (peeked : Bytes) : Bytes :=
  peeked.take 4096 ++ List.replicate (4096 - peeked.length) 0

end TlsProxyTunnel
