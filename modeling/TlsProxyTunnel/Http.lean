/-
The HTTP CONNECT handshake with an upstream proxy.

One request is written, one response header is read.  Both loops run against
the scripts of a socket, and the result keeps what was sent, what was read and
what is left of the scripts for whoever uses the socket next.
-/

import TlsProxyTunnel.Library.Delimiter
import TlsProxyTunnel.Library.Text
import TlsProxyTunnel.Config

namespace TlsProxyTunnel

open Delimiter Text

/-- What the process reads from its surroundings: environment variables, and
the Unicode table behind `char::is_alphanumeric`. -/
structure Runtime where
  var : String → Except VarError String
  isAlphanumeric : Char → Bool

/-- Only the first `$` of the value is looked at. -/
def resolveHeaderValue (runtime : Runtime) (value : String) :
    Except BoxError String :=
  let start := value.toList.takeWhile (· ≠ '$')
  match value.toList.dropWhile (· ≠ '$') with
  | [] => .ok value
  | _ :: afterDollar =>
      let inName := fun c => runtime.isAlphanumeric c || c == '_'
      let varName := afterDollar.takeWhile inName
      let suffix := afterDollar.dropWhile inName
      if varName = [] then
        .ok value
      else
        match runtime.var (String.ofList varName) with
        | .ok found => .ok (String.ofList start ++ found ++ String.ofList suffix)
        | .error error => .error (.var error)

def pushHeaders (runtime : Runtime) (buf : String) :
    List (Sigma fun _ : String => String) → Except BoxError String
  | [] => .ok buf
  | ⟨name, value⟩ :: rest =>
      match resolveHeaderValue runtime value with
      | .ok resolved =>
          pushHeaders runtime (buf ++ name ++ ": " ++ resolved ++ "\r\n") rest
      | .error error => .error error

def buildRequest (runtime : Runtime) (target : String)
    (headers : HashMap String) : Except BoxError String :=
  match pushHeaders runtime ("CONNECT " ++ target ++ " HTTP/1.1\r\n")
      headers.entries with
  | .ok buf => .ok (buf ++ "\r\n")
  | .error error => .error error

structure Written where
  outcome : Except IoError Unit
  sent : Bytes
  writes : List WriteEvent

/-- `while written < bytes.len()`.  A write that takes nothing leaves the
loop without an error. -/
def writeLoop (bytes : Bytes) (written : Nat) : List WriteEvent → Written
  | [] => { outcome := .ok (), sent := bytes, writes := [] }
  | event :: rest =>
      if written < bytes.length then
        match event with
        | .accepted count =>
            let taken := min count (bytes.length - written)
            if taken = 0 then
              { outcome := .ok (), sent := bytes.take written, writes := rest }
            else
              writeLoop bytes (written + taken) rest
        | .wouldBlock => writeLoop bytes written rest
        | .failed error =>
            { outcome := .error error
              sent := bytes.take written
              writes := rest }
      else
        { outcome := .ok (), sent := bytes, writes := event :: rest }

/-! ### Reading the response -/

def headerEnd : Bytes := crlf ++ crlf

/-- `inbufs.len()`. -/
def responseLimit : Nat := 16384

def parseConnectStatus (buf : Bytes) : Except BoxError Nat :=
  match (splitWhitespace (fromUtf8Lossy buf))[1]? with
  | none =>
      .error (.proxyError "malformed CONNECT response: no status code")
  | some statusStr =>
      match parseUnsigned 65535 statusStr with
      | .ok status => .ok status
      | .error error =>
          .error (.proxyError ("malformed CONNECT response status '" ++
            String.ofList statusStr ++ "': " ++ error.display))

def closedEarly : BoxError :=
  .proxyError "upstream proxy closed connection before sending CONNECT response"

def headerTooLarge : BoxError :=
  .proxyError "CONNECT response header too large"

structure Response where
  status : Except BoxError Nat
  inbufs : Bytes
  reads : List ReadEvent

/-- The read loop with `inbufs[..total]` filled.  A chunk that leaves room in
the buffer was taken whole, so the loop goes on with the rest of the script. -/
def readLoop (inbufs : Bytes) : List ReadEvent → Response
  | [] => { status := .error closedEarly, inbufs := inbufs, reads := [] }
  | .eof :: rest =>
      { status := .error closedEarly, inbufs := inbufs, reads := .eof :: rest }
  | .wouldBlock :: rest => readLoop inbufs rest
  | .failed error :: rest =>
      { status := .error (.io error), inbufs := inbufs, reads := rest }
  | .data first more :: rest =>
      let room := responseLimit - inbufs.length
      let filled := inbufs ++ (first :: more).take room
      let left := pushBack ((first :: more).drop room) rest
      if room = 0 then
        { status := .error closedEarly, inbufs := inbufs, reads := left }
      else if occurs headerEnd filled then
        { status := parseConnectStatus filled, inbufs := filled, reads := left }
      else if responseLimit ≤ filled.length then
        { status := .error headerTooLarge, inbufs := filled, reads := left }
      else
        readLoop filled rest

def checkStatus (status : Nat) : Except BoxError Unit :=
  if 200 ≤ status ∧ status ≤ 299 then .ok ()
  else if status = 403 then
    .error (.proxyError "Got: ERR_ACCESS_DENIED. Proxy requires authentication.")
  else if status = 502 then
    .error (.proxyError "Got: 502 Bad Gateway.")
  else if status = 503 then
    .error (.proxyError "Got: 503 Service Unavailable.")
  else
    .error (.proxyError ("upstream proxy returned status " ++ toString status))

structure Handshake where
  result : Except BoxError Unit
  sent : Bytes
  inbufs : Bytes
  reads : List ReadEvent
  writes : List WriteEvent

def httpConnect (runtime : Runtime) (target : String) (headers : HashMap String)
    (reads : List ReadEvent) (writes : List WriteEvent) : Handshake :=
  match buildRequest runtime target headers with
  | .error error =>
      { result := .error error
        sent := []
        inbufs := []
        reads := reads
        writes := writes }
  | .ok buf =>
      let written := writeLoop (asBytes buf) 0 writes
      match written.outcome with
      | .error error =>
          { result := .error (.io error)
            sent := written.sent
            inbufs := []
            reads := reads
            writes := written.writes }
      | .ok () =>
          let response := readLoop [] reads
          { result := response.status.bind checkStatus
            sent := written.sent
            inbufs := response.inbufs
            reads := response.reads
            writes := written.writes }

/-- The loop body as it is written, on the answer of one `try_read` into the
room that is left. -/
theorem readLoop_eq_tryRead (inbufs : Bytes) (events : List ReadEvent) :
    readLoop inbufs events =
      match tryRead (responseLimit - inbufs.length) events with
      | (.ok [], rest) =>
          { status := .error closedEarly, inbufs := inbufs, reads := rest }
      | (.ok (first :: more), rest) =>
          let filled := inbufs ++ first :: more
          if occurs headerEnd filled then
            { status := parseConnectStatus filled, inbufs := filled, reads := rest }
          else if responseLimit ≤ filled.length then
            { status := .error headerTooLarge, inbufs := filled, reads := rest }
          else
            readLoop filled rest
      | (.wouldBlock, rest) => readLoop inbufs rest
      | (.failed error, rest) =>
          { status := .error (.io error), inbufs := inbufs, reads := rest } := by
  cases events with
  | nil => rfl
  | cons event rest =>
      cases event with
      | wouldBlock => rfl
      | eof => rfl
      | failed error => rfl
      | data first more =>
          cases hRoom : responseLimit - inbufs.length with
          | zero => simp [readLoop, tryRead, hRoom]
          | succ room =>
              simp only [readLoop, tryRead, hRoom, List.take_succ_cons,
                List.drop_succ_cons, Nat.add_one_ne_zero, if_false]
              split
              · rfl
              split
              · rfl
              · rename_i unfinished short
                have whole : more.drop room = [] := by
                  rw [List.drop_eq_nil_iff]
                  simp only [List.length_append, List.length_cons,
                    List.length_take] at short
                  omega
                rw [whole]
                rfl

end TlsProxyTunnel
