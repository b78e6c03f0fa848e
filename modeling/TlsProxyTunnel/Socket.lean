/-
Byte strings, the errors the proxy passes around, and a TCP socket seen from
one end.

A socket direction is a finite script of what the operating system answers in
turn.  After the script a reader is at end of stream and a writer accepts
everything, so every call returns; a peer that stays silent longer is the same
script observed earlier.
-/

import Mathlib

namespace TlsProxyTunnel

abbrev Bytes := List UInt8

def asBytes (text : String) : Bytes := text.toUTF8.data.toList

theorem asBytes_append (left right : String) :
    asBytes (left ++ right) = asBytes left ++ asBytes right := by
  simp [asBytes, String.toByteArray_append]

theorem asBytes_ofList (chars : List Char) :
    asBytes (String.ofList chars) = chars.flatMap String.utf8EncodeChar := by
  simp [asBytes, List.utf8Encode]

def fromUtf8 (bytes : Bytes) : Option String :=
  String.fromUTF8? ⟨bytes.toArray⟩

theorem fromUtf8_eq_some_iff (bytes : Bytes) (text : String) :
    fromUtf8 bytes = some text ↔ asBytes text = bytes := by
  have array : (⟨bytes.toArray⟩ : ByteArray) = text.toByteArray ↔
      asBytes text = bytes := by
    constructor
    · intro same
      simp [asBytes, ← same]
    · intro same
      subst same
      simp [asBytes]
  rw [← array]
  unfold fromUtf8 String.fromUTF8?
  split
  · rename_i valid
    rw [Option.some.injEq, ← String.toByteArray_inj]
    exact Iff.rfl
  · rename_i invalid
    constructor
    · intro impossible
      cases impossible
    · intro same
      rw [same] at invalid
      exact absurd text.isValidUTF8 invalid

@[simp] theorem fromUtf8_asBytes (text : String) :
    fromUtf8 (asBytes text) = some text :=
  (fromUtf8_eq_some_iff _ _).mpr rfl

def crlf : Bytes := [13, 10]

/-- Of the `io::ErrorKind`s, those that errors here are made with, and all
others.  `WouldBlock` is an answer of its own and not an error. -/
inductive ErrorKind where
  | writeZero
  | connectionAborted
  | other
  deriving DecidableEq, Repr

structure IoError where
  kind : ErrorKind
  message : String
  deriving DecidableEq, Repr

inductive VarError where
  | notPresent
  | notUnicode
  deriving DecidableEq, Repr

inductive BoxError where
  | proxyError (message : String)
  | io (error : IoError)
  | var (error : VarError)
  | message (text : String)
  deriving DecidableEq, Repr

inductive Attempt (α : Type) where
  | ok (value : α)
  | wouldBlock
  | failed (error : IoError)
  deriving DecidableEq, Repr

/-! ### Reading -/

/-- One answer of a socket's read side.  Bytes that arrive together are never
none at all; an empty read means end of stream. -/
inductive ReadEvent where
  | data (first : UInt8) (more : Bytes)
  | wouldBlock
  | eof
  | failed (error : IoError)
  deriving DecidableEq, Repr

def pushBack (left : Bytes) (events : List ReadEvent) : List ReadEvent :=
  match left with
  | [] => events
  | first :: more => .data first more :: events

/-- Read into a buffer of `capacity` bytes.  `ok []` is Rust's `Ok(0)`: the
end of the stream, or a buffer without room. -/
def tryRead (capacity : Nat) : List ReadEvent → Attempt Bytes × List ReadEvent
  | [] => (.ok [], [])
  | .data first more :: rest =>
      (.ok ((first :: more).take capacity),
        pushBack ((first :: more).drop capacity) rest)
  | .wouldBlock :: rest => (.wouldBlock, rest)
  | .eof :: rest => (.ok [], .eof :: rest)
  | .failed error :: rest => (.failed error, rest)

def stream : List ReadEvent → Bytes
  | [] => []
  | .data first more :: rest => first :: more ++ stream rest
  | .wouldBlock :: rest => stream rest
  | .eof :: _ => []
  | .failed _ :: _ => []

def ReadsClean (events : List ReadEvent) : Prop :=
  ∀ error, ReadEvent.failed error ∉ events

@[simp] theorem stream_pushBack (left : Bytes) (events : List ReadEvent) :
    stream (pushBack left events) = left ++ stream events := by
  cases left <;> rfl

theorem tryRead_ok (capacity : Nat) (events rest : List ReadEvent) (chunk : Bytes)
    (read : tryRead capacity events = (.ok chunk, rest)) :
    stream events = chunk ++ stream rest ∧ chunk.length ≤ capacity ∧
      (0 < capacity → chunk = [] → stream events = []) := by
  cases events with
  | nil =>
      cases read
      simp [stream]
  | cons event events =>
      cases event with
      | data first more =>
          cases read
          refine ⟨?_, List.length_take_le _ _, ?_⟩
          · rw [stream_pushBack, ← List.append_assoc, List.take_append_drop]
            rfl
          · intro room nothing
            cases capacity with
            | zero => omega
            | succ capacity => simp at nothing
      | wouldBlock => cases read
      | eof =>
          cases read
          simp [stream]
      | failed error => cases read

theorem tryRead_wouldBlock (capacity : Nat) (events rest : List ReadEvent)
    (read : tryRead capacity events = (.wouldBlock, rest)) :
    events = .wouldBlock :: rest := by
  cases events with
  | nil => cases read
  | cons event events =>
      cases event <;> cases read
      rfl

theorem tryRead_failed (capacity : Nat) (events rest : List ReadEvent)
    (error : IoError) (read : tryRead capacity events = (.failed error, rest)) :
    events = .failed error :: rest := by
  cases events with
  | nil => cases read
  | cons event events =>
      cases event <;> cases read
      rfl

/-! ### Writing -/

inductive WriteEvent where
  | accepted (count : Nat)
  | wouldBlock
  | failed (error : IoError)
  deriving DecidableEq, Repr

def tryWrite (buffer : Bytes) : List WriteEvent → Attempt Nat × List WriteEvent
  | [] => (.ok buffer.length, [])
  | .accepted count :: rest => (.ok (min count buffer.length), rest)
  | .wouldBlock :: rest => (.wouldBlock, rest)
  | .failed error :: rest => (.failed error, rest)

theorem tryWrite_ok (buffer : Bytes) (events rest : List WriteEvent) (count : Nat)
    (write : tryWrite buffer events = (.ok count, rest)) :
    count ≤ buffer.length := by
  cases events with
  | nil =>
      cases write
      exact Nat.le_refl _
  | cons event events =>
      cases event with
      | accepted offered =>
          cases write
          exact Nat.min_le_right _ _
      | wouldBlock => cases write
      | failed error => cases write

theorem tryWrite_zero (buffer : Bytes) (events rest : List WriteEvent)
    (nonempty : buffer ≠ []) (write : tryWrite buffer events = (.ok 0, rest)) :
    events = .accepted 0 :: rest := by
  have positive : 0 < buffer.length := List.length_pos_iff.mpr nonempty
  cases events with
  | nil =>
      simp only [tryWrite, Prod.mk.injEq, Attempt.ok.injEq] at write
      omega
  | cons event events =>
      cases event with
      | accepted offered =>
          simp only [tryWrite, Prod.mk.injEq, Attempt.ok.injEq] at write
          obtain ⟨none_taken, rfl⟩ := write
          have nothing : offered = 0 := by omega
          rw [nothing]
      | wouldBlock => cases write
      | failed error => cases write

theorem tryWrite_suffix (buffer : Bytes) (events rest : List WriteEvent)
    (count : Nat) (write : tryWrite buffer events = (.ok count, rest)) :
    rest <:+ events := by
  cases events with
  | nil =>
      cases write
      exact List.suffix_refl _
  | cons event events =>
      cases event with
      | accepted offered =>
          cases write
          exact List.suffix_cons _ _
      | wouldBlock => cases write
      | failed error => cases write

theorem tryWrite_taken (buffer : Bytes) (events rest : List WriteEvent)
    (count : Nat) (someTaken : 0 < count)
    (write : tryWrite buffer events = (.ok count, rest)) :
    events = [] ∧ rest = [] ∨
      ∃ offered, 0 < offered ∧ events = .accepted offered :: rest := by
  cases events with
  | nil =>
      cases write
      exact Or.inl ⟨rfl, rfl⟩
  | cons event events =>
      cases event with
      | accepted offered =>
          cases write
          exact Or.inr ⟨offered, someTaken.trans_le (Nat.min_le_left _ _), rfl⟩
      | wouldBlock => cases write
      | failed error => cases write

theorem tryWrite_wouldBlock (buffer : Bytes) (events rest : List WriteEvent)
    (write : tryWrite buffer events = (.wouldBlock, rest)) :
    events = .wouldBlock :: rest := by
  cases events with
  | nil => cases write
  | cons event events =>
      cases event <;> cases write
      rfl

theorem tryWrite_failed (buffer : Bytes) (events rest : List WriteEvent)
    (error : IoError) (write : tryWrite buffer events = (.failed error, rest)) :
    events = .failed error :: rest := by
  cases events with
  | nil => cases write
  | cons event events =>
      cases event <;> cases write
      rfl

/-- No write of the script reports an error, or takes none of the bytes it is
offered, which the writers of the standard library report as `WriteZero`. -/
def WritesClean (events : List WriteEvent) : Prop :=
  ∀ event, event ∈ events →
    event = .wouldBlock ∨ ∃ count, 0 < count ∧ event = .accepted count

end TlsProxyTunnel
