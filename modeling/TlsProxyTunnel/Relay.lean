/-
The bidirectional relay between two sockets.

`copy_counted` is a machine that reads a chunk, writes it out piece by piece
and only then counts it.  The relay joins two of them, one in each direction,
and is polled in an arbitrary interleaving.
-/

import TlsProxyTunnel.Library.Interleave
import TlsProxyTunnel.Socket

namespace TlsProxyTunnel

open Interleave

structure Socket where
  reads : List ReadEvent
  writes : List WriteEvent
  deriving DecidableEq, Repr

inductive CopyExit where
  | eof
  | readError (error : IoError)
  | writeError (error : IoError)
  deriving DecidableEq, Repr

/-- Where a copy stands: at `read`, in the middle of `write_all` of a chunk
with `rest` still to go, at the writer's shutdown, or done. -/
inductive CopyPhase where
  | reading
  | writing (chunk rest : Bytes)
  | closing (exit : CopyExit)
  | returned (exit : CopyExit)
  deriving DecidableEq, Repr

/-- `delivered` is what the writer's socket has taken.  `chunks`, the chunks
written in full, is kept for the statements only. -/
structure CopyState where
  reads : List ReadEvent
  writes : List WriteEvent
  phase : CopyPhase
  total : UInt64
  counter : UInt64
  delivered : Bytes
  chunks : List Bytes
  shutdowns : Nat
  deriving DecidableEq

def copyBufferSize : Nat := 16 * 1024

def writeZero : IoError := { kind := .writeZero, message := "write zero" }

def CopyState.start (reads : List ReadEvent) (writes : List WriteEvent) :
    CopyState :=
  { reads := reads
    writes := writes
    phase := .reading
    total := 0
    counter := 0
    delivered := []
    chunks := []
    shutdowns := 0 }

def copyCounted (state : CopyState) : Option CopyState :=
  match state.phase with
  | .reading =>
      match tryRead copyBufferSize state.reads with
      | (.ok [], rest) =>
          some { state with reads := rest, phase := .closing .eof }
      | (.ok chunk, rest) =>
          some { state with reads := rest, phase := .writing chunk chunk }
      | (.wouldBlock, rest) => some { state with reads := rest }
      | (.failed error, rest) =>
          some { state with reads := rest, phase := .closing (.readError error) }
  | .writing chunk [] =>
      some
        { state with
          phase := .reading
          total := state.total + UInt64.ofNat chunk.length
          counter := state.counter + UInt64.ofNat chunk.length
          chunks := state.chunks ++ [chunk] }
  | .writing chunk rest =>
      match tryWrite rest state.writes with
      | (.ok 0, writes) =>
          some
            { state with
              writes := writes
              phase := .closing (.writeError writeZero) }
      | (.ok count, writes) =>
          some
            { state with
              writes := writes
              phase := .writing chunk (rest.drop count)
              delivered := state.delivered ++ rest.take count }
      | (.wouldBlock, writes) => some { state with writes := writes }
      | (.failed error, writes) =>
          some
            { state with
              writes := writes
              phase := .closing (.writeError error) }
  | .closing exit =>
      some
        { state with
          phase := .returned exit
          shutdowns := state.shutdowns + 1 }
  | .returned _ => none

def CopyState.result (state : CopyState) : Option (Except IoError UInt64) :=
  match state.phase with
  | .returned _ => some (.ok state.total)
  | _ => none

/-- `futures::try_join`: an error of either side ends the join at once, a pair
of values ends it when both are there. -/
def tryJoin {ε α β : Type} :
    Option (Except ε α) → Option (Except ε β) → Option (Except ε (α × β))
  | some (.error error), _ => some (.error error)
  | _, some (.error error) => some (.error error)
  | some (.ok left), some (.ok right) => some (.ok (left, right))
  | _, _ => none

structure RelayState where
  tx : CopyState
  rx : CopyState
  deriving DecidableEq

def RelayState.start (inbound outbound : Socket) : RelayState :=
  { tx := CopyState.start inbound.reads outbound.writes
    rx := CopyState.start outbound.reads inbound.writes }

def RelayState.result (state : RelayState) :
    Option (Except IoError (UInt64 × UInt64)) :=
  tryJoin state.tx.result state.rx.result

def RelayState.poll (side : Side) (state : RelayState) : RelayState :=
  match state.result with
  | some _ => state
  | none =>
      match side with
      | .first => { state with tx := advance copyCounted state.tx }
      | .second => { state with rx := advance copyCounted state.rx }

def relay : List Side → RelayState → RelayState
  | [], state => state
  | side :: schedule, state => relay schedule (state.poll side)

/-! ### The join never cancels -/

theorem CopyState.result_isSome_iff (state : CopyState) :
    state.result.isSome = true ↔ ∃ exit, state.phase = .returned exit := by
  unfold CopyState.result
  cases state.phase <;> simp

theorem CopyState.result_eq (state : CopyState)
    (done : state.result.isSome = true) :
    state.result = some (.ok state.total) := by
  unfold CopyState.result at done ⊢
  cases phase : state.phase <;> simp [phase] at done ⊢

theorem copyCounted_eq_none_iff (state : CopyState) :
    copyCounted state = none ↔ state.result.isSome = true := by
  unfold copyCounted CopyState.result
  cases phase : state.phase with
  | reading =>
      simp only [Option.isSome_none, Bool.false_eq_true, iff_false]
      split <;> simp
  | writing chunk rest =>
      cases rest with
      | nil => simp
      | cons byte rest =>
          simp only [Option.isSome_none, Bool.false_eq_true, iff_false]
          split <;> simp
  | closing exit => simp
  | returned exit => simp

/-- The join is over exactly when both copies have returned, and then with
their two totals: `copy_counted` has no error to end it with early. -/
theorem RelayState.result_eq_some_iff (state : RelayState)
    (value : Except IoError (UInt64 × UInt64)) :
    state.result = some value ↔
      state.tx.result.isSome = true ∧ state.rx.result.isSome = true ∧
        value = .ok (state.tx.total, state.rx.total) := by
  unfold RelayState.result
  cases txDone : state.tx.result with
  | none =>
      cases rxDone : state.rx.result with
      | none => simp [tryJoin]
      | some right =>
          rw [CopyState.result_eq state.rx (by simp [rxDone])] at rxDone
          cases rxDone
          simp [tryJoin]
  | some left =>
      rw [CopyState.result_eq state.tx (by simp [txDone])] at txDone
      cases txDone
      cases rxDone : state.rx.result with
      | none => simp [tryJoin]
      | some right =>
          rw [CopyState.result_eq state.rx (by simp [rxDone])] at rxDone
          cases rxDone
          simp [tryJoin, eq_comm]

theorem RelayState.poll_eq_turn (side : Side) (state : RelayState) :
    ((state.poll side).tx, (state.poll side).rx) =
      turn copyCounted copyCounted side (state.tx, state.rx) := by
  unfold RelayState.poll
  cases ended : state.result with
  | none => cases side <;> rfl
  | some value =>
      obtain ⟨txDone, rxDone, _⟩ :=
        (RelayState.result_eq_some_iff state value).mp ended
      have txStays : advance copyCounted state.tx = state.tx :=
        advance_of_none _ _ ((copyCounted_eq_none_iff state.tx).mpr txDone)
      have rxStays : advance copyCounted state.rx = state.rx :=
        advance_of_none _ _ ((copyCounted_eq_none_iff state.rx).mpr rxDone)
      cases side with
      | first => simp [turn, txStays]
      | second => simp [turn, rxStays]

theorem relay_eq_run (schedule : List Side) (state : RelayState) :
    ((relay schedule state).tx, (relay schedule state).rx) =
      run copyCounted copyCounted schedule (state.tx, state.rx) := by
  induction schedule generalizing state with
  | nil => rfl
  | cons side schedule ih =>
      simp only [relay, run]
      rw [ih, RelayState.poll_eq_turn]

theorem relay_tx (schedule : List Side) (state : RelayState) :
    (relay schedule state).tx =
      (advance copyCounted)^[schedule.count .first] state.tx := by
  have both := relay_eq_run schedule state
  rw [run_eq_iterate] at both
  exact congrArg Prod.fst both

theorem relay_rx (schedule : List Side) (state : RelayState) :
    (relay schedule state).rx =
      (advance copyCounted)^[schedule.count .second] state.rx := by
  have both := relay_eq_run schedule state
  rw [run_eq_iterate] at both
  exact congrArg Prod.snd both

end TlsProxyTunnel
