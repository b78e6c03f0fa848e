/-
Templates: text in which a marker and the name behind it stand for a value.

A template is read from the left.  A marker without a name is text like any
other, a name is as long as it can be, and values are not read again.
-/

import Mathlib

namespace Template

variable {α ε : Type}

inductive Piece (α : Type) where
  | literal (symbol : α)
  | placeholder (name : List α)

variable [DecidableEq α] (marker : α) (inName : α → Bool)

/-- Read the pieces after passing over `skipped` symbols of the last name. -/
def piecesFrom : Nat → List α → List (Piece α)
  | _, [] => []
  | skipped + 1, _ :: rest => piecesFrom skipped rest
  | 0, symbol :: rest =>
      let name := rest.takeWhile inName
      if symbol = marker ∧ name ≠ [] then
        .placeholder name :: piecesFrom name.length rest
      else
        .literal symbol :: piecesFrom 0 rest

def pieces (template : List α) : List (Piece α) :=
  piecesFrom marker inName 0 template

theorem piecesFrom_eq_drop (skipped : Nat) (template : List α) :
    piecesFrom marker inName skipped template =
      pieces marker inName (template.drop skipped) := by
  induction template generalizing skipped with
  | nil => simp [piecesFrom, pieces]
  | cons symbol rest ih =>
      cases skipped with
      | zero => rfl
      | succ skipped => exact ih skipped

theorem pieces_append (before after : List α) (absent : marker ∉ before) :
    pieces marker inName (before ++ after) =
      before.map Piece.literal ++ pieces marker inName after := by
  induction before with
  | nil => rfl
  | cons symbol before ih =>
      have other : ¬ symbol = marker :=
        fun same => absent (same ▸ List.mem_cons_self)
      have later := ih (fun member => absent (List.mem_cons_of_mem _ member))
      simp only [pieces] at later
      simp only [pieces, List.cons_append, piecesFrom, other, false_and,
        if_false, later, List.map_cons]

theorem pieces_marker_bare (after : List α)
    (bare : after.takeWhile inName = []) :
    pieces marker inName (marker :: after) =
      .literal marker :: pieces marker inName after := by
  simp [pieces, piecesFrom, bare]

theorem pieces_marker_name (after : List α)
    (named : after.takeWhile inName ≠ []) :
    pieces marker inName (marker :: after) =
      .placeholder (after.takeWhile inName) ::
        pieces marker inName (after.dropWhile inName) := by
  have behind : after.drop (after.takeWhile inName).length =
      after.dropWhile inName :=
    calc after.drop (after.takeWhile inName).length
        = (after.takeWhile inName ++ after.dropWhile inName).drop
            (after.takeWhile inName).length := by
          rw [List.takeWhile_append_dropWhile]
      _ = after.dropWhile inName := List.drop_left
  simp only [pieces, piecesFrom, named, ne_eq, not_false_eq_true, and_self,
    if_true, List.cons.injEq, true_and]
  rw [piecesFrom_eq_drop, behind, pieces]

def fill (value : List α → Except ε (List α)) :
    List (Piece α) → Except ε (List α)
  | [] => .ok []
  | .literal symbol :: rest => (fill value rest).map (symbol :: ·)
  | .placeholder name :: rest =>
      match value name with
      | .error error => .error error
      | .ok found => (fill value rest).map (found ++ ·)

omit [DecidableEq α] in
theorem fill_literals_append (value : List α → Except ε (List α))
    (text : List α) (rest : List (Piece α)) :
    fill value (text.map Piece.literal ++ rest) =
      (fill value rest).map (text ++ ·) := by
  induction text with
  | nil => cases h : fill value rest <;> simp [Except.map, h]
  | cons symbol text ih =>
      simp only [List.map_cons, List.cons_append, fill, ih]
      cases fill value rest <;> rfl

end Template
