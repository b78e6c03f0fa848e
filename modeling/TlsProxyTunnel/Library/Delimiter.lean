/-
Splitting a finite word at a two-symbol delimiter.

The splitter consumes the word from the left and never looks past the pair it
is standing on, so it runs by structural recursion.  The two delimiter symbols
are assumed distinct wherever an occurrence could otherwise overlap itself.
-/

import Mathlib

namespace Delimiter

variable {α : Type} [DecidableEq α]

def occurs (pattern : List α) : List α → Bool
  | [] => pattern.isEmpty
  | symbol :: rest =>
      pattern.isPrefixOf (symbol :: rest) || occurs pattern rest

theorem occurs_iff (pattern word : List α) :
    occurs pattern word = true ↔ pattern <:+: word := by
  induction word with
  | nil =>
      simp [occurs, List.isEmpty_iff]
  | cons symbol rest ih =>
      simp only [occurs, Bool.or_eq_true, List.isPrefixOf_iff_prefix, ih,
        List.infix_cons_iff]

/-! ### Splitting at a pair -/

def splitPair (first second : α) : List α → List (List α)
  | [] => [[]]
  | [symbol] => [[symbol]]
  | symbol :: next :: rest =>
      if symbol = first ∧ next = second then
        [] :: splitPair first second rest
      else
        (splitPair first second (next :: rest)).modifyHead (symbol :: ·)

theorem splitPair_ne_nil (first second : α) (word : List α) :
    splitPair first second word ≠ [] := by
  fun_induction splitPair first second word with
  | case1 => simp
  | case2 symbol => simp
  | case3 symbol next rest isPair ih => simp
  | case4 symbol next rest notPair ih => simpa using ih

/-- Distinct delimiter symbols never overlap, so every occurrence of the pair
separates the pieces of what stands before it from those of what follows. -/
theorem splitPair_append_pair (first second : α) (distinct : first ≠ second)
    (before after : List α) :
    splitPair first second (before ++ first :: second :: after) =
      splitPair first second before ++ splitPair first second after := by
  fun_induction splitPair first second before with
  | case1 => simp [splitPair]
  | case2 symbol =>
      have notPair : ¬ (symbol = first ∧ first = second) :=
        fun both => distinct both.2
      simp [splitPair, notPair]
  | case3 symbol next rest isPair ih =>
      simp [splitPair, isPair, ih]
  | case4 symbol next rest notPair ih =>
      rw [List.cons_append, List.cons_append, splitPair, if_neg notPair,
        ← List.cons_append, ih]
      cases pieces : splitPair first second (next :: rest) with
      | nil => exact absurd pieces (splitPair_ne_nil first second _)
      | cons head tail => rfl

theorem splitPair_of_free (first second : α) (word : List α)
    (free : ¬ [first, second] <:+: word) :
    splitPair first second word = [word] := by
  fun_induction splitPair first second word with
  | case1 => rfl
  | case2 symbol => rfl
  | case3 symbol next rest isPair ih =>
      obtain ⟨rfl, rfl⟩ := isPair
      exact absurd (List.prefix_append [symbol, next] rest).isInfix free
  | case4 symbol next rest notPair ih =>
      have restFree : ¬ [first, second] <:+: next :: rest :=
        fun inside => free (List.infix_cons inside)
      rw [ih restFree]
      rfl

private theorem splitPair_head (first second symbol : α) (rest : List α) :
    ∃ head tail, splitPair first second (symbol :: rest) = head :: tail ∧
      (head = [] ∨ ∃ more, head = symbol :: more) := by
  cases rest with
  | nil => exact ⟨[symbol], [], rfl, Or.inr ⟨[], rfl⟩⟩
  | cons next rest =>
      by_cases isPair : symbol = first ∧ next = second
      · exact ⟨[], splitPair first second rest, by simp [splitPair, isPair],
          Or.inl rfl⟩
      · cases pieces : splitPair first second (next :: rest) with
        | nil => exact absurd pieces (splitPair_ne_nil first second _)
        | cons head tail =>
            exact ⟨symbol :: head, tail, by simp [splitPair, isPair, pieces],
              Or.inr ⟨head, rfl⟩⟩

theorem splitPair_pieces_free (first second : α) (word : List α) :
    ∀ piece, piece ∈ splitPair first second word →
      ¬ [first, second] <:+: piece := by
  fun_induction splitPair first second word with
  | case1 => simp
  | case2 symbol =>
      intro piece member inside
      rw [List.mem_singleton] at member
      subst member
      have short := inside.length_le
      simp at short
  | case3 symbol next rest isPair ih =>
      intro piece member
      rcases List.mem_cons.mp member with empty | later
      · subst empty
        simp
      · exact ih piece later
  | case4 symbol next rest notPair ih =>
      obtain ⟨head, tail, pieces, headShape⟩ :=
        splitPair_head first second next rest
      rw [pieces] at ih ⊢
      intro piece member
      rcases List.mem_cons.mp member with atHead | later
      · subst atHead
        intro inside
        rcases List.infix_cons_iff.mp inside with atStart | within
        · rcases headShape with empty | ⟨more, startsWith⟩
          · subst empty
            have short := atStart.length_le
            simp at short
          · subst startsWith
            simp only [List.cons_prefix_cons] at atStart
            exact notPair ⟨atStart.1.symm, atStart.2.1.symm⟩
        · exact ih head List.mem_cons_self within
      · exact ih piece (List.mem_cons_of_mem _ later)

theorem splitPair_eq_nil_piece (first second : α) (word : List α)
    (single : splitPair first second word = [[]]) : word = [] := by
  cases word with
  | nil => rfl
  | cons symbol rest =>
      cases rest with
      | nil => simp [splitPair] at single
      | cons next rest =>
          by_cases isPair : symbol = first ∧ next = second
          · simp only [splitPair, if_pos isPair, List.cons.injEq, true_and]
              at single
            exact absurd single (splitPair_ne_nil first second rest)
          · cases pieces : splitPair first second (next :: rest) with
            | nil => exact absurd pieces (splitPair_ne_nil first second _)
            | cons head tail =>
                simp [splitPair, isPair, pieces] at single

/-- When only the last two pieces are empty, the doubled delimiter occurs
nowhere but at the very end of the word. -/
theorem doubled_pair_at_end (first second : α) (distinct : first ≠ second)
    (word : List α) (pieces : List (List α))
    (nonempty : ∀ piece, piece ∈ pieces → piece ≠ [])
    (split : splitPair first second word = pieces ++ [[], []])
    (before after : List α)
    (located : word = before ++ [first, second, first, second] ++ after) :
    after = [] := by
  have cut :
      splitPair first second before ++ [] :: splitPair first second after =
        pieces ++ [[], []] := by
    rw [← split, located]
    simp only [List.append_assoc, List.cons_append, List.nil_append]
    rw [splitPair_append_pair first second distinct before
      (first :: second :: after)]
    congr 1
    simp [splitPair]
  have lengths := congrArg List.length cut
  simp only [List.length_append, List.length_cons, List.length_nil] at lengths
  have afterPieces : 0 < (splitPair first second after).length :=
    List.length_pos_iff.mpr (splitPair_ne_nil first second after)
  -- The empty piece opened by the doubled pair cannot lie among `pieces`.
  have beyond : pieces.length ≤ (splitPair first second before).length := by
    by_contra early
    have early : (splitPair first second before).length < pieces.length := by
      omega
    have emptyHere := congrArg
      (fun items => items[(splitPair first second before).length]?) cut
    simp only [List.getElem?_append_right (Nat.le_refl _), Nat.sub_self,
      List.getElem?_cons_zero, List.getElem?_append_left early,
      List.getElem?_eq_getElem early, Option.some.injEq] at emptyHere
    exact nonempty _ (List.getElem_mem early) emptyHere.symm
  apply splitPair_eq_nil_piece first second
  have lastPiece : (splitPair first second after).length = 1 := by omega
  have sameLength :
      (splitPair first second before ++ [[]]).length =
        (pieces ++ [[]]).length := by
    simp only [List.length_append, List.length_singleton]
    omega
  have regrouped :
      (splitPair first second before ++ [[]]) ++
          splitPair first second after =
        (pieces ++ [[]]) ++ [[]] := by
    simpa using cut
  exact (List.append_inj regrouped sameLength).2

theorem splitPair_lines (first second : α) (distinct : first ≠ second)
    (lines : List (List α)) (rest : List α)
    (free : ∀ line, line ∈ lines → ¬ [first, second] <:+: line) :
    splitPair first second
        (lines.flatMap (fun line => line ++ [first, second]) ++ rest) =
      lines ++ splitPair first second rest := by
  induction lines with
  | nil => rfl
  | cons line lines ih =>
      have lineFree := free line List.mem_cons_self
      have restFree := ih (fun later member =>
        free later (List.mem_cons_of_mem _ member))
      simp only [List.flatMap_cons, List.append_assoc, List.cons_append,
        List.nil_append]
      rw [splitPair_append_pair first second distinct,
        splitPair_of_free first second line lineFree, restFree]
      rfl

omit [DecidableEq α] in
theorem pair_free_append_left (first second : α) (before word : List α)
    (absent : first ∉ before) (free : ¬ [first, second] <:+: word) :
    ¬ [first, second] <:+: before ++ word := by
  induction before with
  | nil => exact free
  | cons symbol before ih =>
      intro inside
      rcases List.infix_cons_iff.mp inside with atStart | later
      · have atStart := List.cons_prefix_cons.mp atStart
        exact absent (atStart.1 ▸ List.mem_cons_self)
      · exact ih (fun member => absent (List.mem_cons_of_mem _ member)) later

omit [DecidableEq α] in
theorem pair_free_append_right (first second : α) (word after : List α)
    (absent : second ∉ after) (free : ¬ [first, second] <:+: word) :
    ¬ [first, second] <:+: word ++ after := by
  intro inside
  have reversed := List.reverse_infix.mpr inside
  rw [List.reverse_append] at reversed
  refine pair_free_append_left second first after.reverse word.reverse
    (by simpa using absent) (fun within => free ?_) reversed
  exact List.reverse_infix.mp within

theorem splitOn_pieces_free (symbol : α) (word : List α) :
    ∀ piece, piece ∈ word.splitOn symbol → symbol ∉ piece := by
  induction word with
  | nil => simp
  | cons next rest ih =>
      rw [List.splitOn_cons_eq_if_modifyHead]
      split
      · intro piece member
        rcases List.mem_cons.mp member with empty | later
        · subst empty
          exact List.not_mem_nil
        · exact ih piece later
      · rename_i different
        cases pieces : rest.splitOn symbol with
        | nil => exact absurd pieces (List.splitOn_ne_nil symbol rest)
        | cons head tail =>
            rw [pieces] at ih
            intro piece member
            rcases List.mem_cons.mp member with atHead | later
            · subst atHead
              intro inside
              rcases List.mem_cons.mp inside with same | within
              · subst same
                simp at different
              · exact ih head List.mem_cons_self within
            · exact ih piece (List.mem_cons_of_mem _ later)

end Delimiter
