/-
Placeholders in header values.

A value is a template whose marker is `$`.  The code fills in the first
placeholder, and none where the first `$` is not one.
-/

import TlsProxyTunnel.Library.Template
import TlsProxyTunnel.Framing

namespace TlsProxyTunnel

open Template

def Runtime.inName (runtime : Runtime) (c : Char) : Bool :=
  runtime.isAlphanumeric c || c == '_'

def Runtime.lookUp (runtime : Runtime) (name : List Char) :
    Except BoxError (List Char) :=
  match runtime.var (String.ofList name) with
  | .ok found => .ok found.toList
  | .error error => .error (.var error)

def Runtime.substitute (runtime : Runtime) (text : List Char) :
    Except BoxError (List Char) :=
  fill runtime.lookUp (pieces '$' runtime.inName text)

/-- The value is sent with all its placeholders filled in, or not at all. -/
def ResolvedWhole (runtime : Runtime) (value : String) : Prop :=
  match runtime.substitute value.toList with
  | .ok text => resolveHeaderValue runtime value = .ok (String.ofList text)
  | .error _ => ∃ error, resolveHeaderValue runtime value = .error error

def behindFirst (runtime : Runtime) (value : String) : List Char :=
  ((value.toList.dropWhile (· ≠ '$')).drop 1).dropWhile runtime.inName

def firstName (runtime : Runtime) (value : String) : List Char :=
  ((value.toList.dropWhile (· ≠ '$')).drop 1).takeWhile runtime.inName

theorem substitute_append (runtime : Runtime) (before after : List Char)
    (absent : '$' ∉ before) :
    runtime.substitute (before ++ after) =
      (runtime.substitute after).map (before ++ ·) := by
  rw [Runtime.substitute, pieces_append _ _ _ _ absent, fill_literals_append]
  rfl

theorem substitute_bare (runtime : Runtime) (after : List Char)
    (bare : after.takeWhile runtime.inName = []) :
    runtime.substitute ('$' :: after) =
      (runtime.substitute after).map ('$' :: ·) := by
  rw [Runtime.substitute, pieces_marker_bare _ _ _ bare]
  rfl

theorem substitute_named (runtime : Runtime) (after : List Char)
    (named : after.takeWhile runtime.inName ≠ []) :
    runtime.substitute ('$' :: after) =
      match runtime.lookUp (after.takeWhile runtime.inName) with
      | .error error => .error error
      | .ok found =>
          (runtime.substitute (after.dropWhile runtime.inName)).map
            (found ++ ·) := by
  rw [Runtime.substitute, pieces_marker_name _ _ _ named]
  simp only [fill]
  cases runtime.lookUp (after.takeWhile runtime.inName) <;> rfl

theorem cut_at_dollar (value : String) :
    '$' ∉ value.toList ∨
      ∃ after, '$' ∉ value.toList.takeWhile (· ≠ '$') ∧
        value.toList.dropWhile (· ≠ '$') = '$' :: after := by
  cases rest : value.toList.dropWhile (· ≠ '$') with
  | nil =>
      refine Or.inl fun member => ?_
      simpa using List.dropWhile_eq_nil_iff.mp rest '$' member
  | cons c after =>
      have stops : ¬ (decide (c ≠ '$')) = true := by
        have first := List.head?_dropWhile_not (fun c => decide (c ≠ '$'))
          value.toList
        rw [rest] at first
        simpa using first
      obtain rfl : c = '$' := by simpa using stops
      exact Or.inr ⟨after, fun member => by
        simpa using List.mem_takeWhile_imp member, rfl⟩

theorem substitute_of_not_mem (runtime : Runtime) (text : List Char)
    (absent : '$' ∉ text) : runtime.substitute text = .ok text := by
  have whole := substitute_append runtime text [] absent
  rw [List.append_nil] at whole
  rw [whole]
  simp [Runtime.substitute, pieces, piecesFrom, fill, Except.map]

theorem resolveHeaderValue_dollar (runtime : Runtime) (value : String)
    (after : List Char)
    (cut : value.toList.dropWhile (· ≠ '$') = '$' :: after) :
    resolveHeaderValue runtime value =
      if after.takeWhile runtime.inName = [] then .ok value
      else
        match runtime.lookUp (after.takeWhile runtime.inName) with
        | .ok found =>
            .ok (String.ofList (value.toList.takeWhile (· ≠ '$') ++ found ++
              after.dropWhile runtime.inName))
        | .error error => .error error := by
  have names : (fun c => runtime.isAlphanumeric c || c == '_') =
      runtime.inName := rfl
  simp only [resolveHeaderValue, cut, Runtime.lookUp, names]
  split_ifs
  · rfl
  · cases runtime.var (String.ofList (after.takeWhile runtime.inName)) with
    | error error => rfl
    | ok found =>
        simp only [String.ofList_append, String.ofList_toList]

theorem resolveHeaderValue_of_not_mem (runtime : Runtime) (value : String)
    (absent : '$' ∉ value.toList) :
    resolveHeaderValue runtime value = .ok value := by
  have nothing : value.toList.dropWhile (· ≠ '$') = [] := by
    rw [List.dropWhile_eq_nil_iff]
    intro c member
    have other : c ≠ '$' := fun same => absent (same ▸ member)
    simpa using other
  simp only [resolveHeaderValue, nothing]

/-! ### What the rest has to be -/

section Cut

variable (runtime : Runtime) (value : String) (after : List Char)
  (clean : '$' ∉ value.toList.takeWhile (· ≠ '$'))
  (cut : value.toList.dropWhile (· ≠ '$') = '$' :: after)

include cut in
theorem toList_of_cut :
    value.toList = value.toList.takeWhile (· ≠ '$') ++ '$' :: after := by
  rw [← cut, List.takeWhile_append_dropWhile]

include clean cut

theorem substitute_of_cut :
    runtime.substitute value.toList =
      (runtime.substitute ('$' :: after)).map
        (value.toList.takeWhile (· ≠ '$') ++ ·) := by
  rw [← substitute_append runtime _ _ clean, ← toList_of_cut value after cut]

theorem resolvedWhole_bare (bare : after.takeWhile runtime.inName = []) :
    ResolvedWhole runtime value ↔ runtime.substitute after = .ok after := by
  have code := resolveHeaderValue_dollar runtime value after cut
  rw [if_pos bare] at code
  unfold ResolvedWhole
  rw [substitute_of_cut runtime value after clean cut,
    substitute_bare runtime after bare, code]
  cases runtime.substitute after with
  | error error => simp [Except.map]
  | ok text =>
      simp only [Except.map, Except.ok.injEq]
      rw [← String.toList_inj, String.toList_ofList]
      nth_rewrite 1 [toList_of_cut value after cut]
      rw [List.append_right_inj, List.cons.injEq]
      simp only [true_and, eq_comm]

theorem resolvedWhole_named (named : after.takeWhile runtime.inName ≠ []) :
    ResolvedWhole runtime value ↔
      (∃ error, runtime.lookUp (after.takeWhile runtime.inName) =
        .error error) ∨
      runtime.substitute (after.dropWhile runtime.inName) =
        .ok (after.dropWhile runtime.inName) := by
  have code := resolveHeaderValue_dollar runtime value after cut
  rw [if_neg named] at code
  unfold ResolvedWhole
  rw [substitute_of_cut runtime value after clean cut,
    substitute_named runtime after named, code]
  cases runtime.lookUp (after.takeWhile runtime.inName) with
  | error error => simp [Except.map]
  | ok text =>
      cases runtime.substitute (after.dropWhile runtime.inName) with
      | error error => simp [Except.map]
      | ok behind =>
          simp only [Except.map, Except.ok.injEq, reduceCtorEq, exists_false,
            false_or]
          rw [← String.toList_inj, String.toList_ofList, String.toList_ofList,
            List.append_assoc, List.append_right_inj, List.append_right_inj]
          exact eq_comm

end Cut

/-- Only the first placeholder is filled in, so the rest has to stand for
itself. -/
theorem header_values_resolved_iff (runtime : Runtime) (value : String) :
    ResolvedWhole runtime value ↔
      '$' ∉ value.toList ∨
      (∃ error, firstName runtime value ≠ [] ∧
        runtime.lookUp (firstName runtime value) = .error error) ∨
      runtime.substitute (behindFirst runtime value) =
        .ok (behindFirst runtime value) := by
  rcases cut_at_dollar value with absent | ⟨after, clean, cut⟩
  · have unchanged := substitute_of_not_mem runtime value.toList absent
    have verbatim := resolveHeaderValue_of_not_mem runtime value absent
    simp [ResolvedWhole, unchanged, verbatim, absent]
  have present : '$' ∈ value.toList := by
    rw [toList_of_cut value after cut]
    simp
  simp only [firstName, behindFirst, cut, List.drop_one, List.tail_cons,
    present, not_true_eq_false, false_or]
  by_cases bare : after.takeWhile runtime.inName = []
  · have behind : after.dropWhile runtime.inName = after := by
      have parts : after.takeWhile runtime.inName ++
          after.dropWhile runtime.inName = after :=
        List.takeWhile_append_dropWhile
      rwa [bare, List.nil_append] at parts
    rw [behind, resolvedWhole_bare runtime value after clean cut bare]
    simp [bare]
  · rw [resolvedWhole_named runtime value after clean cut bare]
    simp [bare]

def loginRuntime : Runtime :=
  { var := fun name =>
      if name = "USER" then .ok "alice"
      else if name = "PASS" then .ok "secret"
      else .error .notPresent
    isAlphanumeric := Char.isAlphanum }

/-- The password stays a placeholder behind the user, and behind a `$` that is
none. -/
theorem second_placeholder_stays :
    resolveHeaderValue loginRuntime "$USER:$PASS" = .ok "alice:$PASS" ∧
      loginRuntime.substitute "$USER:$PASS".toList =
        .ok "alice:secret".toList ∧
      ¬ ResolvedWhole loginRuntime "$USER:$PASS" ∧
      resolveHeaderValue loginRuntime "$ $PASS" = .ok "$ $PASS" ∧
      loginRuntime.substitute "$ $PASS".toList = .ok "$ secret".toList ∧
      ¬ ResolvedWhole loginRuntime "$ $PASS" := by
  have login : resolveHeaderValue loginRuntime "$USER:$PASS" =
      .ok "alice:$PASS" := by decide
  have filled : loginRuntime.substitute "$USER:$PASS".toList =
      .ok "alice:secret".toList := by decide
  have lone : resolveHeaderValue loginRuntime "$ $PASS" = .ok "$ $PASS" := by
    decide
  have loneFilled : loginRuntime.substitute "$ $PASS".toList =
      .ok "$ secret".toList := by decide
  refine ⟨login, filled, ?_, lone, loneFilled, ?_⟩
  · simp only [ResolvedWhole, filled, login]
    decide
  · simp only [ResolvedWhole, loneFilled, lone]
    decide

end TlsProxyTunnel
