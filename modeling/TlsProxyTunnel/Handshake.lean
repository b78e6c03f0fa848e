/-
Facts about the CONNECT handshake: what has been sent and read when each loop
ends, and where the read loop stops relative to the end of the header.
-/

import TlsProxyTunnel.Http

namespace TlsProxyTunnel

open Delimiter Text

theorem writeLoop_sent_prefix (bytes : Bytes) (written : Nat)
    (events : List WriteEvent) :
    (writeLoop bytes written events).sent <+: bytes := by
  induction events generalizing written with
  | nil => exact List.prefix_refl _
  | cons event rest ih =>
      simp only [writeLoop]
      split
      · cases event with
        | accepted count =>
            simp only
            split
            · exact List.take_prefix _ _
            · exact ih _
        | wouldBlock => exact ih _
        | failed error => exact List.take_prefix _ _
      · exact List.prefix_refl _

theorem WritesClean.tail (event : WriteEvent) (rest : List WriteEvent)
    (clean : WritesClean (event :: rest)) : WritesClean rest :=
  fun later member => clean later (List.mem_cons_of_mem _ member)

theorem writeLoop_clean (bytes : Bytes) (written : Nat)
    (events : List WriteEvent) (clean : WritesClean events) :
    (writeLoop bytes written events).outcome = .ok () ∧
      (writeLoop bytes written events).sent = bytes ∧
      (writeLoop bytes written events).writes <:+ events := by
  induction events generalizing written with
  | nil => exact ⟨rfl, rfl, List.suffix_refl _⟩
  | cons event rest ih =>
      have later := fun position => ih position (clean.tail event rest)
      simp only [writeLoop]
      split
      · rename_i unfinished
        rcases clean event List.mem_cons_self with pending | ⟨count, some_, taken⟩
        · subst pending
          obtain ⟨outcome, sent, suffix⟩ := later written
          exact ⟨outcome, sent, suffix.trans (List.suffix_cons _ _)⟩
        · subst taken
          have progress : ¬ min count (bytes.length - written) = 0 := by omega
          simp only [if_neg progress]
          obtain ⟨outcome, sent, suffix⟩ :=
            later (written + min count (bytes.length - written))
          exact ⟨outcome, sent, suffix.trans (List.suffix_cons _ _)⟩
      · exact ⟨rfl, rfl, List.suffix_refl _⟩

/-! ### The response buffer -/

theorem readLoop_inbufs_prefix (inbufs : Bytes) (events : List ReadEvent) :
    (readLoop inbufs events).inbufs <+: inbufs ++ stream events := by
  induction events generalizing inbufs with
  | nil => exact List.prefix_append _ _
  | cons event rest ih =>
      cases event with
      | eof => exact List.prefix_append _ _
      | wouldBlock => exact ih inbufs
      | failed error => exact List.prefix_append _ _
      | data first more =>
          have filledPrefix (room : Nat) :
              inbufs ++ (first :: more).take room <+:
                inbufs ++ stream (.data first more :: rest) := by
            apply (List.prefix_append_right_inj inbufs).mpr
            exact (List.take_prefix _ _).trans (List.prefix_append _ _)
          simp only [readLoop]
          split
          · exact List.prefix_append _ _
          split
          · exact filledPrefix _
          split
          · exact filledPrefix _
          · rename_i unfinished short
            have whole : (first :: more).take (responseLimit - inbufs.length) =
                first :: more := by
              apply List.take_of_length_le
              rw [List.length_append, List.length_take] at short
              omega
            rw [whole]
            simpa [stream] using ih (inbufs ++ first :: more)

theorem readLoop_inbufs_length (inbufs : Bytes) (events : List ReadEvent)
    (bounded : inbufs.length ≤ responseLimit) :
    (readLoop inbufs events).inbufs.length ≤ responseLimit := by
  induction events generalizing inbufs with
  | nil => exact bounded
  | cons event rest ih =>
      cases event with
      | eof => exact bounded
      | wouldBlock => exact ih inbufs bounded
      | failed error => exact bounded
      | data first more =>
          have filledBounded :
              (inbufs ++ (first :: more).take
                (responseLimit - inbufs.length)).length ≤ responseLimit := by
            rw [List.length_append, List.length_take]
            omega
          simp only [readLoop]
          split
          · exact bounded
          split
          · exact filledBounded
          split
          · exact filledBounded
          · exact ih _ filledBounded

theorem readLoop_status_ok_iff (inbufs : Bytes) (events : List ReadEvent)
    (unfinished : occurs headerEnd inbufs = false) (status : Nat) :
    (readLoop inbufs events).status = .ok status ↔
      occurs headerEnd (readLoop inbufs events).inbufs = true ∧
        parseConnectStatus (readLoop inbufs events).inbufs = .ok status := by
  induction events generalizing inbufs with
  | nil => simp [readLoop, unfinished]
  | cons event rest ih =>
      cases event with
      | eof => simp [readLoop, unfinished]
      | wouldBlock => exact ih inbufs unfinished
      | failed error => simp [readLoop, unfinished]
      | data first more =>
          simp only [readLoop]
          split
          · simp [unfinished]
          split
          · rename_i room complete
            simp [complete]
          split
          · rename_i incomplete full
            simp [incomplete]
          · rename_i incomplete short
            exact ih _ (Bool.not_eq_true _ ▸ incomplete)

theorem checkStatus_ok_iff (status : Nat) :
    checkStatus status = .ok () ↔ 200 ≤ status ∧ status ≤ 299 := by
  unfold checkStatus
  split
  · simpa
  · rename_i outside
    split_ifs <;> simp [outside]

/-- `http_connect` returns `Ok` exactly when the request could be built and
was written without an error, and the buffer then holds a complete header with
a status from 200 to 299. -/
theorem httpConnect_ok_iff (runtime : Runtime) (target : String)
    (headers : HashMap String) (reads : List ReadEvent)
    (writes : List WriteEvent) :
    (httpConnect runtime target headers reads writes).result = .ok () ↔
      ∃ request,
        buildRequest runtime target headers = .ok request ∧
        (writeLoop (asBytes request) 0 writes).outcome = .ok () ∧
        occurs headerEnd (readLoop [] reads).inbufs = true ∧
        ∃ status,
          parseConnectStatus (readLoop [] reads).inbufs = .ok status ∧
            200 ≤ status ∧ status ≤ 299 := by
  unfold httpConnect
  cases built : buildRequest runtime target headers with
  | error error => simp
  | ok request =>
      simp only [Except.ok.injEq, exists_eq_left']
      cases wrote : (writeLoop (asBytes request) 0 writes).outcome with
      | error error => simp
      | ok done =>
          simp only [true_and]
          cases status : (readLoop [] reads).status with
          | error error =>
              simp only [Except.bind, reduceCtorEq, false_iff, not_and,
                not_exists]
              intro complete code parsed
              have reported := (readLoop_status_ok_iff [] reads rfl code).mpr
                ⟨complete, parsed⟩
              rw [status] at reported
              cases reported
          | ok code =>
              obtain ⟨complete, parsed⟩ :=
                (readLoop_status_ok_iff [] reads rfl code).mp status
              simp [Except.bind, checkStatus_ok_iff, complete, parsed]

theorem httpConnect_sent (runtime : Runtime) (target : String)
    (headers : HashMap String) (reads : List ReadEvent)
    (writes : List WriteEvent) :
    match buildRequest runtime target headers with
    | .error _ => (httpConnect runtime target headers reads writes).sent = []
    | .ok request =>
        (httpConnect runtime target headers reads writes).sent <+:
          asBytes request := by
  unfold httpConnect
  cases buildRequest runtime target headers with
  | error error => rfl
  | ok request =>
      have sentPrefix := writeLoop_sent_prefix (asBytes request) 0 writes
      simp only
      split <;> exact sentPrefix

theorem pushHeaders_error_of_mem (runtime : Runtime) (buf : String)
    (headers : List (Sigma fun _ : String => String))
    (header : Sigma fun _ : String => String) (member : header ∈ headers)
    (unresolved : ∀ resolved, resolveHeaderValue runtime header.2 ≠ .ok resolved) :
    ∃ error, pushHeaders runtime buf headers = .error error := by
  induction headers generalizing buf with
  | nil => cases member
  | cons next rest ih =>
      rcases next with ⟨name, value⟩
      simp only [pushHeaders]
      cases resolved : resolveHeaderValue runtime value with
      | error error => exact ⟨error, rfl⟩
      | ok text =>
          rcases List.mem_cons.mp member with same | later
          · subst same
            exact absurd resolved (unresolved text)
          · exact ih _ later

/-- One unresolved value, wherever it stands in the iteration order, leaves no
request at all. -/
theorem buildRequest_error_of_mem (runtime : Runtime) (target : String)
    (headers : HashMap String) (header : Sigma fun _ : String => String)
    (member : header ∈ headers.entries)
    (unresolved : ∀ resolved, resolveHeaderValue runtime header.2 ≠ .ok resolved) :
    ∃ error, buildRequest runtime target headers = .error error := by
  obtain ⟨error, failed⟩ := pushHeaders_error_of_mem runtime
    ("CONNECT " ++ target ++ " HTTP/1.1\r\n") headers.entries header member
    unresolved
  exact ⟨error, by simp [buildRequest, failed]⟩

end TlsProxyTunnel
