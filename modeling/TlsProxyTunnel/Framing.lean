/-
The framing of the CONNECT request.

A request is framed when it reads back as it was meant: one request line of
three words, one line per header, and nothing after the empty line.  The name
in the target comes from the client, and the request is framed exactly for the
names that hold neither a space nor a line end.
-/

import TlsProxyTunnel.Routing

namespace TlsProxyTunnel

open Delimiter

private theorem digit_bytes (c : Char) (digit : c.isDigit = true) :
    ∀ byte, byte ∈ String.utf8EncodeChar c → 48 ≤ byte ∧ byte ≤ 57 := by
  intro byte member
  rw [Char.isDigit, Bool.and_eq_true, decide_eq_true_eq, decide_eq_true_eq]
    at digit
  have small : c.val.toNat ≤ 57 := digit.2
  have large : 48 ≤ c.val.toNat := digit.1
  have single : c.utf8Size = 1 := by
    rw [Char.utf8Size_eq_one_iff]
    exact Nat.le_trans small (by decide)
  rw [String.utf8EncodeChar_eq_singleton single, List.mem_singleton] at member
  subst member
  rw [UInt8.le_iff_toNat_le, UInt8.le_iff_toNat_le, UInt32.toNat_toUInt8]
  change 48 ≤ c.val.toNat % 256 ∧ c.val.toNat % 256 ≤ 57
  omega

theorem numeral_bytes (value : Nat) :
    ∀ byte, byte ∈ asBytes (toString value) → 48 ≤ byte ∧ byte ≤ 57 := by
  intro byte member
  rw [show toString value = String.ofList (Nat.toDigits 10 value) from rfl,
    asBytes_ofList, List.mem_flatMap] at member
  obtain ⟨c, inDigits, inBytes⟩ := member
  exact digit_bytes c (Nat.isDigit_of_mem_toDigits (by decide) (by decide)
    inDigits) byte inBytes

theorem numeral_plain (value : Nat) (byte : UInt8) (outside : byte < 48) :
    byte ∉ asBytes (toString value) := by
  intro member
  exact absurd (numeral_bytes value byte member).1 (UInt8.not_le.mpr outside)

def NoLineBreak (text : String) : Prop :=
  13 ∉ asBytes text ∧ 10 ∉ asBytes text

theorem NoLineBreak.append {left right : String} (leftPlain : NoLineBreak left)
    (rightPlain : NoLineBreak right) : NoLineBreak (left ++ right) := by
  rw [NoLineBreak, asBytes_append, List.mem_append, List.mem_append]
  exact ⟨not_or.mpr ⟨leftPlain.1, rightPlain.1⟩,
    not_or.mpr ⟨leftPlain.2, rightPlain.2⟩⟩

def IsHeaderLine (runtime : Runtime) (header : Sigma fun _ : String => String)
    (line : Bytes) : Prop :=
  ∃ resolved, resolveHeaderValue runtime header.2 = .ok resolved ∧
    line = asBytes (header.1 ++ ": " ++ resolved)

/-- The bytes decode to exactly one request for `target` with the configured
headers. -/
structure Framed (runtime : Runtime) (headers : HashMap String)
    (target : String) (request : Bytes) : Prop where
  decoded :
    ∃ requestLine headerLines,
      splitPair 13 10 request = requestLine :: headerLines ++ [[], []] ∧
      List.Forall₂ (IsHeaderLine runtime) headers.entries headerLines ∧
      requestLine.splitOn 32 =
        [asBytes "CONNECT", asBytes target, asBytes "HTTP/1.1"]
  endsOnce :
    ∀ before after, request = before ++ headerEnd ++ after → after = []

def PlainHeaders (runtime : Runtime) (headers : HashMap String) : Prop :=
  ∀ header, header ∈ headers.entries →
    NoLineBreak header.1 ∧
      ∃ resolved, resolveHeaderValue runtime header.2 = .ok resolved ∧
        NoLineBreak resolved

def requestLine (target : String) : Bytes :=
  asBytes "CONNECT" ++ 32 :: (asBytes target ++ 32 :: asBytes "HTTP/1.1")

theorem pushHeaders_lines (runtime : Runtime) (buf : String)
    (headers : List (Sigma fun _ : String => String))
    (plain : ∀ header, header ∈ headers → NoLineBreak header.1 ∧
      ∃ resolved, resolveHeaderValue runtime header.2 = .ok resolved ∧
        NoLineBreak resolved) :
    ∃ built headerLines,
      pushHeaders runtime buf headers = .ok built ∧
      List.Forall₂ (IsHeaderLine runtime) headers headerLines ∧
      (∀ line, line ∈ headerLines → line ≠ [] ∧ 13 ∉ line) ∧
      asBytes built =
        asBytes buf ++ headerLines.flatMap (fun line => line ++ [13, 10]) := by
  induction headers generalizing buf with
  | nil => exact ⟨buf, [], rfl, .nil, by simp, by simp⟩
  | cons header rest ih =>
      obtain ⟨namePlain, resolved, found, valuePlain⟩ :=
        plain header List.mem_cons_self
      obtain ⟨built, headerLines, pushed, lines, clean, bytes⟩ :=
        ih (buf ++ header.1 ++ ": " ++ resolved ++ "\r\n")
          (fun later member => plain later (List.mem_cons_of_mem _ member))
      have linePlain : NoLineBreak (header.1 ++ ": " ++ resolved) :=
        (namePlain.append ⟨by decide, by decide⟩).append valuePlain
      refine ⟨built, asBytes (header.1 ++ ": " ++ resolved) :: headerLines,
        ?_, .cons ⟨resolved, found, rfl⟩ lines, ?_, ?_⟩
      · rw [pushHeaders, found]
        exact pushed
      · intro line member
        rcases List.mem_cons.mp member with atHead | later
        · subst atHead
          refine ⟨?_, linePlain.1⟩
          have colon : asBytes ": " = [58, 32] := by decide
          simp [asBytes_append, colon]
        · exact clean line later
      · rw [bytes]
        simp only [asBytes_append, List.flatMap_cons, List.append_assoc]
        rfl

theorem buildRequest_lines (runtime : Runtime) (target : String)
    (headers : HashMap String) (plain : PlainHeaders runtime headers) :
    ∃ request headerLines,
      buildRequest runtime target headers = .ok request ∧
      List.Forall₂ (IsHeaderLine runtime) headers.entries headerLines ∧
      (∀ line, line ∈ headerLines → line ≠ [] ∧ 13 ∉ line) ∧
      asBytes request =
        requestLine target ++ 13 :: 10 ::
          (headerLines.flatMap (fun line => line ++ [13, 10]) ++ [13, 10]) := by
  obtain ⟨built, headerLines, pushed, lines, clean, bytes⟩ :=
    pushHeaders_lines runtime ("CONNECT " ++ target ++ " HTTP/1.1\r\n")
      headers.entries plain
  refine ⟨built ++ "\r\n", headerLines, by rw [buildRequest, pushed], lines,
    clean, ?_⟩
  rw [asBytes_append, bytes, requestLine]
  simp only [asBytes_append, List.append_assoc, List.cons_append]
  rfl

/-! ### Names that keep the frame -/

def FramesRequest (sni : String) : Prop :=
  32 ∉ asBytes sni ∧ ¬ crlf <:+: asBytes sni

theorem requestLine_splitOn (target : String) :
    (requestLine target).splitOn 32 =
        [asBytes "CONNECT", asBytes target, asBytes "HTTP/1.1"] ↔
      32 ∉ asBytes target := by
  have words : (requestLine target).splitOn 32 =
      asBytes "CONNECT" :: ((asBytes target).splitOn 32 ++
        [asBytes "HTTP/1.1"]) := by
    rw [requestLine, List.splitOn_append_cons_self,
      List.splitOn_append_cons_self]
    rfl
  rw [words]
  constructor
  · intro three
    apply splitOn_pieces_free 32 (asBytes target)
    have middle : (asBytes target).splitOn 32 = [asBytes target] := by
      have cut : (asBytes target).splitOn 32 ++ [asBytes "HTTP/1.1"] =
          [asBytes target] ++ [asBytes "HTTP/1.1"] :=
        List.tail_eq_of_cons_eq three
      exact List.append_cancel_right cut
    rw [middle]
    exact List.mem_singleton_self _
  · intro absent
    rw [List.splitOn_eq_singleton absent]
    rfl

theorem sniAuthority_space (sni : String) (targetPort : UInt16) :
    32 ∈ asBytes (sniAuthority sni targetPort) ↔ 32 ∈ asBytes sni := by
  have port := numeral_plain targetPort.toNat 32 (by decide)
  have colon : (32 : UInt8) ∉ asBytes ":" := by decide
  simp only [sniAuthority, asBytes_append, List.mem_append, colon, port,
    or_false]

theorem requestLine_pair_free (sni : String) (targetPort : UInt16) :
    ¬ [13, 10] <:+: requestLine (sniAuthority sni targetPort) ↔
      ¬ crlf <:+: asBytes sni := by
  have port := numeral_plain targetPort.toNat 10 (by decide)
  have shape : requestLine (sniAuthority sni targetPort) =
      asBytes "CONNECT " ++ (asBytes sni ++
        (asBytes ":" ++ asBytes (toString targetPort.toNat) ++
          asBytes " HTTP/1.1")) := by
    simp only [requestLine, sniAuthority, asBytes_append, List.append_assoc]
    rfl
  rw [shape]
  constructor
  · intro free inside
    exact free (inside.trans (List.infix_append' _ _ _))
  · intro free
    apply pair_free_append_left _ _ _ _ (by decide)
    apply pair_free_append_right _ _ _ _ _ free
    simp only [List.mem_append, port, or_false]
    decide

theorem connect_request_framed_iff (runtime : Runtime) (headers : HashMap String)
    (plain : PlainHeaders runtime headers) (sni : String)
    (targetPort : UInt16) :
    ∃ request,
      buildRequest runtime (sniAuthority sni targetPort) headers =
        .ok request ∧
      (Framed runtime headers (sniAuthority sni targetPort)
        (asBytes request) ↔ FramesRequest sni) := by
  obtain ⟨request, headerLines, built, lines, clean, bytes⟩ :=
    buildRequest_lines runtime (sniAuthority sni targetPort) headers plain
  have lineFree (line : Bytes) (member : line ∈ headerLines) :
      ¬ [13, 10] <:+: line :=
    fun inside => (clean line member).2
      (inside.subset List.mem_cons_self)
  refine ⟨request, built, ?_⟩
  have cut : splitPair 13 10 (asBytes request) =
      splitPair 13 10 (requestLine (sniAuthority sni targetPort)) ++
        (headerLines ++ [[], []]) := by
    rw [bytes, splitPair_append_pair 13 10 (by decide),
      splitPair_lines 13 10 (by decide) headerLines _ lineFree]
    rfl
  constructor
  · rintro ⟨⟨first, others, split, _, words⟩, _⟩
    have firstFree : ¬ [13, 10] <:+: first := by
      apply splitPair_pieces_free 13 10 (asBytes request)
      rw [split]
      exact List.mem_cons_self
    have firstLine : first = requestLine (sniAuthority sni targetPort) := by
      have joined : [32].intercalate (first.splitOn 32) = first :=
        List.intercalate_splitOn 32
      rw [← joined, words]
      rfl
    subst firstLine
    refine ⟨?_, (requestLine_pair_free sni targetPort).mp firstFree⟩
    rw [← sniAuthority_space sni targetPort]
    exact (requestLine_splitOn _).mp words
  · rintro ⟨noSpace, noBreak⟩
    rw [splitPair_of_free 13 10 _
      ((requestLine_pair_free sni targetPort).mpr noBreak)] at cut
    rw [← sniAuthority_space sni targetPort] at noSpace
    refine ⟨⟨_, headerLines, cut, lines,
      (requestLine_splitOn _).mpr noSpace⟩, ?_⟩
    refine doubled_pair_at_end 13 10 (by decide) (asBytes request)
      (requestLine (sniAuthority sni targetPort) :: headerLines) ?_ cut
    intro piece member
    rcases List.mem_cons.mp member with atHead | later
    · subst atHead
      simp [requestLine]
    · exact (clean piece later).1

/-- A process without environment variables, on ASCII text. -/
def bareRuntime : Runtime :=
  { var := fun _ => .error .notPresent
    isAlphanumeric := Char.isAlphanum }

def tokenHeader : HashMap String :=
  AList.singleton "Proxy-Authorization" "Basic dG9rZW4="

theorem tokenHeader_plain : PlainHeaders bareRuntime tokenHeader := by
  intro header member
  rw [List.mem_singleton.mp member]
  exact ⟨⟨by decide, by decide⟩, "Basic dG9rZW4=", by decide, by decide,
    by decide⟩

theorem host_name_request_framed :
    ∃ request,
      buildRequest bareRuntime (sniAuthority "www.example.org" 443)
        tokenHeader = .ok request ∧
      (Framed bareRuntime tokenHeader (sniAuthority "www.example.org" 443)
        (asBytes request) ↔ FramesRequest "www.example.org") :=
  connect_request_framed_iff bareRuntime tokenHeader tokenHeader_plain
    "www.example.org" 443

def endingName : String := "a HTTP/1.1\r\n\r\nb"

/-- The name passes the UTF-8 check, becomes the target, and leaves bytes after
the end of the request. -/
theorem endingName_request_not_framed :
    TlsParser.extensionNames (.sni [(0, asBytes endingName)]) = [endingName] ∧
      corpVia.connectTarget [endingName] =
        some (sniAuthority endingName 443) ∧
      ∃ request,
        buildRequest bareRuntime (sniAuthority endingName 443)
          corpVia.headers = .ok request ∧
        ¬ Framed bareRuntime corpVia.headers (sniAuthority endingName 443)
          (asBytes request) := by
  refine ⟨by decide, by decide, _, rfl, fun framed => ?_⟩
  have nothingAfter := framed.endsOnce (asBytes "CONNECT a HTTP/1.1")
    (asBytes "b:443 HTTP/1.1\r\n\r\n") (by decide)
  exact absurd nothingAfter (by decide)

end TlsProxyTunnel
