/-
Names out of bytes that were not sent.

The parser is given the whole buffer, with zeros behind what the peek returned.
A record that has not arrived completely is complete there, and what its names
lack of bytes are zeros.
-/

import TlsProxyTunnel.Delivery

namespace TlsProxyTunnel

open Wire Wire.Decoder

theorem recordHeader_cases (input : Bytes) :
    (5 ≤ input.length ∧
      ∃ hdr, recordHeader input = some (hdr, input.drop 5)) ∨
    (input.length < 5 ∧ recordHeader input = none) := by
  match input with
  | recordType :: high :: low :: lenHigh :: lenLow :: content =>
      exact Or.inl ⟨by simp, _, rfl⟩
  | [] => exact Or.inr ⟨by simp, rfl⟩
  | [_] => exact Or.inr ⟨by simp, rfl⟩
  | [_, _] => exact Or.inr ⟨by simp, rfl⟩
  | [_, _, _] => exact Or.inr ⟨by simp, rfl⟩
  | [_, _, _, _] => exact Or.inr ⟨by simp, rfl⟩

namespace Acceptance

variable (acceptance : Acceptance)

theorem bufferNames_of_header (hdr : TlsRecordHeader) (input content : Bytes)
    (header : recordHeader input = some (hdr, content)) :
    acceptance.bufferNames input = acceptance.namesBehind hdr content := by
  rw [bufferNames, reading, header]
  rfl

theorem bufferNames_of_no_header (input : Bytes)
    (short : recordHeader input = none) : acceptance.bufferNames input = [] := by
  rw [bufferNames, reading, short]

theorem namesBehind_eq (hdr : TlsRecordHeader) (content : Bytes) :
    acceptance.namesBehind hdr content =
      if hdr.recordType = 22 ∧ hdr.len.toNat ≤ maxRecordLen ∧
          hdr.len.toNat ≤ content.length then
        acceptance.recordNames (content.take hdr.len.toNat)
      else
        [] := by
  rw [namesBehind, reading_require, reading, bytes]
  by_cases permitted : hdr.len.toNat ≤ maxRecordLen <;>
    by_cases complete : hdr.len.toNat ≤ content.length <;>
    by_cases handshake : hdr.recordType = 22 <;>
    simp [permitted, complete, handshake]

end Acceptance

/-! ### What the zeros add -/

/-- The bytes hold the header of a handshake record that fits the buffer, but
not the whole record, and filled up with zeros its content names somebody. -/
def NamedByZeros (acceptance : Acceptance) (peeked : Bytes) : Prop :=
  ∃ hdr content, recordHeader peeked = some (hdr, content) ∧
    hdr.recordType = 22 ∧ content.length < hdr.len.toNat ∧
    hdr.len.toNat ≤ 4091 ∧
    acceptance.recordNames
      (content ++ List.replicate (hdr.len.toNat - content.length) 0) ≠ []

theorem helloBuffer_eq (peeked : Bytes) (fits : peeked.length ≤ 4096) :
    helloBuffer peeked =
      peeked ++ List.replicate (4096 - peeked.length) 0 := by
  rw [helloBuffer, List.take_of_length_le fits]

namespace Acceptance

variable (acceptance : Acceptance)

theorem bufferNames_of_short (peeked : Bytes) (short : peeked.length < 5) :
    acceptance.bufferNames (helloBuffer peeked) = [] := by
  rw [helloBuffer_eq peeked (by omega)]
  rcases recordHeader_cases
      (peeked ++ List.replicate (4096 - peeked.length) 0) with
    ⟨_, hdr, header⟩ | ⟨_, none_⟩
  · rw [acceptance.bufferNames_of_header hdr _ _ header]
    apply acceptance.namesBehind_of_allZero
    rw [List.drop_append, List.drop_of_length_le (Nat.le_of_lt short),
      List.nil_append]
    intro byte member
    exact List.eq_of_mem_replicate (List.mem_of_mem_drop member)
  · exact acceptance.bufferNames_of_no_header _ none_

theorem bufferNames_of_peeked (peeked : Bytes) (fits : peeked.length ≤ 4096)
    (hdr : TlsRecordHeader) (content : Bytes)
    (header : recordHeader peeked = some (hdr, content))
    (length : peeked.length = 5 + content.length) :
    acceptance.bufferNames (helloBuffer peeked) =
      acceptance.namesBehind hdr
        (content ++ List.replicate (4091 - content.length) 0) := by
  obtain ⟨used, split, again⟩ := selfDelimiting_recordHeader _ _ _ header
  have zeros : 4096 - peeked.length = 4091 - content.length := by omega
  rw [helloBuffer_eq peeked fits, zeros, split, List.append_assoc,
    acceptance.bufferNames_of_header hdr _ _ (again _)]

theorem namesBehind_filled (hdr : TlsRecordHeader) (content : Bytes)
    (handshake : hdr.recordType = 22) (cut : content.length < hdr.len.toNat)
    (within : hdr.len.toNat ≤ 4091) :
    acceptance.namesBehind hdr
        (content ++ List.replicate (4091 - content.length) 0) =
      acceptance.recordNames
        (content ++ List.replicate (hdr.len.toNat - content.length) 0) := by
  have permitted : hdr.len.toNat ≤ maxRecordLen := by
    rw [maxRecordLen]
    omega
  have complete : hdr.len.toNat ≤
      (content ++ List.replicate (4091 - content.length) (0 : UInt8)).length := by
    rw [List.length_append, List.length_replicate]
    omega
  rw [acceptance.namesBehind_eq, if_pos ⟨handshake, permitted, complete⟩,
    List.take_append, List.take_of_length_le (Nat.le_of_lt cut),
    List.take_replicate]
  congr 3
  omega

theorem namesBehind_zeros (hdr : TlsRecordHeader) (content : Bytes)
    (small : content.length ≤ 4091) :
    acceptance.namesBehind hdr
        (content ++ List.replicate (4091 - content.length) 0) =
      acceptance.namesBehind hdr content ↔
    ¬ (hdr.recordType = 22 ∧ content.length < hdr.len.toNat ∧
      hdr.len.toNat ≤ 4091 ∧
      acceptance.recordNames
        (content ++ List.replicate (hdr.len.toNat - content.length) 0) ≠
          []) := by
  by_cases open_ : hdr.recordType = 22 ∧ content.length < hdr.len.toNat ∧
      hdr.len.toNat ≤ 4091
  · obtain ⟨handshake, cut, within⟩ := open_
    have nobody : acceptance.namesBehind hdr content = [] := by
      rw [acceptance.namesBehind_eq, if_neg (fun complete =>
        Nat.not_le.mpr cut complete.2.2)]
    rw [acceptance.namesBehind_filled hdr content handshake cut within, nobody]
    simp [handshake, cut, within]
  · have whole : (content ++ List.replicate (4091 - content.length)
        (0 : UInt8)).length = 4091 := by
      rw [List.length_append, List.length_replicate]
      omega
    rw [acceptance.namesBehind_eq, acceptance.namesBehind_eq, whole]
    refine iff_of_true ?_ (fun named =>
      open_ ⟨named.1, named.2.1, named.2.2.1⟩)
    by_cases complete : hdr.len.toNat ≤ content.length
    · -- The zeros are behind the record.
      have within : hdr.len.toNat ≤ 4091 := complete.trans small
      rw [List.take_append_of_le_length complete]
      simp [complete, within]
    · -- The record is of another kind, or longer than the buffer.
      rw [if_neg (fun named =>
        open_ ⟨named.1, Nat.lt_of_not_le complete, named.2.2⟩),
        if_neg (fun named => complete named.2.2)]

end Acceptance

/-- The list that a listener routes on is the one found in the bytes the peek
returned, exactly where zeros name nobody. -/
theorem routed_names_sent_iff (acceptance : Acceptance) (parser : TlsParser)
    (conforms : Conforms acceptance parser) (proxy : Proxy)
    (tls : proxy.tls = true) (peeked : Bytes) (fits : peeked.length ≤ 4096) :
    proxy.snis parser peeked = parser.getSni peeked ↔
      ¬ NamedByZeros acceptance peeked := by
  rw [Proxy.snis, if_pos tls, conforms.getSni, conforms.getSni]
  rcases recordHeader_cases peeked with ⟨long, hdr, header⟩ | ⟨short, none_⟩
  · have length : peeked.length = 5 + (peeked.drop 5).length := by
      rw [List.length_drop]
      omega
    rw [acceptance.bufferNames_of_peeked peeked fits hdr _ header length,
      acceptance.bufferNames_of_header hdr _ _ header,
      acceptance.namesBehind_zeros hdr _ (by omega)]
    simp [NamedByZeros, header]
  · rw [acceptance.bufferNames_of_short peeked short,
      acceptance.bufferNames_of_no_header _ none_]
    simp [NamedByZeros, none_]

theorem routed_names_of_whole_record :
    (onlyListener "www.example.org").snis lenient.parser exampleHello.record =
        lenient.parser.getSni exampleHello.record ↔
      ¬ NamedByZeros lenient exampleHello.record :=
  routed_names_sent_iff lenient lenient.parser lenient.parser_conforms
    (onlyListener "www.example.org") rfl exampleHello.record (by decide)

/-- Seven of the fifteen bytes of a name have arrived.  The rest of it are zeros,
in the list and in the target the upstream proxy is asked for. -/
theorem name_is_filled_up_with_zeros :
    Conforms lenient lenient.parser ∧
      lenient.parser.getSni (exampleHello.record.take 72) = [] ∧
      (corpListener "corp_proxy").snis lenient.parser
          (exampleHello.record.take 72) =
        ["www.exa\x00\x00\x00\x00\x00\x00\x00\x00"] ∧
      ((corpListener "corp_proxy").choose
        ((corpListener "corp_proxy").snis lenient.parser
          (exampleHello.record.take 72))).connectTarget =
        some "www.exa\x00\x00\x00\x00\x00\x00\x00\x00:443" := by
  have names : (corpListener "corp_proxy").snis lenient.parser
      (exampleHello.record.take 72) =
        ["www.exa\x00\x00\x00\x00\x00\x00\x00\x00"] := by
    have tls : (corpListener "corp_proxy").tls = true := rfl
    rw [Proxy.snis, if_pos tls, lenient.parser_conforms.getSni,
      lenient.bufferNames_of_peeked _ (by decide) _ _ rfl rfl,
      lenient.namesBehind_filled _ _ rfl (by decide) (by decide)]
    decide +kernel
  refine ⟨lenient.parser_conforms, ?_, names, ?_⟩
  · rw [lenient.parser_conforms.getSni]
    decide +kernel
  · rw [names]
    decide +kernel

end TlsProxyTunnel
