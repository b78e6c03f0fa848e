/-
Whether the route depends on how the ClientHello arrives.

What the peek has not seen stays zero in the buffer, and the buffer is parsed
whole.  The names are found as long as the last of them has been seen and the
record fits the buffer; after that at least one of them is missing.
-/

import TlsProxyTunnel.Hello
import TlsProxyTunnel.Routing

namespace TlsProxyTunnel

open Wire Wire.Decoder

theorem helloBuffer_take (record : Bytes) (seen : Nat) :
    helloBuffer (record.take seen) = zeroFrom seen (helloBuffer record) := by
  have zeros (count : Nat) : zeroFrom (seen - (record.take 4096).length)
      (List.replicate count 0) = List.replicate count 0 := by
    apply (zeroFrom_eq_self_iff _ _).mpr
    intro position _ within
    rw [List.length_replicate] at within
    simp [within]
  rw [helloBuffer, helloBuffer, zeroFrom_append, zeros, zeroFrom_eq,
    List.append_assoc, List.replicate_append_replicate, List.take_take,
    List.take_take, Nat.min_comm, List.length_take, List.length_take]
  congr 2
  omega

def recordStart (version : UInt16) (len : Nat) : Bytes :=
  22 :: encode16 version.toNat ++ encode16 len

theorem recordHeader_recordStart (version : UInt16) (len : Nat)
    (small : len < 65536) (rest : Bytes) :
    recordHeader (recordStart version len ++ rest) =
      some ({ recordType := 22
              version := version
              len := UInt16.ofNat len }, rest) := by
  simp only [recordHeader, recordStart, andThen, List.cons_append,
    List.append_assoc, byte, uint16_encode16 _ version.toNat_lt,
    uint16_encode16 _ small, succeed, UInt16.ofNat_toNat]

namespace Acceptance

variable (acceptance : Acceptance)

def namesBehind (hdr : TlsRecordHeader) : Bytes → List String :=
  reading (require (hdr.len.toNat ≤ maxRecordLen)) (fun _ =>
    reading (bytes hdr.len.toNat) (fun data _ =>
      if hdr.recordType = 22 then acceptance.recordNames data else []))

theorem namesBehind_of_allZero (hdr : TlsRecordHeader) (input : Bytes)
    (zeros : AllZero input) : acceptance.namesBehind hdr input = [] := by
  rw [namesBehind, reading_require]
  split
  · apply reading_bytes_of_allZero _ _ (· = []) rfl input zeros
    intro data _ dataZeros _
    rw [acceptance.recordNames_of_allZero data dataZeros, ite_self]
  · rfl

theorem bufferNames_fades_behind (version : UInt16) (len : Nat)
    (small : len < 65536) (front back : Bytes) (found : List String)
    (fades : Fades (acceptance.namesBehind
      { recordType := 22, version := version, len := UInt16.ofNat len })
      front back found) :
    Fades acceptance.bufferNames (recordStart version len ++ front) back
      found := by
  exact fades.behind_of_silent acceptance.namesBehind _ _
    selfDelimiting_recordHeader (recordHeader_recordStart version len small)
    acceptance.namesBehind_of_allZero

theorem bufferNames_fades (version : UInt16) (front back tail : Bytes)
    (found : List String) (permitted : (front ++ back).length ≤ 16384)
    (fades : Fades acceptance.recordNames front back found) :
    Fades acceptance.bufferNames
      (recordStart version (front ++ back).length ++ front) (back ++ tail)
      found := by
  have value : (UInt16.ofNat (front ++ back).length).toNat =
      (front ++ back).length := by
    rw [UInt16.toNat_ofNat']
    omega
  have content : Fades (reading (bytes (front ++ back).length)
      (fun data _ => acceptance.recordNames data)) front (back ++ tail) found :=
    fades.within _ rfl tail (fun _ _ => rfl)
  apply acceptance.bufferNames_fades_behind version _ (by omega)
  have behind : acceptance.namesBehind
      { recordType := 22
        version := version
        len := UInt16.ofNat (front ++ back).length } =
      reading (bytes (front ++ back).length)
        (fun data _ => acceptance.recordNames data) := by
    funext input
    have allowed : (front ++ back).length ≤ maxRecordLen := by
      rw [maxRecordLen]
      omega
    simp only [namesBehind, value, if_true]
    rw [reading_require, if_pos (decide_eq_true allowed)]
  rw [behind]
  exact content

theorem bufferNames_silent_of_cut (version : UInt16) (len : Nat)
    (permitted : len ≤ 16384) (content : Bytes) (cut : content.length < len) :
    Silent acceptance.bufferNames (recordStart version len ++ content) := by
  have value : (UInt16.ofNat len).toNat = len := by
    rw [UInt16.toNat_ofNat']
    omega
  have silent : Silent (acceptance.namesBehind
      { recordType := 22, version := version, len := UInt16.ofNat len })
      content := by
    intro count
    have short : ¬ len ≤ (zeroFrom count content).length := by
      rw [zeroFrom_length]
      omega
    rw [namesBehind, reading_require, value, reading, bytes, if_neg short,
      ite_self]
  have fades := acceptance.bufferNames_fades_behind version len (by omega) []
    content [] ((fades_nil_iff _ _ _).mpr silent)
  simpa using (fades_nil_iff _ _ _).mp fades

end Acceptance

/-! ### What is found of a ClientHello -/

namespace Hello

variable (hello : Hello)

/-- The record fits the buffer, and up to the end of the names nothing but zeros
is still to come. -/
def NamesVisible (seen : Nat) : Prop :=
  hello.record.length ≤ 4096 ∧
    ∀ position, seen ≤ position → position < hello.sniEnd →
      hello.record[position]? = some 0

theorem record_eq :
    hello.record = recordStart hello.recordVersion hello.message.length ++
      hello.message := by
  simp [record, recordStart, encodeVector16]

theorem message_length_le : hello.message.length ≤ 16384 := by
  have fits := hello.fits
  have length : hello.message.length = hello.body.length + 4 := by
    simp only [message, encode24, encode16, List.length_append,
      List.length_cons, List.length_nil]
    omega
  rw [length]
  exact fits

theorem buffer_fades (acceptance : Acceptance)
    (accepted : hello.Accepted acceptance) (tail : Bytes) :
    ∃ front, hello.record = front ++ hello.after ∧
      Fades acceptance.bufferNames front (hello.after ++ tail) hello.names := by
  obtain ⟨bodyFront, split, bodyFades⟩ := hello.body_fades acceptance accepted
  have bodySmall := hello.message_length_le
  have message : hello.message =
      [1] ++ (encode24 (bodyFront ++ hello.after).length ++ bodyFront) ++
        hello.after := by
    rw [← split]
    simp only [Hello.message, split, List.cons_append, List.nil_append,
      List.append_assoc]
  have bodyLength : (bodyFront ++ hello.after).length ≤ 16384 := by
    rw [message] at bodySmall
    simp only [List.length_append] at bodySmall ⊢
    omega
  have messageFades := acceptance.recordNames_fades bodyFront hello.after
    hello.names (by omega) bodyFades
  have fades := acceptance.bufferNames_fades hello.recordVersion _ hello.after
    tail hello.names (by rw [← message]; exact bodySmall) messageFades
  rw [← message] at fades
  refine ⟨_, ?_, fades⟩
  rw [List.append_assoc, ← message]
  exact hello.record_eq

theorem namesVisible_iff (front : Bytes) (seen : Nat)
    (split : hello.record = front ++ hello.after) :
    hello.NamesVisible seen ↔
      hello.record.length ≤ 4096 ∧ zeroFrom seen front = front := by
  have sniEnd : hello.sniEnd = front.length := by
    rw [Hello.sniEnd, split, List.length_append]
    omega
  rw [NamesVisible, zeroFrom_eq_self_iff, sniEnd]
  apply and_congr_right
  intro _
  apply forall_congr'
  intro position
  apply imp_congr_right
  intro _
  apply imp_congr_right
  intro within
  rw [split, List.getElem?_append_left within]

theorem helloBuffer_record (fits : hello.record.length ≤ 4096) :
    helloBuffer hello.record =
      hello.record ++ List.replicate (4096 - hello.record.length) 0 := by
  rw [helloBuffer, List.take_of_length_le fits]

theorem getSni_of_visible (acceptance : Acceptance) (parser : TlsParser)
    (conforms : Conforms acceptance parser)
    (accepted : hello.Accepted acceptance) (seen : Nat)
    (visible : hello.NamesVisible seen) :
    parser.getSni (helloBuffer (hello.record.take seen)) = hello.names := by
  obtain ⟨front, split, fades⟩ := hello.buffer_fades acceptance accepted
    (List.replicate (4096 - hello.record.length) 0)
  obtain ⟨fits, undamaged⟩ := (hello.namesVisible_iff front seen split).mp visible
  rw [conforms.getSni, helloBuffer_take,
    hello.helloBuffer_record fits]
  have found := fades.intact seen undamaged
  rw [← List.append_assoc, ← split] at found
  exact found

theorem getSni_of_not_visible (acceptance : Acceptance) (parser : TlsParser)
    (conforms : Conforms acceptance parser)
    (accepted : hello.Accepted acceptance) (seen : Nat)
    (hidden : ¬ hello.NamesVisible seen) :
    Lost hello.names
      (parser.getSni (helloBuffer (hello.record.take seen))) := by
  rw [conforms.getSni, helloBuffer_take]
  by_cases fits : hello.record.length ≤ 4096
  · obtain ⟨front, split, fades⟩ := hello.buffer_fades acceptance accepted
      (List.replicate (4096 - hello.record.length) 0)
    have damaged : zeroFrom seen front ≠ front := by
      intro undamaged
      exact hidden ((hello.namesVisible_iff front seen split).mpr
        ⟨fits, undamaged⟩)
    have lost := fades.damaged seen damaged
    rw [← List.append_assoc, ← split] at lost
    rw [hello.helloBuffer_record fits]
    exact lost
  · have start : (recordStart hello.recordVersion
        hello.message.length).length = 5 := rfl
    have length : hello.record.length = 5 + hello.message.length := by
      rw [hello.record_eq, List.length_append, start]
    have buffer : helloBuffer hello.record =
        recordStart hello.recordVersion hello.message.length ++
          hello.message.take 4091 := by
      rw [helloBuffer, Nat.sub_eq_zero_of_le (by omega), List.replicate_zero,
        List.append_nil, hello.record_eq, List.take_append, start,
        List.take_of_length_le (by rw [start]; omega)]
    have silent := acceptance.bufferNames_silent_of_cut hello.recordVersion
      hello.message.length hello.message_length_le (hello.message.take 4091)
      (by rw [List.length_take]; omega)
    rw [buffer, silent seen]
    exact lost_nil hello.names

end Hello

def onlyListener (name : String) : Proxy :=
  { corpListener "ban" with
    sni := some (AList.singleton name (.simple "corp_proxy")) }

theorem matchSni_singleton (name defaultAction : String) (target : SniTarget)
    (snis : List String) :
    matchSni (AList.singleton name target) defaultAction snis =
      if name ∈ snis then (target.upstreamName, target.viaOverride)
      else (defaultAction, none) := by
  induction snis with
  | nil => rfl
  | cons first rest ih =>
      by_cases same : first = name
      · subst same
        have entry : AList.lookup first
            (AList.singleton first target : HashMap SniTarget) =
            some target := by
          rw [← AList.insert_empty, AList.lookup_insert]
        simp only [matchSni, entry, List.mem_cons_self, if_true]
      · have noEntry : AList.lookup first
            (AList.singleton name target : HashMap SniTarget) = none := by
          rw [← AList.insert_empty, AList.lookup_insert_ne same]
          rfl
        have elsewhere : name ∈ first :: rest ↔ name ∈ rest := by
          simp [Ne.symm same]
        simp only [matchSni, noEntry, ih, elsewhere]

theorem route_onlyListener (name : String) (snis : List String) :
    (onlyListener name).route snis =
      if name ∈ snis then ("corp_proxy", none) else ("ban", none) := by
  cases snis with
  | nil => rfl
  | cons first rest =>
      exact matchSni_singleton name "ban" (.simple "corp_proxy") (first :: rest)

theorem exists_proxy_choose_ne (names found : List String) (name : String)
    (member : name ∈ names) (missing : name ∉ found) :
    ∃ proxy : Proxy, proxy.tls = true ∧
      proxy.choose found ≠ proxy.choose names := by
  refine ⟨onlyListener name, rfl, fun same => ?_⟩
  have upstreams := congrArg Dispatch.upstreamName same
  simp only [Proxy.choose, route_onlyListener, if_pos member,
    if_neg missing] at upstreams
  exact absurd upstreams (by decide)

/-- Cut anywhere, a ClientHello is dispatched on its true names by every
listener exactly when it names nobody or its names have been seen. -/
theorem delivery_neutral_iff (acceptance : Acceptance) (parser : TlsParser)
    (conforms : Conforms acceptance parser) (hello : Hello)
    (accepted : hello.Accepted acceptance) (seen : Nat) :
    (∀ proxy : Proxy, proxy.tls = true →
        proxy.choose (proxy.snis parser (hello.record.take seen)) =
          proxy.choose hello.names) ↔
      hello.names = [] ∨ hello.NamesVisible seen := by
  constructor
  · intro neutral
    by_cases visible : hello.NamesVisible seen
    · exact Or.inr visible
    · left
      by_contra some
      obtain ⟨name, member, missing⟩ := (hello.getSni_of_not_visible acceptance
        parser conforms accepted seen visible).2 some
      obtain ⟨proxy, tls, differs⟩ :=
        exists_proxy_choose_ne hello.names _ name member missing
      have same := neutral proxy tls
      rw [Proxy.snis, if_pos tls] at same
      exact differs same
  · intro fine proxy tls
    rw [Proxy.snis, if_pos tls]
    by_cases visible : hello.NamesVisible seen
    · rw [hello.getSni_of_visible acceptance parser conforms accepted seen
        visible]
    · have nameless := fine.resolve_right visible
      have silent := (hello.getSni_of_not_visible acceptance parser conforms
        accepted seen visible).1 nameless
      rw [silent, nameless]

def exampleHello : Hello :=
  { recordVersion := 0x0301
    head :=
      { version := 0x0303
        random := List.replicate 32 7
        sessionId := []
        cipherSuites := [0x13, 0x01]
        compressionMethods := [0]
        randomLength := by decide
        sessionIdLength := by decide
        cipherSuitesLength := by decide
        compressionMethodsLength := by decide }
    block := some
      { before := [{ kind := 23, content := [], notServerName := by decide }]
        names := ["www.example.org"]
        after := [{ kind := 43, content := [2, 3, 4], notServerName := by decide }]
        distinct := by decide
        named := by decide }
    fits := by decide }

def lenient : Acceptance :=
  { extension := fun _ _ => true
    message := fun _ _ => true }

theorem exampleHello_accepted : exampleHello.Accepted lenient :=
  fun _ _ _ _ => rfl

theorem exampleHello_visible : exampleHello.NamesVisible 80 := by
  refine ⟨by decide, fun position behind within => ?_⟩
  have sniEnd : exampleHello.sniEnd = 80 := by decide
  omega

theorem delivery_of_names_neutral :
    (onlyListener "www.example.org").choose
        ((onlyListener "www.example.org").snis lenient.parser
          (exampleHello.record.take 80)) =
      (onlyListener "www.example.org").choose exampleHello.names :=
  (delivery_neutral_iff lenient lenient.parser lenient.parser_conforms
    exampleHello exampleHello_accepted 80).mpr (Or.inr exampleHello_visible)
    (onlyListener "www.example.org") rfl

/-- The record header arrives first: the name is not found, and the connection
is banned. -/
theorem delivery_of_header_banned :
    Conforms lenient lenient.parser ∧ exampleHello.Accepted lenient ∧
      (onlyListener "www.example.org").tls = true ∧
      ((onlyListener "www.example.org").choose
        ((onlyListener "www.example.org").snis lenient.parser
          (exampleHello.record.take 5))).upstreamName = "ban" ∧
      ((onlyListener "www.example.org").choose
        exampleHello.names).upstreamName = "corp_proxy" := by
  have hidden : ¬ exampleHello.NamesVisible 5 := by
    rintro ⟨_, zeros⟩
    have first := zeros 5 (by decide) (by decide)
    exact absurd first (by decide)
  obtain ⟨name, member, missing⟩ := (exampleHello.getSni_of_not_visible lenient
    lenient.parser lenient.parser_conforms exampleHello_accepted 5 hidden).2
    (List.cons_ne_nil _ _)
  have named : name = "www.example.org" := List.mem_singleton.mp member
  rw [named] at missing
  have tls : (onlyListener "www.example.org").tls = true := rfl
  refine ⟨lenient.parser_conforms, exampleHello_accepted, tls, ?_, ?_⟩
  · have banned := route_onlyListener "www.example.org"
      (lenient.parser.getSni (helloBuffer (exampleHello.record.take 5)))
    rw [if_neg missing] at banned
    simp only [Proxy.choose, Proxy.snis, if_pos tls, banned]
  · rfl

end TlsProxyTunnel
