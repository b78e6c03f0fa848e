/-
A well-formed ClientHello in one record, and how the names in it fade as more
and more of its end is overwritten with zeros.
-/

import TlsProxyTunnel.ClientHello

namespace TlsProxyTunnel

open Wire Wire.Decoder

structure RawExtension where
  kind : UInt16
  content : Bytes
  notServerName : kind.toNat ≠ 0

structure ExtensionBlock where
  before : List RawExtension
  names : List String
  after : List RawExtension
  distinct : names.Nodup
  named : "" ∉ names

def RawExtension.encode (extension : RawExtension) : Bytes :=
  encode16 extension.kind.toNat ++ encodeVector16 extension.content

theorem RawExtension.content_length_le (extension : RawExtension) :
    extension.content.length ≤ extension.encode.length := by
  simp only [encode, encodeVector16, List.length_append]
  omega

/-- Every entry is of type `host_name`, which is 0. -/
def encodeHostName (name : String) : Bytes :=
  0 :: encodeVector16 (asBytes name)

def encodeNames (names : List String) : Bytes :=
  names.flatMap encodeHostName

/-- A hello without a name has no extension for it. -/
def encodeServerNames (names : List String) : Bytes :=
  if names = [] then []
  else encode16 0 ++ encodeVector16 (encodeVector16 (encodeNames names))

def ExtensionBlock.encode (block : ExtensionBlock) : Bytes :=
  block.before.flatMap RawExtension.encode ++
    encodeServerNames block.names ++ block.after.flatMap RawExtension.encode

structure HelloHead where
  version : UInt16
  random : Bytes
  sessionId : Bytes
  cipherSuites : Bytes
  compressionMethods : Bytes
  randomLength : random.length = 32
  sessionIdLength : sessionId.length ≤ 32
  cipherSuitesLength :
    cipherSuites.length < 65536 ∧ cipherSuites.length % 2 = 0
  compressionMethodsLength : compressionMethods.length < 256

def HelloHead.encode (head : HelloHead) : Bytes :=
  encode16 head.version.toNat ++ head.random ++
    UInt8.ofNat head.sessionId.length :: head.sessionId ++
    encodeVector16 head.cipherSuites ++
    UInt8.ofNat head.compressionMethods.length :: head.compressionMethods

def helloBody (head : HelloHead) (block : Option ExtensionBlock) : Bytes :=
  head.encode ++ block.elim [] (fun block => encodeVector16 block.encode)

/-- A ClientHello alone in a record of up to 2^14 bytes. -/
structure Hello where
  recordVersion : UInt16
  head : HelloHead
  block : Option ExtensionBlock
  fits : (helloBody head block).length + 4 ≤ 16384

namespace Hello

variable (hello : Hello)

def body : Bytes := helloBody hello.head hello.block

def message : Bytes := 1 :: encode24 hello.body.length ++ hello.body

def record : Bytes :=
  22 :: encode16 hello.recordVersion.toNat ++ encodeVector16 hello.message

def names : List String := hello.block.elim [] ExtensionBlock.names

def after : Bytes :=
  hello.block.elim [] (fun block => block.after.flatMap RawExtension.encode)

def sniEnd : Nat := hello.record.length - hello.after.length

/-- The parser accepts what stands before the names. -/
def Accepted (acceptance : Acceptance) : Prop :=
  ∀ block, hello.block = some block →
    ∀ extension, extension ∈ block.before →
      acceptance.extension extension.kind.toNat extension.content = true

end Hello

/-! ### Host names -/

theorem sniHostname_encode (name : String) (rest : Bytes)
    (small : (asBytes name).length < 65536) :
    sniHostname (encodeHostName name ++ rest) = some ((0, asBytes name), rest) := by
  simp only [sniHostname, andThen, encodeHostName, List.cons_append, byte,
    vector16_encode _ rest small, succeed]

/-- Zeros are entries without a name. -/
theorem entryNames_of_allZero (list : Bytes) (zeros : AllZero list) :
    ∀ name, name ∈ entryNames list → name = "" := by
  intro name member
  obtain ⟨entry, entryMember, decoded⟩ := List.mem_filterMap.mp member
  have blank : entry.2 = [] := by
    apply many_of_allZero sniHostname selfDelimiting_sniHostname
      (fun entry => entry.2 = []) _ list zeros entry entryMember
    intro input value rest inputZeros read
    obtain ⟨_, behind, typeRead, nameRead⟩ :=
      (andThen_eq_some_iff _ _ _ _ _).mp read
    obtain ⟨_, _, contentRead, done⟩ :=
      (andThen_eq_some_iff _ _ _ _ _).mp nameRead
    cases done
    exact vector16_of_allZero _ _ _
      (inputZeros.suffix (selfDelimiting_byte.suffix typeRead)) contentRead
  rw [blank] at decoded
  exact (Option.some.inj decoded).symm

theorem damaged_hostName_not_mem (name : String) (nonempty : name ≠ "")
    (small : (asBytes name).length < 65536) (count : Nat)
    (damaged : zeroFrom count (encodeHostName name) ≠ encodeHostName name)
    (back : Bytes) (zeros : AllZero back) :
    name ∉ entryNames (zeroFrom count (encodeHostName name) ++ back) := by
  rw [entryNames, List.filterMap_eq_flatMap_toList,
    flatMap_many sniHostname consuming_sniHostname, reading]
  split
  · rename_i entry rest read
    have behindZeros := selfDelimiting_sniHostname.damaged _ (0, asBytes name)
      (fun other => sniHostname_encode name other small) count damaged back
      rest zeros entry read
    intro member
    rcases List.mem_append.mp member with first | later
    · have content : asBytes name = entry.2 :=
        (fromUtf8_eq_some_iff _ _).mp (Option.mem_toList.mp first)
      obtain ⟨nameType, behind, typeRead, nameRead⟩ :=
        (andThen_eq_some_iff _ _ _ _ _).mp read
      obtain ⟨hostName, left, contentRead, done⟩ :=
        (andThen_eq_some_iff _ _ _ _ _).mp nameRead
      cases done
      change asBytes name = hostName at content
      have same := eq_encodeVector16_of_vector16 _ _ _ contentRead
      -- The type byte is zero already: the damage is behind it.
      have shown : zeroFrom count (encodeHostName name) ++ back =
          0 :: (encodeVector16 (asBytes name) ++ rest) := by
        cases count with
        | zero =>
            cases typeRead
            rw [content, ← same]
            rfl
        | succ count =>
            cases typeRead
            rw [content, ← same]
            rfl
      exact damaged (List.append_inj shown (zeroFrom_length count _)).1
    · rw [← List.filterMap_eq_flatMap_toList] at later
      exact nonempty (entryNames_of_allZero rest behindZeros name later)
  · exact List.not_mem_nil

theorem entryNames_encode_append (name : String) (rest : Bytes)
    (small : (asBytes name).length < 65536) :
    entryNames (encodeHostName name ++ rest) = name :: entryNames rest := by
  rw [entryNames, many_of_some sniHostname consuming_sniHostname _ rest
    (0, asBytes name) (sniHostname_encode name rest small)]
  simp [entryNames]

theorem entryNames_fades (names : List String) (distinct : names.Nodup)
    (named : "" ∉ names) (small : (encodeNames names).length < 65536) :
    Fades entryNames (encodeNames names) [] names := by
  induction names with
  | nil =>
      apply (fades_nil_iff _ _ _).mpr
      intro count
      rfl
  | cons name names ih =>
      obtain ⟨fresh, distinctRest⟩ := List.nodup_cons.mp distinct
      have nonempty : name ≠ "" := fun same => named (by simp [same])
      have namedRest : "" ∉ names := fun member =>
        named (List.mem_cons_of_mem _ member)
      have sizes : (asBytes name).length < 65536 ∧
          (encodeNames names).length < 65536 := by
        simp only [encodeNames, List.flatMap_cons, List.length_append,
          encodeHostName, encodeVector16, List.length_cons] at small
        exact ⟨by omega, by rw [encodeNames]; omega⟩
      have fades := ih distinctRest namedRest sizes.2
      have split : encodeNames (name :: names) =
          encodeHostName name ++ encodeNames names := List.flatMap_cons
      have shown (count : Nat)
          (whole : zeroFrom count (encodeHostName name) = encodeHostName name) :
          entryNames (zeroFrom count (encodeNames (name :: names) ++ [])) =
            name :: entryNames (zeroFrom (count - (encodeHostName name).length)
              (encodeNames names ++ [])) := by
        rw [split, List.append_assoc, zeroFrom_append, whole]
        exact entryNames_encode_append name _ sizes.1
      constructor
      · intro count undamaged
        rw [split] at undamaged
        obtain ⟨whole, rest⟩ := (zeroFrom_append_eq_self_iff _ _ _).mp undamaged
        rw [shown count whole, fades.intact _ rest]
      · intro count damaged
        refine ⟨fun impossible => absurd impossible (List.cons_ne_nil _ _),
          fun _ => ?_⟩
        by_cases whole : zeroFrom count (encodeHostName name) =
            encodeHostName name
        · have restDamaged : zeroFrom (count - (encodeHostName name).length)
              (encodeNames names) ≠ encodeNames names := by
            intro rest
            apply damaged
            rw [split]
            exact (zeroFrom_append_eq_self_iff _ _ _).mpr ⟨whole, rest⟩
          have more : names ≠ [] := by
            rintro rfl
            exact restDamaged rfl
          obtain ⟨missing, member, gone⟩ :=
            (fades.damaged _ restDamaged).2 more
          refine ⟨missing, List.mem_cons_of_mem _ member, ?_⟩
          rw [shown count whole]
          intro found
          rcases List.mem_cons.mp found with same | later
          · exact fresh (same ▸ member)
          · exact gone later
        · refine ⟨name, List.mem_cons_self, ?_⟩
          rw [split, List.append_assoc, zeroFrom_append]
          exact damaged_hostName_not_mem name nonempty sizes.1 count whole _
            (zeroFrom_back_allZero _ _ _ whole)

theorem sniNames_of_allZero (content : Bytes) (zeros : AllZero content) :
    sniNames content = [] := by
  apply reading_of_allZero uint16 selfDelimiting_uint16 _ (· = []) rfl content
    zeros
  intro listLen rest read _
  rw [uint16_of_allZero _ _ _ zeros read]
  rfl

theorem lost_of_blank (names result : List String) (some : names ≠ [])
    (named : "" ∉ names) (blank : ∀ name, name ∈ result → name = "") :
    Lost names result := by
  refine ⟨fun none => absurd none some, fun _ => ?_⟩
  refine ⟨names.head some, List.head_mem some, fun member => ?_⟩
  exact named (blank _ member ▸ List.head_mem some)

theorem sniNames_fades (names : List String) (some : names ≠ [])
    (distinct : names.Nodup) (named : "" ∉ names)
    (small : (encodeNames names).length < 65536) :
    Fades sniNames (encodeVector16 (encodeNames names)) [] names := by
  have entries := entryNames_fades names distinct named small
  have list : Fades (reading (bytes (encodeNames names).length)
      (fun list _ => entryNames list)) (encodeNames names) ([] ++ []) names :=
    entries.within _ (by rw [List.append_nil]) [] (fun _ _ => rfl)
  apply list.behind (fun listLen => reading (bytes listLen) (fun list _ =>
    entryNames list)) (encode16 (encodeNames names).length) _
    selfDelimiting_uint16 (uint16_encode16 _ small)
  intro listLen zeros allZero
  apply reading_bytes_of_allZero listLen _ (Lost names) (lost_nil names) zeros
    allZero
  intro list _ listZeros _
  exact lost_of_blank names _ some named (entryNames_of_allZero list listZeros)

namespace Acceptance

variable (acceptance : Acceptance)

/-- Zeros are extensions of type 0 without content. -/
theorem blockNames_of_allZero (ext : Bytes) (zeros : AllZero ext) :
    acceptance.blockNames ext = [] := by
  apply List.flatMap_eq_nil_iff.mpr
  apply many_of_allZero _ acceptance.selfDelimiting_tlsExtension
    (fun extension => TlsParser.extensionNames extension = []) _ ext zeros
  intro input extension rest inputZeros read
  obtain ⟨kind, behind, kindRead, contentRead⟩ :=
    (andThen_eq_some_iff _ _ _ _ _).mp read
  obtain ⟨content, left, vectorRead, parsed⟩ :=
    (andThen_eq_some_iff _ _ _ _ _).mp contentRead
  have behindZeros := inputZeros.suffix (selfDelimiting_uint16.suffix kindRead)
  rw [uint16_of_allZero _ _ _ inputZeros kindRead,
    vector16_of_allZero _ _ _ behindZeros vectorRead] at parsed
  cases parsed
  rfl

theorem extensionStep_sni (content rest : Bytes)
    (silent : acceptance.blockNames rest = []) :
    acceptance.extensionStep 0 content rest = sniNames content := by
  rw [← sniContent_names, extensionStep, extensionContent, if_pos rfl]
  cases (sniContent content).map TlsExtension.sni with
  | none => rfl
  | some extension => simp [silent]

theorem extensionStep_other (kind : Nat) (content rest : Bytes)
    (other : kind ≠ 0) :
    acceptance.extensionStep kind content rest =
      if acceptance.extension kind content then acceptance.blockNames rest
      else [] := by
  rw [extensionStep, extensionContent, if_neg other]
  cases acceptance.extension kind content with
  | false => rfl
  | true => rfl

theorem extensionStep_of_allZero (kind : Nat) (content rest : Bytes)
    (contentZeros : AllZero content) (restZeros : AllZero rest) :
    acceptance.extensionStep kind content rest = [] := by
  have silent := acceptance.blockNames_of_allZero rest restZeros
  by_cases sni : kind = 0
  · rw [sni, acceptance.extensionStep_sni content rest silent]
    exact sniNames_of_allZero content contentZeros
  · rw [acceptance.extensionStep_other kind content rest sni, silent, ite_self]

theorem vector16_extensionStep_of_allZero (kind : Nat) (input : Bytes)
    (zeros : AllZero input) :
    reading vector16 (acceptance.extensionStep kind) input = [] := by
  apply reading_vector16_of_allZero _ (· = []) rfl input zeros
  intro rest restZeros
  exact acceptance.extensionStep_of_allZero kind [] rest (by simp [AllZero])
    restZeros

theorem blockNames_fades_behind (extension : RawExtension)
    (front back : Bytes) (found : List String)
    (small : extension.content.length < 65536)
    (fades : Fades
      (acceptance.extensionStep extension.kind.toNat extension.content)
      front back found) :
    Fades acceptance.blockNames (extension.encode ++ front) back found := by
  have content : Fades
      (reading vector16 (acceptance.extensionStep extension.kind.toNat))
      (encodeVector16 extension.content ++ front) back found := by
    apply fades.behind_of_silent
      (acceptance.extensionStep extension.kind.toNat) _ _
      selfDelimiting_vector16 (fun other => vector16_encode _ other small)
    intro other zeros allZero
    rw [acceptance.extensionStep_other _ _ _ extension.notServerName,
      acceptance.blockNames_of_allZero zeros allZero, ite_self]
  rw [funext acceptance.blockNames_eq, RawExtension.encode, List.append_assoc]
  exact content.behind_of_silent
    (fun kind => reading vector16 (acceptance.extensionStep kind)) _ _
    selfDelimiting_uint16 (uint16_encode16 _ extension.kind.toNat_lt)
    acceptance.vector16_extensionStep_of_allZero

theorem before_fades (before : List RawExtension) (front back : Bytes)
    (found : List String)
    (accepted : ∀ extension, extension ∈ before →
      acceptance.extension extension.kind.toNat extension.content = true)
    (small : (before.flatMap RawExtension.encode).length < 65536)
    (fades : Fades acceptance.blockNames front back found) :
    Fades acceptance.blockNames (before.flatMap RawExtension.encode ++ front)
      back found := by
  induction before with
  | nil => exact fades
  | cons extension before ih =>
      have contentSmall := extension.content_length_le
      rw [List.flatMap_cons, List.length_append] at small
      have rest := ih
        (fun other member => accepted other (List.mem_cons_of_mem _ member))
        (by omega)
      rw [List.flatMap_cons, List.append_assoc]
      apply acceptance.blockNames_fades_behind extension _ _ _ (by omega)
      have passed : acceptance.extensionStep extension.kind.toNat
          extension.content = acceptance.blockNames := by
        funext rest
        rw [acceptance.extensionStep_other _ _ _ extension.notServerName,
          accepted extension List.mem_cons_self, if_pos rfl]
      rw [passed]
      exact rest

theorem after_silent (after : List RawExtension)
    (small : (after.flatMap RawExtension.encode).length < 65536) :
    Silent acceptance.blockNames (after.flatMap RawExtension.encode) := by
  induction after with
  | nil =>
      intro count
      rfl
  | cons extension after ih =>
      have contentSmall := extension.content_length_le
      rw [List.flatMap_cons, List.length_append] at small
      have rest := ih (by omega)
      have step : Silent (acceptance.extensionStep extension.kind.toNat
          extension.content) (after.flatMap RawExtension.encode) := by
        intro count
        rw [acceptance.extensionStep_other _ _ _ extension.notServerName,
          rest count, ite_self]
      have whole := acceptance.blockNames_fades_behind extension []
        (after.flatMap RawExtension.encode) [] (by omega)
        ((fades_nil_iff _ _ _).mpr step)
      rw [List.flatMap_cons]
      simpa using (fades_nil_iff _ _ _).mp whole

theorem serverNames_fades (names : List String) (distinct : names.Nodup)
    (named : "" ∉ names) (after : Bytes)
    (small : (encodeServerNames names).length < 65536)
    (silent : Silent acceptance.blockNames after) :
    Fades acceptance.blockNames (encodeServerNames names) after names := by
  by_cases none : names = []
  · subst none
    exact (fades_nil_iff _ _ _).mpr silent
  · rw [encodeServerNames, if_neg none] at small ⊢
    simp only [encodeVector16, List.length_append] at small
    have names_fade := sniNames_fades names none distinct named (by omega)
    have content : Fades (reading
        (bytes (encodeVector16 (encodeNames names)).length)
        (acceptance.extensionStep 0))
        (encodeVector16 (encodeNames names)) ([] ++ after) names := by
      apply names_fade.within _ (by rw [List.append_nil]) after
      intro content count
      exact acceptance.extensionStep_sni content _ (silent count)
    have vector : Fades (reading vector16 (acceptance.extensionStep 0))
        (encodeVector16 (encodeVector16 (encodeNames names))) after names := by
      rw [vector16, reading_andThen]
      apply content.behind_of_silent (fun len =>
        reading (bytes len) (acceptance.extensionStep 0)) _ _
        selfDelimiting_uint16 (uint16_encode16 _ _)
      · intro len zeros allZero
        apply reading_bytes_of_allZero len _ (· = []) rfl zeros allZero
        exact acceptance.extensionStep_of_allZero 0
      · simp only [encodeVector16, List.length_append]
        omega
    rw [funext acceptance.blockNames_eq]
    exact vector.behind_of_silent
      (fun kind => reading vector16 (acceptance.extensionStep kind)) _ _
      selfDelimiting_uint16 (uint16_encode16 0 (by omega))
      acceptance.vector16_extensionStep_of_allZero

theorem block_fades (block : ExtensionBlock)
    (accepted : ∀ extension, extension ∈ block.before →
      acceptance.extension extension.kind.toNat extension.content = true)
    (small : block.encode.length < 65536) :
    Fades acceptance.blockNames
      (block.before.flatMap RawExtension.encode ++
        encodeServerNames block.names)
      (block.after.flatMap RawExtension.encode) block.names := by
  simp only [ExtensionBlock.encode, List.length_append] at small
  have silent := acceptance.after_silent block.after (by omega)
  have served := acceptance.serverNames_fades block.names block.distinct
    block.named _ (by omega) silent
  exact acceptance.before_fades block.before _ _ _ accepted (by omega) served

end Acceptance

/-! ### The message -/

theorem clientHelloHead_encode (head : HelloHead) (rest : Bytes) :
    clientHelloHead (head.encode ++ rest) = some ((), rest) := by
  have sessionIdSmall := head.sessionIdLength
  have sid : (UInt8.ofNat head.sessionId.length).toNat =
      head.sessionId.length := by
    rw [UInt8.toNat_ofNat']
    omega
  have comp : (UInt8.ofNat head.compressionMethods.length).toNat =
      head.compressionMethods.length := by
    rw [UInt8.toNat_ofNat']
    exact Nat.mod_eq_of_lt head.compressionMethodsLength
  have random (other : Bytes) :
      bytes 32 (head.random ++ other) = some (head.random, other) := by
    have taken := bytes_append head.random other
    rw [head.randomLength] at taken
    exact taken
  simp only [clientHelloHead, HelloHead.encode, encodeVector16, andThen,
    List.append_assoc, List.cons_append,
    uint16_encode16 _ head.version.toNat_lt, random, byte, sid, require,
    decide_eq_true sessionIdSmall, if_true, bytes_append,
    uint16_encode16 _ head.cipherSuitesLength.1,
    decide_eq_true head.cipherSuitesLength.2, comp, succeed]

namespace Acceptance

variable (acceptance : Acceptance)

theorem vector16_blockNames_of_allZero (input : Bytes) (zeros : AllZero input) :
    reading vector16 (fun ext _ => acceptance.blockNames ext) input = [] := by
  apply reading_vector16_of_allZero _ (· = []) rfl input zeros
  intro rest _
  rfl

theorem helloNames_of_allZero (body : Bytes) (zeros : AllZero body) :
    acceptance.helloNames body = [] := by
  apply reading_of_allZero _ selfDelimiting_clientHelloHead _ (· = []) rfl body
    zeros
  intro _ rest _ restZeros
  exact acceptance.vector16_blockNames_of_allZero rest restZeros

theorem helloNames_fades_behind (head : HelloHead) (front back : Bytes)
    (found : List String)
    (fades : Fades
      (reading vector16 (fun ext _ => acceptance.blockNames ext))
      front back found) :
    Fades acceptance.helloNames (head.encode ++ front) back found := by
  exact fades.behind_of_silent (fun _ => reading vector16 (fun ext _ =>
      acceptance.blockNames ext)) _ () selfDelimiting_clientHelloHead
    (clientHelloHead_encode head)
    (fun _ => acceptance.vector16_blockNames_of_allZero)

theorem vector16_blockNames_fades (front back : Bytes) (found : List String)
    (small : (front ++ back).length < 65536)
    (fades : Fades acceptance.blockNames front back found) :
    Fades (reading vector16 (fun ext _ => acceptance.blockNames ext))
      (encode16 (front ++ back).length ++ front) back found := by
  have content : Fades (reading (bytes (front ++ back).length)
      (fun ext _ => acceptance.blockNames ext)) front (back ++ []) found :=
    fades.within _ rfl [] (fun _ _ => rfl)
  rw [List.append_nil] at content
  rw [vector16, reading_andThen]
  apply content.behind_of_silent (fun len => reading (bytes len) (fun ext _ =>
      acceptance.blockNames ext)) _ _ selfDelimiting_uint16
    (uint16_encode16 _ small)
  intro len zeros allZero
  apply reading_bytes_of_allZero len _ (· = []) rfl zeros allZero
  intro ext _ extZeros _
  exact acceptance.blockNames_of_allZero ext extZeros

end Acceptance

theorem Hello.body_fades (hello : Hello) (acceptance : Acceptance)
    (accepted : hello.Accepted acceptance) :
    ∃ front, hello.body = front ++ hello.after ∧
      Fades acceptance.helloNames front hello.after hello.names := by
  have fits := hello.fits
  unfold helloBody at fits
  cases block : hello.block with
  | none =>
      refine ⟨hello.head.encode ++ [],
        by simp [body, after, helloBody, block], ?_⟩
      simp only [after, names, block, Option.elim]
      apply acceptance.helloNames_fades_behind
      exact (fades_nil_iff _ _ _).mpr (fun count => rfl)
  | some block' =>
      simp only [block, Option.elim, List.length_append, encodeVector16] at fits
      have inside := acceptance.block_fades block' (accepted block' block)
        (by omega)
      have whole : block'.before.flatMap RawExtension.encode ++
          encodeServerNames block'.names ++
          block'.after.flatMap RawExtension.encode = block'.encode := rfl
      have vector := acceptance.vector16_blockNames_fades _ _ _
        (by rw [whole]; omega) inside
      rw [whole] at vector
      refine ⟨hello.head.encode ++ (encode16 block'.encode.length ++
        (block'.before.flatMap RawExtension.encode ++
          encodeServerNames block'.names)), ?_, ?_⟩
      · simp only [body, after, helloBody, block, Option.elim, encodeVector16,
          List.append_assoc, ← whole]
      · simp only [after, names, block, Option.elim]
        exact acceptance.helloNames_fades_behind hello.head _ _ _ vector

namespace Acceptance

variable (acceptance : Acceptance)

theorem messageStep_silent (kind : UInt8) (body rest : Bytes)
    (bodySilent : acceptance.helloNames body = [])
    (restSilent : acceptance.recordNames rest = []) :
    acceptance.messageStep kind body rest = [] := by
  have named := clientHello_names acceptance body
  rw [bodySilent] at named
  unfold messageStep messageContent
  by_cases hello : kind = 1
  · rw [if_pos hello]
    cases parsed : clientHello body with
    | none => rfl
    | some message =>
        rw [parsed] at named
        simp only [Option.elim] at named
        simp only [named, restSilent, List.append_nil]
  · rw [if_neg hello]
    cases acceptance.message kind body with
    | false => rfl
    | true => simp [messageNames, restSilent]

theorem messageStep_hello (body : Bytes) :
    acceptance.messageStep 1 body [] = acceptance.helloNames body := by
  rw [← clientHello_names acceptance body, messageStep, messageContent,
    if_pos rfl]
  cases clientHello body with
  | none => rfl
  | some message =>
      have silent : acceptance.recordNames [] = [] := rfl
      simp [silent]

/-- Zeros are messages of type 0. -/
theorem recordNames_of_allZero (data : Bytes) (zeros : AllZero data) :
    acceptance.recordNames data = [] := by
  apply List.flatMap_eq_nil_iff.mpr
  apply many_of_allZero _ acceptance.selfDelimiting_messageHandshake
    (fun message => acceptance.messageNames message = []) _ data zeros
  intro input message rest inputZeros read
  obtain ⟨kind, _, kindRead, lenRead⟩ := (andThen_eq_some_iff _ _ _ _ _).mp read
  obtain ⟨len, _, _, bodyRead⟩ := (andThen_eq_some_iff _ _ _ _ _).mp lenRead
  obtain ⟨body, _, _, parsed⟩ := (andThen_eq_some_iff _ _ _ _ _).mp bodyRead
  have zero := byte_of_allZero _ _ _ inputZeros kindRead
  rw [zero, messageContent, if_neg (by decide)] at parsed
  cases accepted : acceptance.message 0 body with
  | false => simp [accepted, ofOption] at parsed
  | true =>
      rw [accepted] at parsed
      cases parsed
      rfl

theorem bytes_messageStep_of_allZero (kind : UInt8) (len : Nat) (input : Bytes)
    (zeros : AllZero input) :
    reading (bytes len) (acceptance.messageStep kind) input = [] := by
  apply reading_bytes_of_allZero len _ (· = []) rfl input zeros
  intro body rest bodyZeros restZeros
  exact acceptance.messageStep_silent kind body rest
    (acceptance.helloNames_of_allZero body bodyZeros)
    (acceptance.recordNames_of_allZero rest restZeros)

theorem recordNames_fades (front back : Bytes) (found : List String)
    (small : (front ++ back).length < 16777216)
    (fades : Fades acceptance.helloNames front back found) :
    Fades acceptance.recordNames
      ([1] ++ (encode24 (front ++ back).length ++ front)) back found := by
  have content : Fades (reading (bytes (front ++ back).length)
      (acceptance.messageStep 1)) front (back ++ []) found :=
    fades.within _ rfl [] (fun body _ => acceptance.messageStep_hello body)
  rw [List.append_nil] at content
  have len : Fades (reading uint24 (fun len =>
      reading (bytes len) (acceptance.messageStep 1)))
      (encode24 (front ++ back).length ++ front) back found :=
    content.behind_of_silent (fun len =>
        reading (bytes len) (acceptance.messageStep 1)) _ _
      selfDelimiting_uint24 (uint24_encode24 _ small)
      (acceptance.bytes_messageStep_of_allZero 1)
  rw [funext acceptance.recordNames_eq]
  apply len.behind_of_silent (fun kind => reading uint24 (fun len =>
      reading (bytes len) (acceptance.messageStep kind))) _ _
    selfDelimiting_byte (fun _ => rfl)
  intro kind zeros allZero
  apply reading_of_allZero _ selfDelimiting_uint24 _ (· = []) rfl zeros allZero
  intro len rest _ restZeros
  exact acceptance.bytes_messageStep_of_allZero kind len rest restZeros

end Acceptance

end TlsProxyTunnel
