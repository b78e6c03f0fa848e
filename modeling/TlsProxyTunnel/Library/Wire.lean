/-
Decoders of length-prefixed binary formats, and the encodings they read back.

A decoder that succeeds has consumed a front part of its input; where success
depends on that part alone, the decoder delimits what it reads by itself.
-/

import Mathlib

namespace Wire

abbrev Decoder (α : Type) := List UInt8 → Option (α × List UInt8)

variable {α β : Type}

namespace Decoder

def succeed (value : α) : Decoder α := fun input => some (value, input)

def require (condition : Bool) : Decoder Unit := fun input =>
  if condition then some ((), input) else none

def ofOption (value : Option α) : Decoder α := fun input =>
  match value with
  | some value => some (value, input)
  | none => none

def andThen (first : Decoder α) (next : α → Decoder β) : Decoder β :=
  fun input =>
    match first input with
    | some (value, rest) => next value rest
    | none => none

def byte : Decoder UInt8
  | [] => none
  | value :: rest => some (value, rest)

def bytes (count : Nat) : Decoder (List UInt8) := fun input =>
  if count ≤ input.length then some (input.take count, input.drop count)
  else none

def uint16 : Decoder Nat :=
  byte.andThen (fun high => byte.andThen (fun low =>
    succeed (high.toNat * 256 + low.toNat)))

def uint24 : Decoder Nat :=
  byte.andThen (fun high => uint16.andThen (fun low =>
    succeed (high.toNat * 65536 + low)))

def vector16 : Decoder (List UInt8) := uint16.andThen bytes

theorem andThen_eq_some_iff (first : Decoder α) (next : α → Decoder β)
    (input rest : List UInt8) (value : β) :
    first.andThen next input = some (value, rest) ↔
      ∃ middle between, first input = some (middle, between) ∧
        next middle between = some (value, rest) := by
  unfold andThen
  cases first input with
  | none => simp
  | some decoded =>
      rcases decoded with ⟨middle, between⟩
      simp

end Decoder

open Decoder

/-- Items up to the first that does not decode, at most `fuel` of them. -/
def manyWithin (item : Decoder α) : Nat → List UInt8 → List α
  | 0, _ => []
  | fuel + 1, input =>
      match item input with
      | some (value, rest) => value :: manyWithin item fuel rest
      | none => []

def many (item : Decoder α) (input : List UInt8) : List α :=
  manyWithin item input.length input

def encode16 (value : Nat) : List UInt8 :=
  [UInt8.ofNat (value / 256), UInt8.ofNat value]

def encode24 (value : Nat) : List UInt8 :=
  UInt8.ofNat (value / 65536) :: encode16 value

def encodeVector16 (content : List UInt8) : List UInt8 :=
  encode16 content.length ++ content

theorem uint16_encode16 (value : Nat) (small : value < 65536)
    (rest : List UInt8) :
    uint16 (encode16 value ++ rest) = some (value, rest) := by
  simp only [uint16, andThen, encode16, List.cons_append, List.nil_append,
    byte, succeed, UInt8.toNat_ofNat', Option.some.injEq, Prod.mk.injEq,
    and_true]
  omega

theorem uint24_encode24 (value : Nat) (small : value < 16777216)
    (rest : List UInt8) :
    uint24 (encode24 value ++ rest) = some (value, rest) := by
  simp only [uint24, uint16, andThen, encode24, encode16, List.cons_append,
    List.nil_append, byte, succeed, UInt8.toNat_ofNat', Option.some.injEq,
    Prod.mk.injEq, and_true]
  omega

theorem bytes_append (content rest : List UInt8) :
    bytes content.length (content ++ rest) = some (content, rest) := by
  simp [bytes]

theorem vector16_encode (content rest : List UInt8)
    (small : content.length < 65536) :
    vector16 (encodeVector16 content ++ rest) = some (content, rest) := by
  rw [vector16, andThen, encodeVector16, List.append_assoc,
    uint16_encode16 _ small]
  exact bytes_append content rest

theorem eq_encode16_of_uint16 (input rest : List UInt8) (value : Nat)
    (read : uint16 input = some (value, rest)) :
    value < 65536 ∧ input = encode16 value ++ rest := by
  match input, read with
  | high :: low :: tail, read =>
      simp only [uint16, andThen, byte, succeed, Option.some.injEq,
        Prod.mk.injEq] at read
      obtain ⟨rfl, rfl⟩ := read
      have highSmall := high.toNat_lt
      have lowSmall := low.toNat_lt
      have upper : UInt8.ofNat ((high.toNat * 256 + low.toNat) / 256) = high := by
        apply UInt8.toNat_inj.mp
        rw [UInt8.toNat_ofNat']
        omega
      have lower : UInt8.ofNat (high.toNat * 256 + low.toNat) = low := by
        apply UInt8.toNat_inj.mp
        rw [UInt8.toNat_ofNat']
        omega
      refine ⟨by omega, ?_⟩
      simp only [encode16, upper, lower, List.cons_append, List.nil_append]

theorem eq_encodeVector16_of_vector16 (input content rest : List UInt8)
    (read : vector16 input = some (content, rest)) :
    input = encodeVector16 content ++ rest := by
  obtain ⟨count, behind, counted, taken⟩ := (andThen_eq_some_iff _ _ _ _ _).mp read
  obtain ⟨_, split⟩ := eq_encode16_of_uint16 _ _ _ counted
  unfold Decoder.bytes at taken
  split at taken
  · rename_i available
    cases taken
    rw [split, encodeVector16, List.length_take_of_le available,
      List.append_assoc, List.take_append_drop]
  · cases taken

/-! ### Self-delimiting decoders -/

/-- A success depends on nothing behind the bytes it consumed. -/
def SelfDelimiting (decoder : Decoder α) : Prop :=
  ∀ input value rest, decoder input = some (value, rest) →
    ∃ used, input = used ++ rest ∧
      ∀ other, decoder (used ++ other) = some (value, other)

theorem selfDelimiting_succeed (value : α) :
    SelfDelimiting (succeed value) := by
  intro input decoded rest read
  cases read
  exact ⟨[], rfl, fun other => rfl⟩

theorem selfDelimiting_require (condition : Bool) :
    SelfDelimiting (require condition) := by
  intro input value rest read
  cases condition with
  | false => cases read
  | true =>
      cases read
      exact ⟨[], rfl, fun other => rfl⟩

theorem selfDelimiting_ofOption (value : Option α) :
    SelfDelimiting (ofOption value) := by
  intro input decoded rest read
  cases value with
  | none => cases read
  | some value =>
      cases read
      exact ⟨[], rfl, fun other => rfl⟩

theorem selfDelimiting_byte : SelfDelimiting byte := by
  intro input value rest read
  cases input with
  | nil => cases read
  | cons first more =>
      cases read
      exact ⟨[value], rfl, fun other => rfl⟩

theorem selfDelimiting_bytes (count : Nat) :
    SelfDelimiting (Decoder.bytes count) := by
  intro input value rest read
  unfold Decoder.bytes at read
  split at read <;> cases read
  rename_i available
  have length : (input.take count).length = count :=
    List.length_take_of_le available
  refine ⟨input.take count, (List.take_append_drop count input).symm, ?_⟩
  intro other
  have again := bytes_append (input.take count) other
  rw [length] at again
  exact again

theorem SelfDelimiting.andThen {first : Decoder α} {next : α → Decoder β}
    (firstDelimits : SelfDelimiting first)
    (nextDelimits : ∀ value, SelfDelimiting (next value)) :
    SelfDelimiting (first.andThen next) := by
  intro input value rest read
  obtain ⟨middle, between, firstRead, nextRead⟩ :=
    (andThen_eq_some_iff _ _ _ _ _).mp read
  obtain ⟨front, split, firstAgain⟩ := firstDelimits _ _ _ firstRead
  obtain ⟨back, splitAgain, nextAgain⟩ := nextDelimits middle _ _ _ nextRead
  refine ⟨front ++ back, by rw [split, splitAgain, List.append_assoc], ?_⟩
  intro other
  rw [List.append_assoc, Decoder.andThen, firstAgain]
  exact nextAgain other

theorem selfDelimiting_uint16 : SelfDelimiting uint16 :=
  selfDelimiting_byte.andThen (fun _ => selfDelimiting_byte.andThen
    (fun _ => selfDelimiting_succeed _))

theorem selfDelimiting_uint24 : SelfDelimiting uint24 :=
  selfDelimiting_byte.andThen (fun _ => selfDelimiting_uint16.andThen
    (fun _ => selfDelimiting_succeed _))

theorem selfDelimiting_vector16 : SelfDelimiting vector16 :=
  selfDelimiting_uint16.andThen selfDelimiting_bytes

theorem SelfDelimiting.suffix {decoder : Decoder α}
    (delimits : SelfDelimiting decoder) {input rest : List UInt8} {value : α}
    (read : decoder input = some (value, rest)) : rest <:+ input := by
  obtain ⟨used, split, _⟩ := delimits _ _ _ read
  exact ⟨used, split.symm⟩

/-- Whatever decodes has taken at least one byte. -/
def Consuming (item : Decoder α) : Prop :=
  ∀ input value rest, item input = some (value, rest) →
    rest.length < input.length

theorem consuming_byte : Consuming byte := by
  intro input value rest read
  match input, read with
  | first :: more, read =>
      cases read
      simp

theorem Consuming.andThen {first : Decoder α} {next : α → Decoder β}
    (consuming : Consuming first)
    (nextDelimits : ∀ value, SelfDelimiting (next value)) :
    Consuming (first.andThen next) := by
  intro input value rest read
  obtain ⟨middle, between, firstRead, nextRead⟩ :=
    (andThen_eq_some_iff _ _ _ _ _).mp read
  have shorter := consuming _ _ _ firstRead
  have behind := ((nextDelimits middle).suffix nextRead).length_le
  omega

theorem manyWithin_nil (item : Decoder α) (consuming : Consuming item)
    (fuel : Nat) : manyWithin item fuel [] = [] := by
  cases fuel with
  | zero => rfl
  | succ fuel =>
      cases read : item [] with
      | none => simp [manyWithin, read]
      | some decoded =>
          have shorter := consuming [] decoded.1 decoded.2 read
          simp at shorter

theorem manyWithin_eq_manyWithin (item : Decoder α) (consuming : Consuming item)
    (left right : Nat) (input : List UInt8) (leftEnough : input.length ≤ left)
    (rightEnough : input.length ≤ right) :
    manyWithin item left input = manyWithin item right input := by
  induction left generalizing right input with
  | zero =>
      have empty : input = [] := List.length_eq_zero_iff.mp (by omega)
      rw [empty, manyWithin_nil item consuming, manyWithin_nil item consuming]
  | succ left ih =>
      cases right with
      | zero =>
          have empty : input = [] := List.length_eq_zero_iff.mp (by omega)
          rw [empty, manyWithin_nil item consuming,
            manyWithin_nil item consuming]
      | succ right =>
          cases read : item input with
          | none => simp [manyWithin, read]
          | some decoded =>
              have shorter := consuming input decoded.1 decoded.2 read
              simp only [manyWithin, read]
              rw [ih right decoded.2 (by omega) (by omega)]

theorem many_of_none (item : Decoder α) (input : List UInt8)
    (stopped : item input = none) : many item input = [] := by
  rw [many]
  cases input.length with
  | zero => rfl
  | succ fuel => simp [manyWithin, stopped]

theorem many_of_some (item : Decoder α) (consuming : Consuming item)
    (input rest : List UInt8) (value : α)
    (read : item input = some (value, rest)) :
    many item input = value :: many item rest := by
  have shorter := consuming input value rest read
  cases length : input.length with
  | zero => omega
  | succ fuel =>
      rw [many, length]
      simp only [manyWithin, read]
      rw [manyWithin_eq_manyWithin item consuming fuel rest.length rest
        (by omega) (Nat.le_refl _), many]

end Wire
