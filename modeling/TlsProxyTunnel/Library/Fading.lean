/-
What a decoder makes of input whose end has been overwritten with zeros.

Damage inside the bytes a decoder would have consumed leaves nothing but zeros
to whoever reads on; damage behind them changes nothing.  So a reader of nested
fields finds everything as long as the last field it needs is undamaged, and
misses something from then on.
-/

import TlsProxyTunnel.Library.Wire

namespace Wire

open Decoder

variable {α β ν : Type}

def AllZero (input : List UInt8) : Prop := ∀ byte, byte ∈ input → byte = 0

def zeroFrom : Nat → List UInt8 → List UInt8
  | _, [] => []
  | 0, _ :: rest => 0 :: zeroFrom 0 rest
  | count + 1, byte :: rest => byte :: zeroFrom count rest

@[simp] theorem zeroFrom_length (count : Nat) (input : List UInt8) :
    (zeroFrom count input).length = input.length := by
  fun_induction zeroFrom count input with
  | case1 => rfl
  | case2 byte rest ih => simp [ih]
  | case3 count byte rest ih => simp [ih]

theorem zeroFrom_append (count : Nat) (front back : List UInt8) :
    zeroFrom count (front ++ back) =
      zeroFrom count front ++ zeroFrom (count - front.length) back := by
  induction front generalizing count with
  | nil => simp [zeroFrom]
  | cons byte front ih =>
      cases count with
      | zero => simp [zeroFrom, ih]
      | succ count => simp [zeroFrom, ih]

theorem zeroFrom_zero_allZero (input : List UInt8) :
    AllZero (zeroFrom 0 input) := by
  induction input with
  | nil => simp [zeroFrom, AllZero]
  | cons byte rest ih => simpa [zeroFrom, AllZero] using ih

theorem zeroFrom_eq (count : Nat) (input : List UInt8) :
    zeroFrom count input =
      input.take count ++ List.replicate (input.length - count) 0 := by
  fun_induction zeroFrom count input with
  | case1 => simp
  | case2 byte rest ih => simp [ih, List.replicate_succ]
  | case3 count byte rest ih => simp [ih]

theorem zeroFrom_eq_self_iff (count : Nat) (input : List UInt8) :
    zeroFrom count input = input ↔
      ∀ position, count ≤ position → position < input.length →
        input[position]? = some 0 := by
  fun_induction zeroFrom count input with
  | case1 => simp
  | case2 byte rest ih =>
      rw [List.cons.injEq, ih]
      constructor
      · rintro ⟨first, others⟩ position _ within
        cases position with
        | zero => simp [← first]
        | succ position =>
            simpa using others position (by omega) (by simpa using within)
      · intro zeros
        refine ⟨?_, fun position _ within => ?_⟩
        · have first := zeros 0 (Nat.le_refl _) (by simp)
          simpa using first.symm
        · simpa using zeros (position + 1) (by omega) (by simpa using within)
  | case3 count byte rest ih =>
      rw [List.cons.injEq, ih]
      constructor
      · rintro ⟨_, others⟩ position behind within
        cases position with
        | zero => omega
        | succ position =>
            simpa using others position (by omega) (by simpa using within)
      · intro zeros
        refine ⟨rfl, fun position behind within => ?_⟩
        simpa using zeros (position + 1) (by omega) (by simpa using within)

theorem zeroFrom_of_length_le (count : Nat) (input : List UInt8)
    (visible : input.length ≤ count) : zeroFrom count input = input := by
  rw [zeroFrom_eq, List.take_of_length_le visible,
    Nat.sub_eq_zero_of_le visible, List.replicate_zero, List.append_nil]

theorem zeroFrom_back_allZero (count : Nat) (front back : List UInt8)
    (damaged : zeroFrom count front ≠ front) :
    AllZero (zeroFrom (count - front.length) back) := by
  have reaches : count - front.length = 0 := by
    by_contra beyond
    exact damaged (zeroFrom_of_length_le count front (by omega))
  rw [reaches]
  exact zeroFrom_zero_allZero back

theorem AllZero.suffix {input rest : List UInt8} (zeros : AllZero input)
    (suffix : rest <:+ input) : AllZero rest :=
  fun byte member => zeros byte (suffix.subset member)

theorem AllZero.take {input : List UInt8} (zeros : AllZero input)
    (count : Nat) : AllZero (input.take count) :=
  fun byte member => zeros byte (List.mem_of_mem_take member)

theorem AllZero.append {front back : List UInt8} (frontZeros : AllZero front)
    (backZeros : AllZero back) : AllZero (front ++ back) := by
  intro byte member
  rcases List.mem_append.mp member with inFront | inBack
  · exact frontZeros byte inFront
  · exact backZeros byte inBack

/-- Where a decoder would have consumed exactly `front`, and zeros have damaged
it, whatever the decoder leaves is zeros. -/
theorem SelfDelimiting.damaged {decoder : Decoder α}
    (delimits : SelfDelimiting decoder) (front : List UInt8) (value : α)
    (reads : ∀ other, decoder (front ++ other) = some (value, other))
    (count : Nat) (damaged : zeroFrom count front ≠ front)
    (back rest : List UInt8) (zeros : AllZero back) (found : α)
    (read : decoder (zeroFrom count front ++ back) = some (found, rest)) :
    AllZero rest := by
  have short : count < front.length := by
    by_contra visible
    exact damaged (zeroFrom_of_length_le count front (by omega))
  have shown : (front.take count).length = count :=
    List.length_take_of_le (Nat.le_of_lt short)
  obtain ⟨used, split, again⟩ := delimits _ _ _ read
  rw [zeroFrom_eq, List.append_assoc] at split
  -- What was consumed reaches beyond the last byte that is still there.
  have reaches : count ≤ used.length := by
    by_contra within
    have visible : used <+: front.take count := by
      apply List.prefix_of_prefix_length_le ⟨rest, split.symm⟩
        (List.prefix_append _ _)
      omega
    obtain ⟨hidden, complete⟩ := visible.trans (List.take_prefix count front)
    have twice := again hidden
    have once := reads []
    rw [complete] at twice
    rw [List.append_nil, twice] at once
    have nothing : hidden = [] := congrArg Prod.snd (Option.some.inj once)
    rw [nothing, List.append_nil] at complete
    have lengths := congrArg List.length complete
    omega
  have zeroed : AllZero
      (List.replicate (front.length - count) 0 ++ back) :=
    AllZero.append (fun byte member => List.eq_of_mem_replicate member) zeros
  apply zeroed.suffix
  refine ⟨used.drop count, ?_⟩
  have dropped := congrArg (List.drop count) split
  rw [List.drop_append_of_le_length reaches,
    List.drop_append_of_le_length (Nat.le_of_eq shown.symm),
    List.drop_of_length_le (Nat.le_of_eq shown), List.nil_append] at dropped
  exact dropped.symm

theorem uint16_of_allZero (input rest : List UInt8) (value : Nat)
    (zeros : AllZero input) (read : uint16 input = some (value, rest)) :
    value = 0 := by
  obtain ⟨small, split⟩ := eq_encode16_of_uint16 _ _ _ read
  have high := zeros (UInt8.ofNat (value / 256)) (by simp [split, encode16])
  have low := zeros (UInt8.ofNat value) (by simp [split, encode16])
  have highValue := congrArg UInt8.toNat high
  have lowValue := congrArg UInt8.toNat low
  rw [UInt8.toNat_ofNat', UInt8.toNat_zero] at highValue lowValue
  omega

theorem vector16_of_allZero (input content rest : List UInt8)
    (zeros : AllZero input) (read : vector16 input = some (content, rest)) :
    content = [] := by
  obtain ⟨count, behind, counted, taken⟩ :=
    (andThen_eq_some_iff _ _ _ _ _).mp read
  rw [uint16_of_allZero _ _ _ zeros counted] at taken
  cases taken
  rfl

theorem bytes_of_allZero (count : Nat) (input content rest : List UInt8)
    (zeros : AllZero input) (read : bytes count input = some (content, rest)) :
    AllZero content := by
  unfold bytes at read
  split at read
  · cases read
    exact zeros.take count
  · cases read

theorem byte_of_allZero (input rest : List UInt8) (value : UInt8)
    (zeros : AllZero input) (read : byte input = some (value, rest)) :
    value = 0 := by
  match input, read with
  | first :: more, read =>
      cases read
      exact zeros value List.mem_cons_self

theorem many_of_allZero (item : Decoder α) (delimits : SelfDelimiting item)
    (expected : α → Prop)
    (each : ∀ input value rest, AllZero input →
      item input = some (value, rest) → expected value)
    (input : List UInt8) (zeros : AllZero input) :
    ∀ value, value ∈ many item input → expected value := by
  have within (fuel : Nat) (input : List UInt8) (zeros : AllZero input) :
      ∀ value, value ∈ manyWithin item fuel input → expected value := by
    induction fuel generalizing input with
    | zero => simp [manyWithin]
    | succ fuel ih =>
        intro value member
        unfold manyWithin at member
        split at member
        · rename_i first rest read
          rcases List.mem_cons.mp member with same | later
          · rw [same]
            exact each input first rest zeros read
          · exact ih rest (zeros.suffix (delimits.suffix read)) value later
        · simp at member
  exact within input.length input zeros

/-! ### Reading on -/

/-- Continue behind a decoded value, or stop with nothing. -/
def reading (first : Decoder α) (next : α → List UInt8 → List ν)
    (input : List UInt8) : List ν :=
  match first input with
  | some (value, rest) => next value rest
  | none => []

theorem reading_andThen (first : Decoder α) (second : α → Decoder β)
    (next : β → List UInt8 → List ν) :
    reading (first.andThen second) next =
      reading first (fun value => reading (second value) next) := by
  funext input
  unfold reading andThen
  cases first input with
  | none => rfl
  | some decoded => rfl

theorem reading_ofOption (value : Option α) (next : α → List UInt8 → List ν)
    (input : List UInt8) :
    reading (ofOption value) next input =
      match value with
      | some value => next value input
      | none => [] := by
  cases value with
  | none => rfl
  | some value => rfl

theorem reading_require (condition : Bool) (next : Unit → List UInt8 → List ν)
    (input : List UInt8) :
    reading (require condition) next input =
      if condition then next () input else [] := by
  cases condition with
  | false => rfl
  | true => rfl

theorem flatMap_many (item : Decoder α) (consuming : Consuming item)
    (names : α → List ν) (input : List UInt8) :
    (many item input).flatMap names =
      reading item (fun value rest =>
        names value ++ (many item rest).flatMap names) input := by
  cases read : item input with
  | none => rw [many_of_none item input read, reading, read, List.flatMap_nil]
  | some decoded =>
      rw [many_of_some item consuming input decoded.2 decoded.1 read, reading,
        read, List.flatMap_cons]

theorem reading_of_allZero (first : Decoder α) (delimits : SelfDelimiting first)
    (next : α → List UInt8 → List ν) (expected : List ν → Prop)
    (stopped : expected []) (input : List UInt8) (zeros : AllZero input)
    (later : ∀ value rest, first input = some (value, rest) → AllZero rest →
      expected (next value rest)) :
    expected (reading first next input) := by
  unfold reading
  split
  · rename_i value rest read
    exact later value rest read (zeros.suffix (delimits.suffix read))
  · exact stopped

theorem reading_bytes_of_allZero (count : Nat)
    (next : List UInt8 → List UInt8 → List ν) (expected : List ν → Prop)
    (stopped : expected []) (input : List UInt8) (zeros : AllZero input)
    (later : ∀ content rest, AllZero content → AllZero rest →
      expected (next content rest)) :
    expected (reading (bytes count) next input) := by
  apply reading_of_allZero _ (selfDelimiting_bytes count) _ expected stopped
    input zeros
  intro content rest read restZeros
  exact later content rest (bytes_of_allZero _ _ _ _ zeros read) restZeros

theorem reading_vector16_of_allZero (next : List UInt8 → List UInt8 → List ν)
    (expected : List ν → Prop) (stopped : expected []) (input : List UInt8)
    (zeros : AllZero input)
    (later : ∀ rest, AllZero rest → expected (next [] rest)) :
    expected (reading vector16 next input) := by
  apply reading_of_allZero _ selfDelimiting_vector16 _ expected stopped input
    zeros
  intro content rest read restZeros
  rw [vector16_of_allZero _ _ _ zeros read]
  exact later rest restZeros

/-- Something of `found` is missing; where there is nothing to find, nothing
is found. -/
def Lost (found result : List ν) : Prop :=
  (found = [] → result = []) ∧
    (found ≠ [] → ∃ item, item ∈ found ∧ item ∉ result)

theorem lost_nil (found : List ν) : Lost found [] :=
  ⟨fun _ => rfl, fun some =>
    ⟨found.head some, List.head_mem some, List.not_mem_nil⟩⟩

/-- A reader finds `found` in `front ++ back` as long as `front` is undamaged,
and loses something of it from then on. -/
structure Fades (read : List UInt8 → List ν) (front back : List UInt8)
    (found : List ν) : Prop where
  intact :
    ∀ count, zeroFrom count front = front →
      read (zeroFrom count (front ++ back)) = found
  damaged :
    ∀ count, zeroFrom count front ≠ front →
      Lost found (read (zeroFrom count (front ++ back)))

def Silent (read : List UInt8 → List ν) (input : List UInt8) : Prop :=
  ∀ count, read (zeroFrom count input) = []

theorem fades_nil_iff (read : List UInt8 → List ν) (front back : List UInt8) :
    Fades read front back [] ↔ Silent read (front ++ back) := by
  constructor
  · intro fades count
    by_cases whole : zeroFrom count front = front
    · exact fades.intact count whole
    · exact (fades.damaged count whole).1 rfl
  · intro silent
    constructor
    · intro count _
      exact silent count
    · intro count _
      rw [silent count]
      exact lost_nil []

theorem zeroFrom_append_eq_self_iff (count : Nat) (front back : List UInt8) :
    zeroFrom count (front ++ back) = front ++ back ↔
      zeroFrom count front = front ∧
        zeroFrom (count - front.length) back = back := by
  rw [zeroFrom_append]
  constructor
  · intro same
    exact List.append_inj same (zeroFrom_length count front)
  · rintro ⟨frontWhole, backWhole⟩
    rw [frontWhole, backWhole]

theorem Fades.behind {first : Decoder α} {front back : List UInt8}
    {found : List ν} (next : α → List UInt8 → List ν) (head : List UInt8)
    (value : α) (fades : Fades (next value) front back found)
    (delimits : SelfDelimiting first)
    (reads : ∀ other, first (head ++ other) = some (value, other))
    (blank : ∀ other zeros, AllZero zeros → Lost found (next other zeros)) :
    Fades (reading first next) (head ++ front) back found := by
  have onward (count : Nat) (whole : zeroFrom count head = head) :
      reading first next (zeroFrom count (head ++ front ++ back)) =
        next value (zeroFrom (count - head.length) (front ++ back)) := by
    rw [List.append_assoc, zeroFrom_append, whole, reading, reads]
  constructor
  · intro count undamaged
    obtain ⟨whole, rest⟩ := (zeroFrom_append_eq_self_iff _ _ _).mp undamaged
    rw [onward count whole]
    exact fades.intact _ rest
  · intro count damaged
    by_cases whole : zeroFrom count head = head
    · rw [onward count whole]
      apply fades.damaged
      intro rest
      exact damaged ((zeroFrom_append_eq_self_iff _ _ _).mpr ⟨whole, rest⟩)
    · rw [List.append_assoc, zeroFrom_append]
      have gone := zeroFrom_back_allZero count head (front ++ back) whole
      unfold reading
      split
      · rename_i other rest read
        exact blank other rest
          (delimits.damaged head value reads count whole _ rest gone other read)
      · exact lost_nil found

/-- The same, where the reader finds nothing at all in zeros. -/
theorem Fades.behind_of_silent {first : Decoder α} {front back : List UInt8}
    {found : List ν} (next : α → List UInt8 → List ν) (head : List UInt8)
    (value : α) (fades : Fades (next value) front back found)
    (delimits : SelfDelimiting first)
    (reads : ∀ other, first (head ++ other) = some (value, other))
    (silent : ∀ other zeros, AllZero zeros → next other zeros = []) :
    Fades (reading first next) (head ++ front) back found := by
  apply fades.behind next head value delimits reads
  intro other zeros allZero
  rw [silent other zeros allZero]
  exact lost_nil found

theorem Fades.within {read : List UInt8 → List ν}
    {next : List UInt8 → List UInt8 → List ν} {front back : List UInt8}
    {found : List ν} (fades : Fades read front back found) (length : Nat)
    (exact_length : length = (front ++ back).length) (tail : List UInt8)
    (same : ∀ content count, next content (zeroFrom count tail) = read content) :
    Fades (reading (bytes length) next) front (back ++ tail) found := by
  have inside (count : Nat) :
      reading (bytes length) next (zeroFrom count (front ++ (back ++ tail))) =
        read (zeroFrom count (front ++ back)) := by
    have taken := bytes_append (zeroFrom count (front ++ back))
      (zeroFrom (count - (front ++ back).length) tail)
    rw [zeroFrom_length, ← exact_length] at taken
    rw [← List.append_assoc, zeroFrom_append, reading, ← exact_length, taken]
    exact same _ _
  constructor
  · intro count undamaged
    rw [inside]
    exact fades.intact count undamaged
  · intro count damaged
    rw [inside]
    exact fades.damaged count damaged

end Wire
