/-
Text as a program receives it from a byte stream: lossy UTF-8 decoding with
maximal-subpart replacement, whitespace-separated words, and bounded unsigned
decimal numerals.

The facts kept here are about cutting: text that has passed an ASCII byte, or
a whitespace character, is not affected by whatever follows.
-/

import Mathlib

namespace Text

/-- The ranges that the bytes after a leading byte must lie in; no leading
byte of a well-formed sequence has the answer `none`. -/
def followers (leading : UInt8) : Option (List (UInt8 × UInt8)) :=
  if leading ≤ 0x7F then some []
  else if 0xC2 ≤ leading ∧ leading ≤ 0xDF then some [(0x80, 0xBF)]
  else if leading = 0xE0 then some [(0xA0, 0xBF), (0x80, 0xBF)]
  else if leading = 0xED then some [(0x80, 0x9F), (0x80, 0xBF)]
  else if 0xE1 ≤ leading ∧ leading ≤ 0xEF then some [(0x80, 0xBF), (0x80, 0xBF)]
  else if leading = 0xF0 then some [(0x90, 0xBF), (0x80, 0xBF), (0x80, 0xBF)]
  else if 0xF1 ≤ leading ∧ leading ≤ 0xF3 then
    some [(0x80, 0xBF), (0x80, 0xBF), (0x80, 0xBF)]
  else if leading = 0xF4 then some [(0x80, 0x8F), (0x80, 0xBF), (0x80, 0xBF)]
  else none

def matched : List (UInt8 × UInt8) → List UInt8 → Nat
  | [], _ => 0
  | _ :: _, [] => 0
  | (low, high) :: ranges, byte :: rest =>
      if low ≤ byte ∧ byte ≤ high then matched ranges rest + 1 else 0

def leadingBits (leading : UInt8) : Nat :=
  if leading ≤ 0x7F then leading.toNat
  else if leading ≤ 0xDF then leading.toNat - 0xC0
  else if leading ≤ 0xEF then leading.toNat - 0xE0
  else leading.toNat - 0xF0

def assemble (leading : UInt8) (continuations : List UInt8) : Char :=
  Char.ofNat (continuations.foldl
    (fun value byte => value * 64 + (byte.toNat - 0x80)) (leadingBits leading))

/-- The first character of `leading :: rest` and the number of bytes after
`leading` that it takes.  An ill-formed sequence is replaced by U+FFFD up to
its maximal valid start. -/
def decodeFirst (leading : UInt8) (rest : List UInt8) : Char × Nat :=
  match followers leading with
  | none => (Char.ofNat 0xFFFD, 0)
  | some ranges =>
      let count := matched ranges rest
      if count = ranges.length then (assemble leading (rest.take count), count)
      else (Char.ofNat 0xFFFD, count)

def decodeFrom : Nat → List UInt8 → List Char
  | _, [] => []
  | skipped + 1, _ :: rest => decodeFrom skipped rest
  | 0, leading :: rest =>
      (decodeFirst leading rest).1 :: decodeFrom (decodeFirst leading rest).2 rest

def fromUtf8Lossy (bytes : List UInt8) : List Char :=
  decodeFrom 0 bytes

theorem followers_low (leading : UInt8) (ranges : List (UInt8 × UInt8))
    (found : followers leading = some ranges) :
    ∀ range, range ∈ ranges → 0x80 ≤ range.1 := by
  intro range member
  unfold followers at found
  split_ifs at found <;> cases found <;> simp at member <;>
    rcases member with rfl | rfl | rfl <;> decide

theorem matched_append_ascii (ranges : List (UInt8 × UInt8))
    (low : ∀ range, range ∈ ranges → 0x80 ≤ range.1)
    (before : List UInt8) (ascii : UInt8) (isAscii : ascii < 0x80)
    (after : List UInt8) :
    matched ranges (before ++ ascii :: after) = matched ranges before ∧
      matched ranges before ≤ before.length := by
  induction before generalizing ranges with
  | nil =>
      cases ranges with
      | nil => simp [matched]
      | cons range ranges =>
          have high := low range List.mem_cons_self
          have outside : ¬ (range.1 ≤ ascii ∧ ascii ≤ range.2) := by
            intro inside
            exact absurd (UInt8.le_trans high inside.1) (UInt8.not_le.mpr isAscii)
          simp [matched, outside]
  | cons byte before ih =>
      cases ranges with
      | nil => simp [matched]
      | cons range ranges =>
          have rest := ih ranges
            (fun later member => low later (List.mem_cons_of_mem _ member))
          by_cases inside : range.1 ≤ byte ∧ byte ≤ range.2
          · simp only [List.cons_append, matched, if_pos inside,
              List.length_cons]
            omega
          · simp [matched, inside]

theorem matched_take (ranges : List (UInt8 × UInt8)) (before after : List UInt8)
    (within : matched ranges before ≤ before.length) :
    (before ++ after).take (matched ranges before) =
      before.take (matched ranges before) :=
  List.take_append_of_le_length within

theorem decodeFirst_append_ascii (leading : UInt8) (before : List UInt8)
    (ascii : UInt8) (isAscii : ascii < 0x80) (after : List UInt8) :
    decodeFirst leading (before ++ ascii :: after) = decodeFirst leading before ∧
      (decodeFirst leading before).2 ≤ before.length := by
  unfold decodeFirst
  cases found : followers leading with
  | none => simp
  | some ranges =>
      obtain ⟨same, within⟩ := matched_append_ascii ranges
        (followers_low leading ranges found) before ascii isAscii after
      simp only [same, matched_take ranges before _ within, true_and]
      split <;> exact within

private theorem ascii_le (ascii : UInt8) (isAscii : ascii < 0x80) :
    ascii ≤ 0x7F := by
  rw [UInt8.le_iff_toNat_le]
  rw [UInt8.lt_iff_toNat_lt] at isAscii
  change ascii.toNat ≤ 127
  change ascii.toNat < 128 at isAscii
  omega

theorem decodeFirst_ascii (ascii : UInt8) (isAscii : ascii < 0x80)
    (rest : List UInt8) : (decodeFirst ascii rest).2 = 0 := by
  have small := ascii_le ascii isAscii
  simp [decodeFirst, followers, small, matched]

theorem decodeFirst_ascii_eq (ascii : UInt8) (isAscii : ascii < 0x80)
    (rest after : List UInt8) :
    decodeFirst ascii rest = decodeFirst ascii after := by
  have small := ascii_le ascii isAscii
  simp [decodeFirst, followers, small, matched]

private theorem decodeFrom_append (before : List UInt8) (ascii : UInt8)
    (isAscii : ascii < 0x80) (after : List UInt8) (skipped : Nat)
    (within : skipped ≤ before.length) :
    decodeFrom skipped (before ++ ascii :: after) =
      decodeFrom skipped (before ++ [ascii]) ++ decodeFrom 0 after := by
  induction before generalizing skipped with
  | nil =>
      have noSkip : skipped = 0 := Nat.le_zero.mp within
      subst noSkip
      simp only [List.nil_append, decodeFrom, decodeFirst_ascii ascii isAscii,
        List.cons_append]
      rw [decodeFirst_ascii_eq ascii isAscii after []]
  | cons byte before ih =>
      cases skipped with
      | succ skipped =>
          simp only [List.cons_append, decodeFrom]
          exact ih skipped (Nat.le_of_succ_le_succ within)
      | zero =>
          obtain ⟨long, bound⟩ :=
            decodeFirst_append_ascii byte before ascii isAscii after
          obtain ⟨short, _⟩ :=
            decodeFirst_append_ascii byte before ascii isAscii []
          simp only [List.cons_append, decodeFrom, long, short]
          rw [ih _ bound]

theorem fromUtf8Lossy_append (bytes : List UInt8) (ascii : UInt8)
    (isAscii : ascii < 0x80) (after : List UInt8) :
    fromUtf8Lossy (bytes ++ ascii :: after) =
      fromUtf8Lossy (bytes ++ [ascii]) ++ fromUtf8Lossy after :=
  decodeFrom_append bytes ascii isAscii after 0 (Nat.zero_le _)

private theorem decodeFirst_ascii_char (ascii : UInt8) (isAscii : ascii < 0x80)
    (rest : List UInt8) :
    (decodeFirst ascii rest).1 = Char.ofNat ascii.toNat := by
  have small := ascii_le ascii isAscii
  simp [decodeFirst, followers, small, matched, assemble, leadingBits]

theorem fromUtf8Lossy_cons_ascii (ascii : UInt8) (isAscii : ascii < 0x80)
    (rest : List UInt8) :
    fromUtf8Lossy (ascii :: rest) =
      Char.ofNat ascii.toNat :: fromUtf8Lossy rest := by
  simp only [fromUtf8Lossy, decodeFrom, decodeFirst_ascii ascii isAscii,
    decodeFirst_ascii_char ascii isAscii]

theorem fromUtf8Lossy_ascii_append (bytes after : List UInt8)
    (isAscii : ∀ byte, byte ∈ bytes → byte < 0x80) :
    fromUtf8Lossy (bytes ++ after) =
      bytes.map (fun byte => Char.ofNat byte.toNat) ++ fromUtf8Lossy after := by
  induction bytes with
  | nil => rfl
  | cons byte bytes ih =>
      rw [List.cons_append,
        fromUtf8Lossy_cons_ascii byte (isAscii byte List.mem_cons_self),
        ih (fun later member => isAscii later (List.mem_cons_of_mem _ member))]
      rfl

theorem fromUtf8Lossy_singleton (ascii : UInt8) (isAscii : ascii < 0x80) :
    fromUtf8Lossy [ascii] = [Char.ofNat ascii.toNat] := by
  have small := ascii_le ascii isAscii
  simp [fromUtf8Lossy, decodeFrom, decodeFirst, followers, small, matched,
    assemble, leadingBits]

private theorem decodeFrom_length_le (skipped : Nat) (bytes : List UInt8) :
    (decodeFrom skipped bytes).length ≤ bytes.length := by
  induction bytes generalizing skipped with
  | nil => simp [decodeFrom]
  | cons byte rest ih =>
      cases skipped with
      | succ skipped => exact Nat.le_succ_of_le (ih skipped)
      | zero => exact Nat.succ_le_succ (ih _)

theorem fromUtf8Lossy_length_le (bytes : List UInt8) :
    (fromUtf8Lossy bytes).length ≤ bytes.length :=
  decodeFrom_length_le 0 bytes

/-! ### Whitespace-separated words -/

/-- The Unicode `White_Space` property. -/
def isWhitespace (c : Char) : Bool :=
  let code := c.toNat
  (0x09 ≤ code && code ≤ 0x0D) || code == 0x20 || code == 0x85 ||
    code == 0xA0 || code == 0x1680 || (0x2000 ≤ code && code ≤ 0x200A) ||
    code == 0x2028 || code == 0x2029 || code == 0x202F || code == 0x205F ||
    code == 0x3000

def splitWhitespace (text : List Char) : List (List Char) :=
  (text.splitOnP isWhitespace).filter (fun word => !word.isEmpty)

theorem splitWhitespace_append (before : List Char) (space : Char)
    (isSpace : isWhitespace space = true) (after : List Char) :
    splitWhitespace (before ++ space :: after) =
      splitWhitespace before ++ splitWhitespace after := by
  unfold splitWhitespace
  rw [List.splitOnP_append_cons before after isSpace, List.filter_append]

theorem splitWhitespace_word (word : List Char) (space : Char)
    (after : List Char) (isSpace : isWhitespace space = true)
    (nonempty : word ≠ [])
    (solid : ∀ c, c ∈ word → isWhitespace c = false) :
    splitWhitespace (word ++ space :: after) =
      word :: splitWhitespace after := by
  rw [splitWhitespace_append word space isSpace]
  have single : word.splitOnP isWhitespace = [word] :=
    List.splitOnP_eq_singleton (fun c member => by simp [solid c member])
  simp [splitWhitespace, single, nonempty]

private theorem splitOnP_lengths (isSpace : Char → Bool) (text : List Char) :
    ((text.splitOnP isSpace).map (fun word => word.length + 1)).sum =
      text.length + 1 := by
  induction text with
  | nil => simp
  | cons c rest ih =>
      rw [List.splitOnP_cons_eq_if_modifyHead]
      split
      · simp only [List.map_cons, List.length_nil, List.sum_cons, ih,
          List.length_cons]
        omega
      · cases pieces : rest.splitOnP isSpace with
        | nil => exact absurd pieces (List.splitOnP_ne_nil _ _)
        | cons word words =>
            rw [pieces] at ih
            simp only [List.map_cons, List.sum_cons] at ih
            simp only [List.modifyHead_cons, List.map_cons, List.sum_cons,
              List.length_cons]
            omega

theorem splitWhitespace_lengths (text : List Char) :
    ((splitWhitespace text).map (fun word => word.length + 1)).sum ≤
      text.length + 1 := by
  rw [← splitOnP_lengths isWhitespace text]
  exact (List.filter_sublist.map _).sum_le_sum (fun _ _ => Nat.zero_le _)

theorem splitWhitespace_nonempty (text : List Char) (word : List Char)
    (member : word ∈ splitWhitespace text) : 0 < word.length := by
  have kept := (List.mem_filter.mp member).2
  rw [List.length_pos_iff]
  rintro rfl
  simp at kept

/-! ### Unsigned decimal numerals -/

inductive IntErrorKind where
  | empty
  | invalidDigit
  | posOverflow
  deriving DecidableEq, Repr

def IntErrorKind.display : IntErrorKind → String
  | .empty => "cannot parse integer from empty string"
  | .invalidDigit => "invalid digit found in string"
  | .posOverflow => "number too large to fit in target type"

def toDigit (c : Char) : Option Nat :=
  if '0' ≤ c ∧ c ≤ '9' then some (c.toNat - '0'.toNat) else none

/-- Accumulate digits from the left; the first offending digit decides the
error. -/
def parseDigits (maximum : Nat) : Nat → List Char → Except IntErrorKind Nat
  | value, [] => .ok value
  | value, c :: rest =>
      match toDigit c with
      | none => .error .invalidDigit
      | some digit =>
          if maximum < value * 10 + digit then .error .posOverflow
          else parseDigits maximum (value * 10 + digit) rest

/-- An optional `+` and one or more digits, up to `maximum`.  A lone sign is
an invalid digit. -/
def parseUnsigned (maximum : Nat) : List Char → Except IntErrorKind Nat
  | [] => .error .empty
  | [c] =>
      if c = '+' ∨ c = '-' then .error .invalidDigit
      else parseDigits maximum 0 [c]
  | c :: rest =>
      if c = '+' then parseDigits maximum 0 rest
      else parseDigits maximum 0 (c :: rest)

theorem toDigit_lt (c : Char) (digit : Nat) (read : toDigit c = some digit) :
    digit < 10 := by
  unfold toDigit at read
  split at read
  · rename_i inRange
    obtain rfl := Option.some.inj read
    have upper : c.toNat ≤ '9'.toNat := inRange.2
    have nine : '9'.toNat = 57 := rfl
    have zero : '0'.toNat = 48 := rfl
    omega
  · cases read

theorem parseDigits_lt (maximum value : Nat) (word : List Char) (result : Nat)
    (parsed : parseDigits maximum value word = .ok result) :
    result < (value + 1) * 10 ^ word.length := by
  induction word generalizing value with
  | nil =>
      obtain rfl := Except.ok.inj parsed
      simp
  | cons c rest ih =>
      simp only [parseDigits] at parsed
      cases read : toDigit c with
      | none =>
          rw [read] at parsed
          cases parsed
      | some digit =>
          rw [read] at parsed
          simp only at parsed
          split at parsed
          · cases parsed
          · have digitSmall := toDigit_lt c digit read
            calc result < (value * 10 + digit + 1) * 10 ^ rest.length :=
                  ih _ parsed
              _ ≤ ((value + 1) * 10) * 10 ^ rest.length :=
                  Nat.mul_le_mul_right _ (by omega)
              _ = (value + 1) * 10 ^ (rest.length + 1) := by
                  rw [Nat.pow_succ, Nat.mul_assoc, Nat.mul_comm 10]

def digitsValue (digits : List Char) : Nat :=
  digits.foldl (fun value c => value * 10 + (c.toNat - '0'.toNat)) 0

def IsDigit (c : Char) : Prop := '0' ≤ c ∧ c ≤ '9'

instance (c : Char) : Decidable (IsDigit c) :=
  inferInstanceAs (Decidable (_ ∧ _))

/-- `word` writes `value` in decimal digits, behind a `+` or not. -/
def Numeral (word : List Char) (value : Nat) : Prop :=
  ∃ digits, (word = digits ∨ word = '+' :: digits) ∧ digits ≠ [] ∧
    (∀ c, c ∈ digits → IsDigit c) ∧ value = digitsValue digits

private theorem foldl_digits_ge (digits : List Char) (value : Nat) :
    value ≤ digits.foldl
      (fun value c => value * 10 + (c.toNat - '0'.toNat)) value := by
  induction digits generalizing value with
  | nil => exact Nat.le_refl _
  | cons c rest ih =>
      refine Nat.le_trans ?_ (ih _)
      dsimp only
      omega

theorem parseDigits_ok_iff (maximum value : Nat) (word : List Char)
    (result : Nat) (fits : value ≤ maximum) :
    parseDigits maximum value word = .ok result ↔
      (∀ c, c ∈ word → IsDigit c) ∧ result ≤ maximum ∧
        result = word.foldl
          (fun value c => value * 10 + (c.toNat - '0'.toNat)) value := by
  induction word generalizing value with
  | nil =>
      simp only [parseDigits, Except.ok.injEq, List.not_mem_nil,
        IsEmpty.forall_iff, implies_true, true_and, List.foldl_nil]
      constructor
      · rintro rfl
        exact ⟨fits, rfl⟩
      · exact fun same => same.2.symm
  | cons c rest ih =>
      simp only [parseDigits, List.forall_mem_cons, List.foldl_cons]
      by_cases digit : IsDigit c
      · have read : toDigit c = some (c.toNat - '0'.toNat) := if_pos digit
        simp only [read]
        split
        · rename_i large
          have grows := foldl_digits_ge rest
            (value * 10 + (c.toNat - '0'.toNat))
          simp only [reduceCtorEq, false_iff, not_and]
          intro _ bounded same
          omega
        · rename_i small
          rw [ih _ (Nat.le_of_not_lt small)]
          simp [digit]
      · have unread : toDigit c = none := if_neg digit
        simp [unread, digit]

theorem not_isDigit_sign (c : Char) (sign : c = '+' ∨ c = '-') :
    ¬ IsDigit c := by
  rcases sign with rfl | rfl <;> decide

theorem numeral_unsigned (c : Char) (rest : List Char) (value : Nat)
    (unsigned : c ≠ '+') :
    Numeral (c :: rest) value ↔
      (∀ digit, digit ∈ c :: rest → IsDigit digit) ∧
        value = digitsValue (c :: rest) := by
  constructor
  · rintro ⟨digits, rfl | signed, _, allDigits, stands⟩
    · exact ⟨allDigits, stands⟩
    · exact absurd (List.cons.inj signed).1 unsigned
  · rintro ⟨allDigits, stands⟩
    exact ⟨c :: rest, Or.inl rfl, List.cons_ne_nil _ _, allDigits, stands⟩

theorem numeral_signed (rest : List Char) (value : Nat) :
    Numeral ('+' :: rest) value ↔
      rest ≠ [] ∧ (∀ digit, digit ∈ rest → IsDigit digit) ∧
        value = digitsValue rest := by
  constructor
  · rintro ⟨digits, rfl | signed, nonempty, allDigits, stands⟩
    · exact absurd (allDigits '+' List.mem_cons_self)
        (not_isDigit_sign '+' (Or.inl rfl))
    · obtain ⟨_, rfl⟩ := List.cons.inj signed
      exact ⟨nonempty, allDigits, stands⟩
  · rintro ⟨nonempty, allDigits, stands⟩
    exact ⟨rest, Or.inr rfl, nonempty, allDigits, stands⟩

/-- Exactly the numerals up to `maximum` are read, as what they stand for. -/
theorem parseUnsigned_ok_iff (maximum : Nat) (word : List Char)
    (value : Nat) :
    parseUnsigned maximum word = .ok value ↔
      Numeral word value ∧ value ≤ maximum := by
  have digitsOnly (digits : List Char) :
      parseDigits maximum 0 digits = .ok value ↔
        (∀ c, c ∈ digits → IsDigit c) ∧ value ≤ maximum ∧
          value = digitsValue digits :=
    parseDigits_ok_iff maximum 0 digits value (Nat.zero_le _)
  match word with
  | [] =>
      simp only [parseUnsigned, reduceCtorEq, false_iff, not_and]
      rintro ⟨digits, rfl | signed, nonempty, _⟩
      · exact absurd rfl nonempty
      · cases signed
  | [c] =>
      simp only [parseUnsigned]
      by_cases plus : c = '+'
      · subst plus
        simp [numeral_signed]
      rw [numeral_unsigned c [] value plus]
      by_cases minus : c = '-'
      · subst minus
        simp [not_isDigit_sign '-' (Or.inr rfl)]
      · rw [if_neg (not_or.mpr ⟨plus, minus⟩), digitsOnly]
        tauto
  | c :: d :: rest =>
      simp only [parseUnsigned]
      by_cases plus : c = '+'
      · subst plus
        rw [if_pos rfl, numeral_signed, digitsOnly]
        have nonempty : d :: rest ≠ [] := List.cons_ne_nil _ _
        tauto
      · rw [numeral_unsigned c _ value plus, if_neg plus, digitsOnly]
        tauto

theorem parseUnsigned_lt (maximum : Nat) (word : List Char) (value : Nat)
    (parsed : parseUnsigned maximum word = .ok value) :
    value < 10 ^ word.length := by
  have small (digits : List Char) (fits : digits.length ≤ word.length)
      (read : parseDigits maximum 0 digits = .ok value) :
      value < 10 ^ word.length := by
    have bound := parseDigits_lt maximum 0 digits value read
    rw [Nat.zero_add, Nat.one_mul] at bound
    exact Nat.lt_of_lt_of_le bound (Nat.pow_le_pow_right (by decide) fits)
  match word, parsed, small with
  | [], parsed, _ => cases parsed
  | [c], parsed, small =>
      simp only [parseUnsigned] at parsed
      split at parsed
      · cases parsed
      · exact small _ (Nat.le_refl _) parsed
  | c :: d :: rest, parsed, small =>
      simp only [parseUnsigned] at parsed
      split at parsed
      · exact small _ (Nat.le_succ _) parsed
      · exact small _ (Nat.le_refl _) parsed

end Text
