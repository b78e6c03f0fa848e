/-
Objects of strings in JSON, and documents with one of them in each line.

Between its quotes a string is spelled character by character, bare or with an
escape; a code point beyond the first plane is escaped as a pair of surrogates.
Between tokens there may be white space.
-/

import Mathlib

namespace JsonText

def Bare (c : Char) : Prop := c ≠ '"' ∧ c ≠ '\\' ∧ 32 ≤ c.toNat

instance (c : Char) : Decidable (Bare c) :=
  inferInstanceAs (Decidable (_ ∧ _ ∧ _))

def shortEscape (mark : Char) : Option Char :=
  if mark = '"' then some '"'
  else if mark = '\\' then some '\\'
  else if mark = '/' then some '/'
  else if mark = 'b' then some '\x08'
  else if mark = 'f' then some '\x0c'
  else if mark = 'n' then some '\n'
  else if mark = 'r' then some '\r'
  else if mark = 't' then some '\t'
  else none

def hexDigit (c : Char) : Option Nat :=
  if '0' ≤ c ∧ c ≤ '9' then some (c.toNat - '0'.toNat)
  else if 'a' ≤ c ∧ c ≤ 'f' then some (c.toNat - 'a'.toNat + 10)
  else if 'A' ≤ c ∧ c ≤ 'F' then some (c.toNat - 'A'.toNat + 10)
  else none

def codeUnit (a b c d : Char) : Option Nat :=
  (hexDigit a).bind fun first =>
  (hexDigit b).bind fun second =>
  (hexDigit c).bind fun third =>
  (hexDigit d).map fun fourth =>
    ((first * 16 + second) * 16 + third) * 16 + fourth

def IsLead (unit : Nat) : Prop := 0xd800 ≤ unit ∧ unit < 0xdc00

def IsTrail (unit : Nat) : Prop := 0xdc00 ≤ unit ∧ unit < 0xe000

instance (unit : Nat) : Decidable (IsLead unit) :=
  inferInstanceAs (Decidable (_ ∧ _))

instance (unit : Nat) : Decidable (IsTrail unit) :=
  inferInstanceAs (Decidable (_ ∧ _))

@[irreducible] def combine (lead trail : Nat) : Char :=
  Char.ofNat (0x10000 + (lead - 0xd800) * 0x400 + (trail - 0xdc00))

/-- The texts that stand for a character between the quotes of a string. -/
inductive Spelling : List Char → Char → Prop where
  | bare (c : Char) (plain : Bare c) : Spelling [c] c
  | short (mark c : Char) (known : shortEscape mark = some c) :
      Spelling ['\\', mark] c
  | unit (a b c d : Char) (value : Nat) (digits : codeUnit a b c d = some value)
      (notLead : ¬ IsLead value) (notTrail : ¬ IsTrail value) :
      Spelling ['\\', 'u', a, b, c, d] (Char.ofNat value)
  | pair (a b c d e f g h : Char) (lead trail : Nat)
      (leadDigits : codeUnit a b c d = some lead) (isLead : IsLead lead)
      (trailDigits : codeUnit e f g h = some trail) (isTrail : IsTrail trail) :
      Spelling ['\\', 'u', a, b, c, d, '\\', 'u', e, f, g, h]
        (combine lead trail)

inductive Spells : List Char → List Char → Prop where
  | nil : Spells [] []
  | cons (spelling : List Char) (c : Char) (body value : List Char)
      (first : Spelling spelling c) (rest : Spells body value) :
      Spells (spelling ++ body) (c :: value)

def readTrail (lead : Nat) : List Char → Option (Char × List Char)
  | '\\' :: 'u' :: e :: f :: g :: h :: rest =>
      (codeUnit e f g h).bind fun trail =>
        if IsTrail trail then some (combine lead trail, rest) else none
  | _ => none

def readUnit : List Char → Option (Char × List Char)
  | a :: b :: c :: d :: rest =>
      (codeUnit a b c d).bind fun value =>
        if IsLead value then readTrail value rest
        else if IsTrail value then none
        else some (Char.ofNat value, rest)
  | _ => none

def readChar : List Char → Option (Char × List Char)
  | [] => none
  | [c] => if Bare c then some (c, []) else none
  | c :: mark :: rest =>
      if c = '\\' then
        if mark = 'u' then readUnit rest
        else (shortEscape mark).map fun escaped => (escaped, rest)
      else if Bare c then some (c, mark :: rest)
      else none

theorem shortEscape_ne_unit (mark c : Char) (known : shortEscape mark = some c) :
    mark ≠ 'u' := by
  rintro rfl
  simp [shortEscape] at known

theorem readChar_spelling (spelling rest : List Char) (c : Char)
    (spelled : Spelling spelling c) :
    readChar (spelling ++ rest) = some (c, rest) := by
  cases spelled with
  | bare _ plain =>
      cases rest with
      | nil => simp [readChar, plain]
      | cons next rest => simp [readChar, plain, plain.2.1]
  | short mark _ known =>
      have notUnit := shortEscape_ne_unit mark c known
      simp [readChar, notUnit, known]
  | unit a b c d value digits notLead notTrail =>
      simp [readChar, readUnit, digits, notLead, notTrail]
  | pair a b c d e f g h lead trail leadDigits isLead trailDigits isTrail =>
      simp [readChar, readUnit, readTrail, leadDigits, isLead, trailDigits,
        isTrail]

theorem readTrail_sound (lead : Nat) (text rest : List Char) (c : Char)
    (read : readTrail lead text = some (c, rest)) :
    ∃ e f g h trail, text = '\\' :: 'u' :: e :: f :: g :: h :: rest ∧
      codeUnit e f g h = some trail ∧ IsTrail trail ∧ c = combine lead trail := by
  unfold readTrail at read
  split at read
  · rename_i e f g h behind
    obtain ⟨trail, digits, chosen⟩ := Option.bind_eq_some_iff.mp read
    split_ifs at chosen with isTrail
    cases chosen
    exact ⟨e, f, g, h, trail, rfl, digits, isTrail, rfl⟩
  · cases read

theorem readUnit_sound (text rest : List Char) (c : Char)
    (read : readUnit text = some (c, rest)) :
    ∃ spelling, '\\' :: 'u' :: text = spelling ++ rest ∧
      Spelling spelling c := by
  unfold readUnit at read
  split at read
  · rename_i a b d e behind
    obtain ⟨value, digits, chosen⟩ := Option.bind_eq_some_iff.mp read
    split_ifs at chosen with isLead isTrail
    · obtain ⟨f, g, h, i, trail, rfl, trailDigits, isTrail, rfl⟩ :=
        readTrail_sound value behind rest c chosen
      exact ⟨_, rfl, .pair a b d e f g h i value trail digits isLead trailDigits
        isTrail⟩
    · cases chosen
      exact ⟨_, rfl, .unit a b d e value digits isLead isTrail⟩
  · cases read

theorem readChar_iff (text rest : List Char) (c : Char) :
    readChar text = some (c, rest) ↔
      ∃ spelling, text = spelling ++ rest ∧ Spelling spelling c := by
  constructor
  · intro read
    unfold readChar at read
    split at read
    · cases read
    · rename_i only
      split_ifs at read with plain
      cases read
      exact ⟨[c], rfl, .bare c plain⟩
    · rename_i first mark behind
      split_ifs at read with escape unit plain
      · rw [escape, unit]
        exact readUnit_sound behind rest c read
      · obtain ⟨escaped, known, same⟩ := Option.map_eq_some_iff.mp read
        cases same
        rw [escape]
        exact ⟨['\\', mark], rfl, .short mark c known⟩
      · cases read
        exact ⟨[c], rfl, .bare c plain⟩
  · rintro ⟨spelling, rfl, spelled⟩
    exact readChar_spelling spelling rest c spelled

/-! ### What a spelling can be -/

def Plain (value : List Char) : Prop := ∀ c, c ∈ value → Bare c

theorem hexDigit_bare (c : Char) (digit : Nat)
    (known : hexDigit c = some digit) : Bare c := by
  unfold hexDigit at known
  have bare_of (low : Char) (from_ : low ≤ c) (high : '"' < low)
      (off : c ≠ '\\') : Bare c := by
    have above : '"' < c := lt_of_lt_of_le high from_
    refine ⟨ne_of_gt above, off, ?_⟩
    have code : '"'.toNat < c.toNat := above
    have quote : '"'.toNat = 34 := rfl
    omega
  split_ifs at known with decimal lower upper
  · refine bare_of '0' decimal.1 (by decide) ?_
    rintro rfl
    exact absurd decimal.2 (by decide)
  · refine bare_of 'a' lower.1 (by decide) ?_
    rintro rfl
    exact absurd lower.1 (by decide)
  · refine bare_of 'A' upper.1 (by decide) ?_
    rintro rfl
    exact absurd upper.2 (by decide)

theorem codeUnit_plain (a b c d : Char) (value : Nat)
    (digits : codeUnit a b c d = some value) : Plain [a, b, c, d] := by
  obtain ⟨_, first, digits⟩ := Option.bind_eq_some_iff.mp digits
  obtain ⟨_, second, digits⟩ := Option.bind_eq_some_iff.mp digits
  obtain ⟨_, third, digits⟩ := Option.bind_eq_some_iff.mp digits
  obtain ⟨_, fourth, _⟩ := Option.map_eq_some_iff.mp digits
  simp only [Plain, List.forall_mem_cons]
  exact ⟨hexDigit_bare a _ first, hexDigit_bare b _ second,
    hexDigit_bare c _ third, hexDigit_bare d _ fourth,
    fun _ member => absurd member List.not_mem_nil⟩

theorem Plain.not_mem {value : List Char} (plain : Plain value) (c : Char)
    (special : ¬ Bare c) : c ∉ value :=
  fun member => special (plain c member)

theorem Spelling.quotes {spelling : List Char} {c : Char}
    (spelled : Spelling spelling c) :
    spelling.count '"' ≤ [c].count '"' := by
  cases spelled with
  | bare _ plain => exact le_refl _
  | short mark _ known =>
      by_cases quote : mark = '"'
      · subst quote
        obtain rfl := Option.some.inj known
        decide
      · simp [quote]
  | unit a b c d value digits =>
      have none := List.count_eq_zero.mpr
        ((codeUnit_plain a b c d value digits).not_mem '"' (by decide))
      rw [show ['\\', 'u', a, b, c, d] = ['\\', 'u'] ++ [a, b, c, d] from rfl,
        List.count_append, none]
      exact Nat.zero_le _
  | pair a b c d e f g h lead trail leadDigits isLead trailDigits isTrail =>
      have first := List.count_eq_zero.mpr
        ((codeUnit_plain a b c d lead leadDigits).not_mem '"' (by decide))
      have last := List.count_eq_zero.mpr
        ((codeUnit_plain e f g h trail trailDigits).not_mem '"' (by decide))
      rw [show ['\\', 'u', a, b, c, d, '\\', 'u', e, f, g, h] =
          ['\\', 'u'] ++ [a, b, c, d] ++ (['\\', 'u'] ++ [e, f, g, h]) from rfl,
        List.count_append, List.count_append, List.count_append, first, last]
      exact Nat.zero_le _

theorem Spelling.unquoted {spelling : List Char} {c : Char}
    (spelled : Spelling spelling c) :
    ∃ first rest, spelling = first :: rest ∧ first ≠ '"' := by
  cases spelled with
  | bare _ plain => exact ⟨c, [], rfl, plain.1⟩
  | short mark _ _ => exact ⟨'\\', [mark], rfl, by decide⟩
  | unit a b c d => exact ⟨'\\', _, rfl, by decide⟩
  | pair => exact ⟨'\\', _, rfl, by decide⟩

theorem Spelling.alone {spelling : List Char} {c : Char}
    (spelled : Spelling spelling c) (short : spelling.length ≤ 1) :
    spelling = [c] ∧ Bare c := by
  cases spelled with
  | bare _ plain => exact ⟨rfl, plain⟩
  | short => simp at short
  | unit => simp at short
  | pair => simp at short

theorem Spelling.single {spelling : List Char} {c : Char}
    (spelled : Spelling spelling c) : '\n' ∉ spelling := by
  cases spelled with
  | bare _ plain =>
      intro member
      obtain rfl := List.mem_singleton.mp member
      exact absurd plain (by decide)
  | short mark _ known =>
      intro member
      obtain rfl : '\n' = mark := by simpa using member
      simp [shortEscape] at known
  | unit a b c d value digits =>
      have none := (codeUnit_plain a b c d value digits).not_mem '\n' (by decide)
      simpa using none
  | pair a b c d e f g h lead trail leadDigits isLead trailDigits isTrail =>
      have first := (codeUnit_plain a b c d lead leadDigits).not_mem '\n'
        (by decide)
      have last := (codeUnit_plain e f g h trail trailDigits).not_mem '\n'
        (by decide)
      simp only [List.mem_cons, List.not_mem_nil, or_false, not_or] at first last
      simp [first, last]

theorem Spells.single {body value : List Char} (spelled : Spells body value) :
    '\n' ∉ body := by
  induction spelled with
  | nil => exact List.not_mem_nil
  | cons spelling c body value first rest ih =>
      rw [List.mem_append, not_or]
      exact ⟨first.single, ih⟩

theorem Spells.quotes {body value : List Char} (spelled : Spells body value) :
    body.count '"' ≤ value.count '"' := by
  induction spelled with
  | nil => exact le_refl _
  | cons spelling c body value first rest ih =>
      have own := first.quotes
      rw [List.count_append, ← List.singleton_append, List.count_append]
      omega

theorem Spells.length_le {body value : List Char}
    (spelled : Spells body value) : value.length ≤ body.length := by
  induction spelled with
  | nil => exact le_refl _
  | cons spelling c body value first rest ih =>
      obtain ⟨head, tail, rfl, _⟩ := first.unquoted
      rw [List.length_append, List.length_cons, List.length_cons]
      omega

/-- A string spelled in no more characters than it has is spelled as it is. -/
theorem Spells.as_it_is {body value : List Char} (spelled : Spells body value)
    (short : body.length ≤ value.length) : body = value ∧ Plain value := by
  induction spelled with
  | nil => exact ⟨rfl, fun c member => absurd member List.not_mem_nil⟩
  | cons spelling c body value first rest ih =>
      obtain ⟨head, tail, nonempty, _⟩ := first.unquoted
      have least : 1 ≤ spelling.length := by simp [nonempty]
      have longer := rest.length_le
      rw [List.length_append, List.length_cons] at short
      obtain ⟨rfl, bare⟩ := first.alone (by omega)
      obtain ⟨rfl, plain⟩ := ih (by simp at short; omega)
      exact ⟨rfl, List.forall_mem_cons.mpr ⟨bare, plain⟩⟩

theorem spells_of_plain (value : List Char) (plain : Plain value) :
    Spells value value := by
  induction value with
  | nil => exact .nil
  | cons c value ih =>
      exact .cons [c] c value value (.bare c (plain c List.mem_cons_self))
        (ih (fun d member => plain d (List.mem_cons_of_mem c member)))

def readChars : Nat → List Char → Option (List Char × List Char)
  | 0, _ => none
  | _ + 1, [] => none
  | fuel + 1, c :: rest =>
      if c = '"' then some ([], rest)
      else
        (readChar (c :: rest)).bind fun read =>
          (readChars fuel read.2).map fun more => (read.1 :: more.1, more.2)

def readBody (text : List Char) : Option (List Char × List Char) :=
  readChars text.length text

theorem readChars_of_spells (body value rest : List Char) (fuel : Nat)
    (spelled : Spells body value) (enough : body.length < fuel) :
    readChars fuel (body ++ '"' :: rest) = some (value, rest) := by
  induction spelled generalizing fuel with
  | nil =>
      obtain ⟨fuel, rfl⟩ := Nat.exists_eq_add_of_lt enough
      simp [readChars]
  | cons spelling c body value first more ih =>
      have read := readChar_spelling spelling (body ++ '"' :: rest) c first
      obtain ⟨head, tail, rfl, unquoted⟩ := first.unquoted
      cases fuel with
      | zero => simp at enough
      | succ fuel =>
          have behind := ih fuel (by simp at enough; omega)
          rw [List.cons_append] at read
          rw [List.append_assoc, List.cons_append, readChars, if_neg unquoted,
            read, Option.bind_some, behind]
          rfl

theorem readChars_sound (fuel : Nat) (text value rest : List Char)
    (read : readChars fuel text = some (value, rest)) :
    ∃ body, text = body ++ '"' :: rest ∧ Spells body value := by
  induction fuel generalizing text value with
  | zero => cases read
  | succ fuel ih =>
      cases text with
      | nil => cases read
      | cons head tail =>
          rw [readChars] at read
          split_ifs at read with quote
          · cases read
            exact ⟨[], by rw [quote]; rfl, .nil⟩
          · obtain ⟨⟨c, behind⟩, first, more⟩ := Option.bind_eq_some_iff.mp read
            obtain ⟨⟨later, last⟩, inner, same⟩ := Option.map_eq_some_iff.mp more
            cases same
            obtain ⟨spelling, split, spelled⟩ :=
              (readChar_iff (head :: tail) behind c).mp first
            obtain ⟨body, rfl, others⟩ := ih behind later inner
            exact ⟨spelling ++ body, by rw [split, List.append_assoc],
              .cons spelling c body later spelled others⟩

theorem readBody_iff (text value rest : List Char) :
    readBody text = some (value, rest) ↔
      ∃ body, text = body ++ '"' :: rest ∧ Spells body value := by
  constructor
  · exact readChars_sound text.length text value rest
  · rintro ⟨body, rfl, spelled⟩
    exact readChars_of_spells body value rest _ spelled (by simp)

/-- A text in quotes reads as itself only if there is nothing to escape in it:
what closes the string later, or is escaped, leaves a quote too many. -/
theorem plain_of_readBody (value tail rest : List Char)
    (read : readBody (value ++ '"' :: tail) = some (value, rest)) :
    rest = tail ∧ Plain value := by
  obtain ⟨body, split, spelled⟩ := (readBody_iff _ _ _).mp read
  have quotes := spelled.quotes
  rcases List.append_eq_append_iff.mp split with
    ⟨more, longer, behind⟩ | ⟨more, shorter, behind⟩
  · cases more with
    | nil =>
        rw [List.append_nil] at longer
        subst longer
        exact ⟨(List.cons.inj behind).2.symm,
          (spelled.as_it_is (le_refl _)).2⟩
    | cons c more =>
        obtain ⟨rfl, _⟩ := List.cons.inj behind
        rw [longer, List.count_append, List.count_cons_self] at quotes
        omega
  · have short := spelled.length_le
    rw [shorter, List.length_append] at short
    have none := List.eq_nil_of_length_eq_zero (by omega : more.length = 0)
    subst none
    rw [List.append_nil] at shorter
    subst shorter
    exact ⟨(List.cons.inj behind).2, (spelled.as_it_is (le_refl _)).2⟩

/-- A text written between quotes that is the string itself, or spells it, is
read as that string exactly when it spells it. -/
theorem readBody_written_iff (body value tail rest : List Char)
    (written : body = value ∨ Spells body value) :
    readBody (body ++ '"' :: tail) = some (value, rest) ↔
      Spells body value ∧ rest = tail := by
  constructor
  · intro read
    rcases written with rfl | spelled
    · obtain ⟨same, plain⟩ := plain_of_readBody body tail rest read
      exact ⟨spells_of_plain body plain, same⟩
    · have own : readBody (body ++ '"' :: tail) = some (value, tail) :=
        (readBody_iff _ _ _).mpr ⟨body, rfl, spelled⟩
      rw [own, Option.some.injEq, Prod.mk.injEq] at read
      exact ⟨spelled, read.2.symm⟩
  · rintro ⟨spelled, rfl⟩
    exact (readBody_iff _ _ _).mpr ⟨body, rfl, spelled⟩

/-! ### Objects -/

abbrev Members := List (List Char × List Char)

def isSpace (c : Char) : Bool :=
  c = ' ' || c = '\t' || c = '\n' || c = '\r'

def skip (text : List Char) : List Char := text.dropWhile isSpace

def expect (symbol : Char) (text : List Char) : Option (List Char) :=
  match skip text with
  | [] => none
  | c :: rest => if c = symbol then some rest else none

def readString (text : List Char) : Option (List Char × List Char) :=
  (expect '"' text).bind readBody

def readMember (text : List Char) :
    Option ((List Char × List Char) × List Char) :=
  (readString text).bind fun key =>
  (expect ':' key.2).bind fun behind =>
  (readString behind).map fun value => ((key.1, value.1), value.2)

def readMembers : Nat → List Char → Option (Members × List Char)
  | 0, _ => none
  | fuel + 1, text =>
      (readMember text).bind fun member =>
        match expect ',' member.2 with
        | some rest =>
            (readMembers fuel rest).map fun more =>
              (member.1 :: more.1, more.2)
        | none =>
            (expect '\x7d' member.2).map fun rest => ([member.1], rest)

/-- A text that is one object, and nothing else, all of whose values are
strings. -/
def readObject (text : List Char) : Option Members :=
  (expect '\x7b' text).bind fun inside =>
    match expect '\x7d' inside with
    | some rest => if skip rest = [] then some [] else none
    | none =>
        (readMembers inside.length inside).bind fun read =>
          if skip read.2 = [] then some read.1 else none

structure Field where
  key : List Char
  body : List Char
  value : List Char

def Field.member (field : Field) : List Char × List Char :=
  (field.key, field.value)

def Field.text (field : Field) : List Char :=
  '"' :: (field.key ++ '"' :: ':' :: '"' :: (field.body ++ ['"']))

/-- The value stands there as it is, or is spelled there. -/
structure Field.Written (field : Field) : Prop where
  key : Plain field.key
  body : field.body = field.value ∨ Spells field.body field.value

def writeMembers : List Field → List Char
  | [] => ['\x7d']
  | [field] => field.text ++ ['\x7d']
  | field :: next :: fields => field.text ++ ',' :: writeMembers (next :: fields)

def writeObject (fields : List Field) : List Char :=
  '\x7b' :: writeMembers fields

theorem expect_cons (symbol c : Char) (rest : List Char)
    (solid : isSpace c = false) :
    expect symbol (c :: rest) = if c = symbol then some rest else none := by
  rw [expect, skip, List.dropWhile_cons_of_neg (by simp [solid])]

theorem readMember_text (field : Field) (plain : Plain field.key)
    (tail : List Char) :
    readMember (field.text ++ tail) =
      (readBody (field.body ++ '"' :: tail)).map fun value =>
        ((field.key, value.1), value.2) := by
  have key (behind : List Char) :
      readBody (field.key ++ '"' :: behind) = some (field.key, behind) :=
    (readBody_iff _ _ _).mpr ⟨_, rfl, spells_of_plain _ plain⟩
  have shape : field.text ++ tail = '"' :: (field.key ++ '"' :: ':' :: '"' ::
      (field.body ++ '"' :: tail)) := by simp [Field.text]
  rw [shape, readMember, readString, expect_cons _ _ _ (by decide), if_pos rfl,
    Option.bind_some, key, Option.bind_some, expect_cons _ _ _ (by decide),
    if_pos rfl, Option.bind_some, readString, expect_cons _ _ _ (by decide),
    if_pos rfl, Option.bind_some]

theorem readMember_iff (field : Field) (written : field.Written)
    (tail rest : List Char) :
    readMember (field.text ++ tail) = some (field.member, rest) ↔
      Spells field.body field.value ∧ rest = tail := by
  rw [readMember_text field written.key, ← readBody_written_iff field.body
    field.value tail rest written.body, Option.map_eq_some_iff]
  constructor
  · rintro ⟨⟨value, behind⟩, read, same⟩
    cases same
    exact read
  · exact fun read => ⟨_, read, rfl⟩

theorem readMembers_of_spelled (fields : List Field) (fuel : Nat)
    (nonempty : fields ≠ []) (enough : fields.length ≤ fuel)
    (spelled : ∀ field, field ∈ fields → Plain field.key ∧
      Spells field.body field.value) :
    readMembers fuel (writeMembers fields) =
      some (fields.map Field.member, []) := by
  induction fields generalizing fuel with
  | nil => exact absurd rfl nonempty
  | cons field fields ih =>
      obtain ⟨plain, own⟩ := spelled field List.mem_cons_self
      have first (tail : List Char) :
          readMember (field.text ++ tail) = some (field.member, tail) :=
        (readMember_iff field ⟨plain, Or.inr own⟩ tail tail).mpr ⟨own, rfl⟩
      cases fuel with
      | zero => simp at enough
      | succ fuel =>
          cases fields with
          | nil =>
              rw [writeMembers, readMembers, first, Option.bind_some,
                expect_cons _ _ _ (by decide), if_neg (by decide)]
              rfl
          | cons next fields =>
              have behind := ih fuel (List.cons_ne_nil _ _)
                (Nat.le_of_succ_le_succ enough)
                (fun other member =>
                  spelled other (List.mem_cons_of_mem field member))
              rw [writeMembers, readMembers, first, Option.bind_some,
                expect_cons _ _ _ (by decide), if_pos rfl]
              simp only [behind]
              rfl

theorem readMembers_cons (fuel : Nat) (text rest : List Char)
    (first : List Char × List Char) (more : Members)
    (read : readMembers (fuel + 1) text = some (first :: more, rest)) :
    ∃ behind, readMember text = some (first, behind) ∧
      ∀ after, expect ',' behind = some after →
        readMembers fuel after = some (more, rest) := by
  rw [readMembers] at read
  obtain ⟨⟨member, behind⟩, found, others⟩ := Option.bind_eq_some_iff.mp read
  cases comma : expect ',' behind with
  | none =>
      simp only [comma] at others
      obtain ⟨_, _, whole⟩ := Option.map_eq_some_iff.mp others
      cases whole
      exact ⟨behind, found, fun after there =>
        absurd (comma.symm.trans there) (Option.some_ne_none after).symm⟩
  | some after =>
      simp only [comma] at others
      obtain ⟨⟨later, last⟩, inner, whole⟩ := Option.map_eq_some_iff.mp others
      cases whole
      exact ⟨behind, found, fun _ there =>
        Option.some.inj (comma.symm.trans there) ▸ inner⟩

theorem spelled_of_readMembers (fields : List Field) (fuel : Nat)
    (rest : List Char) (written : ∀ field, field ∈ fields → field.Written)
    (read : readMembers fuel (writeMembers fields) =
      some (fields.map Field.member, rest)) :
    ∀ field, field ∈ fields → Spells field.body field.value := by
  induction fields generalizing fuel with
  | nil => exact fun field member => absurd member List.not_mem_nil
  | cons field fields ih =>
      have own := written field List.mem_cons_self
      cases fuel with
      | zero => cases read
      | succ fuel =>
          obtain ⟨behind, first, others⟩ :=
            readMembers_cons fuel _ rest field.member _ read
          cases fields with
          | nil =>
              rw [writeMembers, readMember_iff field own] at first
              exact List.forall_mem_singleton.mpr first.1
          | cons next fields =>
              rw [writeMembers, readMember_iff field own] at first
              obtain ⟨spelled, rfl⟩ := first
              refine List.forall_mem_cons.mpr ⟨spelled, ih fuel ?_ ?_⟩
              · exact fun other member =>
                  written other (List.mem_cons_of_mem field member)
              · exact others _ (by rw [expect_cons _ _ _ (by decide), if_pos rfl])

theorem length_le_writeMembers (fields : List Field) :
    fields.length ≤ (writeMembers fields).length := by
  induction fields with
  | nil => exact Nat.zero_le _
  | cons field fields ih =>
      cases fields with
      | nil => simp [writeMembers]
      | cons next fields =>
          rw [writeMembers, List.length_append]
          simp only [List.length_cons] at ih ⊢
          omega

theorem readObject_writeObject (fields : List Field) (nonempty : fields ≠ []) :
    readObject (writeObject fields) =
      (readMembers (writeMembers fields).length (writeMembers fields)).bind
        fun read => if skip read.2 = [] then some read.1 else none := by
  have notEmpty : expect '\x7d' (writeMembers fields) = none := by
    cases fields with
    | nil => exact absurd rfl nonempty
    | cons field fields =>
        cases fields <;>
          rw [writeMembers, Field.text, List.cons_append,
            expect_cons _ _ _ (by decide), if_neg (by decide)]
  rw [writeObject, readObject, expect_cons _ _ _ (by decide), if_pos rfl,
    Option.bind_some]
  simp only [notEmpty]

theorem readObject_iff (fields : List Field) (nonempty : fields ≠ [])
    (written : ∀ field, field ∈ fields → field.Written) :
    readObject (writeObject fields) = some (fields.map Field.member) ↔
      ∀ field, field ∈ fields → Spells field.body field.value := by
  rw [readObject_writeObject fields nonempty]
  constructor
  · intro read
    obtain ⟨⟨members, rest⟩, inner, closed⟩ := Option.bind_eq_some_iff.mp read
    split_ifs at closed
    cases closed
    exact spelled_of_readMembers fields _ rest written inner
  · intro spelled
    rw [readMembers_of_spelled fields _ nonempty (length_le_writeMembers fields)
      (fun field member => ⟨(written field member).key, spelled field member⟩),
      Option.bind_some]
    rfl

theorem Field.single (field : Field) (plain : Plain field.key)
    (spelled : Spells field.body field.value) : '\n' ∉ field.text := by
  have key := plain.not_mem '\n' (by decide)
  simp [Field.text, key, spelled.single]

theorem writeObject_single (fields : List Field)
    (spelled : ∀ field, field ∈ fields → Plain field.key ∧
      Spells field.body field.value) : '\n' ∉ writeObject fields := by
  have members : '\n' ∉ writeMembers fields := by
    induction fields with
    | nil => decide
    | cons field fields ih =>
        have own := spelled field List.mem_cons_self
        have line := field.single own.1 own.2
        have later := ih (fun other member =>
          spelled other (List.mem_cons_of_mem field member))
        cases fields with
        | nil => simp [writeMembers, line]
        | cons next fields => simp [writeMembers, line, later]
  simp [writeObject, members]

def readLines : List (List Char) → Option (List Members)
  | [] => some []
  | line :: rest =>
      (readObject line).bind fun members =>
        (readLines rest).map fun more => members :: more

/-- One object in each line; every line, the last one too, ends in a line
feed. -/
def readDocument (text : List Char) : Option (List Members) :=
  let lines := text.splitOn '\n'
  if lines.getLast? = some [] then readLines lines.dropLast else none

def writeDocument (lines : List (List Char)) : List Char :=
  lines.flatMap (fun line => line ++ ['\n'])

theorem splitOn_writeDocument (lines : List (List Char)) :
    (writeDocument lines).splitOn '\n' =
      lines.flatMap (fun line => line.splitOn '\n') ++ [[]] := by
  induction lines with
  | nil => rfl
  | cons line lines ih =>
      rw [writeDocument, List.flatMap_cons, ← writeDocument, List.append_assoc,
        List.singleton_append, List.splitOn_append_cons_self, ih,
        List.flatMap_cons, List.append_assoc]

theorem readDocument_writeDocument (lines : List (List Char)) :
    readDocument (writeDocument lines) =
      readLines (lines.flatMap (fun line => line.splitOn '\n')) := by
  simp only [readDocument, splitOn_writeDocument, List.getLast?_concat, if_true,
    List.dropLast_concat]

theorem readLines_length (lines : List (List Char)) (objects : List Members)
    (read : readLines lines = some objects) : objects.length = lines.length := by
  induction lines generalizing objects with
  | nil =>
      cases read
      rfl
  | cons line lines ih =>
      obtain ⟨members, _, others⟩ := Option.bind_eq_some_iff.mp read
      obtain ⟨more, later, rfl⟩ := Option.map_eq_some_iff.mp others
      rw [List.length_cons, List.length_cons, ih more later]

theorem length_le_split (lines : List (List Char)) :
    lines.length ≤ (lines.flatMap (fun line => line.splitOn '\n')).length := by
  induction lines with
  | nil => exact le_refl _
  | cons line lines ih =>
      have one := List.length_pos_iff.mpr (List.splitOn_ne_nil '\n' line)
      rw [List.flatMap_cons, List.length_append, List.length_cons]
      omega

theorem two_le_split (line : List Char) (feed : '\n' ∈ line) :
    2 ≤ (line.splitOn '\n').length := by
  obtain ⟨before, after, rfl⟩ := List.append_of_mem feed
  have first := List.length_pos_iff.mpr (List.splitOn_ne_nil '\n' before)
  have last := List.length_pos_iff.mpr (List.splitOn_ne_nil '\n' after)
  rw [List.splitOn_append_cons_self, List.length_append]
  omega

theorem single_of_split (lines : List (List Char))
    (short : (lines.flatMap (fun line => line.splitOn '\n')).length ≤
      lines.length) : ∀ line, line ∈ lines → '\n' ∉ line := by
  induction lines with
  | nil => exact fun line member => absurd member List.not_mem_nil
  | cons line lines ih =>
      have one := List.length_pos_iff.mpr (List.splitOn_ne_nil '\n' line)
      have others := length_le_split lines
      rw [List.flatMap_cons, List.length_append, List.length_cons] at short
      refine List.forall_mem_cons.mpr ⟨fun feed => ?_, ih (by omega)⟩
      have two := two_le_split line feed
      omega

theorem split_of_single (lines : List (List Char))
    (single : ∀ line, line ∈ lines → '\n' ∉ line) :
    lines.flatMap (fun line => line.splitOn '\n') = lines := by
  induction lines with
  | nil => rfl
  | cons line lines ih =>
      rw [List.flatMap_cons,
        List.splitOn_eq_singleton (single line List.mem_cons_self),
        ih (fun other member => single other (List.mem_cons_of_mem line member))]
      rfl

theorem readLines_iff {α : Type} (text : α → List Char) (object : α → Members)
    (entries : List α) :
    readLines (entries.map text) = some (entries.map object) ↔
      ∀ entry, entry ∈ entries → readObject (text entry) = some (object entry) := by
  induction entries with
  | nil =>
      exact ⟨fun _ entry member => absurd member List.not_mem_nil, fun _ => rfl⟩
  | cons entry entries ih =>
      rw [List.forall_mem_cons, ← ih, List.map_cons, List.map_cons, readLines,
        Option.bind_eq_some_iff]
      constructor
      · rintro ⟨members, first, others⟩
        obtain ⟨more, later, same⟩ := Option.map_eq_some_iff.mp others
        cases same
        exact ⟨first, later⟩
      · rintro ⟨first, later⟩
        exact ⟨_, first, by rw [later]; rfl⟩

/-- A document is read entry by entry exactly when each of them is one line that
is read as it should. -/
theorem readDocument_iff {α : Type} (text : α → List Char)
    (object : α → Members) (entries : List α) :
    readDocument (writeDocument (entries.map text)) =
        some (entries.map object) ↔
      ∀ entry, entry ∈ entries →
        '\n' ∉ text entry ∧ readObject (text entry) = some (object entry) := by
  rw [readDocument_writeDocument]
  constructor
  · intro read
    have lengths := readLines_length _ _ read
    have single := single_of_split (entries.map text)
      (by rw [← lengths, List.length_map, List.length_map])
    rw [split_of_single _ single, readLines_iff] at read
    exact fun entry member =>
      ⟨single _ (List.mem_map_of_mem member), read entry member⟩
  · intro each
    have single : ∀ line, line ∈ entries.map text → '\n' ∉ line := by
      intro line member
      obtain ⟨entry, there, rfl⟩ := List.mem_map.mp member
      exact (each entry there).1
    rw [split_of_single _ single, readLines_iff]
    exact fun entry member => (each entry member).2

end JsonText
