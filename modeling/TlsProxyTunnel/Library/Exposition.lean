/-
The text format in which Prometheus reads metrics.

A document is a sequence of lines.  Each is blank, a comment or a sample: a
metric name, labels in braces with quoted values, a number and an optional
timestamp, with blanks between them.  Comments are passed over, those that
declare a type or a help text too, and numbers are read in decimal notation.
-/

import Mathlib

namespace Exposition

structure Sample where
  metric : List Char
  labels : List (List Char × List Char)
  value : List Char
  timestamp : Option (List Char)
  deriving DecidableEq, Repr

/-- In a label value the backslash, the quote and the line feed are escaped. -/
def escapeChar (c : Char) : List Char :=
  if c = '\\' then ['\\', '\\']
  else if c = '"' then ['\\', '"']
  else if c = '\n' then ['\\', 'n']
  else [c]

def escape (value : List Char) : List Char := value.flatMap escapeChar

def escaped (c : Char) : Option Char :=
  if c = '\\' then some '\\'
  else if c = '"' then some '"'
  else if c = 'n' then some '\n'
  else none

def readValue : List Char → Option (List Char × List Char)
  | [] => none
  | [c] => if c = '"' then some ([], []) else none
  | c :: next :: rest =>
      if c = '"' then some ([], next :: rest)
      else if c = '\\' then
        match escaped next with
        | some symbol =>
            (readValue rest).map (fun read => (symbol :: read.1, read.2))
        | none => none
      else if c = '\n' then none
      else (readValue (next :: rest)).map (fun read => (c :: read.1, read.2))

theorem readValue_quote (rest : List Char) :
    readValue ('"' :: rest) = some ([], rest) := by
  cases rest <;> simp [readValue]

theorem readValue_escaped (mark symbol : Char) (rest : List Char)
    (known : escaped mark = some symbol) :
    readValue ('\\' :: mark :: rest) =
      (readValue rest).map (fun read => (symbol :: read.1, read.2)) := by
  simp [readValue, known]

theorem readValue_literal (c : Char) (rest : List Char) (noQuote : c ≠ '"')
    (noBackslash : c ≠ '\\') (noFeed : c ≠ '\n') :
    readValue (c :: rest) =
      (readValue rest).map (fun read => (c :: read.1, read.2)) := by
  cases rest with
  | nil => simp [readValue, noQuote]
  | cons next rest => simp [readValue, noQuote, noBackslash, noFeed]

theorem escapeChar_literal (c : Char) (noQuote : c ≠ '"')
    (noBackslash : c ≠ '\\') (noFeed : c ≠ '\n') : escapeChar c = [c] := by
  simp [escapeChar, noQuote, noBackslash, noFeed]

theorem escapeChar_of_escaped (mark symbol : Char)
    (known : escaped mark = some symbol) :
    escapeChar symbol = ['\\', mark] := by
  unfold escaped at known
  split_ifs at known with backslash quote feed <;> cases known
  · rw [backslash]
    rfl
  · rw [quote]
    rfl
  · rw [feed]
    rfl

theorem readValue_escapeChar (c : Char) (rest : List Char) :
    readValue (escapeChar c ++ rest) =
      (readValue rest).map (fun read => (c :: read.1, read.2)) := by
  by_cases backslash : c = '\\'
  · subst backslash
    exact readValue_escaped '\\' '\\' rest rfl
  by_cases quote : c = '"'
  · subst quote
    exact readValue_escaped '"' '"' rest rfl
  by_cases feed : c = '\n'
  · subst feed
    exact readValue_escaped 'n' '\n' rest rfl
  · rw [escapeChar_literal c quote backslash feed]
    exact readValue_literal c rest quote backslash feed

theorem readValue_escape (value rest : List Char) :
    readValue (escape value ++ '"' :: rest) = some (value, rest) := by
  induction value with
  | nil => exact readValue_quote rest
  | cons c value ih =>
      rw [escape, List.flatMap_cons, List.append_assoc, readValue_escapeChar,
        ← escape, ih]
      rfl

/-- A value is read from exactly one text, the one with its escapes. -/
theorem readValue_iff (text value rest : List Char) :
    readValue text = some (value, rest) ↔
      text = escape value ++ '"' :: rest := by
  refine ⟨fun read => ?_, fun same => same ▸ readValue_escape value rest⟩
  fun_induction readValue text generalizing value with
  | case1 => cases read
  | case2 =>
      cases read
      rfl
  | case3 c noQuote => cases read
  | case4 next more =>
      cases read
      rfl
  | case5 next more symbol known notQuote ih =>
      obtain ⟨⟨later, behind⟩, inner, same⟩ := Option.map_eq_some_iff.mp read
      cases same
      rw [ih later inner, escape, escape, List.flatMap_cons,
        escapeChar_of_escaped next symbol known]
      rfl
  | case6 next more unknown notQuote => cases read
  | case7 next more noQuote noBackslash => cases read
  | case8 c next more noQuote noBackslash noFeed ih =>
      obtain ⟨⟨later, behind⟩, inner, same⟩ := Option.map_eq_some_iff.mp read
      cases same
      rw [ih later inner, escape, escape, List.flatMap_cons,
        escapeChar_literal c noQuote noBackslash noFeed]
      rfl

/-- Text that reads the same with and without escapes. -/
def Plain (value : List Char) : Prop :=
  ∀ c, c ∈ value → c ≠ '\\' ∧ c ≠ '"' ∧ c ≠ '\n'

theorem escape_of_plain (value : List Char) (plain : Plain value) :
    escape value = value := by
  induction value with
  | nil => rfl
  | cons c value ih =>
      obtain ⟨noBackslash, noQuote, noFeed⟩ := plain c List.mem_cons_self
      have later := ih (fun d member => plain d (List.mem_cons_of_mem c member))
      rw [escape] at later
      rw [escape, List.flatMap_cons, later,
        escapeChar_literal c noQuote noBackslash noFeed]
      rfl

theorem escape_backslash (value : List Char) :
    escape ('\\' :: value) = List.replicate 2 '\\' ++ escape value := by
  rfl

/-- Escapes behind a backslash outrun a text that has none of its own. -/
theorem backslashes_outrun (value after : List Char) (count : Nat) :
    ¬ List.replicate (count + 1) '\\' ++ (escape value ++ ['"']) <+:
      value ++ '"' :: after := by
  induction value generalizing count with
  | nil =>
      rw [List.replicate_succ]
      simp
  | cons c value ih =>
      intro prefixed
      rw [List.replicate_succ, List.cons_append, List.cons_append,
        List.cons_prefix_cons] at prefixed
      obtain ⟨rfl, prefixed⟩ := prefixed
      refine ih (count + 1) ?_
      rw [escape_backslash] at prefixed
      rw [Nat.add_assoc, List.replicate_add, List.append_assoc]
      rwa [List.append_assoc] at prefixed

theorem plain_of_escape_prefix (value after : List Char)
    (prefixed : escape value ++ ['"'] <+: value ++ '"' :: after) :
    Plain value := by
  induction value with
  | nil => exact fun c member => nomatch member
  | cons c value ih =>
      by_cases backslash : c = '\\'
      · subst backslash
        rw [escape_backslash] at prefixed
        have behind := (List.cons_prefix_cons.mp prefixed).2
        exact absurd behind (backslashes_outrun value after 0)
      rw [escape, List.flatMap_cons, ← escape] at prefixed
      by_cases quote : c = '"'
      · subst quote
        simp [escapeChar] at prefixed
      by_cases feed : c = '\n'
      · subst feed
        simp [escapeChar] at prefixed
      · rw [escapeChar_literal c quote backslash feed] at prefixed
        have later := ih (List.cons_prefix_cons.mp prefixed).2
        exact List.forall_mem_cons.mpr ⟨⟨backslash, quote, feed⟩, later⟩

def isBlank (c : Char) : Bool := c = ' ' || c = '\t'

def skip (text : List Char) : List Char := text.dropWhile isBlank

def nameStart (c : Char) : Bool := c.isAlpha || c = '_'

def nameMore (c : Char) : Bool := c.isAlphanum || c = '_'

/-- Metric names, unlike label names, may have colons. -/
def metricStart (c : Char) : Bool := nameStart c || c = ':'

def metricMore (c : Char) : Bool := nameMore c || c = ':'

def readName (start more : Char → Bool) :
    List Char → Option (List Char × List Char)
  | [] => none
  | c :: rest =>
      if start c then some (c :: rest.takeWhile more, rest.dropWhile more)
      else none

def expect (symbol : Char) (text : List Char) : Option (List Char) :=
  match skip text with
  | [] => none
  | c :: rest => if c = symbol then some rest else none

def isInteger (token : List Char) : Bool :=
  let digits :=
    match token with
    | [] => []
    | c :: rest => if c = '+' || c = '-' then rest else token
  !digits.isEmpty && digits.all Char.isDigit

/-- Digits with an optional point among them and an optional exponent. -/
def isDecimal (token : List Char) : Bool :=
  let whole := token.takeWhile Char.isDigit
  match token.dropWhile Char.isDigit with
  | [] => !whole.isEmpty
  | c :: rest =>
      let fraction := if c = '.' then rest.takeWhile Char.isDigit else []
      let behind := if c = '.' then rest.dropWhile Char.isDigit else c :: rest
      (!whole.isEmpty || !fraction.isEmpty) &&
        match behind with
        | [] => true
        | mark :: exponent => (mark = 'e' || mark = 'E') && isInteger exponent

def isFloat (token : List Char) : Bool :=
  let unsigned :=
    match token with
    | [] => []
    | c :: rest => if c = '+' || c = '-' then rest else token
  isDecimal unsigned ||
    ["nan", "inf", "infinity"].any (fun word =>
      unsigned.map Char.toLower = word.toList)

def readLabels :
    Nat → List Char → Option (List (List Char × List Char) × List Char)
  | 0, _ => none
  | fuel + 1, text =>
      match expect '\x7d' text with
      | some rest => some ([], rest)
      | none =>
          (readName nameStart nameMore (skip text)).bind fun name =>
          (expect '=' name.2).bind fun quoted =>
          (expect '"' quoted).bind fun inside =>
          (readValue inside).bind fun value =>
          match expect ',' value.2 with
          | some rest =>
              (readLabels fuel rest).map fun read =>
                ((name.1, value.1) :: read.1, read.2)
          | none =>
              (expect '\x7d' value.2).map fun rest => ([(name.1, value.1)], rest)

def readMeasure (metric : List Char) (labels : List (List Char × List Char))
    (text : List Char) : Option Sample :=
  let token := text.takeWhile (fun c => !isBlank c)
  let rest := skip (text.dropWhile (fun c => !isBlank c))
  let stamp := rest.takeWhile (fun c => !isBlank c)
  let behind := skip (rest.dropWhile (fun c => !isBlank c))
  if isFloat token then
    if rest = [] then
      some
        { metric := metric
          labels := labels
          value := token
          timestamp := none }
    else if isInteger stamp ∧ behind = [] then
      some
        { metric := metric
          labels := labels
          value := token
          timestamp := some stamp }
    else none
  else none

def readSample (text : List Char) : Option Sample :=
  (readName metricStart metricMore text).bind fun name =>
  match expect '\x7b' name.2 with
  | some inside =>
      (readLabels (inside.length + 1) inside).bind fun read =>
        readMeasure name.1 read.1 (skip read.2)
  | none => readMeasure name.1 [] (skip name.2)

def readLine (line : List Char) : Option (Option Sample) :=
  match skip line with
  | [] => some none
  | c :: rest =>
      if c = '#' then some none else (readSample (c :: rest)).map some

def readLines : List (List Char) → Option (List Sample)
  | [] => some []
  | line :: rest =>
      (readLine line).bind fun found =>
        (readLines rest).map (found.toList ++ ·)

/-- Every line, the last one too, ends in a line feed. -/
def readDocument (text : List Char) : Option (List Sample) :=
  let lines := text.splitOn '\n'
  if lines.getLast? = some [] then readLines lines.dropLast else none

/-! ### Reading what is written plainly -/

def IsName (start more : Char → Bool) (name : List Char) : Prop :=
  ∃ c rest, name = c :: rest ∧ start c = true ∧
    ∀ d, d ∈ rest → more d = true

theorem IsName.of_all {start more : Char → Bool} (c : Char) (rest : List Char)
    (starts : start c = true) (all : rest.all more = true) :
    IsName start more (c :: rest) :=
  ⟨c, rest, rfl, starts, List.all_eq_true.mp all⟩

theorem readName_append (start more : Char → Bool) (name : List Char)
    (stop : Char) (after : List Char) (isName : IsName start more name)
    (stops : more stop = false) :
    readName start more (name ++ stop :: after) =
      some (name, stop :: after) := by
  obtain ⟨c, rest, rfl, starts, all⟩ := isName
  simp only [List.cons_append, readName, starts, if_true]
  rw [List.takeWhile_append_of_pos all, List.dropWhile_append_of_pos all,
    List.takeWhile_cons_of_neg (by simp [stops]),
    List.dropWhile_cons_of_neg (by simp [stops]), List.append_nil]

theorem skip_of_not_blank (c : Char) (rest : List Char)
    (solid : isBlank c = false) : skip (c :: rest) = c :: rest := by
  rw [skip, List.dropWhile_cons_of_neg (by simp [solid])]

theorem expect_cons (symbol c : Char) (rest : List Char)
    (solid : isBlank c = false) :
    expect symbol (c :: rest) = if c = symbol then some rest else none := by
  rw [expect, skip_of_not_blank c rest solid]

theorem expect_brace (symbol : Char) (rest : List Char) :
    expect symbol ('\x7d' :: rest) =
      if '\x7d' = symbol then some rest else none :=
  expect_cons symbol '\x7d' rest (by decide)

theorem expect_comma (symbol : Char) (rest : List Char) :
    expect symbol (',' :: rest) = if ',' = symbol then some rest else none :=
  expect_cons symbol ',' rest (by decide)

theorem ne_of_holds (holds : Char → Bool) (c other : Char)
    (own : holds c = true) (lacks : holds other = false) : c ≠ other := by
  rintro rfl
  rw [lacks] at own
  contradiction

theorem solid_of_holds (holds : Char → Bool) (c : Char)
    (own : holds c = true) (space : holds ' ' = false)
    (tab : holds '\t' = false) : isBlank c = false := by
  have noSpace := ne_of_holds holds c ' ' own space
  have noTab := ne_of_holds holds c '\t' own tab
  simp [isBlank, noSpace, noTab]

theorem nameStart_solid (c : Char) (starts : nameStart c = true) :
    isBlank c = false ∧ c ≠ '\x7d' :=
  ⟨solid_of_holds nameStart c starts rfl rfl,
    ne_of_holds nameStart c '\x7d' starts rfl⟩

theorem metricStart_solid (c : Char) (starts : metricStart c = true) :
    isBlank c = false ∧ c ≠ '#' :=
  ⟨solid_of_holds metricStart c starts rfl rfl,
    ne_of_holds metricStart c '#' starts rfl⟩

theorem isBlank_of_isDigit (c : Char) (digit : c.isDigit = true) :
    isBlank c = false :=
  solid_of_holds Char.isDigit c digit rfl rfl

theorem readLabels_label (fuel : Nat) (label inside : List Char)
    (isName : IsName nameStart nameMore label) :
    readLabels (fuel + 1) (label ++ '=' :: '"' :: inside) =
      (readValue inside).bind fun value =>
        match expect ',' value.2 with
        | some rest =>
            (readLabels fuel rest).map fun read =>
              ((label, value.1) :: read.1, read.2)
        | none =>
            (expect '\x7d' value.2).map fun rest =>
              ([(label, value.1)], rest) := by
  have name := readName_append nameStart nameMore label '=' ('"' :: inside)
    isName (by decide)
  obtain ⟨c, rest, rfl, starts, all⟩ := isName
  obtain ⟨solid, notBrace⟩ := nameStart_solid c starts
  rw [List.cons_append] at name ⊢
  rw [readLabels, expect_cons '\x7d' c _ solid, if_neg notBrace,
    skip_of_not_blank c _ solid, name]
  simp only [Option.bind_some, expect_cons '=' '=' _ (by decide),
    expect_cons '"' '"' _ (by decide), if_true]

def writeLabels : List (List Char × List Char) → List Char
  | [] => ['\x7d']
  | [(label, value)] => label ++ '=' :: '"' :: (value ++ '"' :: ['\x7d'])
  | (label, value) :: next :: more =>
      label ++ '=' :: '"' :: (value ++ '"' :: ',' :: writeLabels (next :: more))

def writeSample (metric : List Char) (labels : List (List Char × List Char))
    (value : List Char) : List Char :=
  metric ++ '\x7b' :: (writeLabels labels ++ ' ' :: value)

theorem writeLabels_single (label value after : List Char) :
    writeLabels [(label, value)] ++ after =
      label ++ '=' :: '"' :: (value ++ '"' :: '\x7d' :: after) := by
  simp [writeLabels]

theorem writeLabels_more (label value after : List Char)
    (next : List Char × List Char) (more : List (List Char × List Char)) :
    writeLabels ((label, value) :: next :: more) ++ after =
      label ++ '=' :: '"' :: (value ++ '"' :: ',' ::
        (writeLabels (next :: more) ++ after)) := by
  simp [writeLabels]

theorem writeLabels_length (labels : List (List Char × List Char)) :
    labels.length ≤ (writeLabels labels).length := by
  fun_induction writeLabels labels with
  | case1 => decide
  | case2 label value =>
      simp only [List.length_append, List.length_cons]
      omega
  | case3 label value next more ih =>
      simp only [List.length_append, List.length_cons] at ih ⊢
      omega

theorem readLabels_writeLabels (labels : List (List Char × List Char))
    (after : List Char) (fuel : Nat) (enough : labels.length < fuel)
    (names : ∀ pair, pair ∈ labels → IsName nameStart nameMore pair.1)
    (plain : ∀ pair, pair ∈ labels → Plain pair.2) :
    readLabels fuel (writeLabels labels ++ after) = some (labels, after) := by
  induction labels generalizing fuel with
  | nil =>
      obtain ⟨fuel, rfl⟩ : ∃ less, fuel = less + 1 := ⟨fuel - 1, by omega⟩
      simp [writeLabels, readLabels, expect_brace]
  | cons pair labels ih =>
      obtain ⟨label, value⟩ := pair
      obtain ⟨fuel, rfl⟩ : ∃ less, fuel = less + 1 := ⟨fuel - 1, by omega⟩
      have step (behind : List Char) := readLabels_label fuel label
        (value ++ '"' :: behind) (names _ List.mem_cons_self)
      have read (behind : List Char) :
          readValue (value ++ '"' :: behind) = some (value, behind) := by
        rw [readValue_iff, escape_of_plain value (plain _ List.mem_cons_self)]
      cases labels with
      | nil =>
          rw [writeLabels_single, step, read]
          simp [expect_brace]
      | cons next more =>
          have later := ih fuel (by simp at enough ⊢; omega)
            (fun pair member => names pair (List.mem_cons_of_mem _ member))
            (fun pair member => plain pair (List.mem_cons_of_mem _ member))
          rw [writeLabels_more, step, read]
          simp [expect_comma, later]

theorem isFloat_of_digits (token : List Char) (nonempty : token ≠ [])
    (digits : ∀ c, c ∈ token → c.isDigit = true) : isFloat token = true := by
  cases token with
  | nil => exact absurd rfl nonempty
  | cons c rest =>
      have digit := digits c List.mem_cons_self
      have noPlus := ne_of_holds Char.isDigit c '+' digit rfl
      have noMinus := ne_of_holds Char.isDigit c '-' digit rfl
      have all : (c :: rest).takeWhile Char.isDigit = c :: rest :=
        List.takeWhile_eq_self_iff.mpr digits
      have nothing : (c :: rest).dropWhile Char.isDigit = [] :=
        List.dropWhile_eq_nil_iff.mpr digits
      simp [isFloat, noPlus, noMinus, isDecimal, all, nothing]

theorem readMeasure_digits (metric : List Char)
    (labels : List (List Char × List Char)) (token : List Char)
    (nonempty : token ≠ []) (digits : ∀ c, c ∈ token → c.isDigit = true) :
    readMeasure metric labels (skip (' ' :: token)) =
      some
        { metric := metric
          labels := labels
          value := token
          timestamp := none } := by
  have solid (c : Char) (member : c ∈ token) : (!isBlank c) = true := by
    rw [isBlank_of_isDigit c (digits c member)]
    rfl
  have skipped : skip (' ' :: token) = token := by
    cases token with
    | nil => exact absurd rfl nonempty
    | cons c rest =>
        have own := isBlank_of_isDigit c (digits c List.mem_cons_self)
        rw [skip, List.dropWhile_cons_of_pos (by decide),
          List.dropWhile_cons_of_neg (by simp [own])]
  have all : token.takeWhile (fun c => !isBlank c) = token :=
    List.takeWhile_eq_self_iff.mpr solid
  have nothing : token.dropWhile (fun c => !isBlank c) = [] :=
    List.dropWhile_eq_nil_iff.mpr solid
  have done : skip [] = [] := rfl
  simp only [readMeasure, skipped, all, nothing, done,
    isFloat_of_digits token nonempty digits, if_true]

theorem readLine_metric (metric inside : List Char)
    (isName : IsName metricStart metricMore metric) :
    readLine (metric ++ '\x7b' :: inside) =
      ((readLabels (inside.length + 1) inside).bind fun read =>
        readMeasure metric read.1 (skip read.2)).map some := by
  have name := readName_append metricStart metricMore metric '\x7b' inside
    isName (by decide)
  obtain ⟨c, rest, rfl, starts, all⟩ := isName
  obtain ⟨solid, notHash⟩ := metricStart_solid c starts
  rw [List.cons_append] at name ⊢
  rw [readLine, skip_of_not_blank c _ solid]
  simp only [if_neg notHash, readSample, name, Option.bind_some,
    expect_cons '\x7b' '\x7b' _ (by decide), if_true]

theorem readLine_writeSample (metric : List Char)
    (labels : List (List Char × List Char)) (value : List Char)
    (isName : IsName metricStart metricMore metric)
    (names : ∀ pair, pair ∈ labels → IsName nameStart nameMore pair.1)
    (plain : ∀ pair, pair ∈ labels → Plain pair.2) (nonempty : value ≠ [])
    (digits : ∀ c, c ∈ value → c.isDigit = true) :
    readLine (writeSample metric labels value) =
      some (some
        { metric := metric
          labels := labels
          value := value
          timestamp := none }) := by
  have enough := writeLabels_length labels
  have fuel : labels.length <
      (writeLabels labels ++ ' ' :: value).length + 1 := by
    rw [List.length_append]
    omega
  rw [writeSample, readLine_metric metric _ isName,
    readLabels_writeLabels labels (' ' :: value) _ fuel names plain,
    Option.bind_some, readMeasure_digits metric labels value nonempty digits]
  rfl

/-! ### What reads back -/

def firstLine (text : List Char) : List Char :=
  text.takeWhile (fun c => c ≠ '\n')

theorem firstLine_append (before after : List Char)
    (single : '\n' ∉ before) :
    firstLine (before ++ after) = before ++ firstLine after := by
  refine List.takeWhile_append_of_pos fun c member => ?_
  have other : c ≠ '\n' := fun same => single (same ▸ member)
  simpa using other

theorem firstLine_cons (c : Char) (after : List Char) (other : c ≠ '\n') :
    firstLine (c :: after) = c :: firstLine after :=
  List.takeWhile_cons_of_pos (by simpa using other)

theorem not_feed_mem_name (start more : Char → Bool) (name : List Char)
    (isName : IsName start more name) (startFeed : start '\n' = false)
    (moreFeed : more '\n' = false) : '\n' ∉ name := by
  obtain ⟨c, rest, rfl, starts, all⟩ := isName
  intro member
  rcases List.mem_cons.mp member with rfl | later
  · rw [startFeed] at starts
    cases starts
  · have inName := all _ later
    rw [moreFeed] at inName
    cases inName

theorem not_feed_mem_metric (metric : List Char)
    (isName : IsName metricStart metricMore metric) : '\n' ∉ metric :=
  not_feed_mem_name metricStart metricMore metric isName rfl rfl

theorem firstLine_quote (after : List Char) :
    firstLine ('"' :: after) = '"' :: firstLine after :=
  firstLine_cons '"' after (by decide)

theorem firstLine_comma (after : List Char) :
    firstLine (',' :: after) = ',' :: firstLine after :=
  firstLine_cons ',' after (by decide)

theorem firstLine_label (label value rest : List Char)
    (isName : IsName nameStart nameMore label) :
    firstLine (label ++ '=' :: '"' :: (value ++ '"' :: rest)) =
      label ++ '=' :: '"' :: firstLine (value ++ '"' :: rest) := by
  have single := not_feed_mem_name nameStart nameMore label isName rfl rfl
  rw [firstLine_append _ _ single, firstLine_cons '=' _ (by decide),
    firstLine_quote]

theorem not_feed_mem_plain (value : List Char) (plain : Plain value) :
    '\n' ∉ value :=
  fun member => (plain _ member).2.2 rfl

theorem plain_of_readValue (value rest behind : List Char)
    (read : readValue (firstLine (value ++ '"' :: rest)) =
      some (value, behind)) : Plain value := by
  refine plain_of_escape_prefix value rest ?_
  have text := (readValue_iff _ value behind).mp read
  have front : escape value ++ '"' :: behind <+: value ++ '"' :: rest :=
    text ▸ List.takeWhile_prefix _
  refine List.IsPrefix.trans ⟨behind, ?_⟩ front
  simp

theorem readLabels_label_inv (fuel : Nat) (label inside value : List Char)
    (labels : List (List Char × List Char)) (behind : List Char)
    (isName : IsName nameStart nameMore label)
    (read : readLabels (fuel + 1) (label ++ '=' :: '"' :: inside) =
      some ((label, value) :: labels, behind)) :
    ∃ left, readValue inside = some (value, left) ∧
      (labels = [] ∨ ∃ rest, expect ',' left = some rest ∧
        readLabels fuel rest = some (labels, behind)) := by
  rw [readLabels_label fuel label inside isName] at read
  obtain ⟨⟨found, left⟩, inner, outer⟩ := Option.bind_eq_some_iff.mp read
  cases comma : expect ',' left with
  | none =>
      simp only [comma, Option.map_eq_some_iff, Prod.mk.injEq, List.cons.injEq,
        true_and] at outer
      obtain ⟨_, _, ⟨rfl, rfl⟩, _⟩ := outer
      exact ⟨left, inner, Or.inl rfl⟩
  | some rest =>
      simp only [comma, Option.map_eq_some_iff, Prod.mk.injEq, List.cons.injEq,
        true_and] at outer
      obtain ⟨⟨_, _⟩, later, ⟨rfl, rfl⟩, rfl⟩ := outer
      exact ⟨left, inner, Or.inr ⟨rest, comma, later⟩⟩

/-- Where the first line behind a brace reads as the labels that were written,
all their values are plain. -/
theorem plain_of_readLabels (labels : List (List Char × List Char))
    (after behind : List Char) (fuel : Nat)
    (names : ∀ pair, pair ∈ labels → IsName nameStart nameMore pair.1)
    (read : readLabels fuel (firstLine (writeLabels labels ++ after)) =
      some (labels, behind)) :
    ∀ pair, pair ∈ labels → Plain pair.2 := by
  induction labels generalizing fuel behind with
  | nil => exact fun pair member => nomatch member
  | cons pair labels ih =>
      obtain ⟨label, value⟩ := pair
      obtain ⟨fuel, rfl⟩ : ∃ less, fuel = less + 1 := by
        cases fuel with
        | zero => cases read
        | succ fuel => exact ⟨fuel, rfl⟩
      have named := names _ List.mem_cons_self
      cases labels with
      | nil =>
          rw [writeLabels_single, firstLine_label _ _ _ named] at read
          obtain ⟨left, inner, _⟩ := readLabels_label_inv fuel label _ value []
            behind named read
          simpa using plain_of_readValue value _ left inner
      | cons next more =>
          rw [writeLabels_more, firstLine_label _ _ _ named] at read
          obtain ⟨left, inner, alone | ⟨rest, comma, later⟩⟩ :=
            readLabels_label_inv fuel label _ value (next :: more) behind named
              read
          · cases alone
          have plain := plain_of_readValue value _ left inner
          rw [firstLine_append _ _ (not_feed_mem_plain value plain),
            firstLine_quote, firstLine_comma, readValue_iff,
            escape_of_plain value plain, List.append_cancel_left_eq,
            List.cons.injEq] at inner
          rw [← inner.2, expect_comma, if_pos rfl, Option.some.injEq] at comma
          subst comma
          exact List.forall_mem_cons.mpr ⟨plain, ih behind fuel
            (fun pair member => names pair (List.mem_cons_of_mem _ member))
            later⟩

theorem readMeasure_labels (metric : List Char)
    (labels : List (List Char × List Char)) (text : List Char)
    (sample : Sample) (read : readMeasure metric labels text = some sample) :
    sample.labels = labels := by
  unfold readMeasure at read
  dsimp only at read
  split_ifs at read <;> cases read <;> rfl

theorem readLine_firstLine (metric : List Char)
    (labels : List (List Char × List Char)) (value : List Char)
    (isName : IsName metricStart metricMore metric) :
    let inside := firstLine (writeLabels labels ++ ' ' :: value)
    readLine (firstLine (writeSample metric labels value)) =
      ((readLabels (inside.length + 1) inside).bind fun read =>
        readMeasure metric read.1 (skip read.2)).map some := by
  have single := not_feed_mem_metric metric isName
  rw [writeSample, firstLine_append _ _ single,
    firstLine_cons '\x7b' _ (by decide)]
  exact readLine_metric metric _ isName

theorem readLine_writeSample_some (metric : List Char)
    (labels : List (List Char × List Char)) (value : List Char)
    (found : Option Sample) (isName : IsName metricStart metricMore metric)
    (read : readLine (firstLine (writeSample metric labels value)) =
      some found) : ∃ sample, found = some sample := by
  rw [readLine_firstLine metric labels value isName, Option.map_eq_some_iff]
    at read
  obtain ⟨sample, _, same⟩ := read
  exact ⟨sample, same.symm⟩

theorem plain_of_readLine (metric : List Char)
    (labels : List (List Char × List Char)) (value : List Char)
    (sample : Sample) (isName : IsName metricStart metricMore metric)
    (names : ∀ pair, pair ∈ labels → IsName nameStart nameMore pair.1)
    (read : readLine (firstLine (writeSample metric labels value)) =
      some (some sample)) (same : sample.labels = labels) :
    ∀ pair, pair ∈ labels → Plain pair.2 := by
  rw [readLine_firstLine metric labels value isName, Option.map_eq_some_iff]
    at read
  obtain ⟨_, measured, inner⟩ := read
  cases inner
  obtain ⟨⟨found, behind⟩, labelled, measure⟩ :=
    Option.bind_eq_some_iff.mp measured
  have own := readMeasure_labels metric found _ sample measure
  rw [same] at own
  subst own
  exact plain_of_readLabels _ _ behind _ names labelled

theorem readDocument_lines (texts : List (List Char)) :
    readDocument (texts.flatMap (fun text => text ++ ['\n'])) =
      readLines (texts.flatMap (fun text => text.splitOn '\n')) := by
  have lines : (texts.flatMap (fun text => text ++ ['\n'])).splitOn '\n' =
      texts.flatMap (fun text => text.splitOn '\n') ++ [[]] := by
    induction texts with
    | nil => rfl
    | cons text texts ih =>
        rw [List.flatMap_cons, List.append_assoc, List.singleton_append,
          List.splitOn_append_cons_self, ih, List.flatMap_cons,
          List.append_assoc]
  simp only [readDocument, lines, List.getLast?_concat, if_true,
    List.dropLast_concat]

theorem splitOn_firstLine (text : List Char) :
    ∃ rest, text.splitOn '\n' = firstLine text :: rest := by
  induction text with
  | nil => exact ⟨[], rfl⟩
  | cons c text ih =>
      obtain ⟨rest, split⟩ := ih
      rw [List.splitOn_cons_eq_if_modifyHead]
      by_cases feed : c = '\n'
      · subst feed
        exact ⟨text.splitOn '\n', rfl⟩
      · refine ⟨rest, ?_⟩
        rw [if_neg (by simpa using feed), split, firstLine_cons c text feed]
        rfl

end Exposition
