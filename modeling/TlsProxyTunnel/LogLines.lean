/-
What the format closure of `json` writes.

Time, level and target go between their quotes as they are, and only the message
is written by a JSON library, which is not part of the program.  What keeps a
message from ending its line or its object is that library; the other three have
to do without.  The closure writes into a buffer of the log library; what that
library then prints of the buffer is not part of the program either.
-/

import TlsProxyTunnel.Library.JsonText
import TlsProxyTunnel.Loader
import TlsProxyTunnel.StatsLog

namespace TlsProxyTunnel

open JsonText

inductive LogLevel where
  | error
  | warn
  | info
  | debug
  | trace
  deriving DecidableEq, Repr

def LogLevel.display : LogLevel → String
  | .error => "ERROR"
  | .warn => "WARN"
  | .info => "INFO"
  | .debug => "DEBUG"
  | .trace => "TRACE"

structure LogRecord where
  now : Option String
  level : LogLevel
  target : String
  args : String

inductive LogFormat where
  | default
  | json
  deriving DecidableEq, Repr

structure Logger where
  filters : String
  format : LogFormat
  deriving DecidableEq, Repr

/-- The logger that `load_config` installs; what `RUST_LOG` says goes before the
level of the file. -/
def BaseConfig.logger (base : BaseConfig) (rustLog : Except VarError String) :
    Option Logger :=
  let logLevel := base.log.getD "info"
  let logFormat := base.logFormat.getD "txt"
  if logLevel ≠ "disable" then
    some
      { filters :=
          match rustLog with
          | .ok filters => filters
          | .error _ => logLevel
        format := if logFormat = "json" then .json else .default }
  else
    none

section Writing

variable (jsonString : String → String)

def LogRecord.ts (record : LogRecord) : String := record.now.getD ""

def LogRecord.jsonLine (record : LogRecord) : String :=
  "\x7b\"ts\":\"" ++ record.ts ++ "\",\"level\":\"" ++ record.level.display ++
    "\",\"target\":\"" ++ record.target ++ "\",\"msg\":" ++
    jsonString record.args ++ "\x7d"

/-- The closure the builder is given, as what it writes of a record; the default
format has none. -/
def LogFormat.closure : LogFormat → Option (LogRecord → String)
  | .default => none
  | .json => some (fun record => record.jsonLine jsonString ++ "\n")

def SpelledAs (text value : String) : Prop :=
  ∃ body, text.toList = '"' :: (body ++ ['"']) ∧ Spells body value.toList

end Writing

def LogRecord.members (record : LogRecord) : Members :=
  [("ts".toList, record.ts.toList), ("level".toList, record.level.display.toList),
    ("target".toList, record.target.toList), ("msg".toList, record.args.toList)]

def LogRecord.fields (record : LogRecord) (body : List Char) : List Field :=
  [ { key := "ts".toList, body := record.ts.toList, value := record.ts.toList },
    { key := "level".toList
      body := record.level.display.toList
      value := record.level.display.toList },
    { key := "target".toList
      body := record.target.toList
      value := record.target.toList },
    { key := "msg".toList, body := body, value := record.args.toList } ]

theorem LogRecord.jsonLine_toList (jsonString : String → String)
    (record : LogRecord) (body : List Char)
    (quoted : (jsonString record.args).toList = '"' :: (body ++ ['"'])) :
    (record.jsonLine jsonString).toList = writeObject (record.fields body) := by
  simp [LogRecord.jsonLine, LogRecord.fields, writeObject, writeMembers,
    Field.text, quoted]

theorem plain_of_all (value : List Char)
    (all : value.all (fun c => decide (Bare c)) = true) : Plain value :=
  fun c member => of_decide_eq_true (List.all_eq_true.mp all c member)

theorem LogLevel.plain (level : LogLevel) : Plain level.display.toList := by
  cases level <;> exact plain_of_all _ (by decide)

theorem LogRecord.written (record : LogRecord) (body : List Char)
    (spelled : Spells body record.args.toList) :
    ∀ field, field ∈ record.fields body → field.Written := by
  simp only [LogRecord.fields, List.forall_mem_cons]
  exact ⟨⟨plain_of_all "ts".toList (by decide), Or.inl rfl⟩,
    ⟨plain_of_all "level".toList (by decide), Or.inl rfl⟩,
    ⟨plain_of_all "target".toList (by decide), Or.inl rfl⟩,
    ⟨plain_of_all "msg".toList (by decide), Or.inr spelled⟩,
    fun _ member => absurd member List.not_mem_nil⟩

theorem plain_of_spells (value : List Char) (spelled : Spells value value) :
    Plain value := (spelled.as_it_is (le_refl _)).2

theorem LogRecord.spelled_iff (record : LogRecord) (body : List Char)
    (spelled : Spells body record.args.toList) :
    (∀ field, field ∈ record.fields body → Spells field.body field.value) ↔
      Plain record.ts.toList ∧ Plain record.target.toList := by
  have level := spells_of_plain _ record.level.plain
  simp only [LogRecord.fields, List.forall_mem_cons]
  constructor
  · rintro ⟨ts, _, target, _⟩
    exact ⟨plain_of_spells _ ts, plain_of_spells _ target⟩
  · rintro ⟨ts, target⟩
    exact ⟨spells_of_plain _ ts, level, spells_of_plain _ target, spelled,
      fun _ member => absurd member List.not_mem_nil⟩

theorem LogRecord.jsonLine_iff (jsonString : String → String)
    (record : LogRecord)
    (spells : SpelledAs (jsonString record.args) record.args) :
    ('\n' ∉ (record.jsonLine jsonString).toList ∧
        readObject (record.jsonLine jsonString).toList = some record.members) ↔
      Plain record.ts.toList ∧ Plain record.target.toList := by
  obtain ⟨body, quoted, spelled⟩ := spells
  have written := record.written body spelled
  have members : record.members = (record.fields body).map Field.member := rfl
  rw [record.jsonLine_toList jsonString body quoted, members,
    readObject_iff (record.fields body) (List.cons_ne_nil _ _) written,
    record.spelled_iff body spelled]
  refine ⟨And.right, fun plain => ⟨writeObject_single _ ?_, plain⟩⟩
  have each := (record.spelled_iff body spelled).mpr plain
  exact fun field member => ⟨(written field member).key, each field member⟩

/-- Whatever the messages are, what the closure writes of any records is read
back record by record exactly when no time and no target has a character that
JSON escapes. -/
theorem json_log_exact (jsonString : String → String)
    (spells : ∀ text, SpelledAs (jsonString text) text) (base : BaseConfig)
    (json : base.logFormat = some "json") (rustLog : Except VarError String)
    (logger : Logger) (installed : base.logger rustLog = some logger) :
    ∃ write, logger.format.closure jsonString = some write ∧
      ∀ records : List LogRecord,
        (readDocument (String.join (records.map write)).toList =
            some (records.map LogRecord.members) ↔
          ∀ record, record ∈ records →
            Plain record.ts.toList ∧ Plain record.target.toList) := by
  have format : logger.format = .json := by
    simp only [BaseConfig.logger, json, Option.getD_some, if_true] at installed
    split_ifs at installed
    cases installed
    rfl
  refine ⟨fun record => record.jsonLine jsonString ++ "\n", ?_, fun records => ?_⟩
  · rw [format]
    rfl
  · have written : (String.join (records.map (fun record =>
        record.jsonLine jsonString ++ "\n"))).toList =
        writeDocument (records.map (fun record =>
          (record.jsonLine jsonString).toList)) := by
      simp only [String.toList_join, List.flatMap_map, String.toList_append,
        writeDocument]
      rfl
    rw [written, readDocument_iff]
    exact forall₂_congr (fun record _ =>
      record.jsonLine_iff jsonString (spells record.args))

/-! ### A library -/

def escapeJson (c : Char) : List Char :=
  if c = '"' then ['\\', '"']
  else if c = '\\' then ['\\', '\\']
  else if c = '\x08' then ['\\', 'b']
  else if c = '\x0c' then ['\\', 'f']
  else if c = '\n' then ['\\', 'n']
  else if c = '\r' then ['\\', 'r']
  else if c = '\t' then ['\\', 't']
  else if c.toNat < 32 then
    ['\\', 'u', '0', '0', Nat.digitChar (c.toNat / 16),
      Nat.digitChar (c.toNat % 16)]
  else [c]

def writeJsonString (text : String) : String :=
  "\"" ++ String.ofList (text.toList.flatMap escapeJson) ++ "\""

theorem codeUnit_of_control : ∀ code, code < 32 →
    codeUnit '0' '0' (Nat.digitChar (code / 16)) (Nat.digitChar (code % 16)) =
      some code := by
  decide

theorem escapeJson_spelling (c : Char) : Spelling (escapeJson c) c := by
  unfold escapeJson
  split_ifs with quote backslash back feed line carriage tab control
  · exact quote ▸ .short '"' '"' rfl
  · exact backslash ▸ .short '\\' '\\' rfl
  · exact back ▸ .short 'b' '\x08' rfl
  · exact feed ▸ .short 'f' '\x0c' rfl
  · exact line ▸ .short 'n' '\n' rfl
  · exact carriage ▸ .short 'r' '\r' rfl
  · exact tab ▸ .short 't' '\t' rfl
  · have digits := codeUnit_of_control c.toNat control
    have spelled := Spelling.unit '0' '0' (Nat.digitChar (c.toNat / 16))
      (Nat.digitChar (c.toNat % 16)) c.toNat digits
      (fun lead => by have := lead.1; omega)
      (fun trail => by have := trail.1; omega)
    rwa [Char.ofNat_toNat] at spelled
  · exact .bare c ⟨quote, backslash, not_lt.mp control⟩

theorem writeJsonString_spelled (text : String) :
    SpelledAs (writeJsonString text) text := by
  refine ⟨text.toList.flatMap escapeJson, by simp [writeJsonString], ?_⟩
  induction text.toList with
  | nil => exact .nil
  | cons c value ih =>
      rw [List.flatMap_cons]
      exact .cons _ c _ value (escapeJson_spelling c) ih

/-- A host that would like to end the message, the object and the line, in the
label of a relay. -/
def forgedRecord : LogRecord :=
  { now := some "2026-01-01T00:00:00Z"
    level := .info
    target := "tls_proxy_tunnel::upstreams::proxy_to_upstream::relay"
    args := statsLine "10.0.0.1:3128 → \"\x7d\n\x7b\"ts\":\":443" 5 7 }

def jsonBase : BaseConfig :=
  { version := 1
    log := none
    logFormat := some "json"
    servers := ∅
    upstream := ∅
    via := ViaUpstream.default }

theorem json_log_exact_of_forged :
    ∃ logger write,
      jsonBase.logger (.error .notPresent) = some logger ∧
      logger.format.closure writeJsonString = some write ∧
      readDocument (String.join ([forgedRecord, forgedRecord].map write)).toList =
        some [forgedRecord.members, forgedRecord.members] := by
  obtain ⟨write, closure, faithful⟩ := json_log_exact writeJsonString
    writeJsonString_spelled jsonBase rfl (.error .notPresent) _ rfl
  have plain : Plain forgedRecord.ts.toList ∧
      Plain forgedRecord.target.toList :=
    ⟨plain_of_all _ (by decide), plain_of_all _ (by decide)⟩
  refine ⟨_, write, rfl, closure, ?_⟩
  exact (faithful [forgedRecord, forgedRecord]).mpr (by simp [plain])

end TlsProxyTunnel
