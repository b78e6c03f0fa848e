/-
From the command line to the running server.

`main` picks a configuration file, loads it and runs the server that is built
from it.  The file system, the environment and the YAML decoder are parameters.
The arguments are Unicode: `std::env::args` panics on others before `run`.
-/

import TlsProxyTunnel.Loading

namespace TlsProxyTunnel

inductive Cli where
  | help
  | run (configPath : Option String)
  deriving DecidableEq, Repr

def isHelpFlag (arg : String) : Bool := arg = "--help" ∨ arg = "-h"

def isConfigFlag (arg : String) : Bool := arg = "--config" ∨ arg = "-c"

/-- Help is given wherever it is asked for, also as the value of `--config`;
arguments behind the path are not looked at. -/
def parseArgs (args : List String) : Except String Cli :=
  if args.any isHelpFlag then .ok .help
  else
    match args with
    | [] => .ok (.run none)
    | flag :: rest =>
        if isConfigFlag flag then
          match rest with
          | path :: _ => .ok (.run (some path))
          | [] => .error "--config requires a path argument"
        else
          .error ("Unknown argument: " ++ flag)

structure Host where
  tptConfig : Except VarError String
  pathExists : String → Bool
  readFile : String → Except IoError String
  fromYaml : String → Except String BaseConfig
  parseUrl : String → Option Url
  hashOrder : List String → List String
  text : AddrText

namespace Host

variable (host : Host)

def searchPaths : List String :=
  (match host.tptConfig with
    | .ok path => [path]
    | .error _ => []) ++
  ["/etc/tpt/tpt.yaml", "/etc/tpt/config.yaml", "tpt.yaml", "config.yaml"]

def firstExisting (tried : List String) :
    List String → Except (List String) String
  | [] => .error tried
  | path :: rest =>
      if host.pathExists path then .ok path
      else firstExisting (tried ++ [path]) rest

def findConfig : Except (List String) String :=
  host.firstExisting [] host.searchPaths

end Host

inductive ConfigNewError where
  | io (error : IoError)
  | yaml (message : String)
  | custom (error : ConfigError)
  deriving DecidableEq

def ConfigNewError.display : ConfigNewError → String
  | .io error => "IO error: " ++ error.message
  | .yaml message => "YAML parse error: " ++ message
  | .custom (.custom message) => message

def Host.configNew (host : Host) (path : String) :
    Except ConfigNewError ParsedConfig :=
  match host.readFile path with
  | .error error => .error (.io error)
  | .ok contents =>
      match host.fromYaml contents with
      | .error message => .error (.yaml message)
      | .ok base =>
          match loadConfig host.parseUrl host.hashOrder base with
          | .error error => .error (.custom error)
          | .ok config => .ok config

inductive Complaint where
  | usage (message : String)
  | notFound (paths : List String)
  | notLoaded (error : ConfigNewError)
  deriving DecidableEq

def Complaint.lines : Complaint → List String
  | .usage message =>
      ["Error: " ++ message, "Run with --help for usage."]
  | .notFound paths =>
      "Could not find config file. Tried paths:" ::
        paths.map (fun path => "  " ++ path)
  | .notLoaded error => ["Could not load config: " ++ error.display]

inductive ProcessEnd where
  | exited (code : UInt8)
  | panicked
  deriving DecidableEq

/-- What the process has done when it ends.  A server that was started runs
before that, and `Server::run` returns no error. -/
structure ProcessOutcome where
  helped : Bool
  opened : Option String
  complaint : Option Complaint
  server : Option Server
  ended : ProcessEnd

def ProcessOutcome.helpful : ProcessOutcome :=
  { helped := true
    opened := none
    complaint := none
    server := none
    ended := .exited 0 }

def ProcessOutcome.failed (opened : Option String) (complaint : Complaint) :
    ProcessOutcome :=
  { helped := false
    opened := opened
    complaint := some complaint
    server := none
    ended := .exited 1 }

namespace Host

variable (host : Host)

def runConfig (path : String) : ProcessOutcome :=
  match host.configNew path with
  | .error error => .failed (some path) (.notLoaded error)
  | .ok config =>
      match Server.fromParsedConfig host.text config with
      | none =>
          { helped := false
            opened := some path
            complaint := none
            server := none
            ended := .panicked }
      | some server =>
          { helped := false
            opened := some path
            complaint := none
            server := some server
            ended := .exited 0 }

def run (args : List String) : ProcessOutcome :=
  match parseArgs args with
  | .error message => .failed none (.usage message)
  | .ok .help => .helpful
  | .ok (.run (some path)) => host.runConfig path
  | .ok (.run none) =>
      match host.findConfig with
      | .ok path => host.runConfig path
      | .error paths =>
          if args.isEmpty then .helpful
          else .failed none (.notFound paths)

end Host

/-! ### Which file is opened -/

/-- Named on the command line, or the first of the search paths that exists
where the command line is empty. -/
inductive Chosen (host : Host) : List String → String → Prop where
  | named (flag path : String) (rest : List String)
      (config : isConfigFlag flag = true)
      (unhelped : (flag :: path :: rest).any isHelpFlag = false) :
      Chosen host (flag :: path :: rest) path
  | found (before after : List String) (path : String)
      (order : host.searchPaths = before ++ path :: after)
      (there : host.pathExists path = true)
      (missing : ∀ earlier, earlier ∈ before →
        host.pathExists earlier = false) :
      Chosen host [] path

def Helped (host : Host) (args : List String) : Prop :=
  args.any isHelpFlag = true ∨
    args = [] ∧ ∀ path, path ∈ host.searchPaths → host.pathExists path = false

def Misused (args : List String) : Prop :=
  args.any isHelpFlag = false ∧
    ∃ flag rest, args = flag :: rest ∧ (isConfigFlag flag = true → rest = [])

theorem firstExisting_cases (host : Host) (tried paths : List String) :
    (∃ before path after, paths = before ++ path :: after ∧
      host.pathExists path = true ∧
      (∀ earlier, earlier ∈ before → host.pathExists earlier = false) ∧
      host.firstExisting tried paths = .ok path) ∨
    (∀ path, path ∈ paths → host.pathExists path = false) ∧
      host.firstExisting tried paths = .error (tried ++ paths) := by
  induction paths generalizing tried with
  | nil =>
      refine Or.inr ⟨fun path member => (List.not_mem_nil member).elim, ?_⟩
      rw [Host.firstExisting, List.append_nil]
  | cons first rest ih =>
      cases there : host.pathExists first with
      | true =>
          refine Or.inl ⟨[], first, rest, rfl, there, ?_, ?_⟩
          · intro earlier member
            cases member
          · rw [Host.firstExisting, if_pos there]
      | false =>
          have skips : host.firstExisting tried (first :: rest) =
              host.firstExisting (tried ++ [first]) rest := by
            rw [Host.firstExisting, if_neg (by simp [there])]
          rcases ih (tried ++ [first]) with
            ⟨before, path, after, rfl, exists_, missing, found⟩ |
            ⟨missing, tried_⟩
          · refine Or.inl ⟨first :: before, path, after, rfl, exists_, ?_,
              skips.trans found⟩
            intro earlier member
            rcases List.mem_cons.mp member with same | later
            · rw [same, there]
            · exact missing earlier later
          · refine Or.inr ⟨?_, ?_⟩
            · intro path member
              rcases List.mem_cons.mp member with same | later
              · rw [same, there]
              · exact missing path later
            · rw [skips, tried_, List.append_assoc]
              rfl

theorem run_cases (host : Host) (args : List String) :
    (Helped host args ∧ host.run args = .helpful) ∨
    (Misused args ∧
      ∃ message, host.run args = .failed none (.usage message)) ∨
    ∃ path, Chosen host args path ∧ host.run args = host.runConfig path := by
  unfold Host.run
  cases helped : args.any isHelpFlag with
  | true =>
      have parsed : parseArgs args = .ok .help := by
        simp only [parseArgs, helped, if_true]
      rw [parsed]
      exact Or.inl ⟨Or.inl helped, rfl⟩
  | false =>
      cases args with
      | nil =>
          have parsed : parseArgs [] = .ok (.run none) := rfl
          rw [parsed]
          unfold Host.findConfig
          rcases firstExisting_cases host [] host.searchPaths with
            ⟨before, path, after, order, there, missing, found⟩ |
            ⟨missing, tried⟩
          · rw [found]
            exact Or.inr (Or.inr
              ⟨path, .found before after path order there missing, rfl⟩)
          · rw [tried]
            exact Or.inl ⟨Or.inr ⟨rfl, missing⟩, rfl⟩
      | cons flag rest =>
          refine Or.inr ?_
          cases config : isConfigFlag flag with
          | false =>
              have parsed : parseArgs (flag :: rest) =
                  .error ("Unknown argument: " ++ flag) := by
                simp only [parseArgs, helped, config, Bool.false_eq_true,
                  if_false]
              rw [parsed]
              refine Or.inl ⟨⟨helped, flag, rest, rfl, fun known => ?_⟩, _, rfl⟩
              rw [config] at known
              cases known
          | true =>
              cases rest with
              | nil =>
                  have parsed : parseArgs [flag] =
                      .error "--config requires a path argument" := by
                    simp only [parseArgs, helped, config, Bool.false_eq_true,
                      if_false, if_true]
                  rw [parsed]
                  exact Or.inl ⟨⟨helped, flag, [], rfl, fun _ => rfl⟩, _, rfl⟩
              | cons path rest =>
                  have parsed : parseArgs (flag :: path :: rest) =
                      .ok (.run (some path)) := by
                    simp only [parseArgs, helped, config, Bool.false_eq_true,
                      if_false, if_true]
                  rw [parsed]
                  exact Or.inr
                    ⟨path, .named flag path rest config helped, rfl⟩

theorem Chosen.not_helped {host : Host} {args : List String} {path : String}
    (chosen : Chosen host args path) : ¬ Helped host args := by
  cases chosen with
  | named flag path rest config unhelped =>
      rintro (helped | ⟨empty, _⟩)
      · rw [unhelped] at helped
        cases helped
      · cases empty
  | found before after path order there missing =>
      rintro (helped | ⟨_, absent⟩)
      · cases helped
      · have gone := absent path (by rw [order]; simp)
        rw [there] at gone
        cases gone

theorem Chosen.not_misused {host : Host} {args : List String} {path : String}
    (chosen : Chosen host args path) : ¬ Misused args := by
  rintro ⟨_, flag, rest, same, bare⟩
  cases chosen with
  | named first path later config unhelped =>
      cases same
      cases bare config
  | found before after path order there missing => cases same

theorem Misused.not_helped {host : Host} {args : List String}
    (misused : Misused args) : ¬ Helped host args := by
  obtain ⟨unhelped, flag, rest, rfl, _⟩ := misused
  rintro (helped | ⟨empty, _⟩)
  · rw [unhelped] at helped
    cases helped
  · cases empty

theorem Chosen.unique {host : Host} {args : List String} {path other : String}
    (chosen : Chosen host args path) (again : Chosen host args other) :
    path = other := by
  cases chosen with
  | named flag path rest config unhelped =>
      cases again
      rfl
  | found before after path order there missing =>
      cases again with
      | found front back other order' there' missing' =>
          rw [order] at order'
          -- The two lists of missing paths are one.
          rcases List.append_eq_append_iff.mp order' with
            ⟨between, rfl, rest⟩ | ⟨between, rfl, rest⟩
          · cases between with
            | nil => exact (List.cons.inj rest).1
            | cons first between =>
                obtain ⟨rfl, _⟩ := List.cons.inj rest
                have gone := missing' path (by simp)
                rw [there] at gone
                cases gone
          · cases between with
            | nil => exact (List.cons.inj rest).1.symm
            | cons first between =>
                obtain ⟨rfl, _⟩ := List.cons.inj rest
                have gone := missing other (by simp)
                rw [there'] at gone
                cases gone

/-! ### What becomes of the file -/

def Decodes (host : Host) (path : String) (base : BaseConfig) : Prop :=
  ∃ contents, host.readFile path = .ok contents ∧
    host.fromYaml contents = .ok base

def Unloadable (host : Host) (path : String) : Prop :=
  (∀ base, ¬ Decodes host path base) ∨
    ∃ base error, Decodes host path base ∧ Fault host.parseUrl base error

def Overfull (text : AddrText) (servers : HashMap ServerConfig) : Prop :=
  ∃ server listen, server ∈ HashMap.values servers ∧ listen ∈ server.listen ∧
    (text.parse listen).isSome = true ∧
    Semaphore.maxPermits < server.maxclients

theorem Decodes.unique {host : Host} {path : String} {base other : BaseConfig}
    (decodes : Decodes host path base) (again : Decodes host path other) :
    base = other := by
  obtain ⟨contents, read, decoded⟩ := decodes
  obtain ⟨contents', read', decoded'⟩ := again
  rw [read, Except.ok.injEq] at read'
  subst read'
  rw [decoded, Except.ok.injEq] at decoded'
  exact decoded'

theorem fromParsedConfig_eq_none_iff (text : AddrText)
    (config : ParsedConfig) :
    Server.fromParsedConfig text config = none ↔
      Overfull text config.servers := by
  have limits : Server.fromParsedConfig text config = none ↔
      ∃ listening, listening ∈ listenings text config.servers ∧
        Semaphore.maxPermits < listening.config.maxclients := by
    unfold Server.fromParsedConfig
    dsimp only
    by_cases within : (rawProxies text config.servers).all (fun proxy =>
        proxy.maxclientsLimit ≤ Semaphore.maxPermits) = true
    · rw [if_pos within]
      refine ⟨(fun impossible => by cases impossible), ?_⟩
      rintro ⟨listening, member, above⟩
      obtain ⟨index, inside, rfl⟩ := List.mem_iff_getElem.mp member
      have bound := List.all_eq_true.mp within
        ((listenings text config.servers)[index].toProxy index)
        (List.mem_mapIdx.mpr ⟨index, inside, rfl⟩)
      exact absurd (of_decide_eq_true bound) (Nat.not_le_of_lt above)
    · rw [if_neg within]
      refine ⟨fun _ => ?_, fun _ => rfl⟩
      rw [Bool.not_eq_true, List.all_eq_false] at within
      obtain ⟨proxy, member, above⟩ := within
      obtain ⟨index, inside, rfl⟩ := List.mem_mapIdx.mp member
      refine ⟨_, List.getElem_mem inside, ?_⟩
      exact Nat.lt_of_not_le (fun small => above (decide_eq_true small))
  rw [limits]
  constructor
  · rintro ⟨listening, member, above⟩
    obtain ⟨entry, stored, addressed⟩ := List.mem_flatMap.mp member
    obtain ⟨address, parsed, rfl⟩ := List.mem_map.mp addressed
    obtain ⟨listen, listed, found⟩ := List.mem_filterMap.mp parsed
    exact ⟨entry.2, listen, List.mem_map_of_mem stored, listed, by simp [found],
      above⟩
  · rintro ⟨server, listen, member, listed, parses, above⟩
    obtain ⟨entry, stored, rfl⟩ := List.mem_map.mp member
    obtain ⟨address, found⟩ := Option.isSome_iff_exists.mp parses
    exact ⟨{ name := entry.1, config := entry.2, address := address },
      List.mem_flatMap.mpr ⟨entry, stored, List.mem_map.mpr
        ⟨address, List.mem_filterMap.mpr ⟨listen, listed, found⟩, rfl⟩⟩, above⟩

theorem runConfig_helped (host : Host) (path : String) :
    (host.runConfig path).helped = false := by
  unfold Host.runConfig
  cases host.configNew path with
  | error error => rfl
  | ok config =>
      dsimp only
      cases Server.fromParsedConfig host.text config with
      | none => rfl
      | some server => rfl

theorem runConfig_cases (host : Host)
    (iterates : ∀ names name, name ∈ host.hashOrder names ↔ name ∈ names)
    (path : String) :
    (Unloadable host path ∧ ∃ error,
      host.runConfig path = .failed (some path) (.notLoaded error)) ∨
    ∃ base config, Decodes host path base ∧
      (∀ error, ¬ Fault host.parseUrl base error) ∧
      loadConfig host.parseUrl host.hashOrder base = .ok config ∧
      config.servers = base.servers ∧
      (host.runConfig path).opened = some path ∧
      (host.runConfig path).complaint = none ∧
      (host.runConfig path).server =
        Server.fromParsedConfig host.text config ∧
      (host.runConfig path).ended =
        match Server.fromParsedConfig host.text config with
        | some _ => .exited 0
        | none => .panicked := by
  unfold Host.runConfig Host.configNew
  cases read : host.readFile path with
  | error error =>
      refine Or.inl ⟨Or.inl ?_, _, rfl⟩
      rintro base ⟨contents, opened, _⟩
      rw [read] at opened
      cases opened
  | ok contents =>
      cases decoded : host.fromYaml contents with
      | error message =>
          refine Or.inl ⟨Or.inl ?_, _, by simp only [decoded]; rfl⟩
          rintro base ⟨again, opened, accepted⟩
          rw [read, Except.ok.injEq] at opened
          rw [← opened, decoded] at accepted
          cases accepted
      | ok base =>
          have decodes : Decodes host path base := ⟨contents, read, decoded⟩
          cases loaded : loadConfig host.parseUrl host.hashOrder base with
          | error error =>
              exact Or.inl ⟨Or.inr ⟨base, error, decodes,
                loadConfig_fault host.parseUrl base host.hashOrder iterates
                  error loaded⟩, _, by simp only [decoded, loaded]; rfl⟩
          | ok config =>
              obtain ⟨faultless, same⟩ := loadConfig_loaded host.parseUrl base
                host.hashOrder iterates config loaded
              refine Or.inr ⟨base, config, decodes, faultless, loaded,
                same.servers, ?_⟩
              simp only [decoded, loaded]
              cases Server.fromParsedConfig host.text config with
              | none => exact ⟨rfl, rfl, rfl, rfl⟩
              | some server => exact ⟨rfl, rfl, rfl, rfl⟩

/-! ### The whole start -/

def Starts (host : Host) (args : List String) (base : BaseConfig) : Prop :=
  (∃ path, Chosen host args path ∧ Decodes host path base) ∧
    ∀ error, ¬ Fault host.parseUrl base error

/-- What the process does, in terms of what it is given. -/
structure StartsRight (host : Host) (args : List String) (outcome : ProcessOutcome) :
    Prop where
  helped : outcome.helped = true ↔ Helped host args
  opened : ∀ path, outcome.opened = some path ↔ Chosen host args path
  served :
    ∀ server, outcome.server = some server ↔
      ∃ base config, Starts host args base ∧
        loadConfig host.parseUrl host.hashOrder base = .ok config ∧
        Server.fromParsedConfig host.text config = some server
  failed :
    outcome.ended = .exited 1 ↔
      Misused args ∨ ∃ path, Chosen host args path ∧ Unloadable host path
  panicked :
    outcome.ended = .panicked ↔
      ∃ base, Starts host args base ∧ Overfull host.text base.servers
  searched : ∀ paths, outcome.complaint ≠ some (.notFound paths)

theorem Chosen.not_starts {host : Host} {args : List String} {path : String}
    (chosen : Chosen host args path) (unloadable : Unloadable host path)
    (base : BaseConfig) : ¬ Starts host args base := by
  rintro ⟨⟨other, again, decodes⟩, faultless⟩
  have same := again.unique chosen
  subst same
  rcases unloadable with undecoded | ⟨broken, error, decoded, fault⟩
  · exact undecoded base decodes
  · rw [decoded.unique decodes] at fault
    exact faultless error fault

theorem startsRight_of_unchosen (host : Host) (args : List String)
    (outcome : ProcessOutcome) (unchosen : ∀ path, ¬ Chosen host args path)
    (helped : outcome.helped = true ↔ Helped host args)
    (opened : outcome.opened = none) (server : outcome.server = none)
    (failed : outcome.ended = .exited 1 ↔ Misused args)
    (alive : outcome.ended ≠ .panicked)
    (searched : ∀ paths, outcome.complaint ≠ some (.notFound paths)) :
    StartsRight host args outcome where
  helped := helped
  opened := fun path => by simp [opened, unchosen path]
  served := fun started => by
    rw [server]
    refine ⟨(fun impossible => by cases impossible), ?_⟩
    rintro ⟨base, config, ⟨⟨path, chosen, _⟩, _⟩, _⟩
    exact absurd chosen (unchosen path)
  failed := by
    rw [failed]
    refine ⟨Or.inl, ?_⟩
    rintro (misused | ⟨path, chosen, _⟩)
    · exact misused
    · exact absurd chosen (unchosen path)
  panicked := by
    refine ⟨fun ended => absurd ended alive, ?_⟩
    rintro ⟨base, ⟨⟨path, chosen, _⟩, _⟩, _⟩
    exact absurd chosen (unchosen path)
  searched := searched

theorem Chosen.opened_iff {host : Host} {args : List String} {path : String}
    (chosen : Chosen host args path) (other : String) :
    some path = some other ↔ Chosen host args other := by
  rw [Option.some.injEq]
  exact ⟨fun same => same ▸ chosen, fun again => chosen.unique again⟩

theorem startsRight_of_unloadable (host : Host) (args : List String)
    (path : String) (error : ConfigNewError) (chosen : Chosen host args path)
    (unloadable : Unloadable host path) :
    StartsRight host args (.failed (some path) (.notLoaded error)) where
  helped := ⟨(fun helped => by cases helped),
    fun helped => absurd helped chosen.not_helped⟩
  opened := chosen.opened_iff
  served := by
    intro started
    refine ⟨(fun impossible => by cases impossible), ?_⟩
    rintro ⟨base, config, starts, _⟩
    exact absurd starts (chosen.not_starts unloadable base)
  failed := ⟨fun _ => Or.inr ⟨path, chosen, unloadable⟩, fun _ => rfl⟩
  panicked := by
    refine ⟨(fun impossible => by cases impossible), ?_⟩
    rintro ⟨base, starts, _⟩
    exact absurd starts (chosen.not_starts unloadable base)
  searched := fun paths complained => by cases complained

theorem Chosen.starts_unique {host : Host} {args : List String} {path : String}
    (chosen : Chosen host args path) {base other : BaseConfig}
    (decodes : Decodes host path base) (again : Starts host args other) :
    other = base := by
  obtain ⟨⟨there, once, decoded⟩, _⟩ := again
  obtain rfl := once.unique chosen
  exact decoded.unique decodes

theorem startsRight_of_decoded (host : Host) (args : List String)
    (path : String) (base : BaseConfig) (config : ParsedConfig)
    (chosen : Chosen host args path) (decodes : Decodes host path base)
    (faultless : ∀ error, ¬ Fault host.parseUrl base error)
    (loaded : loadConfig host.parseUrl host.hashOrder base = .ok config)
    (servers : config.servers = base.servers)
    (opened : (host.runConfig path).opened = some path)
    (silent : (host.runConfig path).complaint = none)
    (server : (host.runConfig path).server =
      Server.fromParsedConfig host.text config)
    (ended : (host.runConfig path).ended =
      match Server.fromParsedConfig host.text config with
      | some _ => .exited 0
      | none => .panicked) :
    StartsRight host args (host.runConfig path) := by
  have starts : Starts host args base :=
    ⟨⟨path, chosen, decodes⟩, faultless⟩
  have panics : Server.fromParsedConfig host.text config = none ↔
      Overfull host.text base.servers := by
    rw [← servers]
    exact fromParsedConfig_eq_none_iff host.text config
  refine
    { helped := ?_
      opened := fun other => by rw [opened, chosen.opened_iff other]
      served := ?_
      failed := ?_
      panicked := ?_
      searched := fun paths complained => by
        rw [silent] at complained
        cases complained }
  · rw [runConfig_helped]
    exact ⟨(fun impossible => by cases impossible),
      fun helped => absurd helped chosen.not_helped⟩
  · intro started
    rw [server]
    constructor
    · intro built
      exact ⟨base, config, starts, loaded, built⟩
    · rintro ⟨other, again, started', loaded', built⟩
      rw [chosen.starts_unique decodes started', loaded, Except.ok.injEq]
        at loaded'
      rw [loaded']
      exact built
  · rw [ended]
    constructor
    · intro exited
      split at exited <;> cases exited
    · rintro (misused | ⟨other, again, unloadable⟩)
      · exact absurd misused chosen.not_misused
      · exact absurd starts (again.not_starts unloadable base)
  · rw [ended]
    constructor
    · intro panicked
      split at panicked
      · cases panicked
      · rename_i none_
        exact ⟨base, starts, panics.mp none_⟩
    · rintro ⟨other, again, overfull⟩
      rw [chosen.starts_unique decodes again] at overfull
      rw [panics.mpr overfull]

/-- One file at most is opened, and its first fault ends the process with 1; a
server runs exactly when the file has none, unless a `maxclients` beyond what a
semaphore holds panics the builder; and the message that no file was found is
never written. -/
theorem startup_exact (host : Host)
    (iterates : ∀ names name, name ∈ host.hashOrder names ↔ name ∈ names)
    (args : List String) : StartsRight host args (host.run args) := by
  rcases run_cases host args with ⟨helped, outcome⟩ |
    ⟨misused, message, outcome⟩ | ⟨path, chosen, outcome⟩
  · rw [outcome]
    apply startsRight_of_unchosen
    · intro path chosen
      exact chosen.not_helped helped
    · exact ⟨fun _ => helped, fun _ => rfl⟩
    · rfl
    · rfl
    · refine ⟨(fun ended => by cases ended), ?_⟩
      intro misused
      exact absurd helped misused.not_helped
    · intro ended
      cases ended
    · intro paths complained
      cases complained
  · rw [outcome]
    apply startsRight_of_unchosen
    · intro path chosen
      exact chosen.not_misused misused
    · refine ⟨(fun helped => by cases helped), ?_⟩
      intro helped
      exact absurd helped misused.not_helped
    · rfl
    · rfl
    · exact ⟨fun _ => misused, fun _ => rfl⟩
    · intro ended
      cases ended
    · intro paths complained
      cases complained
  · rw [outcome]
    rcases runConfig_cases host iterates path with
      ⟨unloadable, error, failed⟩ |
      ⟨base, config, decodes, faultless, loaded, servers, opened, silent, server,
        ended⟩
    · rw [failed]
      exact startsRight_of_unloadable host args path error chosen unloadable
    · exact startsRight_of_decoded host args path base config chosen decodes
        faultless loaded servers opened silent server ended

def echoProxyYaml : String :=
  "version: 2\nlog-format: json\nservers:\n  echo_server:\n" ++
    "    listen:\n      - \"127.0.0.1:9001\"\n    tls: true\n" ++
    "    sni:\n      www.example.org: ban\n    default: echo\n" ++
    "    maxclients: 1\nupstream:\n  echo: tcp4://proxy.internal:3128\n"

def exampleHost : Host :=
  { tptConfig := .error .notPresent
    pathExists := fun path => path = "/etc/tpt/config.yaml"
    readFile := fun path =>
      if path = "/etc/tpt/config.yaml" then .ok echoProxyYaml
      else .error
        { kind := .other, message := "No such file or directory (os error 2)" }
    fromYaml := fun contents =>
      if contents = echoProxyYaml then .ok echoProxyBase
      else .error "missing field version"
    parseUrl := parseExampleUrl
    hashOrder := List.reverse
    text := AddrText.std }

theorem startup_exact_of_searched_file :
    (exampleHost.run []).opened = some "/etc/tpt/config.yaml" ∧
      (exampleHost.run []).server.isSome = true ∧
      StartsRight exampleHost [] (exampleHost.run []) :=
  ⟨by decide +kernel, by decide +kernel,
    startup_exact exampleHost (fun _ _ => List.mem_reverse) []⟩

end TlsProxyTunnel
