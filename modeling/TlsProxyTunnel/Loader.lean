/-
From a decoded configuration to a validated one.

The URL parser is a parameter.  A hash set is kept as the list of its elements;
`hashOrder` is the order in which it is iterated.
-/

import TlsProxyTunnel.Config

namespace TlsProxyTunnel

inductive ConfigError where
  | custom (message : String)
  deriving DecidableEq, Repr

structure Url where
  scheme : String
  hostStr : Option String
  portOrKnownDefault : Option UInt16
  deriving DecidableEq, Repr

def invalidUpstreamUrl (value : String) : ConfigError :=
  .custom ("Invalid upstream url " ++ value)

def ProxyToUpstream.tryFrom (parseUrl : String → Option Url) (value : String) :
    Except ConfigError ProxyToUpstream :=
  match parseUrl value with
  | none => .error (invalidUpstreamUrl value)
  | some url =>
      match url.hostStr with
      | none => .error (invalidUpstreamUrl value)
      | some host =>
          match url.portOrKnownDefault with
          | none => .error (invalidUpstreamUrl value)
          | some port =>
              if url.scheme = "tcp" ∨ url.scheme = "tcp4" ∨
                  url.scheme = "tcp6" then
                .ok (ProxyToUpstream.new (host ++ ":" ++ toString port.toNat)
                  url.scheme)
              else
                .error (.custom ("Invalid upstream scheme " ++ value))

theorem ProxyToUpstream.tryFrom_ok (parseUrl : String → Option Url)
    (value : String) (upstream : ProxyToUpstream)
    (created : ProxyToUpstream.tryFrom parseUrl value = .ok upstream) :
    ∃ url address, parseUrl value = some url ∧
      (url.scheme = "tcp" ∨ url.scheme = "tcp4" ∨ url.scheme = "tcp6") ∧
      upstream = ProxyToUpstream.new address url.scheme := by
  unfold ProxyToUpstream.tryFrom at created
  split at created
  · cases created
  rename_i url parsed
  split at created
  · cases created
  split at created
  · cases created
  split at created
  · rename_i known
    cases created
    exact ⟨url, _, parsed, known, rfl⟩
  · cases created

def exampleUrl : Url :=
  { scheme := "tcp4"
    hostStr := some "proxy.internal"
    portOrKnownDefault := some 3128 }

def parseExampleUrl (value : String) : Option Url :=
  if value = "tcp4://proxy.internal:3128" then some exampleUrl else none

def builtinUpstreams : HashMap Upstream :=
  ((AList.singleton "ban" .ban).insert "echo" .echo).insert "health" (.health [])

/-- The configured upstreams, on top of those already there and in the place of
any of the same name. -/
def insertUpstreams (parseUrl : String → Option Url)
    (upstream : HashMap Upstream) :
    List (Sigma fun _ : String => String) → Except ConfigError (HashMap Upstream)
  | [] => .ok upstream
  | ⟨name, url⟩ :: rest =>
      match ProxyToUpstream.tryFrom parseUrl url with
      | .error error => .error error
      | .ok proxy =>
          insertUpstreams parseUrl (upstream.insert name (.proxy proxy)) rest

/-! ### Validation -/

def checkListen (seen : List String) :
    List String → Except ConfigError (List String)
  | [] => .ok seen
  | listen :: rest =>
      if listen ∈ seen then
        .error (.custom ("Duplicate listen address " ++ listen))
      else
        checkListen (seen.insert listen) rest

/-- The upstreams a server names.  The SNI map counts only where `tls` is on. -/
def namedUpstreams (server : ServerConfig) : List String :=
  (if server.tls.getD false then
    match server.sni with
    | some sniMap => (HashMap.values sniMap).map SniTarget.upstreamName
    | none => []
  else
    []) ++ server.default.toList

def checkUsed (upstream : HashMap Upstream) :
    List String → Except ConfigError Unit
  | [] => .ok ()
  | key :: rest =>
      match upstream.lookup key with
      | some _ => checkUsed upstream rest
      | none => .error (.custom ("Upstream " ++ key ++ " not found"))

/-- The loop over the servers.  The set of used upstreams is checked as a whole
after each of them. -/
def verifyServers (hashOrder : List String → List String)
    (upstream : HashMap Upstream) (seen used : List String) :
    List ServerConfig → Except ConfigError Unit
  | [] => .ok ()
  | server :: rest =>
      match checkListen seen server.listen with
      | .error error => .error error
      | .ok listened =>
          let named := (namedUpstreams server).foldl
            (fun names name => names.insert name) used
          match checkUsed upstream (hashOrder named) with
          | .error error => .error error
          | .ok () => verifyServers hashOrder upstream listened named rest

def verifyConfig (hashOrder : List String → List String)
    (config : ParsedConfig) : Except ConfigError ParsedConfig :=
  match verifyServers hashOrder config.upstream [] []
      (HashMap.values config.servers) with
  | .ok () => .ok config
  | .error error => .error error

/-- `load_config`, once the file is read and decoded.  The logger is set up in
between, which nothing depends on. -/
def loadConfig (parseUrl : String → Option Url)
    (hashOrder : List String → List String) (base : BaseConfig) :
    Except ConfigError ParsedConfig :=
  if ¬ (base.version = 1 ∨ base.version = 2) then
    .error (.custom ("Unsupported config version " ++ toString base.version))
  else
    let logFormat := base.logFormat.getD "txt"
    if ¬ (logFormat = "txt" ∨ logFormat = "text" ∨ logFormat = "json") then
      .error (.custom ("Invalid log-format '" ++ logFormat ++
        "': must be 'txt', 'text' or 'json'"))
    else
      match insertUpstreams parseUrl builtinUpstreams base.upstream.entries with
      | .error error => .error error
      | .ok upstream =>
          verifyConfig hashOrder
            { version := base.version
              log := base.log
              servers := base.servers
              upstream := upstream }

end TlsProxyTunnel
