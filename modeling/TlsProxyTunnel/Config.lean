/-
The configuration as it is written, decoded and handed to the server builder.

A document keeps only what is written in the file; decoding fills what is
missing.  Two mechanisms do that: a missing block takes the derived `Default`
of its type, a missing field of a written block takes the field's own default.
-/

import TlsProxyTunnel.UpstreamAddress

namespace TlsProxyTunnel

/-- A `HashMap` keyed by strings.  The order of the entries is the iteration
order, so a statement about every map is one about every order. -/
abbrev HashMap (α : Type) := AList (fun _ : String => α)

def HashMap.values {α : Type} (map : HashMap α) : List α :=
  map.entries.map Sigma.snd

/-- A shared `Arc<Semaphore>`: clones name the same permits. -/
structure Semaphore where
  index : Nat
  deriving DecidableEq, Repr

structure MetricsEntry where
  name : String
  listen : String
  maxclientsLimit : Nat
  semaphore : Semaphore
  deriving DecidableEq, Repr

abbrev Metrics := List MetricsEntry

structure ProxyToUpstream where
  addr : String
  protocol : String
  addresses : UpstreamAddress
  deriving DecidableEq

def ProxyToUpstream.new (address protocol : String) : ProxyToUpstream :=
  { addr := address
    protocol := protocol
    addresses := UpstreamAddress.new address }

inductive Upstream where
  | ban
  | echo
  | health (metrics : Metrics)
  | proxy (config : ProxyToUpstream)
  deriving DecidableEq

def Upstream.isHealth : Upstream → Bool
  | .health _ => true
  | _ => false

/-! ### Decoded configuration -/

structure ViaUpstream where
  headers : HashMap String
  target : String
  connectTimeout : Duration
  useSniAsTarget : Bool
  targetPort : UInt16
  statsInterval : Duration

/-- `derive(Default)`: every field takes the default of its type. -/
def ViaUpstream.default : ViaUpstream :=
  { headers := ∅
    target := ""
    connectTimeout := 0
    useSniAsTarget := false
    targetPort := 0
    statsInterval := 0 }

inductive SniTarget where
  | simple (name : String)
  | extended (upstream : String) (via : Option ViaUpstream)

def SniTarget.upstreamName : SniTarget → String
  | .simple name => name
  | .extended upstream _ => upstream

def SniTarget.viaOverride : SniTarget → Option ViaUpstream
  | .simple _ => none
  | .extended _ via => via

structure ServerConfig where
  listen : List String
  protocol : Option String
  tls : Option Bool
  sni : Option (HashMap SniTarget)
  default : Option String
  via : ViaUpstream
  maxclients : Nat

structure BaseConfig where
  version : Int
  log : Option String
  logFormat : Option String
  servers : HashMap ServerConfig
  upstream : HashMap String
  via : ViaUpstream

structure ParsedConfig where
  version : Int
  log : Option String
  servers : HashMap ServerConfig
  upstream : HashMap Upstream

/-! ### Documents -/

structure ViaDocument where
  headers : Option (HashMap String)
  target : Option String
  connectTimeout : Option Duration
  useSniAsTarget : Option Bool
  targetPort : Option UInt16
  statsInterval : Option Duration

def ViaDocument.empty : ViaDocument :=
  { headers := none
    target := none
    connectTimeout := none
    useSniAsTarget := none
    targetPort := none
    statsInterval := none }

inductive SniTargetDocument where
  | simple (name : String)
  | extended (upstream : String) (via : Option ViaDocument)

structure ServerDocument where
  listen : List String
  protocol : Option String
  tls : Option Bool
  sni : Option (HashMap SniTargetDocument)
  default : Option String
  via : Option ViaDocument
  maxclients : Option Nat

structure BaseDocument where
  version : Int
  log : Option String
  logFormat : Option String
  servers : HashMap ServerDocument
  upstream : Option (HashMap String)
  via : Option ViaDocument

def defaultConnectTimeout : Duration := seconds 30

def defaultTargetPort : UInt16 := 443

def defaultMaxclients : Nat := 100

/-- A written `via:` mapping: a missing field takes its serde default, which
is the type's own where no default function is named. -/
def ViaUpstream.deserialize (document : ViaDocument) : ViaUpstream :=
  { headers := document.headers.getD ∅
    target := document.target.getD ""
    connectTimeout := document.connectTimeout.getD defaultConnectTimeout
    useSniAsTarget := document.useSniAsTarget.getD false
    targetPort := document.targetPort.getD defaultTargetPort
    statsInterval := document.statsInterval.getD 0 }

/-- `#[serde(default)] via: ViaUpstream`: a missing block is the type's
`Default`. -/
def ViaUpstream.deserializeField : Option ViaDocument → ViaUpstream
  | none => ViaUpstream.default
  | some document => ViaUpstream.deserialize document

def SniTarget.deserialize : SniTargetDocument → SniTarget
  | .simple name => .simple name
  | .extended upstream via => .extended upstream (via.map ViaUpstream.deserialize)

def HashMap.mapEntries {α β : Type} (f : String → α → β) (map : HashMap α) :
    HashMap β :=
  ⟨map.entries.map (fun entry => ⟨entry.1, f entry.1 entry.2⟩), by
    have keys :
        (map.entries.map (fun entry => (⟨entry.1, f entry.1 entry.2⟩ :
          Sigma fun _ : String => β))).keys = map.entries.keys := by
      simp [List.keys]
    rw [List.NodupKeys, keys]
    exact map.nodupKeys⟩

def HashMap.mapValues {α β : Type} (f : α → β) (map : HashMap α) : HashMap β :=
  map.mapEntries (fun _ value => f value)

def ServerConfig.deserialize (document : ServerDocument) : ServerConfig :=
  { listen := document.listen
    protocol := document.protocol
    tls := document.tls
    sni := document.sni.map (HashMap.mapValues SniTarget.deserialize)
    default := document.default
    via := ViaUpstream.deserializeField document.via
    maxclients := document.maxclients.getD defaultMaxclients }

def BaseConfig.deserialize (document : BaseDocument) : BaseConfig :=
  { version := document.version
    log := document.log
    logFormat := document.logFormat
    servers := HashMap.mapValues ServerConfig.deserialize document.servers
    upstream := document.upstream.getD ∅
    via := ViaUpstream.deserializeField document.via }

theorem HashMap.lookup_mapEntries {α β : Type} (f : String → α → β)
    (map : HashMap α) (key : String) :
    (map.mapEntries f).lookup key = (map.lookup key).map (f key) := by
  rcases map with ⟨entries, nodup⟩
  change @List.dlookup String (fun _ => β) _ key (entries.map _) =
    (@List.dlookup String (fun _ => α) _ key entries).map (f key)
  clear nodup
  induction entries with
  | nil => rfl
  | cons entry rest ih =>
      rcases entry with ⟨name, value⟩
      by_cases same : name = key
      · subst same
        simp
      · simp only [List.map_cons]
        rw [List.dlookup_cons_ne _ _ (Ne.symm same),
          List.dlookup_cons_ne _ _ (Ne.symm same), ih]

theorem HashMap.lookup_mapValues {α β : Type} (f : α → β) (map : HashMap α)
    (key : String) :
    (HashMap.mapValues f map).lookup key = (map.lookup key).map f :=
  map.lookup_mapEntries (fun _ => f) key

end TlsProxyTunnel
