/-
The two defaults of the via settings.

A missing block takes the derived default of the whole record; a written block
takes the default of each field it leaves out.  The two agree on four of the
six fields.
-/

import TlsProxyTunnel.Builder
import TlsProxyTunnel.Proxy

namespace TlsProxyTunnel

inductive ViaField where
  | headers
  | target
  | connectTimeout
  | useSniAsTarget
  | targetPort
  | statsInterval
  deriving DecidableEq, Repr

def ViaField.written (field : ViaField) : Option ViaDocument → Bool
  | none => false
  | some document =>
      match field with
      | .headers => document.headers.isSome
      | .target => document.target.isSome
      | .connectTimeout => document.connectTimeout.isSome
      | .useSniAsTarget => document.useSniAsTarget.isSome
      | .targetPort => document.targetPort.isSome
      | .statsInterval => document.statsInterval.isSome

def ViaField.same (field : ViaField) (left right : ViaUpstream) : Prop :=
  match field with
  | .headers => left.headers = right.headers
  | .target => left.target = right.target
  | .connectTimeout => left.connectTimeout = right.connectTimeout
  | .useSniAsTarget => left.useSniAsTarget = right.useSniAsTarget
  | .targetPort => left.targetPort = right.targetPort
  | .statsInterval => left.statsInterval = right.statsInterval

def ViaField.hasDefaultFunction : ViaField → Bool
  | .connectTimeout => true
  | .targetPort => true
  | _ => false

/-- A field that is not written takes the type's default, or its own default
in a block that is there. -/
theorem ViaField.same_unwritten (field : ViaField)
    (left right : Option ViaDocument) (leftOmits : field.written left = false)
    (rightOmits : field.written right = false) :
    field.same (ViaUpstream.deserializeField left)
        (ViaUpstream.deserializeField right) ↔
      field.hasDefaultFunction = false ∨ left.isSome = right.isSome := by
  cases left <;> cases right <;> cases field <;>
    simp_all [ViaField.written, ViaField.same, ViaField.hasDefaultFunction,
      ViaUpstream.deserializeField, ViaUpstream.deserialize,
      ViaUpstream.default, defaultConnectTimeout, defaultTargetPort, seconds]

def BaseDocument.withVia (document : BaseDocument) (name : String)
    (via : Option ViaDocument) : BaseDocument :=
  { document with
    servers := document.servers.mapEntries (fun key server =>
      if key = name then { server with via := via } else server) }

def BaseDocument.decodedVia (document : BaseDocument) (name : String) :
    Option ViaUpstream :=
  ((BaseConfig.deserialize document).servers.lookup name).map ServerConfig.via

def BaseDocument.toServer (text : AddrText) (upstream : HashMap Upstream)
    (document : BaseDocument) : Option Server :=
  Server.fromParsedConfig text
    { version := (BaseConfig.deserialize document).version
      log := (BaseConfig.deserialize document).log
      servers := (BaseConfig.deserialize document).servers
      upstream := upstream }

theorem BaseDocument.decodedVia_of_lookup (document : BaseDocument)
    (name : String) (server : ServerDocument)
    (found : document.servers.lookup name = some server) :
    document.decodedVia name =
      some (ViaUpstream.deserializeField server.via) := by
  rw [decodedVia, BaseConfig.deserialize, HashMap.lookup_mapValues, found]
  rfl

theorem BaseDocument.decodedVia_withVia (document : BaseDocument)
    (name : String) (server : ServerDocument) (via : Option ViaDocument)
    (found : document.servers.lookup name = some server) :
    (document.withVia name via).decodedVia name =
      some (ViaUpstream.deserializeField via) := by
  apply decodedVia_of_lookup _ name { server with via := via }
  rw [withVia, HashMap.lookup_mapEntries, found, Option.map_some, if_pos rfl]

/-! ### Leaving out -/

/-- For the server called `name`, a field that is left out has one value,
whatever else of the block is there, and no block is as good as `via: {}`. -/
structure OmissionNeutral (document : BaseDocument) (name : String)
    (server : ServerDocument) : Prop where
  fields :
    ∀ (field : ViaField) (other : Option ViaDocument),
      field.written server.via = false → field.written other = false →
      ∀ here there, document.decodedVia name = some here →
        (document.withVia name other).decodedVia name = some there →
        field.same here there
  sameServer :
    server.via = none → ∀ text upstream,
      document.toServer text upstream =
        (document.withVia name (some .empty)).toServer text upstream
  sameConnections :
    server.via = none → ∀ here there, document.decodedVia name = some here →
      (document.withVia name (some .empty)).decodedVia name = some there →
      ∀ addresses protocol dial,
        connectUpstream addresses protocol here.connectTimeout dial =
          connectUpstream addresses protocol there.connectTimeout dial

theorem omission_neutral_iff (document : BaseDocument) (name : String)
    (server : ServerDocument)
    (found : document.servers.lookup name = some server) :
    OmissionNeutral document name server ↔
      ViaField.connectTimeout.written server.via = true ∧
        ViaField.targetPort.written server.via = true := by
  have hereVia := document.decodedVia_of_lookup name server found
  have thereVia (other : Option ViaDocument) :=
    document.decodedVia_withVia name server other found
  constructor
  · intro neutral
    -- The block compared with is missing when this one is there, and the
    -- other way round.
    obtain ⟨other, omits, opposite⟩ : ∃ other : Option ViaDocument,
        (∀ field : ViaField, field.written other = false) ∧
          server.via.isSome ≠ other.isSome := by
      cases server.via with
      | none => exact ⟨some .empty, fun field => by cases field <;> rfl, by simp⟩
      | some block => exact ⟨none, fun field => rfl, by simp⟩
    have writes (field : ViaField) (own : field.hasDefaultFunction = true) :
        field.written server.via = true := by
      by_contra absent
      rw [Bool.not_eq_true] at absent
      have equal := neutral.fields field other absent (omits field) _ _ hereVia
        (thereVia other)
      rw [field.same_unwritten _ _ absent (omits field), own] at equal
      rcases equal with impossible | bothOrNeither
      · cases impossible
      · exact opposite bothOrNeither
    exact ⟨writes .connectTimeout rfl, writes .targetPort rfl⟩
  · rintro ⟨timeout, port⟩
    have present : server.via ≠ none := by
      intro missing
      rw [missing] at timeout
      cases timeout
    refine ⟨?_, fun missing => absurd missing present,
      fun missing => absurd missing present⟩
    intro field other omits otherOmits here there hereIs thereIs
    rw [hereVia, Option.some.injEq] at hereIs
    rw [thereVia, Option.some.injEq] at thereIs
    subst hereIs
    subst thereIs
    rw [field.same_unwritten _ _ omits otherOmits]
    refine Or.inl ?_
    cases field with
    | connectTimeout =>
        rw [timeout] at omits
        cases omits
    | targetPort =>
        rw [port] at omits
        cases omits
    | headers => rfl
    | target => rfl
    | useSniAsTarget => rfl
    | statsInterval => rfl

def plainServer (via : Option ViaDocument) : ServerDocument :=
  { listen := ["0.0.0.0:8443"]
    protocol := none
    tls := none
    sni := none
    default := some "corp_proxy"
    via := via
    maxclients := none }

def plainDocument (via : Option ViaDocument) : BaseDocument :=
  { version := 1
    log := none
    logFormat := none
    servers := AList.singleton "remote" (plainServer via)
    upstream := some (AList.singleton "corp_proxy" "tcp://proxy.internal:3128")
    via := none }

def fullBlock : ViaDocument :=
  { ViaDocument.empty with
    connectTimeout := some (seconds 30)
    targetPort := some 443 }

theorem omission_neutral_of_full_block :
    OmissionNeutral (plainDocument (some fullBlock)) "remote"
        (plainServer (some fullBlock)) ↔
      ViaField.connectTimeout.written (some fullBlock) = true ∧
        ViaField.targetPort.written (some fullBlock) = true :=
  omission_neutral_iff (plainDocument (some fullBlock)) "remote" _ rfl

/-- No block at all, and `via: {}`: the timeout is 0 s in the one and 30 s in
the other. -/
theorem missing_block_not_neutral :
    ¬ OmissionNeutral (plainDocument none) "remote" (plainServer none) := by
  intro neutral
  have equal := neutral.fields .connectTimeout (some .empty) rfl rfl _ _
    (BaseDocument.decodedVia_of_lookup _ _ _ rfl)
    (BaseDocument.decodedVia_withVia _ _ _ _ rfl)
  rw [ViaField.same_unwritten _ _ _ rfl rfl] at equal
  exact absurd equal (by decide)

end TlsProxyTunnel
