/-
Which configurations pass validation.

The loop over the servers carries the listen texts and the used upstreams of
all servers before.  What it accepts is a property of the maps alone, so the
order in which maps and sets are iterated does not matter.
-/

import TlsProxyTunnel.Binding
import TlsProxyTunnel.Validation

namespace TlsProxyTunnel

structure Consistent (config : ParsedConfig) : Prop where
  distinct : config.listens.Nodup
  defaults : ∀ server name, server ∈ HashMap.values config.servers →
    server.default = some name → (config.upstream.lookup name).isSome = true
  mapped : ∀ server sniMap target,
    server ∈ HashMap.values config.servers →
    server.tls = some true → server.sni = some sniMap →
    target ∈ HashMap.values sniMap →
    (config.upstream.lookup target.upstreamName).isSome = true

theorem mem_namedUpstreams_iff (server : ServerConfig) (name : String) :
    name ∈ namedUpstreams server ↔
      server.default = some name ∨
      server.tls = some true ∧ ∃ sniMap target, server.sni = some sniMap ∧
        target ∈ HashMap.values sniMap ∧ target.upstreamName = name := by
  have on : server.tls.getD false = true ↔ server.tls = some true := by
    cases server.tls <;> simp
  rw [namedUpstreams, List.mem_append, Option.mem_toList, or_comm]
  refine or_congr Iff.rfl ?_
  by_cases tls : server.tls = some true
  · rw [if_pos (on.mpr tls)]
    cases server.sni with
    | none => simp
    | some sniMap => simp [tls]
  · rw [if_neg (fun read => tls (on.mp read))]
    simp [tls]

theorem mem_foldl_insert_iff (names used : List String) (name : String) :
    name ∈ names.foldl (fun names name => names.insert name) used ↔
      name ∈ used ∨ name ∈ names := by
  refine ⟨?_, mem_foldl_insert names used name⟩
  induction names generalizing used with
  | nil => exact Or.inl
  | cons first rest ih =>
      intro member
      rcases ih (used.insert first) member with earlier | later
      · rcases List.mem_insert_iff.mp earlier with same | before
        · exact Or.inr (same ▸ List.mem_cons_self)
        · exact Or.inl before
      · exact Or.inr (List.mem_cons_of_mem first later)

theorem checkUsed_ok_iff (upstream : HashMap Upstream) (names : List String) :
    checkUsed upstream names = .ok () ↔
      ∀ name, name ∈ names → (upstream.lookup name).isSome = true := by
  refine ⟨fun checked name => checkUsed_ok upstream names checked name, ?_⟩
  induction names with
  | nil => exact fun _ => rfl
  | cons key rest ih =>
      intro found
      obtain ⟨value, lookup⟩ :=
        Option.isSome_iff_exists.mp (found key List.mem_cons_self)
      rw [checkUsed, lookup]
      exact ih (fun name member => found name (List.mem_cons_of_mem key member))

theorem checkListen_of_fresh (seen listen : List String) (nodup : listen.Nodup)
    (fresh : ∀ text, text ∈ listen → text ∉ seen) :
    ∃ listened, checkListen seen listen = .ok listened := by
  induction listen generalizing seen with
  | nil => exact ⟨seen, rfl⟩
  | cons first rest ih =>
      rw [checkListen, if_neg (fresh first List.mem_cons_self)]
      obtain ⟨own, others⟩ := List.nodup_cons.mp nodup
      refine ih _ others (fun text member inserted => ?_)
      rcases List.mem_insert_iff.mp inserted with same | earlier
      · exact own (same ▸ member)
      · exact fresh text (List.mem_cons_of_mem first member) earlier

theorem verifyServers_of_consistent (hashOrder : List String → List String)
    (iterates : ∀ names name, name ∈ hashOrder names ↔ name ∈ names)
    (upstream : HashMap Upstream) (servers : List ServerConfig)
    (seen used : List String)
    (distinct : (servers.flatMap ServerConfig.listen).Nodup)
    (fresh : ∀ text, text ∈ servers.flatMap ServerConfig.listen → text ∉ seen)
    (usedThere : ∀ name, name ∈ used → (upstream.lookup name).isSome = true)
    (there : ∀ server name, server ∈ servers → name ∈ namedUpstreams server →
      (upstream.lookup name).isSome = true) :
    verifyServers hashOrder upstream seen used servers = .ok () := by
  induction servers generalizing seen used with
  | nil => rfl
  | cons server rest ih =>
      rw [List.flatMap_cons] at distinct fresh
      obtain ⟨own, others, apart⟩ := List.nodup_append'.mp distinct
      obtain ⟨listened, checked⟩ := checkListen_of_fresh seen server.listen own
        (fun text member => fresh text (List.mem_append_left _ member))
      have members := (checkListen_ok _ _ _ checked).2.2
      have namedThere : ∀ name,
          name ∈ (namedUpstreams server).foldl
            (fun names name => names.insert name) used →
          (upstream.lookup name).isSome = true := by
        intro name member
        rcases (mem_foldl_insert_iff _ used name).mp member with before | named
        · exact usedThere name before
        · exact there server name List.mem_cons_self named
      have used_ : checkUsed upstream (hashOrder ((namedUpstreams server).foldl
          (fun names name => names.insert name) used)) = .ok () :=
        (checkUsed_ok_iff upstream _).mpr
          (fun name member => namedThere name ((iterates _ name).mp member))
      simp only [verifyServers, checked, used_]
      refine ih _ _ others (fun text member => ?_) namedThere
        (fun later name member => there later name
          (List.mem_cons_of_mem server member))
      rw [members, not_or]
      exact ⟨fresh text (List.mem_append_right _ member),
        fun earlier => apart earlier member⟩

theorem verifyConfig_result (hashOrder : List String → List String)
    (config result : ParsedConfig)
    (verified : verifyConfig hashOrder config = .ok result) :
    result = config ∧
      verifyServers hashOrder config.upstream [] []
        (HashMap.values config.servers) = .ok () := by
  rw [verifyConfig] at verified
  split at verified
  · rename_i passed
    exact ⟨(Except.ok.inj verified).symm, passed⟩
  · cases verified

theorem verifyConfig_ok_iff (hashOrder : List String → List String)
    (iterates : ∀ names name, name ∈ hashOrder names ↔ name ∈ names)
    (config : ParsedConfig) :
    verifyConfig hashOrder config = .ok config ↔ Consistent config := by
  constructor
  · intro verified
    have passed := (verifyConfig_result hashOrder config config verified).2
    have named := verifyServers_ok hashOrder
      (fun names name => (iterates names name).mpr) config.upstream
      (HashMap.values config.servers) [] [] passed
    refine ⟨verifyConfig_listens hashOrder config verified, ?_, ?_⟩
    · intro server name member default
      exact named server member name
        ((mem_namedUpstreams_iff server name).mpr (Or.inl default))
    · intro server sniMap target member tls sni value
      exact named server member target.upstreamName
        ((mem_namedUpstreams_iff server _).mpr
          (Or.inr ⟨tls, sniMap, target, sni, value, rfl⟩))
  · rintro ⟨distinct, defaults, mapped⟩
    have passed := verifyServers_of_consistent hashOrder iterates
      config.upstream (HashMap.values config.servers) [] [] distinct
      (fun _ _ => List.not_mem_nil) (fun _ member => nomatch member)
      (fun server name member named => ?_)
    · rw [verifyConfig, passed]
    · rcases (mem_namedUpstreams_iff server name).mp named with
        default | ⟨tls, sniMap, target, sni, value, rfl⟩
      · exact defaults server name member default
      · exact mapped server sniMap target member tls sni value

/-! ### Other orders -/

/-- The same keys, with values that are alike; the order may be another. -/
def HashMap.Alike {α : Type} (alike : α → α → Prop)
    (left right : HashMap α) : Prop :=
  ∀ key, Option.Rel alike (left.lookup key) (right.lookup key)

structure ServerConfig.Alike (left right : ServerConfig) : Prop where
  listen : left.listen = right.listen
  tls : left.tls = right.tls
  default : left.default = right.default
  sni : Option.Rel
    (HashMap.Alike (fun first second =>
      SniTarget.upstreamName first = SniTarget.upstreamName second))
    left.sni right.sni

structure ParsedConfig.Alike (left right : ParsedConfig) : Prop where
  servers : HashMap.Alike ServerConfig.Alike left.servers right.servers
  upstream : HashMap.Alike (fun _ _ => True) left.upstream right.upstream

theorem HashMap.mem_values_iff {α : Type} (map : HashMap α) (value : α) :
    value ∈ HashMap.values map ↔ ∃ key, map.lookup key = some value := by
  rw [HashMap.values, List.mem_map]
  constructor
  · rintro ⟨⟨key, _⟩, member, rfl⟩
    exact ⟨key, AList.mem_lookup_iff.mpr member⟩
  · rintro ⟨key, found⟩
    exact ⟨⟨key, value⟩, AList.mem_lookup_iff.mp found, rfl⟩

theorem HashMap.Alike.isSome {α : Type} {alike : α → α → Prop}
    {left right : HashMap α} (same : HashMap.Alike alike left right)
    (key : String) :
    (left.lookup key).isSome = (right.lookup key).isSome := by
  have related := same key
  generalize left.lookup key = first at related ⊢
  generalize right.lookup key = second at related ⊢
  cases related <;> rfl

theorem optionRel_symm {α : Type} {alike converse : α → α → Prop}
    (turned : ∀ first second, alike first second → converse second first)
    {left right : Option α} (related : Option.Rel alike left right) :
    Option.Rel converse right left := by
  cases related with
  | none => exact .none
  | some values => exact .some (turned _ _ values)

theorem HashMap.Alike.symm {α : Type} {alike converse : α → α → Prop}
    (turned : ∀ first second, alike first second → converse second first)
    {left right : HashMap α} (same : HashMap.Alike alike left right) :
    HashMap.Alike converse right left :=
  fun key => optionRel_symm turned (same key)

theorem ServerConfig.Alike.symm {left right : ServerConfig}
    (alike : left.Alike right) : right.Alike left :=
  { listen := alike.listen.symm
    tls := alike.tls.symm
    default := alike.default.symm
    sni := optionRel_symm
      (fun _ _ same => HashMap.Alike.symm (fun _ _ => Eq.symm) same) alike.sni }

theorem ParsedConfig.Alike.symm {left right : ParsedConfig}
    (alike : left.Alike right) : right.Alike left :=
  { servers := alike.servers.symm (fun _ _ => ServerConfig.Alike.symm)
    upstream := alike.upstream.symm (fun _ _ _ => trivial) }

theorem HashMap.Alike.exists_left {α : Type} {alike : α → α → Prop}
    {left right : HashMap α} (same : HashMap.Alike alike left right)
    (value : α) (member : value ∈ HashMap.values right) :
    ∃ other, other ∈ HashMap.values left ∧ alike other value := by
  obtain ⟨key, found⟩ := (HashMap.mem_values_iff right value).mp member
  have related := same key
  rw [found] at related
  cases found' : left.lookup key with
  | none =>
      rw [found'] at related
      cases related
  | some other =>
      rw [found'] at related
      cases related with
      | some alike =>
          exact ⟨other, (HashMap.mem_values_iff left other).mpr ⟨key, found'⟩,
            alike⟩

theorem HashMap.values_flatMap {α β : Type} (map : HashMap α)
    (items : α → List β) :
    (HashMap.values map).flatMap items =
      map.keys.flatMap (fun key => ((map.lookup key).map items).getD []) := by
  rw [HashMap.values, AList.keys, List.keys, List.flatMap_map, List.flatMap_map]
  refine List.flatMap_congr fun entry member => ?_
  rw [Option.mem_def.mp (AList.mem_lookup_iff.mpr member)]
  rfl

theorem HashMap.Alike.flatMap_perm {α β : Type} {alike : α → α → Prop}
    {left right : HashMap α} (same : HashMap.Alike alike left right)
    (items : α → List β)
    (agree : ∀ first second, alike first second → items first = items second) :
    ((HashMap.values left).flatMap items).Perm
      ((HashMap.values right).flatMap items) := by
  have keys : left.keys.Perm right.keys := by
    refine (List.perm_ext_iff_of_nodup left.keys_nodup right.keys_nodup).mpr ?_
    intro key
    rw [← AList.mem_keys, ← AList.mem_keys, ← AList.lookup_isSome,
      ← AList.lookup_isSome, same.isSome key]
  have values : (fun key => ((left.lookup key).map items).getD []) =
      fun key => ((right.lookup key).map items).getD [] := by
    funext key
    have related := same key
    generalize left.lookup key = first at related ⊢
    generalize right.lookup key = second at related ⊢
    cases related with
    | none => rfl
    | some values => exact agree _ _ values
  rw [HashMap.values_flatMap, HashMap.values_flatMap, values]
  exact keys.flatMap_right _

theorem Consistent.of_alike {left right : ParsedConfig}
    (alike : left.Alike right) (consistent : Consistent left) :
    Consistent right := by
  obtain ⟨servers, upstream⟩ := alike
  refine ⟨?_, ?_, ?_⟩
  · exact (servers.flatMap_perm ServerConfig.listen
      (fun _ _ related => related.listen)).nodup_iff.mp consistent.distinct
  · intro server name member default
    obtain ⟨other, listed, related⟩ := servers.exists_left server member
    rw [← upstream.isSome name]
    exact consistent.defaults other name listed (related.default.trans default)
  · intro server sniMap target member tls sni value
    obtain ⟨other, listed, related⟩ := servers.exists_left server member
    have maps := related.sni
    rw [sni] at maps
    cases otherSni : other.sni with
    | none =>
        rw [otherSni] at maps
        cases maps
    | some otherMap =>
        rw [otherSni] at maps
        cases maps with
        | some same =>
            obtain ⟨otherTarget, otherValue, names⟩ :=
              same.exists_left target value
            rw [← names, ← upstream.isSome]
            exact consistent.mapped other otherMap otherTarget listed
              (related.tls.trans tls) otherSni otherValue

/-- Validation returns the configuration as it is exactly when it is consistent,
and otherwise an error, also when its maps and sets are iterated in another
order. -/
structure VerdictOfMaps (hashOrder : List String → List String)
    (config : ParsedConfig) : Prop where
  accepted : verifyConfig hashOrder config = .ok config ↔ Consistent config
  unchanged : ∀ result, verifyConfig hashOrder config = .ok result →
    result = config
  sameVerdict : ∀ (order : List String → List String) (other : ParsedConfig),
    (∀ names name, name ∈ order names ↔ name ∈ names) → config.Alike other →
    (verifyConfig hashOrder config = .ok config ↔
      verifyConfig order other = .ok other)

theorem verify_config_exact (hashOrder : List String → List String)
    (iterates : ∀ names name, name ∈ hashOrder names ↔ name ∈ names)
    (config : ParsedConfig) : VerdictOfMaps hashOrder config := by
  refine ⟨verifyConfig_ok_iff hashOrder iterates config, ?_, ?_⟩
  · intro result verified
    exact (verifyConfig_result hashOrder config result verified).1
  · intro order other iteratesOther alike
    rw [verifyConfig_ok_iff hashOrder iterates config,
      verifyConfig_ok_iff order iteratesOther other]
    exact ⟨Consistent.of_alike alike, Consistent.of_alike alike.symm⟩

theorem verify_config_exact_of_loopback :
    VerdictOfMaps List.reverse
      (loopbackConfig ["127.0.0.1:9001"]
        (some (AList.singleton "health.example" (.simple "health")))) :=
  verify_config_exact List.reverse (fun _ _ => List.mem_reverse) _

end TlsProxyTunnel
