/-
Host names in other letters.

Names from a ClientHello are looked up as they were sent, among keys as they
were written.  DNS does not tell the case of ASCII letters apart; the map does.
-/

import TlsProxyTunnel.Routing

namespace TlsProxyTunnel

def SameName (left right : String) : Prop :=
  left.toList.map Char.toLower = right.toList.map Char.toLower

instance (left right : String) : Decidable (SameName left right) :=
  inferInstanceAs (Decidable (_ = _))

def HasLetter (name : String) : Prop :=
  ∃ c, c ∈ name.toList ∧ c.isAlpha = true

/-- The map with its keys in other letters, entry by entry. -/
def Recased (sniMap recased : HashMap SniTarget) : Prop :=
  List.Forall₂ (fun entry other => SameName entry.1 other.1 ∧
    entry.2 = other.2) sniMap.entries recased.entries

/-- Upstream name and via override do not depend on letter case, neither on that
of the names nor on that of the keys. -/
structure CaseBlind (proxy : Proxy) : Prop where
  names : ∀ left right, List.Forall₂ SameName left right →
    proxy.route left = proxy.route right
  keys : ∀ sniMap recased, proxy.sni = some sniMap → Recased sniMap recased →
    ∀ snis, Proxy.route { proxy with sni := some recased } snis =
      proxy.route snis

def Proxy.RoutesAsDefault (proxy : Proxy) (target : SniTarget) : Prop :=
  target.upstreamName = proxy.defaultAction ∧ target.viaOverride = none

theorem toLower_of_not_isAlpha (c : Char) (plain : ¬ c.isAlpha = true) :
    c.toLower = c := by
  refine Char.toLower_eq_of_not_isUpper fun upper => plain ?_
  rw [Char.isAlpha, upper, Bool.true_or]

theorem eq_of_toLower_eq (left right : List Char)
    (same : left.map Char.toLower = right.map Char.toLower)
    (plain : ∀ c, c ∈ right → ¬ c.isAlpha = true) : left = right := by
  induction left generalizing right with
  | nil =>
      cases right with
      | nil => rfl
      | cons d right => cases same
  | cons c left ih =>
      cases right with
      | nil => cases same
      | cons d right =>
          obtain ⟨first, rest⟩ := List.cons.inj same
          have plainFirst := plain d List.mem_cons_self
          rw [toLower_of_not_isAlpha d plainFirst] at first
          have plainOther : ¬ c.isAlpha = true := by
            rwa [← Char.isAlpha_toLower_eq_isAlpha, first]
          rw [toLower_of_not_isAlpha c plainOther] at first
          rw [first, ih right rest (fun e member =>
            plain e (List.mem_cons_of_mem d member))]

theorem eq_of_sameName (left right : String) (same : SameName left right)
    (plain : ¬ HasLetter right) : left = right := by
  refine String.toList_inj.mp (eq_of_toLower_eq _ _ same
    fun c member letter => ?_)
  exact plain ⟨c, member, letter⟩

theorem SameName.symm {left right : String} (same : SameName left right) :
    SameName right left :=
  Eq.symm same

theorem fixed_of_map_eq (fold : Char → Char) (name : String)
    (same : name.map fold = name) (c : Char) (member : c ∈ name.toList) :
    fold c = c := by
  have lists : name.toList.map fold = name.toList.map id := by
    rw [← String.toList_map, same, List.map_id]
  exact List.map_inj_left.mp lists c member

theorem exists_other_case (name : String) (letter : HasLetter name) :
    ∃ other, other ≠ name ∧ SameName other name := by
  obtain ⟨c, member, alpha⟩ := letter
  have lower : SameName (name.map Char.toLower) name := by
    simp [SameName, Function.comp_def]
  have upper : SameName (name.map Char.toUpper) name := by
    simp [SameName, Function.comp_def]
  by_cases written : name.map Char.toLower = name
  · refine ⟨name.map Char.toUpper, fun same => ?_, upper⟩
    have lowerOf := fixed_of_map_eq Char.toLower name written c member
    have upperOf := fixed_of_map_eq Char.toUpper name same c member
    have isLower : c.isLower = true := by
      rw [← lowerOf, Char.isLower_toLower_eq_isAlpha, alpha]
    have isUpper : c.isUpper = true := by
      rw [← upperOf, Char.isUpper_toUpper_eq_isAlpha, alpha]
    exact Char.not_isLower_of_isUpper isUpper isLower
  · exact ⟨name.map Char.toLower, written, lower⟩

theorem lookup_of_sameName (sniMap : HashMap SniTarget)
    (plain : ∀ key, key ∈ sniMap → ¬ HasLetter key) (left right : String)
    (same : SameName left right) :
    sniMap.lookup left = sniMap.lookup right := by
  by_cases leftKey : left ∈ sniMap
  · rw [eq_of_sameName right left same.symm (plain left leftKey)]
  by_cases rightKey : right ∈ sniMap
  · rw [eq_of_sameName left right same (plain right rightKey)]
  · rw [AList.lookup_eq_none.mpr leftKey, AList.lookup_eq_none.mpr rightKey]

theorem matchSni_of_sameName (sniMap : HashMap SniTarget)
    (defaultAction : String)
    (plain : ∀ key, key ∈ sniMap → ¬ HasLetter key) (left right : List String)
    (same : List.Forall₂ SameName left right) :
    matchSni sniMap defaultAction left =
      matchSni sniMap defaultAction right := by
  induction same with
  | nil => rfl
  | cons first rest ih =>
      simp only [matchSni, lookup_of_sameName sniMap plain _ _ first, ih]

theorem matchSni_of_default (sniMap : HashMap SniTarget)
    (defaultAction : String)
    (uniform : ∀ key target, sniMap.lookup key = some target →
      target.upstreamName = defaultAction ∧ target.viaOverride = none)
    (snis : List String) :
    matchSni sniMap defaultAction snis = (defaultAction, none) := by
  induction snis with
  | nil => rfl
  | cons sni rest ih =>
      rw [matchSni]
      cases found : sniMap.lookup sni with
      | none => exact ih
      | some target =>
          obtain ⟨name, via⟩ := uniform sni target found
          simp only [name, via]

theorem recased_eq (sniMap recased : HashMap SniTarget)
    (plain : ∀ key, key ∈ sniMap → ¬ HasLetter key)
    (other : Recased sniMap recased) : recased = sniMap := by
  have entries (left right : List (Sigma fun _ : String => SniTarget))
      (letters : ∀ entry, entry ∈ left → ¬ HasLetter entry.1)
      (related : List.Forall₂ (fun entry other => SameName entry.1 other.1 ∧
        entry.2 = other.2) left right) : right = left := by
    induction related with
    | nil => rfl
    | cons first rest ih =>
        rename_i entry other lefts rights
        obtain ⟨key, target⟩ := entry
        obtain ⟨otherKey, otherTarget⟩ := other
        obtain ⟨names, targets⟩ := first
        have name : otherKey = key := eq_of_sameName _ _ names.symm
          (letters _ List.mem_cons_self)
        have value : target = otherTarget := targets
        rw [name, value, ih (fun later member =>
          letters later (List.mem_cons_of_mem _ member))]
  refine AList.ext (entries _ _ (fun entry member => plain entry.1 ?_) other)
  exact AList.mem_keys.mpr (List.mem_map_of_mem member)

theorem recased_lookup (sniMap recased : HashMap SniTarget)
    (other : Recased sniMap recased) (name : String) (target : SniTarget)
    (found : recased.lookup name = some target) :
    ∃ key, sniMap.lookup key = some target := by
  have targets (left right : List (Sigma fun _ : String => SniTarget))
      (related : List.Forall₂ (fun entry other => SameName entry.1 other.1 ∧
        entry.2 = other.2) left right) :
      right.map Sigma.snd = left.map Sigma.snd := by
    induction related with
    | nil => rfl
    | cons first rest ih => rw [List.map_cons, List.map_cons, ih, first.2]
  have member : target ∈ sniMap.entries.map Sigma.snd := by
    rw [← targets _ _ other]
    exact List.mem_map_of_mem (AList.mem_lookup_iff.mp found)
  obtain ⟨⟨key, _⟩, listed, rfl⟩ := List.mem_map.mp member
  exact ⟨key, AList.mem_lookup_iff.mpr listed⟩

/-! ### Routes -/

theorem Proxy.route_of_map (proxy : Proxy) (sniMap : HashMap SniTarget)
    (mapped : proxy.sni = some sniMap) (snis : List String) :
    proxy.route snis = matchSni sniMap proxy.defaultAction snis := by
  cases snis with
  | nil => rfl
  | cons sni rest => simp [Proxy.route, mapped]

theorem Proxy.route_of_no_map (proxy : Proxy) (unmapped : proxy.sni = none)
    (snis : List String) : proxy.route snis = (proxy.defaultAction, none) := by
  cases snis with
  | nil => rfl
  | cons sni rest => simp [Proxy.route, unmapped]

theorem uniform_of_caseBlind (proxy : Proxy) (sniMap : HashMap SniTarget)
    (mapped : proxy.sni = some sniMap)
    (distinct : ∀ first second, first ∈ sniMap → second ∈ sniMap →
      SameName first second → first = second)
    (blind : CaseBlind proxy) (key : String) (isKey : key ∈ sniMap)
    (letter : HasLetter key) (name : String) (target : SniTarget)
    (found : sniMap.lookup name = some target) :
    proxy.RoutesAsDefault target := by
  obtain ⟨other, different, same⟩ := exists_other_case key letter
  have unmapped : sniMap.lookup other = none :=
    AList.lookup_eq_none.mpr fun otherKey =>
      different (distinct other key otherKey isKey same)
  obtain ⟨own, keyFound⟩ := Option.isSome_iff_exists.mp
    (AList.lookup_isSome.mpr isKey)
  have alone := blind.names [other] [key] (.cons same .nil)
  have before := blind.names [other, name] [key, name]
    (.cons same (.cons rfl .nil))
  simp only [proxy.route_of_map sniMap mapped, matchSni, unmapped, keyFound,
    found] at alone before
  rw [← alone, Prod.mk.injEq] at before
  exact before

/-- Letter case makes no difference exactly where there is no map, its keys have
no letters, or all of them lead where other names go. -/
theorem routed_case_blind_iff (proxy : Proxy)
    (distinct : ∀ sniMap, proxy.sni = some sniMap → ∀ first second,
      first ∈ sniMap → second ∈ sniMap → SameName first second →
      first = second) :
    CaseBlind proxy ↔
      ∀ sniMap, proxy.sni = some sniMap →
        (∀ key, key ∈ sniMap → ¬ HasLetter key) ∨
        ∀ name target, sniMap.lookup name = some target →
          proxy.RoutesAsDefault target := by
  constructor
  · intro blind sniMap mapped
    by_cases plain : ∀ key, key ∈ sniMap → ¬ HasLetter key
    · exact Or.inl plain
    · push Not at plain
      obtain ⟨key, isKey, letter⟩ := plain
      exact Or.inr fun name target found => uniform_of_caseBlind proxy sniMap
        mapped (distinct sniMap mapped) blind key isKey letter name target found
  · intro condition
    constructor
    · intro left right same
      cases mapped : proxy.sni with
      | none => rw [proxy.route_of_no_map mapped, proxy.route_of_no_map mapped]
      | some sniMap =>
          rw [proxy.route_of_map sniMap mapped,
            proxy.route_of_map sniMap mapped]
          rcases condition sniMap mapped with plain | uniform
          · exact matchSni_of_sameName sniMap _ plain left right same
          · rw [matchSni_of_default sniMap _ uniform,
              matchSni_of_default sniMap _ uniform]
    · intro sniMap recased mapped other snis
      rw [proxy.route_of_map sniMap mapped, Proxy.route_of_map _ recased rfl]
      rcases condition sniMap mapped with plain | uniform
      · rw [recased_eq sniMap recased plain other]
      · rw [matchSni_of_default sniMap _ uniform]
        apply matchSni_of_default
        intro name target found
        obtain ⟨key, original⟩ :=
          recased_lookup sniMap recased other name target found
        exact uniform key target original

def capitalSniMap : HashMap SniTarget :=
  AList.singleton "SNI1.domain.com" (.simple "proxy-via")

def capitalListener : Proxy :=
  { corpListener "echo" with sni := some capitalSniMap }

theorem capitalListener_distinct (sniMap : HashMap SniTarget)
    (mapped : capitalListener.sni = some sniMap) (first second : String)
    (firstKey : first ∈ sniMap) (secondKey : second ∈ sniMap)
    (_ : SameName first second) : first = second := by
  obtain rfl := Option.some.inj mapped
  rw [List.mem_singleton.mp firstKey, List.mem_singleton.mp secondKey]

theorem routed_case_blind_iff_of_capital :
    CaseBlind capitalListener ↔
      ∀ sniMap, capitalListener.sni = some sniMap →
        (∀ key, key ∈ sniMap → ¬ HasLetter key) ∨
        ∀ name target, sniMap.lookup name = some target →
          capitalListener.RoutesAsDefault target :=
  routed_case_blind_iff capitalListener capitalListener_distinct

/-- The key itself is tunnelled; the same name as clients send it is echoed. -/
theorem lower_case_name_takes_default :
    SameName "SNI1.domain.com" "sni1.domain.com" ∧
      (capitalListener.route ["SNI1.domain.com"]).1 = "proxy-via" ∧
      (capitalListener.route ["sni1.domain.com"]).1 = "echo" ∧
      ¬ CaseBlind capitalListener := by
  have same : SameName "SNI1.domain.com" "sni1.domain.com" := by decide
  have keyed : (capitalListener.route ["SNI1.domain.com"]).1 = "proxy-via" :=
    rfl
  have lowered : (capitalListener.route ["sni1.domain.com"]).1 = "echo" := rfl
  refine ⟨same, keyed, lowered, fun blind => ?_⟩
  have routes := blind.names _ _ (.cons same .nil)
  rw [routes, lowered] at keyed
  exact absurd keyed (by decide)

end TlsProxyTunnel
