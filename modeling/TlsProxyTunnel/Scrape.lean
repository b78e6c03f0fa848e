/-
A scrape of `/metrics` while the server runs.

The body is put together entry by entry, and between two of them connections
come and go, so it need not be the report of any one state.  It is still one
that the handler gives for some count of permits, each of them right at its own
moment.
-/

import TlsProxyTunnel.Gauge

namespace TlsProxyTunnel

open Transition

/-- The lines so far, and the entries still to be asked for their permits.
`moments`, the states in which the others were asked, is kept for the
statements only. -/
structure Scrape where
  server : ServerState
  waiting : Metrics
  samples : List String
  moments : List ServerState

inductive ScrapeEvent where
  | ran (event : ServerEvent)
  | sampled

def Scrape.start (metrics : Metrics) (state : ServerState) : Scrape :=
  { server := state
    waiting := metrics
    samples := []
    moments := [] }

def activeSample (available : Semaphore → Nat) (entry : MetricsEntry) :
    String :=
  gaugeSample "tpt_active_connections" entry.name entry.listen
    (entry.active available)

def scrapeStep (server : Server) (parser : TlsParser) (state : Scrape)
    (event : ScrapeEvent) : Option Scrape :=
  match event with
  | .ran event =>
      (serverStep server parser state.server event).map (fun next =>
        { state with server := next })
  | .sampled =>
      match state.waiting with
      | [] => none
      | entry :: rest =>
          some
            { state with
              waiting := rest
              samples := state.samples ++
                [activeSample state.server.available entry]
              moments := state.moments ++ [state.server] }

def Scrape.response (metrics : Metrics) (state : Scrape) : HealthResponse :=
  { contentType := some "text/plain; version=0.0.4; charset=utf-8"
    body := String.join
      ((["# HELP tpt_active_connections Current number of active connections",
          "# TYPE tpt_active_connections gauge"] ++ state.samples ++
        maxclientsLines metrics).map (fun line => line ++ "\n")) }

section Sampled

variable {server : Server} {parser : TlsParser} (metrics : Metrics)
  (start : ServerState)

structure Scrape.Sampled (server : Server) (parser : TlsParser)
    (metrics : Metrics) (start : ServerState) (state : Scrape) : Prop where
  waiting : state.waiting = metrics.drop state.moments.length
  within : state.moments.length ≤ metrics.length
  samples :
    state.samples =
      List.zipWith (fun entry moment =>
        activeSample moment.available entry) metrics state.moments
  during :
    ∀ moment, moment ∈ state.moments →
      Reachable (serverStep server parser) start moment ∧
        Reachable (serverStep server parser) moment state.server
  inOrder :
    state.moments.Pairwise (fun early late =>
      Reachable (serverStep server parser) early late)
  ran : Reachable (serverStep server parser) start state.server

theorem zipWith_append_next {α β γ : Type} (combine : α → β → γ)
    (items : List α) (others : List β) (item : α) (other : β) (rest : List α)
    (next : items.drop others.length = item :: rest) :
    List.zipWith combine items (others ++ [other]) =
      List.zipWith combine items others ++ [combine item other] := by
  induction others generalizing items with
  | nil =>
      rw [List.length_nil, List.drop_zero] at next
      subst next
      simp
  | cons first others ih =>
      cases items with
      | nil => simp at next
      | cons head items =>
          rw [List.length_cons, List.drop_succ_cons] at next
          simp only [List.cons_append, List.zipWith_cons_cons, ih items next]

theorem scrapeStep_sampled (state next : Scrape) (event : ScrapeEvent)
    (moved : scrapeStep server parser state event = some next)
    (before : state.Sampled server parser metrics start) :
    next.Sampled server parser metrics start := by
  cases event with
  | ran event =>
      obtain ⟨after, stepped, rfl⟩ := Option.map_eq_some_iff.mp moved
      exact
        { before with
          during := fun moment member =>
            ⟨(before.during moment member).1,
              (before.during moment member).2.tail stepped⟩
          ran := before.ran.tail stepped }
  | sampled =>
      have waiting := before.waiting
      simp only [scrapeStep] at moved
      split at moved
      · cases moved
      rename_i entry rest pending
      cases moved
      rw [pending] at waiting
      have inside : state.moments.length < metrics.length := by
        by_contra over_
        rw [List.drop_eq_nil_of_le (not_lt.mp over_)] at waiting
        cases waiting
      refine
        { waiting := ?_
          within := by simpa using inside
          samples := ?_
          during := ?_
          inOrder := ?_
          ran := before.ran }
      · rw [List.length_append, List.length_singleton, ← List.tail_drop,
          ← waiting]
        rfl
      · rw [before.samples, zipWith_append_next _ metrics state.moments entry
          state.server rest waiting.symm]
      · intro moment member
        rcases List.mem_append.mp member with earlier | last
        · exact before.during moment earlier
        · obtain rfl := List.mem_singleton.mp last
          exact ⟨before.ran, Reachable.refl _ _⟩
      · apply List.pairwise_append.mpr
        refine ⟨before.inOrder, List.pairwise_singleton _ _, ?_⟩
        intro early member late last
        obtain rfl := List.mem_singleton.mp last
        exact (before.during early member).2

theorem reachable_sampled (state : Scrape)
    (reached : Reachable (scrapeStep server parser)
      (Scrape.start metrics start) state) :
    state.Sampled server parser metrics start := by
  refine reached.invariant (Scrape.Sampled server parser metrics start) ?_
    (fun before event after => scrapeStep_sampled metrics start before after event)
  exact
    { waiting := rfl
      within := Nat.zero_le _
      samples := by simp [Scrape.start]
      during := fun _ member => absurd member List.not_mem_nil
      inOrder := .nil
      ran := Reachable.refl _ _ }

end Sampled

section Built

variable {text : AddrText} {config : ParsedConfig} {server : Server}

theorem held_of_health (parser : TlsParser)
    (built : Server.fromParsedConfig text config = some server)
    (state : ServerState) (accounted : state.Accounted server parser)
    (listener : Nat) (proxy : Proxy)
    (configured : server.proxies[listener]? = some proxy)
    (health : proxy.isHealthServer = true) : state.held ⟨listener⟩ = 0 := by
  apply List.countP_eq_zero.mpr
  intro handler member holds
  obtain ⟨holder, found, _, permit, _⟩ := accounted.handlers handler member
  rw [decide_eq_true_eq, permit, Proxy.permit] at holds
  split at holds
  · cases holds
  · rename_i ordinary
    rw [Server.fromParsedConfig_maxclients text config server built _ holder
      found, Option.some.injEq, Semaphore.mk.injEq] at holds
    rw [holds, configured, Option.some.injEq] at found
    exact ordinary (found ▸ health)

theorem limit_sub_available (parser : TlsParser)
    (built : Server.fromParsedConfig text config = some server)
    (state : ServerState) (accounted : state.Accounted server parser)
    (listener : Nat) (proxy : Proxy)
    (configured : server.proxies[listener]? = some proxy) :
    proxy.maxclientsLimit - state.available ⟨listener⟩ =
      if proxy.isHealthServer then 0 else state.live listener := by
  cases health : proxy.isHealthServer with
  | true =>
      have conserved := accounted.permits ⟨listener⟩
      rw [held_of_health parser built state accounted listener proxy configured
        health] at conserved
      have full : server.start.available ⟨listener⟩ =
          proxy.maxclientsLimit := by simp [Server.start, configured]
      rw [← full, ← conserved]
      simp
  | false =>
      have total := available_add_live text config server parser built state
        accounted listener proxy configured health
      rw [Server.fromParsedConfig_maxclients text config server built listener
        proxy configured] at total
      rw [if_neg Bool.false_ne_true, ← total, Nat.add_sub_cancel_left]

end Built

/-! ### The whole scrape -/

def Scrape.seen (state : Scrape) (semaphore : Semaphore) : Nat :=
  match state.moments[semaphore.index]? with
  | some moment => moment.available semaphore
  | none => 0

/-- Asked one after the other, entries with semaphores of their own give the
report of one state that has the permits that were seen. -/
theorem Scrape.Sampled.response {server : Server} {parser : TlsParser}
    {metrics : Metrics} {start : ServerState} {state : Scrape}
    (sampled : state.Sampled server parser metrics start)
    (finished : state.waiting = [])
    (own : ∀ (listener : Nat) entry, metrics[listener]? = some entry →
      entry.semaphore = ⟨listener⟩) :
    state.response metrics = healthHandler "/metrics" metrics state.seen ∧
      state.moments.length = metrics.length := by
  have all : state.moments.length = metrics.length := by
    have rest := sampled.waiting
    rw [finished] at rest
    exact Nat.le_antisymm sampled.within
      (List.drop_eq_nil_iff.mp rest.symm)
  refine ⟨?_, all⟩
  have samples : state.samples =
      metrics.map (fun entry => activeSample state.seen entry) := by
    rw [sampled.samples]
    apply List.ext_getElem?
    intro listener
    rw [List.getElem?_zipWith, List.getElem?_map]
    cases entryIs : metrics[listener]? with
    | none => simp
    | some entry =>
        have inside : listener < state.moments.length := by
          rw [all]
          exact (List.getElem?_eq_some_iff.mp entryIs).1
        have asked : state.moments[listener]? =
            some state.moments[listener] := List.getElem?_eq_getElem inside
        have same : state.seen entry.semaphore =
            state.moments[listener].available entry.semaphore := by
          rw [own listener entry entryIs, Scrape.seen, asked]
        simp only [asked, Option.map_some, activeSample, MetricsEntry.active,
          same]
  rw [Scrape.response, samples]
  rfl

/-- However the scrape is interleaved with the server, its body is one that the
handler gives for a single state; each listener is reported as it was at a
moment of the scrape, in the order of the entries, and never above its limit. -/
theorem scrape_exact (text : AddrText) (config : ParsedConfig)
    (server : Server)
    (built : Server.fromParsedConfig text config = some server)
    (parser : TlsParser) (start : ServerState)
    (begun : Reachable (serverStep server parser) server.start start)
    (holder : Proxy) (held : holder ∈ server.proxies) (key : String)
    (metrics : Metrics)
    (health : holder.upstream.lookup key = some (.health metrics))
    (state : Scrape)
    (reached : Reachable (scrapeStep server parser)
      (Scrape.start metrics start) state)
    (finished : state.waiting = []) :
    state.response metrics = healthHandler "/metrics" metrics state.seen ∧
    state.moments.Pairwise (fun early late =>
      Reachable (serverStep server parser) early late) ∧
    ∀ (listener : Nat) proxy, server.proxies[listener]? = some proxy →
      ∃ entry moment, metrics[listener]? = some entry ∧
        state.moments[listener]? = some moment ∧
        Reachable (serverStep server parser) start moment ∧
        Reachable (serverStep server parser) moment state.server ∧
        entry.active state.seen =
          (if proxy.isHealthServer then 0 else moment.live listener) ∧
        entry.active state.seen ≤ proxy.maxclientsLimit := by
  have entries (listener : Nat) : metrics[listener]? =
      server.proxies[listener]?.map (fun proxy =>
        { name := proxy.name
          listen := text.display proxy.listen
          maxclientsLimit := proxy.maxclientsLimit
          semaphore := ⟨listener⟩ }) := by
    rw [Server.fromParsedConfig_metrics text config server built holder held key
      metrics health, List.getElem?_mapIdx]
  have sampled := reachable_sampled metrics start state reached
  obtain ⟨response, all⟩ := sampled.response finished
    (fun listener entry there => by
      rw [entries listener, Option.map_eq_some_iff] at there
      obtain ⟨_, _, rfl⟩ := there
      rfl)
  refine ⟨response, sampled.inOrder, fun listener proxy configured => ?_⟩
  have entry := entries listener
  rw [configured, Option.map_some] at entry
  have inside : listener < state.moments.length := by
    rw [all]
    exact (List.getElem?_eq_some_iff.mp entry).1
  obtain ⟨earlier, later⟩ := sampled.during _ (List.getElem_mem inside)
  have asked : state.moments[listener]? = some state.moments[listener] :=
    List.getElem?_eq_getElem inside
  refine ⟨_, _, entry, asked, earlier, later, ?_, Nat.sub_le _ _⟩
  rw [MetricsEntry.active, Scrape.seen]
  dsimp only
  rw [asked]
  exact limit_sub_available parser built _
    (reachable_accounted server parser _ (begun.trans earlier)) listener proxy
    configured

theorem scrape_exact_of_two :
    ∃ (server : Server) (holder : Proxy) (metrics : Metrics) (state : Scrape),
      Server.fromParsedConfig AddrText.std
        (loopbackConfig ["127.0.0.1:9001", "127.0.0.1:9002"] none) =
          some server ∧
      holder ∈ server.proxies ∧
      holder.upstream.lookup "health" = some (.health metrics) ∧
      (state.server.live 0 = 1 ∧ state.server.live 1 = 1) ∧
      state.samples =
        [gaugeSample "tpt_active_connections" "echo_server" "127.0.0.1:9001" 0,
          gaugeSample "tpt_active_connections" "echo_server" "127.0.0.1:9002"
            1] ∧
      state.response metrics = healthHandler "/metrics" metrics state.seen := by
  let config := loopbackConfig ["127.0.0.1:9001", "127.0.0.1:9002"] none
  let proxies := rawProxies AddrText.std config.servers
  let server : Server :=
    { proxies := proxies.map (fun proxy =>
        { proxy with upstream := sharedUpstream AddrText.std config }) }
  let started := (server.start.beginLoop 0).beginLoop 1
  have begun : Reachable (serverStep server TlsParser.refusing) server.start
      started := ⟨[.started 0 (.ok ()), .started 1 (.ok ())], rfl⟩
  have scraped : Reachable (scrapeStep server TlsParser.refusing)
      (Scrape.start (metricsOf AddrText.std proxies) started) _ :=
    ⟨[.sampled, .ran (.accepted 0 (.ok quietConnection)),
      .ran (.accepted 1 (.ok quietConnection)), .sampled], rfl⟩
  exact ⟨server, _, _, _, rfl, List.mem_cons_self, rfl, by decide, rfl,
    (scrape_exact AddrText.std config server rfl TlsParser.refusing started begun
      _ List.mem_cons_self "health" _ rfl _ scraped rfl).1⟩

end TlsProxyTunnel
