/-
How long the outcome of a lookup is kept.

Every lookup sets a time and a span of validity, but only a cache that holds
addresses answers.  A failure, and a list that the family filter left empty,
are looked up again at once.
-/

import TlsProxyTunnel.Staleness

namespace TlsProxyTunnel

open Transition

structure Outcome where
  returned : Except IoError (List SocketAddr)
  completed : Instant

def Outcome.ttl (outcome : Outcome) : Duration :=
  match outcome.returned with
  | .ok _ => seconds 60
  | .error _ => seconds 3

/-- A cache between two calls, with the last lookup that was performed. -/
structure History where
  cache : UpstreamAddress
  clock : Instant
  last : Option Outcome

def History.start (address : String) : History :=
  { cache := UpstreamAddress.new address
    clock := 0
    last := none }

def History.answer (state : History) (call : ResolveCall) :
    Except IoError (List SocketAddr) :=
  (state.cache.resolve call.mode call.called call.completed call.lookup).1

def historyStep (state : History) (call : ResolveCall) : Option History :=
  if state.clock ≤ call.called ∧ call.called ≤ call.completed then
    some
      { cache := (state.cache.resolve call.mode call.called call.completed
          call.lookup).2
        clock := call.completed
        last :=
          if state.cache.hits call.called then state.last
          else
            some
              { returned := state.answer call
                completed := call.completed } }
  else
    none

def SameOutcome : Except IoError (List SocketAddr) →
    Except IoError (List SocketAddr) → Prop
  | .ok addresses, .ok others => addresses = others
  | .error _, .error _ => True
  | _, _ => False

def History.Retained (state : History) (call : ResolveCall) : Prop :=
  ∀ last, state.last = some last →
    call.called < last.completed + last.ttl →
    state.cache.hits call.called = true ∧
      SameOutcome last.returned (state.answer call)

/-- The call does not come within the span of a lookup that failed or left no
addresses. -/
def History.Answerable (state : History) (call : ResolveCall) : Prop :=
  ∀ last, state.last = some last →
    call.called < last.completed + last.ttl →
    ∃ first more, last.returned = .ok (first :: more)

structure History.Recorded (state : History) (last : Outcome) : Prop where
  time : state.cache.resolvedTime = some last.completed
  span : state.cache.ttl = some last.ttl
  addresses : ∀ found, last.returned = .ok found →
    state.cache.resolvedAddresses = found
  past : last.completed ≤ state.clock

def History.Kept (state : History) : Prop :=
  ∀ last, state.last = some last → state.Recorded last

theorem historyStep_eq_some_iff (state next : History) (call : ResolveCall) :
    historyStep state call = some next ↔
      (state.clock ≤ call.called ∧ call.called ≤ call.completed) ∧
      next =
        { cache := (state.cache.resolve call.mode call.called call.completed
            call.lookup).2
          clock := call.completed
          last :=
            if state.cache.hits call.called then state.last
            else
              some
                { returned := state.answer call
                  completed := call.completed } } := by
  rw [historyStep, Option.ite_none_right_eq_some, Option.some.injEq]
  exact and_congr_right (fun _ => eq_comm)

theorem historyStep_kept (state next : History) (call : ResolveCall)
    (moved : historyStep state call = some next) (kept : state.Kept) :
    next.Kept := by
  obtain ⟨⟨order, duration⟩, rfl⟩ :=
    (historyStep_eq_some_iff state next call).mp moved
  intro last newest
  cases found : state.cache.hits call.called with
  | true =>
      simp only [found, if_true] at newest
      obtain ⟨time, span, addresses, past⟩ := kept last newest
      have same := state.cache.resolve_of_hit call.mode call.called
        call.completed call.lookup found
      refine ⟨?_, ?_, ?_, past.trans (order.trans duration)⟩
      · simp only [same, time]
      · simp only [same, span]
      · simpa only [same] using addresses
  | false =>
      simp only [found, Bool.false_eq_true, if_false, Option.some.injEq]
        at newest
      subst newest
      have missed := state.cache.resolve_of_miss call.mode call.called
        call.completed call.lookup found
      cases outcome : call.lookup with
      | error error =>
          simp only [outcome] at missed
          simp only [History.answer, outcome, missed]
          exact ⟨rfl, rfl, nofun, Nat.le_refl _⟩
      | ok resolved =>
          simp only [outcome] at missed
          simp only [History.answer, outcome, missed]
          refine ⟨rfl, rfl, ?_, Nat.le_refl _⟩
          intro found same
          exact Except.ok.inj same

/-! ### Retention -/

theorem History.retained_iff_answerable (state next : History)
    (call : ResolveCall) (moved : historyStep state call = some next)
    (kept : state.Kept) : state.Retained call ↔ state.Answerable call := by
  obtain ⟨⟨order, _⟩, _⟩ := (historyStep_eq_some_iff state next call).mp moved
  refine forall_congr' fun last => forall_congr' fun newest =>
    forall_congr' fun within => ?_
  obtain ⟨time, span, addresses, past⟩ := kept last newest
  have young : call.called - last.completed < last.ttl :=
    (Nat.sub_lt_iff_lt_add' (past.trans order)).mpr within
  have hits := state.cache.hits_iff call.called _ _ time span
  constructor
  · rintro ⟨hit, same⟩
    have answered : state.answer call = .ok state.cache.resolvedAddresses := by
      rw [History.answer, state.cache.resolve_of_hit _ _ _ _ hit]
    rw [answered] at same
    cases outcome : last.returned with
    | error error =>
        rw [outcome] at same
        cases same
    | ok found =>
        cases found with
        | nil => exact absurd (addresses [] outcome) (hits.mp hit).1
        | cons first more => exact ⟨first, more, rfl⟩
  · rintro ⟨first, more, outcome⟩
    have cached := addresses (first :: more) outcome
    have hit : state.cache.hits call.called = true := by
      refine hits.mpr ⟨?_, young⟩
      rw [cached]
      exact List.cons_ne_nil first more
    refine ⟨hit, ?_⟩
    rw [History.answer, state.cache.resolve_of_hit _ _ _ _ hit, cached, outcome]
    rfl

/-- Every lookup of a run is honoured for its span exactly when no call of the
run comes within the span of one that failed or left no addresses. -/
theorem lookups_retained_iff (address : String) (calls : List ResolveCall) :
    Along historyStep History.Retained (History.start address) calls ↔
      Along historyStep History.Answerable (History.start address) calls :=
  along_iff_along History.Kept History.Retained History.Answerable
    (fun state call next => historyStep_kept state next call)
    (fun state call next => state.retained_iff_answerable next call)
    (History.start address) calls (fun _ none_ => nomatch none_)

def failingCalls : List ResolveCall :=
  [ { mode := .ipv4AndIpv6
      called := 0
      completed := 0
      lookup := .error ⟨.other, "failed to lookup address information"⟩ },
    { mode := .ipv4AndIpv6
      called := seconds 1
      completed := seconds 1
      lookup := .ok [exampleAddress] } ]

def filteredCalls : List ResolveCall :=
  [ { mode := .ipv6
      called := 0
      completed := 0
      lookup := .ok [exampleAddress] },
    { mode := .ipv6
      called := seconds 1
      completed := seconds 1
      lookup := .ok [exampleAddress] } ]

theorem failure_and_empty_list_looked_up_again :
    ¬ Along historyStep History.Retained (History.start "example.org:443")
        failingCalls ∧
      ¬ Along historyStep History.Retained (History.start "example.org:443")
        filteredCalls := by
  constructor
  · intro retained
    have second := ((retained _ rfl).2 _ rfl).1
    obtain ⟨hit, _⟩ := second _ rfl (by decide)
    cases hit
  · intro retained
    have second := ((retained _ rfl).2 _ rfl).1
    obtain ⟨hit, _⟩ := second _ rfl (by decide)
    cases hit

end TlsProxyTunnel
