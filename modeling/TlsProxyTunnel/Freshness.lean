/-
How old an address may be when many connections share the cache.

The three cells are written one after the other, so the addresses of one caller
may stand beside the time of another.  What keeps an address young is that no
caller takes longer than some delay from the answer to its lookup to its last
write of an address or a time.
-/

import TlsProxyTunnel.Library.Progress
import TlsProxyTunnel.SharedCache
import TlsProxyTunnel.Staleness

namespace TlsProxyTunnel

open Transition

/-- The shared cells and the clock.  `stored` is the lookup whose addresses are
in the cell; it, the lookups that succeeded and the instants at which one failed
are kept for the statements only. -/
structure TimedUpstream where
  shared : SharedUpstream
  clock : Instant
  stored : Option Lookup
  lookups : List Lookup
  failures : List Instant

/-- A caller, with the lookup of its own that succeeded and the instants at
which its lookup was answered and at which it compared the time with the span
of validity. -/
structure TimedCall where
  phase : ConnectPhase
  own : Option Lookup
  answered : Instant
  checked : Instant

structure TimedEvent where
  clock : Instant
  event : ConnectEvent

/-- The instant that is stored is read before the lock is waited for; every
other one is read with the lock held. -/
def TimedEvent.punctual (timed : TimedEvent) (phase : ConnectPhase) : Bool :=
  match timed.event, phase with
  | .moved now, .failTime _ => now ≤ timed.clock
  | .moved now, .storeTime _ => now ≤ timed.clock
  | .moved now, _ => now = timed.clock
  | .answered _, _ => true

def TimedCall.inTime (delay : Duration) (call : TimedCall) (clock : Instant) :
    Bool :=
  match call.phase with
  | .storeAddresses _ | .storeTime _ | .failTime _ =>
      clock ≤ call.answered + delay
  | _ => true

def TimedUpstream.looked (store : TimedUpstream) (clock : Instant)
    (resolved : List SocketAddr) : Lookup :=
  { mode := store.shared.mode
    resolved := resolved
    completed := clock }

def TimedUpstream.after (store : TimedUpstream) (call : TimedCall)
    (timed : TimedEvent) (shared : SharedUpstream) : TimedUpstream :=
  match timed.event, call.phase with
  | .answered (.ok resolved), _ =>
      { store with
        shared := shared
        clock := timed.clock
        lookups := store.looked timed.clock resolved :: store.lookups }
  | .answered (.error _), _ =>
      { store with
        shared := shared
        clock := timed.clock
        failures := timed.clock :: store.failures }
  | .moved _, .storeAddresses _ =>
      { store with
        shared := shared
        clock := timed.clock
        stored := call.own }
  | .moved _, _ =>
      { store with
        shared := shared
        clock := timed.clock }

def TimedCall.after (store : TimedUpstream) (call : TimedCall)
    (timed : TimedEvent) (phase : ConnectPhase) : TimedCall :=
  match timed.event, call.phase with
  | .answered (.ok resolved), _ =>
      { call with
        phase := phase
        own := some (store.looked timed.clock resolved)
        answered := timed.clock }
  | .answered (.error _), _ =>
      { call with
        phase := phase
        answered := timed.clock }
  | .moved now, .checkTtl _ =>
      { call with
        phase := phase
        checked := now }
  | .moved _, _ => { call with phase := phase }

/-- A step of `connectStep` at an instant of the clock, which does not run
backwards. -/
def timedStep (delay : Duration) (store : TimedUpstream) (call : TimedCall)
    (timed : TimedEvent) : Option (TimedUpstream × TimedCall) :=
  if store.clock ≤ timed.clock ∧ timed.punctual call.phase = true ∧
      call.inTime delay timed.clock = true then
    (connectStep store.shared call.phase timed.event).map (fun after =>
      (store.after call timed after.1, call.after store timed after.2))
  else
    none

def TimedCallers.start (upstream : ProxyToUpstream) :
    Tasks.Configuration TimedUpstream TimedCall :=
  { store :=
      { shared := SharedUpstream.start upstream
        clock := 0
        stored := none
        lookups := []
        failures := [] }
    tasks := fun _ =>
      { phase := .called
        own := none
        answered := 0
        checked := 0 } }

def TimedCallers.untimed
    (state : Tasks.Configuration TimedUpstream TimedCall) :
    Tasks.Configuration SharedUpstream ConnectPhase :=
  { store := state.store.shared
    tasks := fun caller => (state.tasks caller).phase }

@[simp] theorem TimedUpstream.after_shared (store : TimedUpstream)
    (call : TimedCall) (timed : TimedEvent) (shared : SharedUpstream) :
    (store.after call timed shared).shared = shared := by
  unfold TimedUpstream.after
  split <;> rfl

@[simp] theorem TimedCall.after_phase (store : TimedUpstream)
    (call : TimedCall) (timed : TimedEvent) (phase : ConnectPhase) :
    (call.after store timed phase).phase = phase := by
  unfold TimedCall.after
  split <;> rfl

theorem timedStep_eq_some (delay : Duration) (store : TimedUpstream)
    (call : TimedCall) (timed : TimedEvent)
    (after : TimedUpstream × TimedCall)
    (moved : timedStep delay store call timed = some after) :
    store.clock ≤ timed.clock ∧ timed.punctual call.phase = true ∧
      call.inTime delay timed.clock = true ∧
      ∃ plain, connectStep store.shared call.phase timed.event = some plain ∧
        after = (store.after call timed plain.1,
          call.after store timed plain.2) := by
  unfold timedStep at moved
  split at moved
  · rename_i guard
    obtain ⟨plain, stepped, rfl⟩ := Option.map_eq_some_iff.mp moved
    exact ⟨guard.1, guard.2.1, guard.2.2, plain, stepped, rfl⟩
  · cases moved

theorem timed_callers (delay : Duration) (upstream : ProxyToUpstream)
    (state : Tasks.Configuration TimedUpstream TimedCall)
    (reached : Reachable (Tasks.step (timedStep delay))
      (TimedCallers.start upstream) state) :
    Reachable (Tasks.step connectStep) (Callers.start upstream)
      (TimedCallers.untimed state) := by
  refine reached.simulated TimedCallers.untimed ?_
  rintro before ⟨caller, timed⟩ after moved
  obtain ⟨own, stepped, rfl⟩ := Option.map_eq_some_iff.mp moved
  obtain ⟨_, _, _, plain, plainly, rfl⟩ :=
    timedStep_eq_some delay _ _ timed own stepped
  refine ⟨[(caller, timed.event)], ?_⟩
  have phases : (fun other => ((Function.update before.tasks caller
      ((before.tasks caller).after before.store timed plain.2)) other).phase) =
      Function.update (fun other => (before.tasks other).phase) caller
        plain.2 := by
    funext other
    by_cases same : other = caller
    · subst same
      simp
    · simp [Function.update_of_ne same]
  simp only [run, Tasks.step, TimedCallers.untimed, plainly, Option.map_some,
    Option.bind_some, TimedUpstream.after_shared, phases]

/-! ### Instants and the addresses in the cell -/

section Age

variable (delay : Duration)

/-- The instant is past, and less than `age` after the lookup whose addresses
are in the cell. -/
structure TimedUpstream.Near (store : TimedUpstream) (age : Duration)
    (instant : Instant) : Prop where
  past : instant ≤ store.clock
  young : ∀ lookup, store.stored = some lookup →
    instant < lookup.completed + age

def TimedUpstream.Failed (store : TimedUpstream) (late : Duration)
    (instant : Instant) : Prop :=
  ∃ failure, failure ∈ store.failures ∧ instant < failure + late

/-- What a step of any caller may change: other addresses are no older than the
delay when they come into the cell. -/
structure TimedUpstream.Change (before after : TimedUpstream) : Prop where
  clock : before.clock ≤ after.clock
  lookups : ∀ lookup, lookup ∈ before.lookups → lookup ∈ after.lookups
  failures : ∀ failure, failure ∈ before.failures → failure ∈ after.failures
  stored : after.stored = before.stored ∨
    ∃ lookup, after.stored = some lookup ∧
      before.clock ≤ lookup.completed + delay

variable {delay} {before after : TimedUpstream}

theorem TimedUpstream.Change.near (change : before.Change delay after)
    {age : Duration} {instant : Instant} (slack : delay < age)
    (near : before.Near age instant) : after.Near age instant := by
  refine ⟨near.past.trans change.clock, fun lookup cached => ?_⟩
  rcases change.stored with same | ⟨other, stored, recent⟩
  · exact near.young lookup (same ▸ cached)
  · rw [stored, Option.some.injEq] at cached
    subst cached
    calc instant ≤ before.clock := near.past
      _ ≤ other.completed + delay := recent
      _ < other.completed + age := Nat.add_lt_add_left slack _

theorem TimedUpstream.Change.failed (change : before.Change delay after)
    {late : Duration} {instant : Instant}
    (failed : before.Failed late instant) : after.Failed late instant := by
  obtain ⟨failure, member, recent⟩ := failed
  exact ⟨failure, change.failures failure member, recent⟩

theorem TimedUpstream.Change.filled (change : before.Change delay after)
    (filled : before.stored ≠ none) : after.stored ≠ none := by
  rcases change.stored with same | ⟨lookup, stored, _⟩
  · rwa [same]
  · rw [stored]
    exact Option.some_ne_none lookup

variable (delay)

def TimedUpstream.Timely (store : TimedUpstream) (instant : Instant) : Prop :=
  store.Near (2 * delay + 1) instant ∨
    instant ≤ store.clock ∧ store.Failed (delay + 1) instant

def TimedUpstream.Valid (store : TimedUpstream) (instant : Instant) : Prop :=
  store.Near (2 * delay + seconds 60) instant ∨
    instant ≤ store.clock ∧ store.Failed (delay + seconds 60) instant

variable {delay}

theorem delay_lt (delay more : Nat) (positive : 0 < more) :
    delay < 2 * delay + more := by
  omega

theorem lt_of_close {now completed delay other : Nat}
    (soon : now ≤ completed + delay) (close : completed < other + (delay + 1)) :
    now < other + (2 * delay + 1) := by
  omega

theorem lt_of_within (now instant span base age minute : Nat)
    (within : now - instant < span) (short : span ≤ minute)
    (young : instant < base + (age + 1)) : now < base + (age + minute) := by
  omega

theorem TimedUpstream.Change.timely (change : before.Change delay after)
    {instant : Instant} (timely : before.Timely delay instant) :
    after.Timely delay instant := by
  rcases timely with near | ⟨past, failed⟩
  · exact Or.inl (change.near (delay_lt delay 1 Nat.one_pos) near)
  · exact Or.inr ⟨past.trans change.clock, change.failed failed⟩

theorem TimedUpstream.Change.valid (change : before.Change delay after)
    {instant : Instant} (valid : before.Valid delay instant) :
    after.Valid delay instant := by
  rcases valid with near | ⟨past, failed⟩
  · exact Or.inl (change.near (delay_lt delay (seconds 60) (by decide)) near)
  · exact Or.inr ⟨past.trans change.clock, change.failed failed⟩

theorem TimedUpstream.Timely.valid {store : TimedUpstream}
    {instant now : Instant} {span : Duration}
    (timely : store.Timely delay instant) (past : now ≤ store.clock)
    (short : span ≤ seconds 60) (within : now - instant < span) :
    store.Valid delay now := by
  rcases timely with near | ⟨_, failure, member, recent⟩
  · exact Or.inl ⟨past, fun lookup cached =>
      lt_of_within now instant span _ _ _ within short
        (near.young lookup cached)⟩
  · exact Or.inr ⟨past, failure, member,
      lt_of_within now instant span _ _ _ within short recent⟩

variable (delay)

structure TimedUpstream.Sound (store : TimedUpstream) : Prop where
  vacant : store.stored = none →
    store.shared.upstream.addresses.resolvedAddresses = []
  cached : ∀ lookup, store.stored = some lookup →
    lookup ∈ store.lookups ∧
      store.shared.upstream.addresses.resolvedAddresses = lookup.addresses
  past : ∀ lookup, lookup ∈ store.lookups → lookup.completed ≤ store.clock
  time : ∀ instant,
    store.shared.upstream.addresses.resolvedTime = some instant →
      store.Timely delay instant
  span : ∀ span, store.shared.upstream.addresses.ttl = some span →
    span ≤ seconds 60

structure TimedCall.Carries (store : TimedUpstream) (call : TimedCall)
    (addresses : List SocketAddr) (lookup : Lookup) : Prop where
  own : call.own = some lookup
  member : lookup ∈ store.lookups
  addresses : addresses = lookup.addresses
  answered : call.answered = lookup.completed

/-- Addresses a call may come back with: of its own lookup, of one answered not
much more than a minute before it checked the time, or of an older one in the
minute after a failure. -/
def TimedCall.MayUse (store : TimedUpstream) (call : TimedCall)
    (addresses : List SocketAddr) : Prop :=
  ∃ lookup, lookup ∈ store.lookups ∧ addresses = lookup.addresses ∧
    (call.own = some lookup ∨
      call.checked < lookup.completed + (2 * delay + seconds 60) ∨
      store.Failed (delay + seconds 60) call.checked)

def TimedCall.Known (store : TimedUpstream) (call : TimedCall) : Prop :=
  match call.phase with
  | .checkTime => store.stored ≠ none
  | .checkTtl instant => store.stored ≠ none ∧ store.Timely delay instant
  | .readAddresses => store.stored ≠ none ∧ store.Valid delay call.checked
  | .failTime _ => call.answered ∈ store.failures
  | .storeAddresses addresses | .storeTtl addresses =>
      ∃ lookup, call.Carries store addresses lookup
  | .storeTime addresses =>
      ∃ lookup, call.Carries store addresses lookup ∧
        store.Near (delay + 1) lookup.completed
  | .connecting addresses => call.MayUse delay store addresses
  | .called | .refused | .checkAddresses | .lookUp | .failTtl _ | .failed _ =>
      True

variable {delay}

theorem TimedUpstream.Change.carries (change : before.Change delay after)
    {call : TimedCall} {addresses : List SocketAddr} {lookup : Lookup}
    (carries : call.Carries before addresses lookup) :
    call.Carries after addresses lookup :=
  { carries with member := change.lookups lookup carries.member }

theorem TimedCall.known_of_change (before after : TimedUpstream)
    (call : TimedCall) (change : before.Change delay after)
    (known : call.Known delay before) : call.Known delay after := by
  unfold TimedCall.Known at known ⊢
  split at known
  · exact change.filled known
  · exact ⟨change.filled known.1, change.timely known.2⟩
  · exact ⟨change.filled known.1, change.valid known.2⟩
  · exact change.failures _ known
  · obtain ⟨lookup, carries⟩ := known
    exact ⟨lookup, change.carries carries⟩
  · obtain ⟨lookup, carries⟩ := known
    exact ⟨lookup, change.carries carries⟩
  · obtain ⟨lookup, carries, near⟩ := known
    exact ⟨lookup, change.carries carries,
      change.near (Nat.lt_succ_self delay) near⟩
  · obtain ⟨lookup, member, same, origin⟩ := known
    exact ⟨lookup, change.lookups lookup member, same,
      origin.imp_right (Or.imp_right change.failed)⟩
  all_goals trivial

/-! ### One step -/

theorem TimedUpstream.Sound.written (store : TimedUpstream)
    (sound : store.Sound delay) (clock : Instant) (later : store.clock ≤ clock)
    (cache : UpstreamAddress)
    (same : cache.resolvedAddresses =
      store.shared.upstream.addresses.resolvedAddresses)
    (time : ∀ instant, cache.resolvedTime = some instant →
      store.shared.upstream.addresses.resolvedTime = some instant ∨
        TimedUpstream.Timely delay
          { store with
            shared := store.shared.write cache
            clock := clock } instant)
    (span : ∀ span, cache.ttl = some span → span ≤ seconds 60) :
    TimedUpstream.Sound delay
        { store with
          shared := store.shared.write cache
          clock := clock } ∧
      store.Change delay
        { store with
          shared := store.shared.write cache
          clock := clock } := by
  have change : store.Change delay
      { store with
        shared := store.shared.write cache
        clock := clock } :=
    ⟨later, fun _ member => member, fun _ member => member, Or.inl rfl⟩
  refine ⟨⟨?_, ?_, ?_, ?_, span⟩, change⟩
  · exact fun vacant => same.trans (sound.vacant vacant)
  · intro lookup cached
    obtain ⟨member, addresses⟩ := sound.cached lookup cached
    exact ⟨member, same.trans addresses⟩
  · exact fun lookup member => (sound.past lookup member).trans later
  · intro instant stored
    rcases time instant stored with earlier | timely
    · exact change.timely (sound.time instant earlier)
    · exact timely

theorem TimedUpstream.Sound.later (store : TimedUpstream)
    (sound : store.Sound delay) (clock : Instant)
    (later : store.clock ≤ clock) :
    TimedUpstream.Sound delay { store with clock := clock } ∧
      store.Change delay { store with clock := clock } :=
  sound.written store clock later store.shared.upstream.addresses rfl
    (fun _ stored => Or.inl stored) sound.span

theorem TimedUpstream.Sound.looked (store : TimedUpstream)
    (sound : store.Sound delay) (clock : Instant)
    (later : store.clock ≤ clock) (resolved : List SocketAddr)
    (shared : SharedUpstream)
    (same : shared.upstream.addresses = store.shared.upstream.addresses) :
    TimedUpstream.Sound delay
        { store with
          shared := shared
          clock := clock
          lookups := store.looked clock resolved :: store.lookups } ∧
      store.Change delay
        { store with
          shared := shared
          clock := clock
          lookups := store.looked clock resolved :: store.lookups } := by
  have change : store.Change delay
      { store with
        shared := shared
        clock := clock
        lookups := store.looked clock resolved :: store.lookups } :=
    ⟨later, fun _ member => List.mem_cons_of_mem _ member,
      fun _ member => member, Or.inl rfl⟩
  refine ⟨⟨?_, ?_, ?_, ?_, ?_⟩, change⟩
  · intro vacant
    rw [same]
    exact sound.vacant vacant
  · intro lookup cached
    obtain ⟨member, addresses⟩ := sound.cached lookup cached
    exact ⟨List.mem_cons_of_mem _ member, by rw [same, addresses]⟩
  · intro lookup member
    rcases List.mem_cons.mp member with own | earlier
    · rw [own]
      exact Nat.le_refl clock
    · exact (sound.past lookup earlier).trans later
  · intro instant stored
    rw [same] at stored
    exact change.timely (sound.time instant stored)
  · intro span stored
    rw [same] at stored
    exact sound.span span stored

theorem TimedUpstream.Sound.failed (store : TimedUpstream)
    (sound : store.Sound delay) (clock : Instant)
    (later : store.clock ≤ clock) :
    TimedUpstream.Sound delay
        { store with
          clock := clock
          failures := clock :: store.failures } ∧
      store.Change delay
        { store with
          clock := clock
          failures := clock :: store.failures } := by
  have change : store.Change delay
      { store with
        clock := clock
        failures := clock :: store.failures } :=
    ⟨later, fun _ member => member,
      fun _ member => List.mem_cons_of_mem _ member, Or.inl rfl⟩
  exact ⟨⟨sound.vacant, sound.cached,
    fun lookup member => (sound.past lookup member).trans later,
    fun instant stored => change.timely (sound.time instant stored),
    sound.span⟩, change⟩

theorem TimedUpstream.Sound.stored (store : TimedUpstream)
    (sound : store.Sound delay) (clock : Instant)
    (later : store.clock ≤ clock) (lookup : Lookup)
    (member : lookup ∈ store.lookups)
    (inTime : clock ≤ lookup.completed + delay) :
    let after : TimedUpstream :=
      { store with
        shared := store.shared.write
          { store.shared.upstream.addresses with
            resolvedAddresses := lookup.addresses }
        clock := clock
        stored := some lookup }
    after.Sound delay ∧ store.Change delay after := by
  intro after
  have change : store.Change delay after :=
    ⟨later, fun _ member => member, fun _ member => member,
      Or.inr ⟨lookup, rfl, later.trans inTime⟩⟩
  refine ⟨⟨nofun, ?_, ?_, ?_, sound.span⟩, change⟩
  · intro other cached
    obtain rfl : lookup = other := Option.some.inj cached
    exact ⟨member, rfl⟩
  · exact fun other earlier => (sound.past other earlier).trans later
  · exact fun instant stored => change.timely (sound.time instant stored)

theorem timedStep_answered (store : TimedUpstream) (call : TimedCall)
    (clock : Instant) (lookup : Except IoError (List SocketAddr))
    (after : TimedUpstream × TimedCall)
    (moved : timedStep delay store call ⟨clock, .answered lookup⟩ =
      some after)
    (sound : store.Sound delay) :
    after.1.Sound delay ∧ after.2.Known delay after.1 ∧
      store.Change delay after.1 := by
  obtain ⟨later, _, _, plain, stepped, rfl⟩ :=
    timedStep_eq_some delay store call _ after moved
  obtain ⟨phase, own, answered, checked⟩ := call
  cases phase with
  | lookUp =>
      cases lookup with
      | error error =>
          cases stepped
          obtain ⟨still, change⟩ := sound.failed store clock later
          exact ⟨still, List.mem_cons_self, change⟩
      | ok resolved =>
          cases stepped
          obtain ⟨still, change⟩ := sound.looked store clock later resolved
            { store.shared with
              lookups := resolved :: store.shared.lookups } rfl
          exact ⟨still, ⟨store.looked clock resolved,
            rfl, List.mem_cons_self, rfl, rfl⟩, change⟩
  | _ => cases stepped

theorem timedStep_moved (store : TimedUpstream) (call : TimedCall)
    (clock now : Instant) (after : TimedUpstream × TimedCall)
    (moved : timedStep delay store call ⟨clock, .moved now⟩ = some after)
    (sound : store.Sound delay) (known : call.Known delay store) :
    after.1.Sound delay ∧ after.2.Known delay after.1 ∧
      store.Change delay after.1 := by
  obtain ⟨later, punctual, inTime, plain, stepped, rfl⟩ :=
    timedStep_eq_some delay store call _ after moved
  obtain ⟨still, change⟩ := sound.later store clock later
  obtain ⟨phase, own, answered, checked⟩ := call
  cases phase with
  | called =>
      simp only [connectStep] at stepped
      split at stepped <;> cases stepped <;> exact ⟨still, trivial, change⟩
  | checkAddresses =>
      cases stepped
      refine ⟨still, ?_, change⟩
      unfold TimedCall.Known
      rw [TimedCall.after_phase]
      cases nonempty : store.shared.upstream.addresses.isResolved with
      | false => trivial
      | true =>
          intro vacant
          simp [UpstreamAddress.isResolved, sound.vacant vacant] at nonempty
  | checkTime =>
      simp only [connectStep] at stepped
      split at stepped
      · rename_i instant stored
        cases stepped
        exact ⟨still, ⟨known, change.timely (sound.time instant stored)⟩,
          change⟩
      · cases stepped
        exact ⟨still, trivial, change⟩
  | checkTtl instant =>
      simp only [connectStep] at stepped
      split at stepped
      · rename_i span stored
        cases stepped
        refine ⟨still, ?_, change⟩
        unfold TimedCall.Known
        rw [TimedCall.after_phase]
        by_cases within : now - instant < span
        · rw [if_pos within]
          have here : now = clock := of_decide_eq_true punctual
          exact ⟨change.filled known.1,
            (change.timely known.2).valid (Nat.le_of_eq here)
              (sound.span span stored) within⟩
        · rw [if_neg within]
          trivial
      · cases stepped
        exact ⟨still, trivial, change⟩
  | readAddresses =>
      cases stepped
      obtain ⟨lookup, cached⟩ := Option.ne_none_iff_exists'.mp known.1
      obtain ⟨member, same⟩ := sound.cached lookup cached
      refine ⟨still, ⟨lookup, member, same, Or.inr ?_⟩, change⟩
      exact known.2.imp (fun near => near.young lookup cached) And.right
  | failTime error =>
      cases stepped
      have past : now ≤ clock := of_decide_eq_true punctual
      have soon : clock ≤ answered + delay := of_decide_eq_true inTime
      obtain ⟨still, change⟩ := sound.written store clock later
        { store.shared.upstream.addresses with resolvedTime := some now } rfl
        (fun instant stored => by
          obtain rfl : now = instant := Option.some.inj stored
          exact Or.inr (Or.inr ⟨past, answered, known,
            Nat.lt_succ_of_le (past.trans soon)⟩))
        sound.span
      exact ⟨still, trivial, change⟩
  | failTtl error =>
      cases stepped
      obtain ⟨still, change⟩ := sound.written store clock later
        { store.shared.upstream.addresses with ttl := some (seconds 3) } rfl
        (fun _ stored => Or.inl stored)
        (fun span stored => by
          obtain rfl : seconds 3 = span := Option.some.inj stored
          decide)
      exact ⟨still, trivial, change⟩
  | storeAddresses addresses =>
      cases stepped
      obtain ⟨lookup, own, member, rfl, answered⟩ := known
      subst own answered
      have soon : clock ≤ lookup.completed + delay := of_decide_eq_true inTime
      obtain ⟨still, change⟩ := sound.stored store clock later lookup member
        soon
      refine ⟨still, ⟨lookup, ⟨rfl, member, rfl, rfl⟩,
        (sound.past lookup member).trans later, fun other cached => ?_⟩, change⟩
      obtain rfl : lookup = other := Option.some.inj cached
      exact Nat.lt_add_of_pos_right (Nat.succ_pos delay)
  | storeTime addresses =>
      cases stepped
      obtain ⟨lookup, ⟨own, member, rfl, answered⟩, near⟩ := known
      subst own answered
      have past : now ≤ clock := of_decide_eq_true punctual
      have soon : clock ≤ lookup.completed + delay := of_decide_eq_true inTime
      obtain ⟨still, change⟩ := sound.written store clock later
        { store.shared.upstream.addresses with resolvedTime := some now } rfl
        (fun instant stored => by
          obtain rfl : now = instant := Option.some.inj stored
          refine Or.inr (Or.inl ⟨past, fun other cached => ?_⟩)
          have close := near.young other cached
          exact lt_of_close (past.trans soon) close)
        sound.span
      exact ⟨still, ⟨lookup, rfl, member, rfl, rfl⟩, change⟩
  | storeTtl addresses =>
      cases stepped
      obtain ⟨lookup, own, member, rfl, answered⟩ := known
      subst own answered
      obtain ⟨still, change⟩ := sound.written store clock later
        { store.shared.upstream.addresses with ttl := some (seconds 60) } rfl
        (fun _ stored => Or.inl stored)
        (fun span stored => by
          obtain rfl : seconds 60 = span := Option.some.inj stored
          exact Nat.le_refl _)
      exact ⟨still, ⟨lookup, member, rfl, Or.inl rfl⟩, change⟩
  | refused => cases stepped
  | lookUp => cases stepped
  | failed error => cases stepped
  | connecting addresses => cases stepped

theorem timedStep_guarantee (store : TimedUpstream) (call : TimedCall)
    (timed : TimedEvent) (after : TimedUpstream × TimedCall)
    (moved : timedStep delay store call timed = some after)
    (sound : store.Sound delay) (known : call.Known delay store) :
    after.1.Sound delay ∧ after.2.Known delay after.1 ∧
      store.Change delay after.1 := by
  obtain ⟨clock, event⟩ := timed
  cases event with
  | moved now =>
      exact timedStep_moved store call clock now after moved sound known
  | answered lookup =>
      exact timedStep_answered store call clock lookup after moved sound

theorem timed_callers_known (address protocol : String)
    (state : Tasks.Configuration TimedUpstream TimedCall)
    (reached : Reachable (Tasks.step (timedStep delay))
      (TimedCallers.start (ProxyToUpstream.new address protocol)) state) :
    state.store.Sound delay ∧
      ∀ caller, (state.tasks caller).Known delay state.store := by
  apply Tasks.Reachable.known (TimedUpstream.Sound delay)
    (fun store call => call.Known delay store)
    (TimedUpstream.Change delay) reached
  · exact ⟨⟨fun _ => rfl, nofun, nofun, nofun, nofun⟩, fun _ => trivial⟩
  · exact timedStep_guarantee
  · exact TimedCall.known_of_change

end Age

/-- Whatever the interleaving of the callers, an address that is connected to
stems from the caller's own lookup, or from one answered less than a minute and
twice the delay before the caller checked the cache, or a lookup had failed less
than a minute and the delay before. -/
theorem shared_addresses_age (delay : Duration) (address protocol : String)
    (state : Tasks.Configuration TimedUpstream TimedCall)
    (reached : Reachable (Tasks.step (timedStep delay))
      (TimedCallers.start (ProxyToUpstream.new address protocol)) state)
    (caller : Nat) (addresses : List SocketAddr)
    (connecting : (state.tasks caller).phase = .connecting addresses) :
    Reachable (Tasks.step connectStep)
        (Callers.start (ProxyToUpstream.new address protocol))
        (TimedCallers.untimed state) ∧
      ∃ lookup, lookup ∈ state.store.lookups ∧ addresses = lookup.addresses ∧
        ((state.tasks caller).own = some lookup ∨
          (state.tasks caller).checked <
            lookup.completed + (2 * delay + seconds 60) ∨
          ∃ failure, failure ∈ state.store.failures ∧
            (state.tasks caller).checked <
              failure + (delay + seconds 60)) := by
  refine ⟨timed_callers delay _ state reached, ?_⟩
  have known := (timed_callers_known address protocol state reached).2 caller
  rw [TimedCall.Known, connecting] at known
  exact known

/-- With a delay of a second: the first caller looks up at once and stores its
addresses a second later, over those of the second caller, whose time is stored
another second later.  The third caller comes just within a minute of that. -/
def agedEvents : List (Nat × TimedEvent) :=
  [ (0, ⟨0, .moved 0⟩),
    (0, ⟨0, .moved 0⟩),
    (1, ⟨0, .moved 0⟩),
    (1, ⟨0, .moved 0⟩),
    (0, ⟨0, .answered (.ok [.v4 (fun _ => 10) 3128])⟩),
    (1, ⟨seconds 1, .answered (.ok [.v4 (fun _ => 11) 3128])⟩),
    (1, ⟨seconds 1, .moved (seconds 1)⟩),
    (0, ⟨seconds 1, .moved (seconds 1)⟩),
    (0, ⟨seconds 1, .moved (seconds 1)⟩),
    (0, ⟨seconds 1, .moved (seconds 1)⟩),
    (1, ⟨seconds 2, .moved (seconds 2)⟩),
    (2, ⟨seconds 62 - 1, .moved (seconds 62 - 1)⟩),
    (2, ⟨seconds 62 - 1, .moved (seconds 62 - 1)⟩),
    (2, ⟨seconds 62 - 1, .moved (seconds 62 - 1)⟩),
    (2, ⟨seconds 62 - 1, .moved (seconds 62 - 1)⟩),
    (2, ⟨seconds 62 - 1, .moved (seconds 62 - 1)⟩) ]

theorem shared_addresses_age_of_three :
    ∃ state,
      Reachable (Tasks.step (timedStep (seconds 1)))
        (TimedCallers.start (ProxyToUpstream.new "proxy.internal:3128" "tcp"))
        state ∧
      (state.tasks 2).phase = .connecting [.v4 (fun _ => 10) 3128] ∧
      (state.tasks 2).own = none ∧ state.store.failures = [] ∧
      (state.tasks 2).checked + 1 = 2 * seconds 1 + seconds 60 ∧
      ∃ lookup, lookup ∈ state.store.lookups ∧
        [.v4 (fun _ => 10) 3128] = lookup.addresses ∧
        ((state.tasks 2).own = some lookup ∨
          (state.tasks 2).checked <
            lookup.completed + (2 * seconds 1 + seconds 60) ∨
          ∃ failure, failure ∈ state.store.failures ∧
            (state.tasks 2).checked <
              failure + (seconds 1 + seconds 60)) := by
  have reached : Reachable (Tasks.step (timedStep (seconds 1)))
      (TimedCallers.start (ProxyToUpstream.new "proxy.internal:3128" "tcp"))
      _ := ⟨agedEvents, rfl⟩
  exact ⟨_, reached, rfl, rfl, rfl, rfl,
    (shared_addresses_age (seconds 1) "proxy.internal:3128" "tcp" _ reached 2 _
      rfl).2⟩

end TlsProxyTunnel
