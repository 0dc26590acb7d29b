import EventLog.Proofs.Ring.Account
import EventLog.Proofs.Store.Held
import EventLog.Proofs.Store.Write

/-! Which event a store takes. Everything that stands against an event is a reason of its own; the first
of them is the answer, and only an event that gets to a ring leaves a trace, in that ring. -/
namespace EventLog

namespace Ring

/-- A ring that nobody is writing to, with its cursor at a slot. -/
structure Ready (ring : Ring) : Prop where
  next_lt : ring.next < ring.capacity
  free : ∀ slot ∈ ring.slots, slot.claim = {}

section
variable {ring : Ring}

theorem ready_ofAccount {capacity : Nat} (hcapacity : 0 < capacity) (account : Account)
    (locked : Bool) : (ofAccount capacity account locked).Ready where
  next_lt := by
    rw [capacity_ofAccount]
    exact Nat.mod_lt _ hcapacity
  free := by
    intro slot hslot
    obtain ⟨index, -, rfl⟩ := List.mem_map.mp hslot
    exact Slot.claim_ofWrites _

theorem advance_of_free (h : ring.lock.locked = false) :
    ring.advance =
      (.ok ring.next,
        { ring with
          next := (ring.next + 1) % ring.capacity
          wraps := if (ring.next + 1) % ring.capacity = 0 then ring.wraps + 1 else ring.wraps }) := by
  unfold advance SpinLock.lockBounded SpinLock.tryLock
  rw [h]
  dsimp only
  rw [if_pos Bool.not_false]
  split <;> rfl

/-- An event fills the slot at the cursor, and the cursor goes on to the next one. -/
theorem append_of_ready (h : ring.Ready) (hfree : ring.lock.locked = false) (event : Event)
    (registry : Registry) (now : Instant) :
    ∃ slot filled, ring.slots[ring.next]? = some slot ∧
      slot.populate? event registry now = some filled ∧
      ring.append event registry now =
        (.ok (),
          { ring with
            slots := ring.slots.set ring.next filled
            next := (ring.next + 1) % ring.capacity
            wraps := if (ring.next + 1) % ring.capacity = 0 then ring.wraps + 1
              else ring.wraps }) := by
  obtain ⟨slot, hslot⟩ : ∃ slot, ring.slots[ring.next]? = some slot :=
    ⟨_, List.getElem?_eq_getElem h.next_lt⟩
  have hfilled := Slot.populate?_of_free (h.free slot (List.mem_of_getElem? hslot))
    ⟨event, registry, now⟩
  refine ⟨slot, _, hslot, hfilled, ?_⟩
  unfold append
  rw [advance_of_free hfree]
  unfold populate
  dsimp only at hfilled ⊢
  rw [hslot]
  dsimp only
  rw [hfilled]

end
end Ring

/-- An event has nothing to be kept besides its texts: no payload, one of no kind, or no bytes. -/
def Event.IsPlain (event : Event) : Prop :=
  ∀ payload, event.payload = some payload → payload.type = .none ∨ payload.data = []

namespace Slot

section
variable {slot filled : Slot} {event : Event} {registry : Registry} {now : Instant}

theorem payload_of_populate? (h : slot.populate? event registry now = some filled) :
    filled.payload = store registry event.payload := by
  unfold populate? at h
  split at h
  · cases h
  · cases h
    rfl

theorem store_of_plain (h : event.IsPlain) : store registry event.payload = none := by
  unfold store
  cases hpayload : event.payload with
  | none => rfl
  | some payload =>
    have hstorable : payload.isStorable = false := by
      rcases h payload hpayload with htype | hdata
      · simp [Payload.isStorable, EventType.isNone, htype]
      · simp [Payload.isStorable, hdata]
    simp [Option.filter, hstorable]

end
end Slot

namespace Store

/-- What stands against a target: there is no default, or no buffer with the id. -/
def missing (store : Store) (target : Target) : List Error :=
  (if target = .default ∧ store.table.default = none then [.noDefaultBuffer] else []) ++
    ((store.table.named? target).filter fun id => (store.table.get? id).isNone).toList.map
      .invalidBufferId

/-- What stands against a payload: a kind that is not known, also where there are no bytes. -/
def unknown (store : Store) (payload : Option Payload) : List Error :=
  (payload.filter fun payload =>
    !payload.type.isNone && !store.registry.isValid payload.type).toList.map
      fun payload => .invalidEventType payload.type

/-- What stands against an event before it gets to a ring, each reason by itself, in the order in
which they count. -/
def refusals (store : Store) (target : Target) (event : Event) : List Error :=
  (if store.isInitialized then [] else [.notInitialized]) ++
    (if store.enabled then [] else [.disabled]) ++ store.missing target ++
    store.unknown event.payload

/-- Everything that stands against an event. The rings are locked while the store is fully locked. -/
def objections (store : Store) (target : Target) (event : Event) : List Error :=
  store.refusals target event ++ if store.state = .fullyLocked then [.eventLocked] else []

/-- What becomes of a store with an event, and with the answer that is given. -/
inductive Logged (store : Store) (context : Context) (target : Target) (event : Event)
    (now : Instant) : Option Error → Store → Prop
  /-- An event that does not get to a ring leaves nothing behind. -/
  | refused {error : Error} (hring : error ≠ .eventLocked) :
      Logged store context target event now (some error) store
  /-- An event that finds its ring locked is counted there. -/
  | dropped {id : Nat} {ring : Ring} (hnamed : store.table.named? target = some id)
      (hget : store.table.get? id = some ring) :
      Logged store context target event now (some .eventLocked)
        { store with table := store.table.put id { ring with dropped := ring.dropped + 1 } }
  /-- An event that is taken fills the slot at the cursor of its ring. -/
  | written {id : Nat} {ring : Ring} {slot filled : Slot}
      (hnamed : store.table.named? target = some id) (hget : store.table.get? id = some ring)
      (hslot : ring.slots[ring.next]? = some slot)
      (hfilled : slot.populate? (context.complete event) store.registry now = some filled)
      (hpayload : event.IsPlain → filled.payload = none) :
      Logged store context target event now none
        { store with
          table := store.table.put id
            { ring with
              slots := ring.slots.set ring.next filled
              next := (ring.next + 1) % ring.capacity
              wraps := if (ring.next + 1) % ring.capacity = 0 then ring.wraps + 1
                else ring.wraps } }

section
variable {store next : Store} {context : Context} {target : Target} {event : Event} {now : Instant}
  {answer : Option Error}

namespace Logged

/-- A ring that is not the target's stays as it is. -/
theorem get?_eq (h : store.Logged context target event now answer next) {other : Nat}
    (hne : store.table.named? target ≠ some other) :
    next.table.get? other = store.table.get? other := by
  cases h with
  | refused _ => rfl
  | dropped hnamed _ | written hnamed _ _ _ _ =>
    refine Table.get?_put_ne ?_
    rintro rfl
    exact hne hnamed

/-- Nothing changes but rings, and none of them comes or goes. -/
theorem frame (h : store.Logged context target event now answer next) :
    next = { store with table := next.table } ∧ next.table.default = store.table.default ∧
      ∀ id, (next.table.get? id).isSome = (store.table.get? id).isSome := by
  cases h with
  | refused _ => exact ⟨rfl, rfl, fun _ => rfl⟩
  | @dropped id ring hnamed hget =>
    exact ⟨rfl, rfl, fun other => Table.isSome_get?_put hget other⟩
  | @written id ring slot filled hnamed hget _ _ _ =>
    exact ⟨rfl, rfl, fun other => Table.isSome_get?_put hget other⟩

end Logged

theorem missing_cases_of_named {id : Nat}
    (hdefault : ¬ (target = .default ∧ store.table.default = none))
    (hnamed : store.table.named? target = some id) :
    (store.missing target = [.invalidBufferId id] ∧
        store.resolve target = .error (.invalidBufferId id)) ∨
      ∃ ring, store.table.get? id = some ring ∧ store.missing target = [] ∧
        store.resolve target = .ok (id, ring) := by
  rw [resolve_eq]
  unfold missing
  rw [if_neg hdefault, hnamed]
  cases hget : store.table.get? id with
  | none => exact .inl ⟨by simp [Option.filter, hget], by simp [hget]⟩
  | some ring => exact .inr ⟨ring, rfl, by simp [Option.filter, hget], by simp [hget]⟩

theorem missing_cases (store : Store) (target : Target) :
    (∃ error, store.missing target = [error] ∧ store.resolve target = .error error) ∨
      ∃ id ring, store.table.named? target = some id ∧ store.table.get? id = some ring ∧
        store.missing target = [] ∧ store.resolve target = .ok (id, ring) := by
  by_cases hdefault : target = .default ∧ store.table.default = none
  · obtain ⟨rfl, hnone⟩ := hdefault
    refine .inl ⟨.noDefaultBuffer, ?_, ?_⟩
    · simp [missing, Table.named?, hnone]
    · simp [resolve_eq, Table.named?, hnone]
  obtain ⟨id, hnamed⟩ : ∃ id, store.table.named? target = some id := by
    cases target with
    | buffer id => exact ⟨id, rfl⟩
    | default => exact Option.ne_none_iff_exists'.mp fun hnone => hdefault ⟨rfl, hnone⟩
  rcases missing_cases_of_named hdefault hnamed with hmissing | ⟨ring, hget, hmissing⟩
  · exact .inl ⟨_, hmissing⟩
  · exact .inr ⟨id, ring, hnamed, hget, hmissing⟩

theorem unknown_cases (store : Store) (payload : Option Payload) :
    (∃ error, store.unknown payload = [error] ∧ store.checkPayload payload = .error error) ∨
      store.unknown payload = [] ∧ store.checkPayload payload = .ok () := by
  unfold unknown checkPayload
  cases payload with
  | none => exact .inr ⟨rfl, rfl⟩
  | some payload =>
    cases hunknown : !payload.type.isNone && !store.registry.isValid payload.type with
    | false => exact .inr ⟨by simp [Option.filter, hunknown], by simp [hunknown]⟩
    | true =>
      exact .inl ⟨.invalidEventType payload.type, by simp [Option.filter, hunknown],
        by simp [hunknown]⟩

theorem destination_cases (store : Store) (target : Target) (event : Event) :
    (∃ error more, store.refusals target event = error :: more ∧
      store.destination target event = .error error) ∨
      ∃ id ring, store.table.named? target = some id ∧ store.table.get? id = some ring ∧
        store.refusals target event = [] ∧ store.destination target event = .ok (id, ring) := by
  rw [destination_eq]
  unfold refusals
  cases store.isInitialized with
  | false => exact .inl ⟨_, _, rfl, rfl⟩
  | true =>
    cases store.enabled with
    | false => exact .inl ⟨_, _, rfl, rfl⟩
    | true =>
      rcases store.missing_cases target with
        ⟨error, hmissing, hresolve⟩ | ⟨id, ring, hnamed, hget, hmissing, hresolve⟩
      · rw [hmissing, hresolve]
        exact .inl ⟨_, _, rfl, rfl⟩
      · rw [hmissing, hresolve]
        rcases store.unknown_cases event.payload with
          ⟨error, hunknown, hcheck⟩ | ⟨hunknown, hcheck⟩
        · rw [hunknown, hcheck]
          exact .inl ⟨_, _, rfl, rfl⟩
        · rw [hunknown, hcheck]
          exact .inr ⟨id, ring, hnamed, hget, rfl, rfl⟩

theorem refusals_ne_eventLocked {error : Error}
    (h : error ∈ store.refusals target event) : error ≠ .eventLocked := by
  rintro rfl
  simp [refusals, missing, unknown] at h

theorem exists_logged {me : ThreadId} {guard : Option Guard} (hphase : store.Phase me guard)
    (hready : ∀ id ring, store.table.get? id = some ring → ring.Ready) (context : Context)
    (target : Target) (event : Event) (now : Instant) :
    ∃ next, store.log context target event now =
        ((store.objections target event).head?.elim (.ok ()) .error, next) ∧
      store.Logged context target event now (store.objections target event).head? next := by
  unfold log objections
  rcases store.destination_cases target event with
    ⟨error, more, hrefusals, hdestination⟩ | ⟨id, ring, hnamed, hget, hrefusals, hdestination⟩
  · rw [hdestination, hrefusals]
    exact ⟨store, rfl, .refused (refusals_ne_eventLocked (hrefusals ▸ List.mem_cons_self))⟩
  · have hlocked := hphase.ring_locked_iff hget
    rw [hdestination, hrefusals]
    dsimp only
    by_cases hfull : store.state = .fullyLocked
    · rw [if_pos hfull]
      have happend := Ring.append_of_locked (hlocked.mpr hfull)
        ⟨context.complete event, store.registry, now⟩
      dsimp only at happend
      rw [happend]
      exact ⟨_, rfl, .dropped hnamed hget⟩
    · rw [if_neg hfull]
      have hfree : ring.lock.locked = false := by simpa using fun heq => hfull (hlocked.mp heq)
      obtain ⟨slot, filled, hslot, hfilled, happend⟩ :=
        Ring.append_of_ready (hready id ring hget) hfree (context.complete event) store.registry now
      rw [happend]
      refine ⟨_, rfl, .written hnamed hget hslot hfilled ?_⟩
      intro hplain
      rw [Slot.payload_of_populate? hfilled]
      exact Slot.store_of_plain hplain

/-- A payload of no kind might as well not be there. -/
theorem log_of_none_payload (store : Store) (context : Context) (target : Target) (event : Event)
    (now : Instant) {payload : Payload} (h : payload.type = .none) :
    store.log context target { event with payload := some payload } now =
      store.log context target { event with payload := none } now := by
  have hstore : Slot.store store.registry (some payload) = none := by
    simp [Slot.store, Option.filter, Payload.isStorable, EventType.isNone, h]
  have hpopulate (slot : Slot) :
      slot.populate? (context.complete { event with payload := some payload }) store.registry now =
        slot.populate? (context.complete { event with payload := none }) store.registry now := by
    unfold Slot.populate? Context.complete
    dsimp only
    rw [hstore]
    rfl
  have hdestination : store.destination target { event with payload := some payload } =
      store.destination target { event with payload := none } := by
    rw [destination_eq, destination_eq]
    simp [checkPayload, EventType.isNone, h]
  unfold log Ring.append Ring.populate
  simp only [hdestination, hpopulate]

end
end Store
end EventLog
