import EventLog.Proofs.Registry.Validity
import EventLog.Proofs.Ring.History
import EventLog.Proofs.Store.Quiet

/-! The payloads in the rings of a store. A payload that was let in has a type with a renderer, and keeps
that renderer: the registry goes on to find the same one under the type. -/
namespace EventLog

/-- A payload with something to show, and the renderer that its type stands for. -/
structure StoredPayload.Backed (payload : StoredPayload) (registry : Registry) : Prop where
  type_ne : payload.type ≠ .none
  data_ne : payload.data ≠ []
  renderer : ∃ renderer, payload.renderer = some renderer ∧
    registry.resolve? payload.type = some renderer

/-- A ring all of whose payloads have their renderer. -/
def Ring.Backed (ring : Ring) (registry : Registry) : Prop :=
  ∀ slot ∈ ring.slots, ∀ payload, slot.payload = some payload → payload.Backed registry

section
variable {registry next : Registry} {ring changed : Ring} {event : Event} {now : Instant}

/-- A registry that finds more does not take a payload's renderer away. -/
theorem StoredPayload.Backed.mono {payload : StoredPayload} (h : payload.Backed registry)
    (hnext : ∀ type found, registry.resolve? type = some found →
      next.resolve? type = some found) : payload.Backed next where
  type_ne := h.type_ne
  data_ne := h.data_ne
  renderer := by
    obtain ⟨renderer, hrenderer, hresolve⟩ := h.renderer
    exact ⟨renderer, hrenderer, hnext _ _ hresolve⟩

/-- A payload is kept with its renderer where its type has one. -/
theorem Slot.backed_of_store {payload : Option Payload} {stored : StoredPayload}
    (hstore : Slot.store registry payload = some stored)
    (hresolve : ∀ given, payload = some given → given.isStorable = true →
      (registry.resolve? given.type).isSome = true) : stored.Backed registry := by
  obtain ⟨given, hgiven, rfl⟩ := Option.map_eq_some_iff.mp hstore
  obtain ⟨hpayload, hstorable⟩ := Option.filter_eq_some_iff.mp hgiven
  obtain ⟨renderer, hrenderer⟩ := Option.isSome_iff_exists.mp (hresolve given hpayload hstorable)
  rw [Payload.isStorable, Bool.and_eq_true] at hstorable
  refine ⟨?_, ?_, renderer, hrenderer, hrenderer⟩
  · simpa [EventType.isNone] using hstorable.1
  · simpa using hstorable.2

namespace Ring

/-- After an event was appended a slot is as it was before, or has the payload of the event. -/
theorem mem_slots_append {slot : Slot} (h : slot ∈ (ring.append event registry now).2.slots) :
    slot ∈ ring.slots ∨ slot.payload = Slot.store registry event.payload := by
  have hslots := ring.slots_advance
  unfold append at h
  cases hadvance : ring.advance with
  | mk result moved =>
    rw [hadvance] at h hslots
    rw [← hslots]
    cases result with
    | error error => exact .inl h
    | ok index =>
      dsimp only at h
      unfold populate at h
      split at h
      · exact .inl h
      · split at h
        · next hpopulate =>
          rcases List.mem_or_eq_of_mem_set h with hold | rfl
          · exact .inl hold
          · refine .inr ?_
            unfold Slot.populate? at hpopulate
            split at hpopulate
            · cases hpopulate
            · cases hpopulate
              rfl
        · exact .inl h

/-- What is in the copy is what a slot in use holds. -/
theorem exists_used_of_mem_records {record : Record} (h : record ∈ ring.snapshotHeld.records) :
    ∃ slot ∈ ring.slots, slot.used = true ∧ ∃ index, record = slot.record index := by
  obtain ⟨index, -, hrecord⟩ := List.mem_filterMap.mp h
  obtain ⟨slot, hslot, hread⟩ := Option.bind_eq_some_iff.mp hrecord
  unfold Slot.read? at hread
  split at hread
  · next hused =>
    cases hread
    exact ⟨slot, List.mem_of_getElem? hslot, (Bool.and_eq_true_iff.mp hused).1, index, rfl⟩
  · cases hread

theorem exists_slot_of_mem_records {record : Record} (h : record ∈ ring.snapshotHeld.records) :
    ∃ slot ∈ ring.slots, record.payload = slot.payload := by
  obtain ⟨slot, hslot, -, index, rfl⟩ := exists_used_of_mem_records h
  exact ⟨slot, hslot, rfl⟩

/-- An event that was let in is in the copy, with its payload. -/
theorem exists_record_of_append (h : ring.append event registry now = (.ok (), changed)) :
    ∃ record ∈ changed.snapshotHeld.records,
      record.payload = Slot.store registry event.payload := by
  unfold append at h
  split at h
  · next index moved hadvance =>
    unfold populate at h
    split at h
    · cases h
    · next slot hslot =>
      split at h
      · next filled hfilled =>
        cases h
        have hlt : index < moved.slots.length := (List.getElem?_eq_some_iff.mp hslot).1
        obtain ⟨hread, hpayload⟩ : filled.read? index = some (filled.record index) ∧
            filled.payload = Slot.store registry event.payload := by
          unfold Slot.populate? at hfilled
          split at hfilled
          · cases hfilled
          · cases hfilled
            exact ⟨by simp [Slot.read?, SlotClaim.isWriting], rfl⟩
        refine ⟨filled.record index, List.mem_filterMap.mpr ⟨index, mem_order ?_, ?_⟩, hpayload⟩
        · simpa [capacity] using hlt
        · show ((moved.slots.set index filled)[index]?).bind (fun slot => slot.read? index) = _
          rw [List.getElem?_set_self hlt]
          exact hread
      · cases h
  · cases h

namespace Backed

theorem of_new? {memory : Memory} {capacity : Nat} (hnew : Ring.new? memory capacity = .ok ring) :
    ring.Backed registry := by
  intro slot hslot payload hpayload
  rw [Ring.eq_of_new? hnew] at hslot
  rw [List.eq_of_mem_replicate hslot] at hpayload
  cases hpayload

theorem of_quiet (h : ring.Backed registry) (hquiet : ring.Quiet changed) :
    changed.Backed registry := by
  intro slot hslot payload hpayload
  rcases hquiet.slots slot hslot with hold | rfl
  · exact h slot hold payload hpayload
  · cases hpayload

theorem mono (h : ring.Backed registry)
    (hnext : ∀ type found, registry.resolve? type = some found →
      next.resolve? type = some found) : ring.Backed next :=
  fun slot hslot payload hpayload => (h slot hslot payload hpayload).mono hnext

theorem append (h : ring.Backed registry)
    (hresolve : ∀ given, event.payload = some given → given.isStorable = true →
      (registry.resolve? given.type).isSome = true) (now : Instant) :
    (ring.append event registry now).2.Backed registry := by
  intro slot hslot payload hpayload
  rcases mem_slots_append hslot with hold | hnew
  · exact h slot hold payload hpayload
  · exact Slot.backed_of_store (hnew.symm.trans hpayload) hresolve

end Backed
end Ring

end

namespace Store

/-- A store all of whose payloads have their renderer, and whose registry has one for every type that
is let in. -/
structure Backed (store : Store) : Prop where
  covered : store.registry.Covered
  installed : store.isInitialized = true → store.registry.initialized = true
  rings : ∀ id ring, store.table.get? id = some ring → ring.Backed store.registry

namespace Backed

section
variable {store next : Store} {me : ThreadId} {target : Target} {event : Event}

theorem ofConfig (config : Config) : (Store.ofConfig config).Backed where
  covered := .new config.rendererCapacity
  installed hup := by cases hup
  rings id ring hget := by
    cases (Table.get?_empty config.maxBuffers id).symm.trans hget

theorem of_quiet (h : store.Backed) (hquiet : store.Quiet next) : next.Backed where
  covered := hquiet.registry_eq ▸ h.covered
  installed hup := by
    rw [hquiet.registry_eq]
    exact h.installed (hquiet.up_eq ▸ hup)
  rings id ring hget := by
    obtain ⟨old, hold, hring⟩ := hquiet.table.exists_old hget
    rw [hquiet.registry_eq]
    exact (h.rings id old hold).of_quiet hring

/-- A change to the rings of a store that is up. -/
theorem of_rings (h : store.Backed) (hup : store.isInitialized = true)
    (hregistry : next.registry = store.registry)
    (hrings : ∀ id ring, next.table.get? id = some ring → ring.Backed store.registry) :
    next.Backed where
  covered := hregistry ▸ h.covered
  installed _ := hregistry ▸ h.installed hup
  rings id ring hget := hregistry ▸ hrings id ring hget

theorem init (h : store.Backed) (capacity : Nat) (memory : Memory) :
    (store.init capacity memory).2.Backed := by
  have hrings (id : Nat) (ring : Ring) (hget : store.table.get? id = some ring) :
      ring.Backed store.registry.installBuiltins :=
    (h.rings id ring hget).mono fun _ _ hfound => Registry.resolve?_installBuiltins hfound
  rcases init_cases store capacity memory with
    ⟨_, herror⟩ | ⟨-, ⟨_, herror⟩ | ⟨_, hok, ⟨-, rfl⟩ | ⟨-, ring, hnew, rfl⟩⟩⟩
  · rw [herror]
    exact h
  · rw [herror]
    exact ⟨h.covered.installBuiltins, fun _ => Registry.initialized_installBuiltins _, hrings⟩
  · rw [hok]
    exact ⟨h.covered.installBuiltins, fun _ => Registry.initialized_installBuiltins _, hrings⟩
  · rw [hok]
    refine ⟨h.covered.installBuiltins, fun _ => Registry.initialized_installBuiltins _, ?_⟩
    intro id found hget
    rcases Table.eq_of_get?_put hget with ⟨-, rfl⟩ | ⟨-, hold⟩
    · exact .of_new? hnew
    · exact hrings id found hold

theorem cleanup (h : store.Backed) (me : ThreadId) : (store.cleanup me).2.Backed := by
  rcases cleanup_cases store me with ⟨_, herror⟩ | hok
  · rw [herror]
    exact h
  · rw [hok]
    refine ⟨h.covered, nofun, ?_⟩
    intro id ring hget
    cases (Table.get?_empty _ id).symm.trans hget

theorem create (h : store.Backed) (me : ThreadId) (capacity : Nat) (memory : Memory) :
    (store.create me capacity memory).2.Backed := by
  rcases create_cases store me capacity memory with
    ⟨_, -, herror⟩ | ⟨hlock, ⟨-, herror⟩ | ⟨id, hfree, ⟨_, -, herror⟩ | ⟨ring, hnew, hok⟩⟩⟩
  · rw [herror]
    exact h
  · rw [herror]
    exact h.of_quiet (.freed (isInitialized_of_lockGlobal hlock))
  · rw [herror]
    exact h.of_quiet (.freed (isInitialized_of_lockGlobal hlock))
  · rw [hok]
    refine h.of_rings (isInitialized_of_lockGlobal hlock) rfl ?_
    intro other found hget
    rw [Table.get?_add hfree] at hget
    split at hget
    · cases hget
      exact .of_new? hnew
    · exact h.rings other found hget

theorem delete (h : store.Backed) (me : ThreadId) (id : Nat) : (store.delete me id).2.Backed := by
  rcases delete_cases store me id with
    ⟨_, -, herror⟩ | ⟨hup, table, htable, hdeleted⟩
  · rw [herror]
    exact h
  have hlocked (other : Nat) (ring : Ring) (hget : table.get? other = some ring) :
      ring.Backed store.registry := by
    obtain ⟨old, hold, hring⟩ := (Table.Quiet.mapRings?_acquire htable).exists_old hget
    exact (h.rings other old hold).of_quiet hring
  rcases hdeleted with ⟨-, herror⟩ | ⟨-, hok⟩
  · rw [herror]
    refine h.of_rings hup rfl ?_
    intro other ring hget
    obtain ⟨old, hold, hring⟩ := (Table.Quiet.mapAt_release _ _).exists_old hget
    exact (hlocked other old hold).of_quiet hring
  · rw [hok]
    refine h.of_rings hup rfl ?_
    intro other ring hget
    obtain ⟨old, hold, hring⟩ := (Table.Quiet.mapAt_release _ _).exists_old hget
    rw [Table.get?_remove] at hold
    split at hold
    · cases hold
    · exact (hlocked other old hold).of_quiet hring

theorem register (h : store.Backed) (renderer : Renderer) : (store.register renderer).2.Backed where
  covered := h.covered.register renderer
  installed hup := by
    show (store.registry.register renderer).2.initialized = true
    rw [Registry.initialized_register]
    exact h.installed hup
  rings id ring hget :=
    (h.rings id ring hget).mono fun _ _ hfound => Registry.resolve?_register hfound renderer

/-- The type of a payload that is let in has a renderer, if the payload is kept at all. -/
theorem isSome_resolve? (h : store.Backed) {found : Nat × Ring}
    (hdestination : store.destination target event = .ok found) {given : Payload}
    (hgiven : event.payload = some given) (hstorable : given.isStorable = true) :
    (store.registry.resolve? given.type).isSome = true := by
  obtain ⟨hup, -, hpayload⟩ := admits_of_destination hdestination
  refine h.covered.isSome_resolve? (h.installed hup) given.type ?_
  rw [Payload.isStorable, Bool.and_eq_true] at hstorable
  rw [hgiven] at hpayload
  by_contra hinvalid
  simp [checkPayload, hstorable.1, hinvalid] at hpayload

/-- A payload that is let in and kept has a renderer, and is in the copy of the ring with it. -/
theorem shown_of_log (h : store.Backed) {context : Context} {now : Instant} {given : Payload}
    (hlog : store.log context target event now = (.ok (), next))
    (hgiven : event.payload = some given) (hstorable : given.isStorable = true) :
    ∃ renderer id ring, store.registry.resolve? given.type = some renderer ∧
      store.table.named? target = some id ∧ next.table.get? id = some ring ∧
      ∃ record ∈ ring.snapshotHeld.records, record.payload =
        some { type := given.type, data := given.data, renderer := some renderer } := by
  unfold Store.log at hlog
  split at hlog
  · cases hlog
  · next id ring hdestination =>
    obtain ⟨hnamed, hget⟩ := destination_eq_ok hdestination
    obtain ⟨renderer, hrenderer⟩ :=
      Option.isSome_iff_exists.mp (h.isSome_resolve? hdestination hgiven hstorable)
    cases happend : ring.append (context.complete event) store.registry now with
    | mk result changed =>
      rw [happend] at hlog
      cases hlog
      obtain ⟨record, hrecord, hpayload⟩ := Ring.exists_record_of_append happend
      refine ⟨renderer, id, changed, hrenderer, hnamed, ?_, record, hrecord, ?_⟩
      · show (store.table.put id changed).get? id = some changed
        rw [Table.get?_put_of_lt (Table.lt_size hget), if_pos rfl]
      · rw [hpayload]
        show Slot.store store.registry event.payload = _
        rw [hgiven, Slot.store, Option.filter_some, if_pos hstorable, Option.map_some, hrenderer]

theorem log (h : store.Backed) (context : Context) (target : Target) (event : Event)
    (now : Instant) : (store.log context target event now).2.Backed := by
  unfold Store.log
  split
  · exact h
  · next id ring hdestination =>
    obtain ⟨hup, -, -⟩ := admits_of_destination hdestination
    have hring := h.rings id ring (destination_eq_ok hdestination).2
    refine h.of_rings hup rfl ?_
    intro other found hget
    rcases Table.eq_of_get?_put hget with ⟨-, rfl⟩ | ⟨-, hold⟩
    · have hresolve (given : Payload) (hgiven : (context.complete event).payload = some given) :=
        h.isSome_resolve? hdestination hgiven
      exact hring.append hresolve now
    · exact h.rings other found hold

end
end Backed

/-- A snapshot that is answered is the copy of a ring. -/
theorem exists_ring_of_snapshot {store : Store} {me : ThreadId} {id : Nat}
    {snapshot : Snapshot} (h : store.snapshot me id = .ok snapshot) :
    ∃ ring, store.table.get? id = some ring ∧ snapshot = ring.snapshotHeld := by
  unfold Store.snapshot at h
  cases hrequire : store.require id with
  | error fault =>
    rw [hrequire] at h
    cases h
  | ok ring =>
    rw [hrequire] at h
    refine ⟨ring, get?_of_require hrequire, ?_⟩
    change (if store.holdsRings me then .ok ring.snapshotHeld else orWaits ring.snapshot?) =
      .ok snapshot at h
    split at h
    · cases h
      rfl
    · unfold Ring.snapshot? at h
      cases hlock : ring.lock.lock? with
      | none =>
        rw [hlock] at h
        cases h
      | some lock =>
        rw [hlock] at h
        cases h
        rfl

end Store
end EventLog
