import EventLog.Proofs.Store.Allocation

/-! Which entry a new ring gets, what is left when a ring goes, and what becomes of the default. An
event for the default finds a ring. -/
namespace EventLog

namespace Ring

theorem append_ne_invalidBufferId (ring : Ring) (event : Event) (registry : Registry)
    (now : Instant) (id : Nat) :
    (ring.append event registry now).1 ≠ .error (.invalidBufferId id) := by
  unfold append advance
  split
  · unfold populate
    split
    · simp
    · split <;> simp
  · next hadvance =>
    split at hadvance
    · cases hadvance
    · cases hadvance
      simp

theorem new?_ne_noFreeBuffer (memory : Memory) (capacity limit : Nat) :
    new? memory capacity ≠ .error (.noFreeBuffer limit) := by
  unfold new?
  split
  · simp
  · split <;> simp

end Ring

namespace Store

section
variable {store next : Store} {me : ThreadId} {capacity id other : Nat} {memory : Memory}
  {fault : Fault} {config : Config} {requests : Nat → Nat}

theorem lowestFree_of_create (hcreate : store.create me capacity memory = (.ok id, next)) :
    store.table.LowestFree id := by
  rcases create_cases store me capacity memory with
    ⟨_, -, herror⟩ | ⟨-, ⟨-, herror⟩ | ⟨_, hfree, ⟨_, -, herror⟩ | ⟨_, -, hok⟩⟩⟩
  · cases herror.symm.trans hcreate
  · cases herror.symm.trans hcreate
  · cases herror.symm.trans hcreate
  · cases hok.symm.trans hcreate
    exact Table.free?_eq_some_iff.mp hfree

/-- A new ring does not take the default from another. -/
theorem default_create (hdefault : store.table.default = some id) (me : ThreadId)
    (capacity : Nat) (memory : Memory) :
    (store.create me capacity memory).2.table.default = some id := by
  rcases create_cases store me capacity memory with
    ⟨_, -, herror⟩ | ⟨-, ⟨-, herror⟩ | ⟨_, -, ⟨_, -, herror⟩ | ⟨_, -, hok⟩⟩⟩
  · rw [herror]
    exact hdefault
  · rw [herror]
    exact hdefault
  · rw [herror]
    exact hdefault
  · rw [hok]
    show some (store.table.default.getD _) = some id
    rw [hdefault]
    rfl

/-- A ring goes, the others stay, and the lowest of them takes over from a default that goes. -/
theorem delete_ok (hdelete : store.delete me id = (.ok (), next)) :
    (∀ other, (next.table.get? other).isSome = true ↔
        other ≠ id ∧ (store.table.get? other).isSome = true) ∧
      (store.table.default = some id →
        ∀ first, next.table.default = some first ↔ next.table.Lowest first) ∧
      (store.table.default ≠ some id → next.table.default = store.table.default) := by
  rcases delete_cases store me id with ⟨_, -, herror⟩ | ⟨-, table, htable, ⟨-, herror⟩ | ⟨-, hok⟩⟩
  · cases herror.symm.trans hdelete
  · cases herror.symm.trans hdelete
  cases hok.symm.trans hdelete
  have hlocked := Table.Quiet.mapRings?_acquire htable
  have hfreed := Table.Quiet.mapAt_release store.table.ids (table.remove id)
  refine ⟨?_, ?_, ?_⟩
  · intro other
    rw [hfreed.isSome_eq, Table.get?_remove, ← hlocked.isSome_eq]
    by_cases heq : other = id
    · simp [heq]
    · simp [heq]
  · intro hdefault first
    rw [hfreed.default_eq, hfreed.lowest_iff, ← Table.head?_ids_eq_some_iff,
      Table.default_remove_of_eq (hlocked.default_eq.trans hdefault)]
  · intro hdefault
    rw [hfreed.default_eq, Table.default_remove_of_ne (by rwa [hlocked.default_eq]),
      hlocked.default_eq]

/-- Where the lock is there, a ring can be deleted. -/
theorem delete_eq_ok {taken : Guard} {locked : Store}
    (hlock : store.lockGlobal me true = (.ok taken, locked))
    (hpresent : (store.table.get? id).isSome = true) : (store.delete me id).1 = .ok () := by
  rcases delete_cases store me id with
    ⟨_, herror, -⟩ | ⟨-, table, htable, ⟨hnone, -⟩ | ⟨-, hok⟩⟩
  · cases herror.symm.trans hlock
  · rw [← (Table.Quiet.mapRings?_acquire htable).isSome_eq, hnone] at hpresent
    cases hpresent
  · rw [hok]

theorem default_delete_error (hdelete : store.delete me id = (.error fault, next)) :
    next.table.default = store.table.default := by
  rcases delete_cases store me id with ⟨_, -, herror⟩ | ⟨-, table, htable, ⟨-, herror⟩ | ⟨-, hok⟩⟩
  · cases herror.symm.trans hdelete
    rfl
  · cases herror.symm.trans hdelete
    have hdefault := Table.default_of_mapRings? htable
    exact hdefault
  · cases hok.symm.trans hdelete

namespace Allocated

/-- A store that can be brought up has no ring that could be lost. -/
theorem get?_init (h : store.Allocated config requests) {ring : Ring}
    (hget : store.table.get? id = some ring) (capacity : Nat) (memory : Memory) :
    (store.init capacity memory).2.table.get? id = some ring := by
  rcases init_cases store capacity memory with ⟨_, herror⟩ | ⟨hdown, -⟩
  · rw [herror]
    exact hget
  · rw [h.of_down hdown id] at hget
    cases hget

/-- Where the lock is there, the table alone decides whether there is room. -/
theorem create_eq_noFreeBuffer_iff (h : store.Allocated config requests) {taken : Guard}
    {locked : Store} (hlock : store.lockGlobal me false = (.ok taken, locked)) (capacity : Nat)
    (memory : Memory) :
    (store.create me capacity memory).1 = .error (.error (.noFreeBuffer config.maxBuffers)) ↔
      ∀ id < config.maxBuffers, (store.table.get? id).isSome = true := by
  rw [← h.table.size_eq, ← Table.free?_eq_none_iff, h.table.size_eq]
  rcases create_cases store me capacity memory with
    ⟨_, herror, -⟩ | ⟨-, ⟨hnone, herror⟩ | ⟨_, hfree, ⟨error, hnew, herror⟩ | ⟨_, -, hok⟩⟩⟩
  · cases herror.symm.trans hlock
  · rw [herror, h.config_eq]
    exact iff_of_true rfl hnone
  · rw [herror]
    refine iff_of_false ?_ (by simp [hfree])
    intro h
    cases h
    exact Ring.new?_ne_noFreeBuffer _ _ _ hnew
  · rw [hok]
    exact iff_of_false nofun (by simp [hfree])

/-- Where the lock is there, there is a new ring exactly if there is memory and room. -/
theorem create_eq_ok_iff (h : store.Allocated config requests) {taken : Guard}
    {locked : Store} (hlock : store.lockGlobal me false = (.ok taken, locked))
    (hpos : 0 < config.clamp capacity) :
    (∃ id, (store.create me capacity memory).1 = .ok id) ↔
      memory (config.clamp capacity) = true ∧
        ∃ id < config.maxBuffers, store.table.get? id = none := by
  rw [← h.table.size_eq]
  rw [← h.config_eq] at hpos ⊢
  rcases create_cases store me capacity memory with
    ⟨_, herror, -⟩ | ⟨-, ⟨hnone, hfull⟩ | ⟨found, hfree, ⟨_, hnew, hscarce⟩ | ⟨ring, hnew, hok⟩⟩⟩
  · cases herror.symm.trans hlock
  · rw [hfull]
    refine iff_of_false nofun ?_
    rintro ⟨-, free, hlt, hget⟩
    have hsome := Table.free?_eq_none_iff.mp hnone free hlt
    rw [hget] at hsome
    cases hsome
  · rw [hscarce]
    refine iff_of_false nofun ?_
    rintro ⟨hroom, -⟩
    obtain ⟨_, hring⟩ := Ring.new?_eq_ok_iff.mpr ⟨hpos, hroom⟩
    cases hnew.symm.trans hring
  · rw [hok]
    obtain ⟨hlt, hget, -⟩ := Table.free?_eq_some_iff.mp hfree
    exact iff_of_true ⟨found, rfl⟩ ⟨(Ring.new?_eq_ok_iff.mp ⟨ring, hnew⟩).2, found, hlt, hget⟩

theorem log_default_ne_invalidBufferId (h : store.Allocated config requests) (context : Context)
    (event : Event) (now : Instant) (id : Nat) :
    (store.log context .default event now).1 ≠ .error (.invalidBufferId id) := by
  have hresolve : store.resolve .default ≠ .error (.invalidBufferId id) := by
    rw [resolve_eq]
    unfold Table.named?
    cases hdefault : store.table.default with
    | none => simp
    | some first =>
      obtain ⟨ring, hring⟩ := Option.isSome_iff_exists.mp (h.table.default_isSome first hdefault)
      simp [hring]
  unfold Store.log
  split
  · next error hdestination =>
    intro h
    cases h
    rcases destination_eq_error hdestination with herror | ⟨-, herror⟩ | herror | herror
    · cases herror
    · cases herror
    · exact hresolve herror
    · obtain ⟨_, hinvalid⟩ := checkPayload_eq_error herror
      cases hinvalid
  · exact Ring.append_ne_invalidBufferId _ _ _ _ id

end Allocated

end
end Store
end EventLog
