import EventLog.Proofs.Store.Lock

/-! A store next to itself as the holder of its global lock has it. Giving the lock back undoes taking
it, whatever the mode: state, owner, switch and the locks of all rings return to what they were. -/
namespace EventLog

/-- The ring with its lock taken. -/
def Ring.held (ring : Ring) : Ring := { ring with lock := { locked := true } }

namespace Table

section
variable {table : Table} {f g : Ring → Ring}

/-- A change to all rings that none of them refuses. -/
theorem mapRings?_eq_some {f? : Ring → Option Ring}
    (h : ∀ id ring, table.get? id = some ring → f? ring = some (f ring)) :
    table.mapRings? f? = some (table.mapRings f) := by
  unfold mapRings?
  show Option.map _ _ =
    Option.map (fun entries => { table with entries }) (some (table.entries.map (Option.map f)))
  congr 1
  refine mapM_eq_pure ?_
  intro entry hmem
  cases entry with
  | none => rfl
  | some ring =>
    obtain ⟨id, hid⟩ := List.getElem?_of_mem hmem
    have hget : table.get? id = some ring := by
      rw [get?, hid]
      rfl
    show (f? ring).map some = some (some (f ring))
    rw [h id ring hget]
    rfl

theorem mapRings_mapRings (f g : Ring → Ring) (table : Table) :
    (table.mapRings f).mapRings g = table.mapRings fun ring => g (f ring) := by
  unfold mapRings
  simp only [List.map_map]
  congr 2
  funext entry
  cases entry with
  | none => rfl
  | some ring => rfl

theorem mapRings_congr (h : ∀ id ring, table.get? id = some ring → f ring = g ring) :
    table.mapRings f = table.mapRings g := by
  unfold mapRings
  congr 1
  refine List.map_congr_left ?_
  intro entry hmem
  cases entry with
  | none => rfl
  | some ring =>
    obtain ⟨id, hid⟩ := List.getElem?_of_mem hmem
    have hget : table.get? id = some ring := by
      rw [get?, hid]
      rfl
    show some (f ring) = some (g ring)
    rw [h id ring hget]

theorem mapRings_id (h : ∀ id ring, table.get? id = some ring → f ring = ring) :
    table.mapRings f = table := by
  rw [mapRings_congr h]
  unfold mapRings
  simp

theorem present_mapRings (f : Ring → Ring) (table : Table) :
    (table.mapRings f).present = table.present.map fun entry => (entry.1, f entry.2) := by
  unfold present mapRings
  rw [List.zipIdx_map, List.filterMap_map, List.map_filterMap]
  congr 1
  funext entry
  obtain ⟨entry, id⟩ := entry
  cases entry with
  | none => rfl
  | some ring => rfl

theorem ids_mapRings (f : Ring → Ring) (table : Table) : (table.mapRings f).ids = table.ids := by
  unfold ids
  rw [present_mapRings, List.map_map]
  rfl

theorem mapRings?_acquire_eq (h : table.Locked false) :
    table.mapRings? Ring.acquire? = some (table.mapRings Ring.held) := by
  refine mapRings?_eq_some ?_
  intro id ring hget
  rw [Ring.acquire?, h id ring hget]
  rfl

/-- What a full lock does to the rings is undone when it is given back. -/
theorem release_held (h : table.Locked false) :
    (table.mapRings Ring.held).mapAt table.ids Ring.release = table := by
  have hall : ∀ id ring, (table.mapRings Ring.held).get? id = some ring → id ∈ table.ids := by
    intro id ring hget
    rw [← ids_mapRings Ring.held]
    exact mem_ids hget
  rw [mapAt_eq_mapRings hall, mapRings_mapRings]
  refine mapRings_id ?_
  intro id ring hget
  have hlock := h id ring hget
  unfold Ring.held Ring.release SpinLock.unlock
  rw [← hlock]

end
end Table

namespace Store

/-- The store as a thread has it that holds the global lock. -/
def held (store : Store) (me : ThreadId) (full : Bool) : Store :=
  if full then store.fullyLocked me (store.table.mapRings Ring.held) else store.simplyLocked me

/-- What the thread keeps to give the lock back. -/
def guardOf (store : Store) (full : Bool) : Guard :=
  if full then { held := store.table.ids, restore := some store.enabled } else {}

theorem isFull_guardOf (store : Store) (full : Bool) : (store.guardOf full).isFull = full := by
  cases full with
  | false => rfl
  | true => rfl

namespace Phase

section
variable {store : Store} {me holder : ThreadId} {guard : Option Guard}

theorem isLocked_iff (h : store.Phase me guard) :
    store.state.isLocked = true ↔ guard.isSome = true := by
  cases h with
  | down hs | up hs | simple hs | full _ _ hs =>
    rw [hs]
    simp [LockState.isLocked]

theorem globalLock_iff (h : store.Phase me guard) :
    store.globalLock.locked = true ↔ guard.isSome = true := by
  cases h with
  | down _ _ hl | up _ _ hl | simple _ _ hl | full _ _ _ _ hl =>
    rw [hl]
    simp

theorem owner_eq (h : store.Phase me guard) : store.owner = guard.map fun _ => me := by
  cases h with
  | down _ ho | up _ ho | simple _ ho | full _ _ _ ho => exact ho

theorem ring_locked_iff (h : store.Phase me guard) {id : Nat} {ring : Ring}
    (hget : store.table.get? id = some ring) :
    ring.lock.locked = true ↔ store.state = .fullyLocked := by
  cases h with
  | down _ _ _ hempty =>
    rw [hempty id] at hget
    cases hget
  | up hs _ _ hr | simple hs _ _ hr | full _ _ hs _ _ hr =>
    rw [hs, hr id ring hget]
    simp

/-- Under a full lock every ring is locked. -/
theorem locked_of_fullyLocked (h : store.Phase me guard) (hfull : store.state = .fullyLocked) :
    store.table.Locked true := by
  cases h with
  | down hs | up hs | simple hs => cases hs.symm.trans hfull
  | full _ _ _ _ _ hr => exact hr

/-- A store that is up and has no guard out is unlocked. -/
theorem unlocked (h : store.Phase me none) (hup : store.isInitialized = true) :
    store.state = .unlocked ∧ store.owner = none ∧ store.globalLock = {} ∧
      store.table.Locked false := by
  cases h with
  | down hs => simp [isInitialized, hs, LockState.isInitialized] at hup
  | up hs ho hl hr => exact ⟨hs, ho, hl, hr⟩

theorem lockGlobal_eq (h : store.Phase me none) (hup : store.isInitialized = true)
    (full : Bool) : store.lockGlobal me full = (.ok (store.guardOf full), store.held me full) := by
  obtain ⟨-, howner, hlock, hrings⟩ := h.unlocked hup
  unfold Store.lockGlobal holdsGlobal
  rw [howner, hup, hlock]
  cases full with
  | false => rfl
  | true =>
    rw [Table.mapRings?_acquire_eq hrings]
    rfl

theorem release_held (h : store.Phase me none) (hup : store.isInitialized = true) (full : Bool) :
    (store.held me full).release (store.guardOf full) = store := by
  obtain ⟨hstate, howner, hlock, hrings⟩ := h.unlocked hup
  cases full with
  | false =>
    unfold held guardOf simplyLocked Store.release SpinLock.unlock
    rw [← hlock]
    simp only [Bool.false_eq_true, if_false, Table.mapAt_nil, Option.getD_none]
    rw [← howner, ← hstate]
  | true =>
    unfold held guardOf fullyLocked Store.release SpinLock.unlock
    rw [← hlock]
    simp only [if_true, Table.release_held hrings, Option.getD_some, Bool.false_eq_true, if_false]
    rw [← howner, ← hstate]

/-- Who takes the lock finds the store without a guard out, whichever thread works with it. -/
theorem of_lockGlobal (h : store.Phase holder guard) {full : Bool} {taken : Guard} {next : Store}
    (hlock : store.lockGlobal me full = (.ok taken, next)) : store.Phase me none := by
  rcases lockGlobal_cases store me full with ⟨_, herror⟩ | ⟨-, -, hfree, -⟩
  · cases herror.symm.trans hlock
  · cases h with
    | down hs ho hl he => exact .down hs ho hl he
    | up hs ho hl hr => exact .up hs ho hl hr
    | simple hs ho hl hr => cases hfree.symm.trans hl
    | full held restore hs ho hl hr hh => cases hfree.symm.trans hl

end
end Phase
end Store
end EventLog
