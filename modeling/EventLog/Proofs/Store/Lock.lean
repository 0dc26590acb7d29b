import EventLog.Proofs.Ring.History
import EventLog.Proofs.Store.Write
import EventLog.Store.Lifecycle

/-! The global lock with one thread at work. Its guard and the state of the store tell the same:
whether the store is up, who owns the lock, and whether the rings are locked with it. -/
namespace EventLog

/-- The lock of every ring is taken, or that of none. -/
def Table.Locked (table : Table) (locked : Bool) : Prop :=
  ∀ id ring, table.get? id = some ring → ring.lock = { locked }

/-- A ring that is locked counts the event as dropped. -/
theorem Table.append_of_locked {table : Table} (h : table.Locked true) {id : Nat} {ring : Ring}
    (hget : table.get? id = some ring) (event : Event) (registry : Registry) (now : Instant) :
    ring.append event registry now = (.error .eventLocked, ring.recordDrop) := by
  have hlock : ring.lock.locked = true := by rw [h id ring hget]
  exact Ring.append_of_locked hlock ⟨event, registry, now⟩

namespace Ring

variable {memory : Memory} {capacity : Nat} {ring : Ring}

theorem eq_of_new? (h : new? memory capacity = .ok ring) :
    ring = { slots := List.replicate capacity {} } := by
  unfold new? at h
  split at h
  · cases h
  · split at h
    · cases h
      rfl
    · cases h

theorem lock_of_new? (h : new? memory capacity = .ok ring) :
    ring.lock = {} := by
  rw [eq_of_new? h]

theorem lock_of_reset? {ring emptied : Ring} (h : ring.reset? = some emptied) :
    emptied.lock = ring.lock := by
  obtain ⟨-, -, rfl⟩ := Option.map_eq_some_iff.mp h
  rfl

theorem lock_append (ring : Ring) (event : Event) (registry : Registry) (now : Instant) :
    (ring.append event registry now).2.lock = ring.lock := by
  unfold append advance
  split
  · next hadvance =>
    split at hadvance
    · cases hadvance
      unfold populate
      split
      · split <;> rfl
      · split <;> split <;> rfl
    · cases hadvance
  · next hadvance =>
    split at hadvance
    · cases hadvance
    · cases hadvance
      rfl

end Ring

namespace Store

theorem get?_of_require {store : Store} {id : Nat} {ring : Ring}
    (h : store.require id = .ok ring) : store.table.get? id = some ring := by
  unfold require at h
  split at h
  · cases h
  · split at h
    · next hget => rw [hget, Except.ok.inj h]
    · cases h

/-- The store as the holder of a simple lock has it. -/
def simplyLocked (store : Store) (me : ThreadId) : Store :=
  { store with globalLock := { locked := true }, owner := some me, state := .simpleLocked }

/-- The store as the holder of a full lock has it, with all rings locked. -/
def fullyLocked (store : Store) (me : ThreadId) (table : Table) : Store :=
  { store with
    globalLock := { locked := true }
    owner := some me
    table
    enabled := false
    state := .fullyLocked }

/-- Taking the global lock fails and leaves the store as it is, or the lock was free. -/
theorem lockGlobal_cases (store : Store) (me : ThreadId) (full : Bool) :
    (∃ fault, store.lockGlobal me full = (.error fault, store)) ∨
      store.owner ≠ some me ∧ store.isInitialized = true ∧ store.globalLock = {} ∧
        (full = false ∧ store.lockGlobal me full = (.ok {}, store.simplyLocked me) ∨
          full = true ∧ ∃ table, store.table.mapRings? Ring.acquire? = some table ∧
            store.lockGlobal me full =
              (.ok { held := store.table.ids, restore := some store.enabled },
                store.fullyLocked me table)) := by
  unfold lockGlobal
  by_cases howner : store.holdsGlobal me
  · exact .inl ⟨_, if_pos howner⟩
  rw [if_neg howner]
  by_cases hup : store.isInitialized
  swap
  · exact .inl ⟨_, if_pos (by simp [hup])⟩
  rw [if_neg (by simp [hup])]
  unfold SpinLock.lock?
  by_cases hlock : store.globalLock.locked
  · exact .inl ⟨.waits, by rw [if_pos hlock]⟩
  rw [if_neg hlock]
  have hfree : store.globalLock = {} := by
    cases h : store.globalLock
    simpa [h] using hlock
  have hother : store.owner ≠ some me := by simpa [holdsGlobal] using howner
  cases full with
  | false => exact .inr ⟨hother, hup, hfree, .inl ⟨rfl, rfl⟩⟩
  | true =>
    cases htable : store.table.mapRings? Ring.acquire? with
    | none => exact .inl ⟨.waits, rfl⟩
    | some table => exact .inr ⟨hother, hup, hfree, .inr ⟨rfl, table, rfl, rfl⟩⟩

theorem eq_of_lockGlobal_error {store next : Store} {me : ThreadId} {full : Bool} {fault : Fault}
    (h : store.lockGlobal me full = (.error fault, next)) : next = store := by
  rcases lockGlobal_cases store me full with ⟨_, herror⟩ | ⟨-, -, -, ⟨-, hok⟩ | ⟨-, _, -, hok⟩⟩
  · rw [herror] at h
    cases h
    rfl
  · rw [hok] at h
    cases h
  · rw [hok] at h
    cases h

/-- What the global lock is about. -/
def locks (store : Store) : LockState × Option ThreadId × SpinLock :=
  (store.state, store.owner, store.globalLock)

/-- Where a store stands with a thread that has this guard, or none, when no other thread is at
work. -/
inductive Phase (store : Store) (me : ThreadId) : Option Guard → Prop
  | down (hstate : store.state = .uninitialized) (howner : store.owner = none)
      (hlock : store.globalLock = {}) (hempty : ∀ id, store.table.get? id = none) :
      Phase store me none
  | up (hstate : store.state = .unlocked) (howner : store.owner = none)
      (hlock : store.globalLock = {}) (hrings : store.table.Locked false) : Phase store me none
  | simple (hstate : store.state = .simpleLocked) (howner : store.owner = some me)
      (hlock : store.globalLock = { locked := true }) (hrings : store.table.Locked false) :
      Phase store me (some {})
  | full (held : List Nat) (restore : Bool) (hstate : store.state = .fullyLocked)
      (howner : store.owner = some me) (hlock : store.globalLock = { locked := true })
      (hrings : store.table.Locked true)
      (hheld : ∀ id ring, store.table.get? id = some ring → id ∈ held) :
      Phase store me (some { held, restore := some restore })

namespace Phase

section
variable {store next : Store} {me : ThreadId} {guard : Option Guard}

/-- A change that leaves the locks alone, and adds no ring. -/
theorem keep (h : store.Phase me guard) (hlocks : next.locks = store.locks)
    (hrings : ∀ id ring, next.table.get? id = some ring →
      ∃ old, store.table.get? id = some old ∧ ring.lock = old.lock) : next.Phase me guard := by
  obtain ⟨hstate, howner, hlock⟩ : next.state = store.state ∧ next.owner = store.owner ∧
      next.globalLock = store.globalLock := by simpa [locks] using hlocks
  have hlocked {locked : Bool} (h : store.table.Locked locked) : next.table.Locked locked := by
    intro id ring hget
    obtain ⟨old, hold, heq⟩ := hrings id ring hget
    rw [heq, h id old hold]
  cases h with
  | down hs ho hl he =>
    refine .down (hstate.trans hs) (howner.trans ho) (hlock.trans hl) ?_
    intro id
    cases hget : next.table.get? id with
    | none => rfl
    | some ring =>
      obtain ⟨old, hold, -⟩ := hrings id ring hget
      rw [he id] at hold
      cases hold
  | up hs ho hl hr =>
    exact .up (hstate.trans hs) (howner.trans ho) (hlock.trans hl) (hlocked hr)
  | simple hs ho hl hr =>
    exact .simple (hstate.trans hs) (howner.trans ho) (hlock.trans hl) (hlocked hr)
  | full held restore hs ho hl hr hh =>
    refine .full held restore (hstate.trans hs) (howner.trans ho) (hlock.trans hl) (hlocked hr) ?_
    intro id ring hget
    obtain ⟨old, hold, -⟩ := hrings id ring hget
    exact hh id old hold

/-- A change to neither the locks nor the table. -/
theorem same (h : store.Phase me guard) (hlocks : next.locks = store.locks)
    (htable : next.table = store.table) : next.Phase me guard := by
  refine h.keep hlocks ?_
  intro id ring hget
  exact ⟨ring, htable ▸ hget, rfl⟩

theorem lockGlobal (h : store.Phase me guard) {full : Bool} {taken : Guard}
    (hlock : store.lockGlobal me full = (.ok taken, next)) :
    guard = none ∧ taken.isFull = full ∧ next.Phase me (some taken) := by
  rcases lockGlobal_cases store me full with ⟨fault, herror⟩ | ⟨howner, hup, -, htaken⟩
  · rw [herror] at hlock
    cases hlock
  have hfree : guard = none ∧ store.table.Locked false := by
    cases h with
    | down hs ho hl he => simp [isInitialized, hs, LockState.isInitialized] at hup
    | up hs ho hl hr => exact ⟨rfl, hr⟩
    | simple hs ho hl hr => exact absurd ho howner
    | full held restore hs ho hl hr hh => exact absurd ho howner
  obtain ⟨rfl, hrings⟩ := hfree
  rcases htaken with ⟨rfl, hsimple⟩ | ⟨rfl, table, htable, hfull⟩
  · rw [hsimple] at hlock
    cases hlock
    exact ⟨rfl, rfl, .simple rfl rfl rfl hrings⟩
  · rw [hfull] at hlock
    cases hlock
    refine ⟨rfl, rfl, .full _ _ rfl rfl rfl ?_ ?_⟩
    · intro id ring hget
      obtain ⟨old, hold, hring⟩ := Table.get?_of_mapRings? htable hget
      unfold Ring.acquire? SpinLock.lock? at hring
      rw [hrings id old hold] at hring
      obtain rfl := Option.some.inj hring
      rfl
    · intro id ring hget
      obtain ⟨old, hold, -⟩ := Table.get?_of_mapRings? htable hget
      exact Table.mem_ids hold

theorem release {taken : Guard} (h : store.Phase me (some taken)) :
    (store.release taken).Phase me none := by
  cases h with
  | simple hs ho hl hr =>
    refine .up rfl rfl rfl ?_
    intro id ring hget
    rw [Store.release, Table.mapAt_nil] at hget
    exact hr id ring hget
  | full held restore hs ho hl hr hh =>
    refine .up rfl rfl rfl ?_
    intro id ring hget
    rw [Store.release, Table.mapAt_eq_mapRings hh, Table.get?_mapRings] at hget
    obtain ⟨old, -, rfl⟩ := Option.map_eq_some_iff.mp hget
    rfl

/-- A change under the global lock leaves the store where it was, whether it fails or not. -/
theorem underLock {α : Type} {full : Bool} {change : Store → Except Fault α × Store}
    (h : store.Phase me guard)
    (hchange : ∀ (locked : Store) (taken : Guard), taken.isFull = full →
      locked.Phase me (some taken) → (change locked).2.Phase me (some taken)) :
    (store.underLock me full change).2.Phase me guard := by
  unfold Store.underLock
  cases hlock : store.lockGlobal me full with
  | mk result locked =>
    cases result with
    | error fault =>
      obtain rfl := eq_of_lockGlobal_error hlock
      exact h
    | ok taken =>
      obtain ⟨rfl, hfull, hlocked⟩ := h.lockGlobal hlock
      exact (hchange locked taken hfull hlocked).release

/-- A store that is down has no guard out, and no rings. -/
theorem of_down (h : store.Phase me guard) (hdown : ¬ store.isInitialized = true) :
    guard = none ∧ store.state = .uninitialized ∧ store.owner = none ∧ store.globalLock = {} ∧
      ∀ id, store.table.get? id = none := by
  have hstate : store.state = .uninitialized := by
    simpa [isInitialized, LockState.isInitialized] using hdown
  cases h with
  | down hs ho hl he => exact ⟨rfl, hs, ho, hl, he⟩
  | up hs ho hl hr => cases hs.symm.trans hstate
  | simple hs ho hl hr => cases hs.symm.trans hstate
  | full held restore hs ho hl hr hh => cases hs.symm.trans hstate

theorem init (h : store.Phase me guard) (capacity : Nat) (memory : Memory) :
    (store.init capacity memory).2.Phase me guard := by
  unfold Store.init
  split
  · exact h
  · next hdown =>
    obtain ⟨rfl, hstate, howner, hlock, hempty⟩ := h.of_down hdown
    rw [hlock, SpinLock.lock?, if_neg (by simp)]
    dsimp only
    split
    · refine .up rfl howner rfl ?_
      intro id ring hget
      rw [hempty id] at hget
      cases hget
    · split
      · exact .down hstate howner rfl hempty
      · next ring hnew =>
        refine .up rfl howner rfl ?_
        intro id found hget
        rcases Table.eq_of_get?_put hget with ⟨-, rfl⟩ | ⟨-, hold⟩
        · exact Ring.lock_of_new? hnew
        · rw [hempty id] at hold
          cases hold

theorem cleanup (h : store.Phase me guard) : (store.cleanup me).2.Phase me guard := by
  unfold Store.cleanup
  cases hlock : store.lockGlobal me false with
  | mk result locked =>
    cases result with
    | error fault =>
      obtain rfl := eq_of_lockGlobal_error hlock
      exact h
    | ok taken =>
      obtain ⟨rfl, -, -⟩ := h.lockGlobal hlock
      refine .down rfl rfl rfl ?_
      intro id
      simp [Store.release]

theorem create (h : store.Phase me guard) (capacity : Nat) (memory : Memory) :
    (store.create me capacity memory).2.Phase me guard := by
  refine h.underLock ?_
  intro locked taken hsimple hlocked
  split
  · exact hlocked
  · next id hfree =>
    split
    · exact hlocked
    · next ring hnew =>
      cases hlocked with
      | simple hs ho hl hr =>
        refine .simple hs ho hl ?_
        intro other found hget
        rw [Table.get?_add hfree] at hget
        split at hget
        · obtain rfl := Option.some.inj hget
          exact Ring.lock_of_new? hnew
        · exact hr other found hget
      | full held restore hs ho hl hr hh => cases hsimple

theorem remove (h : store.Phase me guard) (id : Nat) :
    { store with table := store.table.remove id }.Phase me guard := by
  refine h.keep rfl ?_
  intro other ring hget
  rw [Table.get?_remove] at hget
  split at hget
  · cases hget
  · exact ⟨ring, hget, rfl⟩

theorem delete (h : store.Phase me guard) (id : Nat) :
    (store.delete me id).2.Phase me guard := by
  refine h.underLock ?_
  intro locked taken _ hlocked
  split
  · exact hlocked
  · exact hlocked.remove id

/-- A ring is put in the place of one with the same lock. -/
theorem put (h : store.Phase me guard) {id : Nat} {ring changed : Ring}
    (hget : store.table.get? id = some ring) (hlock : changed.lock = ring.lock) :
    { store with table := store.table.put id changed }.Phase me guard := by
  refine h.keep rfl ?_
  intro other found hfound
  rcases Table.eq_of_get?_put hfound with ⟨rfl, rfl⟩ | ⟨-, hold⟩
  · exact ⟨ring, hget, hlock⟩
  · exact ⟨found, hold, rfl⟩

/-- Whoever empties a ring, its lock stays as it is. -/
theorem resetBy (h : store.Phase me guard) (caller : ThreadId) (id : Nat) :
    (store.reset caller id).2.Phase me guard := by
  unfold Store.reset
  split
  · exact h
  · next ring hring =>
    have hget := get?_of_require hring
    split
    · exact h.put hget rfl
    · split
      · next emptied hreset => exact h.put hget (Ring.lock_of_reset? hreset)
      · exact h

theorem reset (h : store.Phase me guard) (id : Nat) : (store.reset me id).2.Phase me guard :=
  h.resetBy me id

theorem resetPresent (h : store.Phase me guard) : (store.resetPresent me).2.Phase me guard := by
  unfold Store.resetPresent
  split
  · refine h.keep rfl ?_
    intro id ring hget
    rw [Table.get?_mapRings] at hget
    obtain ⟨old, hold, rfl⟩ := Option.map_eq_some_iff.mp hget
    exact ⟨old, hold, rfl⟩
  · split
    · next table htable =>
      refine h.keep rfl ?_
      intro id ring hget
      obtain ⟨old, hold, hreset⟩ := Table.get?_of_mapRings? htable hget
      exact ⟨old, hold, Ring.lock_of_reset? hreset⟩
    · exact h

theorem resetAll (h : store.Phase me guard) : (store.resetAll me).2.Phase me guard := by
  unfold Store.resetAll
  split
  · exact h.resetPresent
  · refine h.underLock ?_
    intro locked taken _ hlocked
    exact hlocked.resetPresent

theorem log (h : store.Phase me guard) (context : Context) (target : Target) (event : Event)
    (now : Instant) : (store.log context target event now).2.Phase me guard := by
  unfold Store.log
  split
  · exact h
  · next id ring hdestination =>
    exact h.put (destination_eq_ok hdestination).2 (Ring.lock_append _ _ _ _)

/-- Reading never waits: the thread holds the lock of a ring, or it is free. -/
theorem readable (h : store.Phase me guard) {id : Nat} {ring : Ring}
    (hget : store.table.get? id = some ring) :
    store.isInitialized = true ∧
      (store.holdsRings me = true ∨ store.holdsRings me = false ∧ ring.lock = {}) := by
  unfold isInitialized holdsRings holdsGlobal LockState.isInitialized
  cases h with
  | down hs ho hl he =>
    rw [he id] at hget
    cases hget
  | up hs ho hl hr =>
    rw [hs]
    exact ⟨rfl, .inr ⟨rfl, hr id ring hget⟩⟩
  | simple hs ho hl hr =>
    rw [hs]
    exact ⟨rfl, .inr ⟨rfl, hr id ring hget⟩⟩
  | full held restore hs ho hl hr hh =>
    rw [hs, ho]
    exact ⟨rfl, .inl (by simp)⟩

theorem snapshot (h : store.Phase me guard) {id : Nat} {ring : Ring}
    (hget : store.table.get? id = some ring) : store.snapshot me id = .ok ring.snapshotHeld := by
  obtain ⟨hup, hlock⟩ := h.readable hget
  have hrequire : store.require id = .ok ring := by
    unfold require
    rw [hup, hget]
    rfl
  unfold Store.snapshot
  rw [hrequire]
  rcases hlock with hheld | ⟨hfree, hlock⟩
  · rw [hheld]
    rfl
  · have hsnapshot : ring.snapshot? = some ring.snapshotHeld := by
      rw [Ring.snapshot?, hlock]
      rfl
    rw [hfree]
    show orWaits ring.snapshot? = .ok ring.snapshotHeld
    rw [hsnapshot]
    rfl

theorem statuses (h : store.Phase me guard) :
    store.statuses me =
      .ok (store.table.present.map fun entry => (entry.1, entry.2.statusHeld)) := by
  refine mapM_eq_pure ?_
  rintro ⟨id, ring⟩ hmem
  obtain ⟨-, hlock⟩ := h.readable (Table.mem_present.mp hmem)
  dsimp only
  rcases hlock with hheld | ⟨hfree, hlock⟩
  · rw [hheld]
    rfl
  · have hstatus : ring.status? = some ring.statusHeld := by
      rw [Ring.status?, hlock]
      rfl
    rw [hfree, hstatus]
    rfl

end
end Phase
end Store
end EventLog
