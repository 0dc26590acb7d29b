import EventLog.Proofs.Store.Entries
import EventLog.Proofs.Store.Lifecycle

/-! Quiet changes: locks are taken and given back and rings are emptied, but no ring comes or goes and
no event is written. Whatever depends only on the ids in use, the capacities and the events that are
there is not disturbed by them. -/
namespace EventLog

/-- A ring that may have lost events, and has got none. -/
structure Ring.Quiet (ring next : Ring) : Prop where
  capacity_eq : next.capacity = ring.capacity
  slots : ∀ slot ∈ next.slots, slot ∈ ring.slots ∨ slot = {}

namespace Ring.Quiet

section
variable {ring next last : Ring}

/-- The same slots, whatever became of the lock. -/
theorem of_slots_eq (h : next.slots = ring.slots) : ring.Quiet next where
  capacity_eq := congrArg List.length h
  slots _ hslot := .inl (h ▸ hslot)

theorem trans (h : ring.Quiet next) (hlast : next.Quiet last) : ring.Quiet last where
  capacity_eq := hlast.capacity_eq.trans h.capacity_eq
  slots slot hslot := (hlast.slots slot hslot).elim (h.slots slot) .inr

theorem resetHeld (ring : Ring) : ring.Quiet ring.resetHeld where
  capacity_eq := List.length_replicate
  slots _ hslot := .inr (List.eq_of_mem_replicate hslot)

theorem of_reset? (h : ring.reset? = some next) : ring.Quiet next := by
  obtain ⟨-, -, rfl⟩ := Option.map_eq_some_iff.mp h
  exact resetHeld ring

theorem of_acquire? (h : ring.acquire? = some next) : ring.Quiet next := by
  obtain ⟨-, -, rfl⟩ := Option.map_eq_some_iff.mp h
  exact of_slots_eq rfl

end
end Ring.Quiet

/-- A table with the same entries in use and the same default, whose rings have got no event. -/
structure Table.Quiet (table next : Table) : Prop where
  size_eq : next.size = table.size
  default_eq : next.default = table.default
  ring : ∀ id, Option.Rel Ring.Quiet (table.get? id) (next.get? id)

namespace Table.Quiet

section
variable {table next last : Table} {id : Nat} {ring changed : Ring}

theorem refl (table : Table) : table.Quiet table where
  size_eq := rfl
  default_eq := rfl
  ring id := by
    cases table.get? id with
    | none => exact .none
    | some ring => exact .some (.of_slots_eq rfl)

theorem trans (h : table.Quiet next) (hlast : next.Quiet last) : table.Quiet last where
  size_eq := hlast.size_eq.trans h.size_eq
  default_eq := hlast.default_eq.trans h.default_eq
  ring id := by
    have hfirst := h.ring id
    have hsecond := hlast.ring id
    generalize table.get? id = old, next.get? id = middle, last.get? id = new at hfirst hsecond ⊢
    cases hfirst with
    | none => exact hsecond
    | some hfirst =>
      cases hsecond with
      | some hsecond => exact .some (hfirst.trans hsecond)

theorem isSome_eq (h : table.Quiet next) (id : Nat) :
    (next.get? id).isSome = (table.get? id).isSome := by
  have hring := h.ring id
  generalize table.get? id = old, next.get? id = new at hring ⊢
  cases hring with
  | some | none => rfl

theorem get?_eq_none_iff (h : table.Quiet next) (id : Nat) :
    next.get? id = none ↔ table.get? id = none := by
  rw [← Option.isNone_iff_eq_none, ← Option.isNone_iff_eq_none, ← Option.not_isSome,
    ← Option.not_isSome, h.isSome_eq id]

/-- What a ring was before the change. -/
theorem exists_old (h : table.Quiet next) (hget : next.get? id = some changed) :
    ∃ old, table.get? id = some old ∧ old.Quiet changed := by
  have hring := h.ring id
  rw [hget] at hring
  generalize table.get? id = old at hring ⊢
  cases hring with
  | some hquiet => exact ⟨_, rfl, hquiet⟩

theorem lowest_iff (h : table.Quiet next) (id : Nat) : next.Lowest id ↔ table.Lowest id := by
  unfold Lowest
  rw [h.isSome_eq]
  simp only [h.get?_eq_none_iff]

theorem put (hget : table.get? id = some ring) (hring : ring.Quiet changed) :
    table.Quiet (table.put id changed) where
  size_eq := size_put
  default_eq := rfl
  ring other := by
    rw [get?_put_of_lt (lt_size hget)]
    split
    · next heq =>
      rw [heq, hget]
      exact .some hring
    · exact (refl table).ring other

theorem mapRings {f : Ring → Ring} (hf : ∀ ring : Ring, ring.Quiet (f ring)) (table : Table) :
    table.Quiet (table.mapRings f) where
  size_eq := List.length_map _
  default_eq := rfl
  ring id := by
    rw [get?_mapRings]
    cases table.get? id with
    | none => exact .none
    | some ring => exact .some (hf ring)

theorem mapAt_release (ids : List Nat) (table : Table) :
    table.Quiet (table.mapAt ids Ring.release) where
  size_eq := by simp [size, mapAt]
  default_eq := rfl
  ring id := by
    rw [get?_mapAt]
    cases table.get? id with
    | none =>
      split
      · exact .none
      · exact .none
    | some ring =>
      split
      · exact .some (.of_slots_eq rfl)
      · exact .some (.of_slots_eq rfl)

theorem mapRings? {f? : Ring → Option Ring} (hchanged : table.mapRings? f? = some next)
    (hf : ∀ ring changed, f? ring = some changed → ring.Quiet changed) : table.Quiet next where
  size_eq := size_of_mapRings? hchanged
  default_eq := default_of_mapRings? hchanged
  ring id := by
    have hring := rel_of_mapRings? hchanged id
    generalize table.get? id = old, next.get? id = new at hring ⊢
    cases hring with
    | none => exact .none
    | some hring => exact .some (hf _ _ hring)

theorem mapRings?_acquire (h : table.mapRings? Ring.acquire? = some next) : table.Quiet next :=
  mapRings? h fun _ _ => Ring.Quiet.of_acquire?

end
end Table.Quiet

namespace Store

/-- A change that is quiet for the table, and leaves the store up or down as it was. -/
structure Quiet (store next : Store) : Prop where
  config_eq : next.config = store.config
  registry_eq : next.registry = store.registry
  up_eq : next.isInitialized = store.isInitialized
  table : store.table.Quiet next.table

namespace Quiet

section
variable {store next last : Store} {me : ThreadId} {full : Bool} {id : Nat}

theorem refl (store : Store) : store.Quiet store := ⟨rfl, rfl, rfl, .refl _⟩

theorem trans (h : store.Quiet next) (hlast : next.Quiet last) : store.Quiet last where
  config_eq := hlast.config_eq.trans h.config_eq
  registry_eq := hlast.registry_eq.trans h.registry_eq
  up_eq := hlast.up_eq.trans h.up_eq
  table := h.table.trans hlast.table

theorem lockGlobal (store : Store) (me : ThreadId) (full : Bool) :
    store.Quiet (store.lockGlobal me full).2 := by
  rcases lockGlobal_cases store me full with
    ⟨_, herror⟩ | ⟨-, hup, -, ⟨-, hsimple⟩ | ⟨-, table, htable, hfull⟩⟩
  · rw [herror]
    exact .refl _
  · rw [hsimple]
    exact ⟨rfl, rfl, hup.symm, .refl _⟩
  · rw [hfull]
    exact ⟨rfl, rfl, hup.symm, .mapRings?_acquire htable⟩

/-- To give the lock back, unless the store was retired under it. -/
theorem release (hup : store.isInitialized = true) {guard : Guard}
    (hguard : guard.retired = false) : store.Quiet (store.release guard) where
  config_eq := rfl
  registry_eq := rfl
  up_eq := by
    rw [hup]
    simp [Store.release, hguard, isInitialized, LockState.isInitialized]
  table := .mapAt_release guard.held store.table

theorem freed (hup : store.isInitialized = true) : store.Quiet store.freed :=
  ⟨rfl, rfl, hup.symm, .refl _⟩

theorem put {ring changed : Ring} (hget : store.table.get? id = some ring)
    (hring : ring.Quiet changed) :
    store.Quiet { store with table := store.table.put id changed } :=
  ⟨rfl, rfl, rfl, .put hget hring⟩

theorem reset (store : Store) (me : ThreadId) (id : Nat) : store.Quiet (store.reset me id).2 := by
  unfold Store.reset
  split
  · exact .refl _
  · next ring hrequire =>
    have hget := get?_of_require hrequire
    split
    · exact .put hget (.resetHeld ring)
    · split
      · next hreset => exact .put hget (.of_reset? hreset)
      · exact .refl _

theorem resetPresent (store : Store) (me : ThreadId) : store.Quiet (store.resetPresent me).2 := by
  unfold Store.resetPresent
  split
  · exact ⟨rfl, rfl, rfl, .mapRings Ring.Quiet.resetHeld store.table⟩
  · split
    · next htable => exact ⟨rfl, rfl, rfl, .mapRings? htable fun _ _ => Ring.Quiet.of_reset?⟩
    · exact .refl _

theorem underLock {α : Type} {change : Store → Except Fault α × Store}
    (hchange : ∀ locked : Store, locked.Quiet (change locked).2) (store : Store)
    (me : ThreadId) (full : Bool) : store.Quiet (store.underLock me full change).2 := by
  have hlocked := Quiet.lockGlobal store me full
  unfold Store.underLock
  rcases lockGlobal_cases store me full with
    ⟨_, herror⟩ | ⟨-, -, -, ⟨-, hsimple⟩ | ⟨-, table, htable, hfull⟩⟩
  · rw [herror]
    exact .refl _
  · rw [hsimple] at hlocked ⊢
    have hchanged := hchange (store.simplyLocked me)
    exact (hlocked.trans hchanged).trans (.release hchanged.up_eq rfl)
  · rw [hfull] at hlocked ⊢
    have hchanged := hchange (store.fullyLocked me table)
    exact (hlocked.trans hchanged).trans (.release hchanged.up_eq rfl)

theorem resetAll (store : Store) (me : ThreadId) : store.Quiet (store.resetAll me).2 := by
  unfold Store.resetAll
  split
  · exact .resetPresent store me
  · exact .underLock (fun locked => .resetPresent locked me) store me false

/-- The switch alone. -/
theorem switch (store : Store) (enabled : Bool) : store.Quiet { store with enabled } :=
  ⟨rfl, rfl, rfl, .refl _⟩

end
end Quiet

/-- A guard that is still out has not retired the store. -/
theorem Phase.quiet_release {store : Store} {me : ThreadId} {taken : Guard}
    (h : store.Phase me (some taken)) : store.Quiet (store.release taken) := by
  cases h with
  | simple hs | full _ _ hs =>
    exact .release (by simp [isInitialized, LockState.isInitialized, hs]) rfl

end Store
end EventLog
