import EventLog.Proofs.Store.Held

/-! What a thread reads and empties while no other thread holds a lock. However the store is locked, by
the thread itself or not at all, the answers are those of the rings, and the rings that are emptied
are as if there were no locks. -/
namespace EventLog.Store.Phase

section
variable {store : Store} {me : ThreadId} {guard : Option Guard}

theorem snapshot_eq (h : store.Phase me guard) (id : Nat) :
    store.snapshot me id = (store.require id).map Ring.snapshotHeld := by
  cases hrequire : store.require id with
  | error fault =>
    unfold Store.snapshot
    rw [hrequire]
    rfl
  | ok ring => exact h.snapshot (get?_of_require hrequire)

theorem reset_eq (h : store.Phase me guard) (id : Nat) :
    store.reset me id =
      match store.require id with
      | .ok ring => (.ok (), { store with table := store.table.put id ring.resetHeld })
      | .error fault => (.error fault, store) := by
  unfold Store.reset
  cases hrequire : store.require id with
  | error fault => rfl
  | ok ring =>
    obtain ⟨-, hheld | ⟨hfree, hlock⟩⟩ := h.readable (get?_of_require hrequire)
    · simp only [hheld, if_true]
    · have hreset : ring.reset? = some ring.resetHeld := by
        rw [Ring.reset?, hlock]
        rfl
      simp only [hfree, Bool.false_eq_true, if_false, hreset]

theorem resetPresent_eq (h : store.Phase me guard) :
    store.resetPresent me =
      (.ok (), { store with table := store.table.mapRings Ring.resetHeld }) := by
  unfold Store.resetPresent
  split
  · rfl
  · next hheld =>
    have hreset : store.table.mapRings? Ring.reset? =
        some (store.table.mapRings Ring.resetHeld) := by
      refine Table.mapRings?_eq_some ?_
      intro id ring hget
      obtain ⟨-, hrings | ⟨-, hlock⟩⟩ := h.readable hget
      · exact absurd hrings hheld
      · rw [Ring.reset?, hlock]
        rfl
    rw [hreset]

theorem resetAll_eq (h : store.Phase me guard) :
    store.resetAll me =
      if store.isInitialized then
        (.ok (), { store with table := store.table.mapRings Ring.resetHeld })
      else (.error (.error .notInitialized), store) := by
  have howner := h.owner_eq
  unfold Store.resetAll holdsGlobal
  cases guard with
  | some taken =>
    have hup : store.isInitialized = true := by
      cases h with
      | simple hs | full _ _ hs => simp [isInitialized, LockState.isInitialized, hs]
    rw [if_pos (by simp [howner]), if_pos hup, h.resetPresent_eq]
  | none =>
    rw [if_neg (by simp [howner])]
    unfold Store.underLock
    cases hup : store.isInitialized with
    | false =>
      have hlock : store.lockGlobal me false = (.error (.error .notInitialized), store) := by
        simp [Store.lockGlobal, holdsGlobal, howner, hup]
      rw [hlock]
      rfl
    | true =>
      have hlocked : (store.held me false).Phase me (some (store.guardOf false)) :=
        (h.lockGlobal (h.lockGlobal_eq hup false)).2.2
      obtain ⟨hs, ho, hl, hr⟩ := h.unlocked hup
      have hempty : { store with table := store.table.mapRings Ring.resetHeld }.Phase me none := by
        refine .up hs ho hl ?_
        intro id ring hget
        obtain ⟨old, hold, rfl⟩ := Option.map_eq_some_iff.mp
          ((Table.get?_mapRings _ _ _).symm.trans hget)
        exact hr id old hold
      rw [h.lockGlobal_eq hup false]
      dsimp only
      rw [hlocked.resetPresent_eq]
      -- The lock that was taken for it is given back with the rings emptied.
      exact Prod.ext rfl (hempty.release_held hup false)

end
end EventLog.Store.Phase
