import EventLog.Proofs.Store.Access

/-! With one thread at work, no call to a store waits. While the thread has a guard, the calls that
take the global lock are refused; every other call finds the locks that it needs free, or works on
those that the thread holds. -/
namespace EventLog.Store.Phase

section
variable {store : Store} {me : ThreadId} {guard : Option Guard} {taken : Guard} {full : Bool}

/-- A thread does not take the lock that it has. -/
theorem lockGlobal_of_guard (h : store.Phase me (some taken)) (full : Bool) :
    store.lockGlobal me full = (.error (.error alreadyHeld), store) := by
  unfold Store.lockGlobal holdsGlobal
  rw [h.owner_eq]
  simp

theorem underLock_of_guard {α : Type} (h : store.Phase me (some taken)) (full : Bool)
    (change : Store → Except Fault α × Store) :
    store.underLock me full change = (.error (.error alreadyHeld), store) := by
  unfold Store.underLock
  rw [h.lockGlobal_of_guard full]

theorem cleanup_of_guard (h : store.Phase me (some taken)) :
    store.cleanup me = (.error (.error alreadyHeld), store) := by
  unfold Store.cleanup
  rw [h.lockGlobal_of_guard false]

/-- The lock of a store that is up is there for a thread without a guard. -/
theorem lockGlobal_of_up (h : store.Phase me none) (hup : store.isInitialized = true)
    (full : Bool) : ∃ taken next, store.lockGlobal me full = (.ok taken, next) :=
  ⟨_, _, h.lockGlobal_eq hup full⟩

theorem lockGlobal_ne_waits (h : store.Phase me guard) (full : Bool) :
    (store.lockGlobal me full).1 ≠ .error .waits := by
  cases guard with
  | some taken =>
    rw [h.lockGlobal_of_guard full]
    simp
  | none =>
    cases hup : store.isInitialized with
    | true =>
      obtain ⟨taken, next, hok⟩ := h.lockGlobal_of_up hup full
      rw [hok]
      simp
    | false =>
      have howner := h.owner_eq
      simp [Store.lockGlobal, holdsGlobal, howner, hup]

/-- A change under the global lock waits only where the change itself does. -/
theorem underLock_ne_waits {α : Type} {change : Store → Except Fault α × Store}
    (h : store.Phase me guard)
    (hchange : ∀ (locked : Store) (taken : Guard), locked.Phase me (some taken) →
      (change locked).1 ≠ .error .waits) :
    (store.underLock me full change).1 ≠ .error .waits := by
  have hlocking := h.lockGlobal_ne_waits full
  unfold Store.underLock
  cases hlock : store.lockGlobal me full with
  | mk result locked =>
    rw [hlock] at hlocking
    cases result with
    | error fault => simpa using hlocking
    | ok taken =>
      obtain ⟨-, -, hlocked⟩ := h.lockGlobal hlock
      exact hchange locked taken hlocked

theorem init_ne_waits (h : store.Phase me guard) (capacity : Nat) (memory : Memory) :
    (store.init capacity memory).1 ≠ .error .waits := by
  unfold Store.init
  split
  · simp
  · next hdown =>
    obtain ⟨-, -, -, hlock, -⟩ := h.of_down hdown
    rw [hlock, SpinLock.lock?, if_neg (by simp)]
    dsimp only
    split
    · simp
    · split
      · simp
      · simp

theorem cleanup_ne_waits (h : store.Phase me guard) :
    (store.cleanup me).1 ≠ .error .waits := by
  have hlocking := h.lockGlobal_ne_waits false
  unfold Store.cleanup
  split
  · next hlock =>
    rw [hlock] at hlocking
    simpa using hlocking
  · simp

theorem create_ne_waits (h : store.Phase me guard) (capacity : Nat) (memory : Memory) :
    (store.create me capacity memory).1 ≠ .error .waits := by
  refine h.underLock_ne_waits ?_
  intro locked _ _
  split
  · simp
  · split
    · simp
    · simp

theorem delete_ne_waits (h : store.Phase me guard) (id : Nat) :
    (store.delete me id).1 ≠ .error .waits := by
  refine h.underLock_ne_waits ?_
  intro locked _ _
  split
  · simp
  · simp

theorem require_ne_waits (store : Store) (id : Nat) : store.require id ≠ .error .waits := by
  unfold require
  split
  · simp
  · split
    · simp
    · simp

theorem reset_ne_waits (h : store.Phase me guard) (id : Nat) :
    (store.reset me id).1 ≠ .error .waits := by
  have hne := require_ne_waits store id
  rw [h.reset_eq]
  split
  · simp
  · next hrequire =>
    rw [hrequire] at hne
    simpa using hne

theorem resetAll_ne_waits (h : store.Phase me guard) :
    (store.resetAll me).1 ≠ .error .waits := by
  rw [h.resetAll_eq]
  split
  · simp
  · simp

theorem snapshot_ne_waits (h : store.Phase me guard) (id : Nat) :
    store.snapshot me id ≠ .error .waits := by
  have hne := require_ne_waits store id
  rw [h.snapshot_eq]
  cases hrequire : store.require id with
  | ok ring => exact nofun
  | error fault =>
    rw [hrequire] at hne
    simpa [Except.map] using hne

theorem statuses_ne_waits (h : store.Phase me guard) : store.statuses me ≠ .error .waits := by
  rw [h.statuses]
  simp

end
end EventLog.Store.Phase
