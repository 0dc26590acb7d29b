import EventLog.Proofs.Registry.Lookup
import EventLog.Proofs.Store.Entries
import EventLog.Proofs.Store.Held
import EventLog.Proofs.Store.Lifecycle

/-! Calls to a store that fail. A call that gets the global lock first gives it back when it fails, and
has changed nothing before; only an initialization that runs out of memory has already installed the
built-in renderers. -/
namespace EventLog

theorem Ring.exists_memory_of_new? {memory : Memory} {capacity : Nat} {error : Error}
    (hpos : 0 < capacity) (h : new? memory capacity = .error error) :
    ∃ message, error = .memory message := by
  unfold new? at h
  rw [if_neg (by omega)] at h
  split at h
  · cases h
  · cases h
    exact ⟨_, rfl⟩

namespace Store

section
variable {store next : Store} {me holder : ThreadId} {guard : Option Guard} {fault : Fault}
  {capacity id : Nat} {memory : Memory}

/-- A change that does nothing when it fails, under the global lock. -/
theorem Phase.eq_of_underLock_error {α : Type} {full : Bool}
    {change : Store → Except Fault α × Store} (h : store.Phase holder guard)
    (hchange : ∀ locked fault next, change locked = (.error fault, next) → next = locked)
    (hfail : store.underLock me full change = (.error fault, next)) : next = store := by
  unfold Store.underLock at hfail
  cases hlock : store.lockGlobal me full with
  | mk result locked =>
    rw [hlock] at hfail
    cases result with
    | error _ =>
      cases hfail
      exact eq_of_lockGlobal_error hlock
    | ok taken =>
      have hfree := h.of_lockGlobal hlock
      have hup := isInitialized_of_lockGlobal hlock
      cases hlock.symm.trans (hfree.lockGlobal_eq hup full)
      dsimp only at hfail
      cases hresult : change (store.held me full) with
      | mk result changed =>
        rw [hresult] at hfail
        cases hfail
        rw [hchange _ _ _ hresult]
        exact hfree.release_held hup full

theorem eq_of_cleanup_error (hfail : store.cleanup me = (.error fault, next)) : next = store := by
  rcases cleanup_cases store me with ⟨_, herror⟩ | hok
  · cases herror.symm.trans hfail
    rfl
  · cases hok.symm.trans hfail

theorem Phase.eq_of_create_error (h : store.Phase holder guard)
    (hfail : store.create me capacity memory = (.error fault, next)) : next = store := by
  refine h.eq_of_underLock_error ?_ hfail
  intro locked fault next hchange
  split at hchange
  · cases hchange
    rfl
  · split at hchange
    · cases hchange
      rfl
    · cases hchange

theorem Phase.eq_of_delete_error (h : store.Phase holder guard)
    (hfail : store.delete me id = (.error fault, next)) : next = store := by
  refine h.eq_of_underLock_error ?_ hfail
  intro locked fault next hchange
  split at hchange
  · cases hchange
    rfl
  · cases hchange

theorem eq_of_reset_error (hfail : store.reset me id = (.error fault, next)) : next = store := by
  unfold reset at hfail
  split at hfail
  · cases hfail
    rfl
  · split at hfail
    · cases hfail
    · split at hfail
      · cases hfail
      · cases hfail
        rfl

theorem eq_of_resetPresent_error (hfail : store.resetPresent me = (.error fault, next)) :
    next = store := by
  unfold resetPresent at hfail
  split at hfail
  · cases hfail
  · split at hfail
    · cases hfail
    · cases hfail
      rfl

theorem Phase.eq_of_resetAll_error (h : store.Phase holder guard)
    (hfail : store.resetAll me = (.error fault, next)) : next = store := by
  unfold Store.resetAll at hfail
  split at hfail
  · exact eq_of_resetPresent_error hfail
  · exact h.eq_of_underLock_error (fun _ _ _ => eq_of_resetPresent_error) hfail

theorem eq_of_register_error {renderer : Renderer} {error : Error}
    (hfail : store.register renderer = (.error error, next)) : next = store := by
  unfold register at hfail
  rcases Registry.register_cases store.registry renderer with
    ⟨-, herror⟩ | ⟨-, ⟨_, -, -, hok⟩ | ⟨-, ⟨-, herror⟩ | ⟨-, hok⟩⟩⟩
  · rw [herror] at hfail
    cases hfail
    rfl
  · rw [hok] at hfail
    cases hfail
  · rw [herror] at hfail
    cases hfail
    rfl
  · rw [hok] at hfail
    cases hfail

theorem installed_of_initialized (h : store.registry.initialized = true) :
    store.installed = store := by
  unfold installed
  rw [Registry.installBuiltins_of_initialized h]

/-- An initialization fails at once, or for want of memory with the built-in renderers installed. -/
theorem init_error_cases (hpos : 0 < store.config.maxEvents)
    (hfail : store.init capacity memory = (.error fault, next)) :
    (∀ message, fault ≠ .error (.memory message)) ∧ next = store ∨
      (∃ message, fault = .error (.memory message)) ∧ next = store.installed := by
  unfold init at hfail
  split at hfail
  · cases hfail
    exact .inl ⟨nofun, rfl⟩
  · split at hfail
    · cases hfail
      exact .inl ⟨nofun, rfl⟩
    · dsimp only at hfail
      split at hfail
      · cases hfail
      · split at hfail
        · next error hnew =>
          cases hfail
          obtain ⟨message, rfl⟩ :=
            Ring.exists_memory_of_new? (Config.clamp_pos hpos capacity) hnew
          exact .inr ⟨⟨message, rfl⟩, rfl⟩
        · cases hfail

end
end Store
end EventLog
