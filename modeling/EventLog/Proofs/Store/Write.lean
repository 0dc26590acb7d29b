import EventLog.Proofs.Store.Table
import EventLog.Store.Write

/-! Where an event goes: the ring that its target names when it is written, unless it is turned
away before it gets there. -/
namespace EventLog

/-- The id that a target stands for at this moment. -/
def Table.named? (table : Table) : Target → Option Nat
  | .buffer id => some id
  | .default => table.default

namespace Store

section
variable {store : Store} {target : Target} {event : Event} {id : Nat} {ring : Ring}

theorem resolve_eq (store : Store) (target : Target) :
    store.resolve target =
      match store.table.named? target with
      | none => .error .noDefaultBuffer
      | some id =>
        match store.table.get? id with
        | some ring => .ok (id, ring)
        | none => .error (.invalidBufferId id) := by
  unfold resolve
  cases target with
  | buffer id => rfl
  | default =>
    unfold Table.named?
    cases store.table.default with
    | none => rfl
    | some id => rfl

theorem resolve_eq_ok (h : store.resolve target = .ok (id, ring)) :
    store.table.named? target = some id ∧ store.table.get? id = some ring := by
  rw [resolve_eq] at h
  split at h
  · cases h
  · next named hnamed =>
    split at h
    · next found hget =>
      cases h
      exact ⟨hnamed, hget⟩
    · cases h

theorem destination_eq (store : Store) (target : Target) (event : Event) :
    store.destination target event =
      if store.isInitialized = false then .error .notInitialized
      else if store.enabled = false then .error .disabled
      else
        match store.resolve target with
        | .error error => .error error
        | .ok found =>
          match store.checkPayload event.payload with
          | .error error => .error error
          | .ok () => .ok found := by
  unfold destination
  cases store.isInitialized with
  | false => rfl
  | true =>
    cases store.enabled with
    | false => rfl
    | true =>
      cases store.resolve target with
      | error error => rfl
      | ok found =>
        cases store.checkPayload event.payload with
        | error error => rfl
        | ok _ => rfl

theorem destination_eq_ok (h : store.destination target event = .ok (id, ring)) :
    store.table.named? target = some id ∧ store.table.get? id = some ring := by
  rw [destination_eq] at h
  split at h
  · cases h
  · split at h
    · cases h
    · split at h
      · cases h
      · next found hresolve =>
        split at h
        · cases h
        · cases h
          exact resolve_eq_ok hresolve

theorem resolve_eq_error {error : Error} (h : store.resolve target = .error error) :
    error = .noDefaultBuffer ∨ ∃ id, error = .invalidBufferId id := by
  rw [resolve_eq] at h
  split at h
  · cases h
    exact .inl rfl
  · split at h
    · cases h
    · cases h
      exact .inr ⟨_, rfl⟩

theorem checkPayload_eq_error {payload : Option Payload} {error : Error}
    (h : store.checkPayload payload = .error error) : ∃ type, error = .invalidEventType type := by
  unfold checkPayload at h
  split at h
  · cases h
  · split at h
    · cases h
      exact ⟨_, rfl⟩
    · cases h

/-- What holds of a store that lets an event through to a ring. -/
theorem admits_of_destination {found : Nat × Ring}
    (h : store.destination target event = .ok found) :
    store.isInitialized = true ∧ store.enabled = true ∧
      store.checkPayload event.payload = .ok () := by
  rw [destination_eq] at h
  split at h
  · cases h
  · next hup =>
    split at h
    · cases h
    · next henabled =>
      split at h
      · cases h
      · split at h
        · cases h
        · next hpayload => exact ⟨by simpa using hup, by simpa using henabled, hpayload⟩

/-- Why an event is turned away before it gets to a ring. -/
theorem destination_eq_error {error : Error}
    (h : store.destination target event = .error error) :
    error = .notInitialized ∨ store.enabled = false ∧ error = .disabled ∨
      store.resolve target = .error error ∨ store.checkPayload event.payload = .error error := by
  rw [destination_eq] at h
  split at h
  · cases h
    exact .inl rfl
  · split at h
    · next hoff =>
      cases h
      exact .inr (.inl ⟨hoff, rfl⟩)
    · split at h
      · next hresolve =>
        cases h
        exact .inr (.inr (.inl hresolve))
      · split at h
        · next hpayload =>
          cases h
          exact .inr (.inr (.inr hpayload))
        · cases h

/-- Only a ring answers that it is locked. -/
theorem destination_ne_eventLocked (store : Store) (target : Target) (event : Event) :
    store.destination target event ≠ .error .eventLocked := by
  intro h
  rcases destination_eq_error h with herror | ⟨-, herror⟩ | hresolve | hpayload
  · cases herror
  · cases herror
  · rcases resolve_eq_error hresolve with herror | ⟨_, herror⟩
    · cases herror
    · cases herror
  · obtain ⟨_, herror⟩ := checkPayload_eq_error hpayload
    cases herror

/-- Only a store that is switched off turns an event away as disabled. -/
theorem enabled_of_destination_disabled
    (h : store.destination target event = .error .disabled) : store.enabled = false := by
  rcases destination_eq_error h with herror | ⟨hoff, -⟩ | hresolve | hpayload
  · cases herror
  · exact hoff
  · rcases resolve_eq_error hresolve with herror | ⟨_, herror⟩
    · cases herror
    · cases herror
  · obtain ⟨_, herror⟩ := checkPayload_eq_error hpayload
    cases herror

theorem registry_log (store : Store) (context : Context) (target : Target) (event : Event)
    (now : Instant) : (store.log context target event now).2.registry = store.registry := by
  unfold log
  split <;> rfl

end
end Store
end EventLog
