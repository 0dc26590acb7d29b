import EventLog.Proofs.Ring.Account
import EventLog.Proofs.Store.Lock
import Mathlib.Logic.Function.Basic

/-! The books of a store: for each id, what was written to the ring that it names. Every operation
of the store keeps the rings as the books say, whichever thread calls it and whatever locks are
held. -/
namespace EventLog

abbrev Ledger := Nat → Account

namespace Ledger

/-- The ring with this id is new or has been emptied. -/
def clear (ledger : Ledger) (id : Nat) : Ledger := Function.update ledger id {}

def amend (ledger : Ledger) (change : Account → Account) : Option Nat → Ledger
  | some id => Function.update ledger id (change (ledger id))
  | none => ledger

/-- The books after a call that changes them only when it succeeds. -/
def after {α : Type} (ledger : Ledger) (change : α → Ledger) : Except Fault α → Ledger
  | .ok value => change value
  | .error _ => ledger

@[simp] theorem after_self {α : Type} (ledger : Ledger) (result : Except Fault α) :
    ledger.after (fun _ => ledger) result = ledger := by
  cases result with
  | error fault => rfl
  | ok value => rfl

/-- The books after an event was written to the target. -/
def logged (ledger : Ledger) (id : Option Nat) (write : Write) : Except Fault Unit → Ledger
  | .ok () => ledger.amend (fun account => account.accept write) id
  | .error (.error .eventLocked) => ledger.amend Account.refuse id
  | .error _ => ledger

theorem logged_error {ledger : Ledger} {id : Option Nat} {write : Write} {error : Error}
    (h : error ≠ .eventLocked) : ledger.logged id write (.error (.error error)) = ledger := by
  unfold logged
  split
  · next heq => cases heq
  · next heq =>
    cases heq
    exact absurd rfl h
  · rfl

end Ledger

namespace Table

/-- Each ring is the one that its account makes it, locked or not. -/
def Booked (table : Table) (ledger : Ledger) : Prop :=
  ∀ id ring, table.get? id = some ring →
    ∃ capacity locked, 0 < capacity ∧ ring = Ring.ofAccount capacity (ledger id) locked

namespace Booked

section
variable {table : Table} {ledger : Ledger} {id : Nat}

theorem empty (size : Nat) (ledger : Ledger) : (Table.empty size).Booked ledger := by
  intro id ring h
  rw [get?_empty] at h
  cases h

theorem remove (h : table.Booked ledger) (id : Nat) : (table.remove id).Booked ledger := by
  intro other ring hget
  rw [get?_remove] at hget
  split at hget
  · cases hget
  · exact h other ring hget

/-- A ring takes the place of another, and its account that of the other's. -/
theorem put (h : table.Booked ledger) {account : Account} {capacity : Nat} {locked : Bool}
    (hcapacity : 0 < capacity) :
    (table.put id (Ring.ofAccount capacity account locked)).Booked
      (Function.update ledger id account) := by
  intro other ring hget
  rcases eq_of_get?_put hget with ⟨rfl, rfl⟩ | ⟨hne, hold⟩
  · exact ⟨capacity, locked, hcapacity, by rw [Function.update_self]⟩
  · rw [Function.update_of_ne hne]
    exact h other ring hold

/-- A change to all rings that is a change to all accounts. -/
theorem mapRings (h : table.Booked ledger) {f : Ring → Ring} {next : Ledger}
    (hf : ∀ id capacity locked, ∃ locked',
      f (Ring.ofAccount capacity (ledger id) locked) =
        Ring.ofAccount capacity (next id) locked') :
    (table.mapRings f).Booked next := by
  intro id ring hget
  rw [get?_mapRings] at hget
  obtain ⟨old, hold, rfl⟩ := Option.map_eq_some_iff.mp hget
  obtain ⟨capacity, locked, hcapacity, rfl⟩ := h id old hold
  obtain ⟨locked', hring⟩ := hf id capacity locked
  exact ⟨capacity, locked', hcapacity, hring⟩

theorem mapRings? (h : table.Booked ledger) {f? : Ring → Option Ring} {next : Ledger}
    {changed : Table} (hchanged : table.mapRings? f? = some changed)
    (hf : ∀ id capacity locked ring, f? (Ring.ofAccount capacity (ledger id) locked) = some ring →
      ∃ locked', ring = Ring.ofAccount capacity (next id) locked') :
    changed.Booked next := by
  intro id ring hget
  obtain ⟨old, hold, hring⟩ := get?_of_mapRings? hchanged hget
  obtain ⟨capacity, locked, hcapacity, rfl⟩ := h id old hold
  obtain ⟨locked', rfl⟩ := hf id capacity locked ring hring
  exact ⟨capacity, locked', hcapacity, rfl⟩

theorem mapAt_release (h : table.Booked ledger) (ids : List Nat) :
    (table.mapAt ids Ring.release).Booked ledger := by
  intro id ring hget
  rw [get?_mapAt] at hget
  split at hget
  · obtain ⟨old, hold, rfl⟩ := Option.map_eq_some_iff.mp hget
    obtain ⟨capacity, locked, hcapacity, rfl⟩ := h id old hold
    exact ⟨capacity, false, hcapacity, Ring.release_ofAccount⟩
  · exact h id ring hget

end

section
variable {store : Store} {ledger : Ledger} {me : ThreadId}

theorem release (h : store.table.Booked ledger) (guard : Guard) :
    (store.release guard).table.Booked ledger :=
  h.mapAt_release guard.held

theorem lockGlobal (h : store.table.Booked ledger) (me : ThreadId) (full : Bool) :
    (store.lockGlobal me full).2.table.Booked ledger := by
  rcases Store.lockGlobal_cases store me full with
    ⟨_, herror⟩ | ⟨-, -, -, ⟨-, hsimple⟩ | ⟨-, table, htable, hfull⟩⟩
  · rw [herror]
    exact h
  · rw [hsimple]
    exact h
  · rw [hfull]
    refine h.mapRings? htable ?_
    intro id capacity locked ring hacquire
    obtain ⟨lock, -, rfl⟩ := Option.map_eq_some_iff.mp hacquire
    exact ⟨lock.locked, rfl⟩

theorem underLock {α : Type} {full : Bool} {change : Store → Except Fault α × Store}
    {entry : α → Ledger} (h : store.table.Booked ledger)
    (hchange : ∀ locked : Store, locked.table.Booked ledger →
      (change locked).2.table.Booked (ledger.after entry (change locked).1)) :
    (store.underLock me full change).2.table.Booked
      (ledger.after entry (store.underLock me full change).1) := by
  have hlocked := h.lockGlobal me full
  unfold Store.underLock
  cases hlock : store.lockGlobal me full with
  | mk result locked =>
    rw [hlock] at hlocked
    cases result with
    | error fault => exact hlocked
    | ok guard => exact (hchange locked hlocked).release guard

theorem init (h : store.table.Booked ledger) (capacity : Nat) (memory : Memory) :
    (store.init capacity memory).2.table.Booked
      (ledger.after (fun _ => if capacity = 0 then ledger else ledger.clear 0)
        (store.init capacity memory).1) := by
  unfold Store.init
  split
  · exact h
  · split
    · exact h
    · dsimp only
      split
      · exact h
      · split
        · exact h
        · next ring hnew =>
          obtain ⟨hcapacity, rfl⟩ := Ring.new?_eq_ofAccount hnew
          exact h.put hcapacity

theorem cleanup (h : store.table.Booked ledger) : (store.cleanup me).2.table.Booked ledger := by
  have hlocked := h.lockGlobal me false
  unfold Store.cleanup
  cases hlock : store.lockGlobal me false with
  | mk result locked =>
    rw [hlock] at hlocked
    cases result with
    | error fault => exact hlocked
    | ok guard => exact (empty locked.table.size ledger).mapAt_release guard.retire.held

theorem create (h : store.table.Booked ledger) (capacity : Nat) (memory : Memory) :
    (store.create me capacity memory).2.table.Booked
      (ledger.after ledger.clear (store.create me capacity memory).1) := by
  refine h.underLock ?_
  intro locked hlocked
  split
  · exact hlocked
  · next id hfree =>
    split
    · exact hlocked
    · next ring hnew =>
      obtain ⟨hcapacity, rfl⟩ := Ring.new?_eq_ofAccount hnew
      exact hlocked.put hcapacity

theorem delete (h : store.table.Booked ledger) (id : Nat) :
    (store.delete me id).2.table.Booked ledger := by
  have hbooked : (store.delete me id).2.table.Booked
      (ledger.after (fun _ => ledger) (store.delete me id).1) := by
    refine h.underLock ?_
    intro locked hlocked
    split
    · exact hlocked
    · exact hlocked.remove id
  rwa [Ledger.after_self] at hbooked

theorem reset (h : store.table.Booked ledger) (id : Nat) :
    (store.reset me id).2.table.Booked
      (ledger.after (fun _ => ledger.clear id) (store.reset me id).1) := by
  unfold Store.reset
  split
  · exact h
  · next ring hring =>
    obtain ⟨capacity, locked, hcapacity, rfl⟩ := h id ring (Store.get?_of_require hring)
    split
    · rw [Ring.resetHeld_ofAccount]
      exact h.put hcapacity
    · split
      · next emptied hreset =>
        obtain rfl := Ring.eq_of_reset?_ofAccount hreset
        exact h.put hcapacity
      · exact h

theorem resetPresent (h : store.table.Booked ledger) :
    (store.resetPresent me).2.table.Booked
      (ledger.after (fun _ => fun _ => {}) (store.resetPresent me).1) := by
  unfold Store.resetPresent
  split
  · refine h.mapRings ?_
    intro id capacity locked
    exact ⟨locked, Ring.resetHeld_ofAccount⟩
  · split
    · next table htable =>
      refine h.mapRings? htable ?_
      intro id capacity locked ring hreset
      exact ⟨locked, Ring.eq_of_reset?_ofAccount hreset⟩
    · exact h

theorem resetAll (h : store.table.Booked ledger) :
    (store.resetAll me).2.table.Booked
      (ledger.after (fun _ => fun _ => {}) (store.resetAll me).1) := by
  unfold Store.resetAll
  split
  · exact h.resetPresent
  · refine h.underLock ?_
    intro locked hlocked
    exact hlocked.resetPresent

/-- The ring that the target names takes the event or turns it away, and no other ring changes. -/
theorem log (h : store.table.Booked ledger) (context : Context) (target : Target) (event : Event)
    (now : Instant) :
    (store.log context target event now).2.table.Booked
      (ledger.logged (store.table.named? target) ⟨context.complete event, store.registry, now⟩
        ((store.log context target event now).1.mapError .error)) := by
  unfold Store.log
  split
  · next error hdestination =>
    have hne : error ≠ .eventLocked := by
      rintro rfl
      exact Store.destination_ne_eventLocked store target event hdestination
    rw [Except.mapError, Ledger.logged_error hne]
    exact h
  · next id ring hdestination =>
    obtain ⟨hnamed, hget⟩ := Store.destination_eq_ok hdestination
    obtain ⟨capacity, locked, hcapacity, rfl⟩ := h id ring hget
    rw [hnamed]
    let write : Write := ⟨context.complete event, store.registry, now⟩
    cases locked with
    | false =>
      have happend : (Ring.ofAccount capacity (ledger id) false).append write.event write.registry
          write.time = (.ok (), Ring.ofAccount capacity ((ledger id).accept write) false) :=
        Ring.append_ofAccount hcapacity write
      rw [happend]
      exact h.put hcapacity
    | true =>
      have happend : (Ring.ofAccount capacity (ledger id) true).append write.event write.registry
          write.time = (.error .eventLocked, Ring.ofAccount capacity (ledger id).refuse true) :=
        Ring.append_ofAccount_locked write
      rw [happend]
      exact h.put hcapacity

end
end Booked
end Table
end EventLog
