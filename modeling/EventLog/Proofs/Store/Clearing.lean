import EventLog.Proofs.Store.Access

/-! The two ways to empty rings: one of them by its id, or all. As long as no other thread has a lock, a
clearing is refused only where there is nothing to empty, and then it changes nothing. -/
namespace EventLog

inductive Clearing where
  | ring (id : Nat)
  | all
  deriving DecidableEq, Repr

/-- The call that does it. -/
def Clearing.perform : Clearing → Store → ThreadId → Except Fault Unit × Store
  | ring id, store, me => store.reset me id
  | all, store, me => store.resetAll me

namespace Store

/-- Why a clearing is refused. -/
def refusal? (store : Store) : Clearing → Option Error
  | .ring id =>
    if !store.isInitialized then some .notInitialized
    else if (store.table.get? id).isNone then some (.invalidBufferId id)
    else none
  | .all => if !store.isInitialized then some .notInitialized else none

/-- The store with the rings emptied that are there. -/
def cleared (store : Store) : Clearing → Store
  | .ring id =>
    match store.table.get? id with
    | some ring => { store with table := store.table.put id ring.resetHeld }
    | none => store
  | .all => { store with table := store.table.mapRings Ring.resetHeld }

namespace Phase

section
variable {store : Store} {me : ThreadId} {guard : Option Guard}

/-- A store that is down has no rings. -/
theorem get?_of_down (h : store.Phase me guard) (hdown : store.isInitialized = false) (id : Nat) :
    store.table.get? id = none := by
  cases h with
  | down _ _ _ hempty => exact hempty id
  | up hs | simple hs | full _ _ hs =>
    simp [isInitialized, LockState.isInitialized, hs] at hdown

theorem clearing_eq (h : store.Phase me guard) (clearing : Clearing) :
    clearing.perform store me =
      ((store.refusal? clearing).elim (.ok ()) fun error => .error (.error error),
        store.cleared clearing) := by
  cases clearing with
  | ring id =>
    show store.reset me id = _
    rw [h.reset_eq]
    unfold refusal? Store.cleared require
    dsimp only
    cases hget : store.table.get? id with
    | none => cases store.isInitialized <;> rfl
    | some ring =>
      cases hup : store.isInitialized with
      | false => cases (h.get?_of_down hup id).symm.trans hget
      | true => rfl
  | all =>
    show store.resetAll me = _
    rw [h.resetAll_eq]
    unfold refusal? Store.cleared
    dsimp only
    cases hup : store.isInitialized with
    | false =>
      have hsame : store.table.mapRings Ring.resetHeld = store.table := by
        refine Table.mapRings_id ?_
        intro id ring hget
        cases (h.get?_of_down hup id).symm.trans hget
      rw [hsame]
      rfl
    | true => rfl

theorem cleared (h : store.Phase me guard) (clearing : Clearing) :
    (store.cleared clearing).Phase me guard := by
  have heq : (clearing.perform store me).2 = store.cleared clearing :=
    congrArg Prod.snd (h.clearing_eq clearing)
  rw [← heq]
  cases clearing with
  | ring id => exact h.reset id
  | all => exact h.resetAll

end
end Phase

end Store
end EventLog
