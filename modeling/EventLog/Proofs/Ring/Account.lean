import EventLog.Proofs.Ring.Sequence

/-! A ring with one writer, whose lock may be held against it. The ring is then determined by the
events that it took, in order, and by the number of those that it turned away. -/
namespace EventLog

/-- What was written to a ring since it was created or last emptied. -/
structure Account where
  accepted : List Write := []
  refused : Nat := 0

namespace Account

def accept (account : Account) (write : Write) : Account :=
  { account with accepted := account.accepted ++ [write] }

def refuse (account : Account) : Account := { account with refused := account.refused + 1 }

end Account

namespace Ring

/-- The ring with this account. -/
def ofAccount (capacity : Nat) (account : Account) (locked : Bool) : Ring :=
  { ofWrites capacity account.accepted account.refused with lock := { locked } }

section
variable {capacity : Nat} {account : Account} {locked : Bool}

@[simp] theorem capacity_ofAccount : (ofAccount capacity account locked).capacity = capacity :=
  capacity_ofWrites account.refused

theorem ofAccount_free :
    ofAccount capacity account false = ofWrites capacity account.accepted account.refused := rfl

theorem new?_eq_ofAccount {memory : Memory} {ring : Ring} (h : new? memory capacity = .ok ring) :
    0 < capacity ∧ ring = ofAccount capacity {} false := by
  obtain ⟨hcapacity, hring⟩ := new?_eq_ok h
  exact ⟨hcapacity, hring⟩

@[simp] theorem release_ofAccount :
    (ofAccount capacity account locked).release = ofAccount capacity account false := rfl

@[simp] theorem resetHeld_ofAccount :
    (ofAccount capacity account locked).resetHeld = ofAccount capacity {} locked := by
  rw [resetHeld_eq, capacity_ofAccount]
  rfl

/-- Emptying a ring keeps its lock, also when the lock was taken for it. -/
theorem eq_of_reset?_ofAccount {ring : Ring}
    (h : (ofAccount capacity account locked).reset? = some ring) :
    ring = ofAccount capacity {} locked := by
  obtain ⟨lock, -, rfl⟩ := Option.map_eq_some_iff.mp h
  exact resetHeld_ofAccount

theorem append_ofAccount (hcapacity : 0 < capacity) (w : Write) :
    (ofAccount capacity account false).append w.event w.registry w.time =
      (.ok (), ofAccount capacity (account.accept w) false) := by
  rw [ofAccount_free, append_ofWrites hcapacity]
  rfl

theorem append_ofAccount_locked (w : Write) :
    (ofAccount capacity account true).append w.event w.registry w.time =
      (.error .eventLocked, ofAccount capacity account.refuse true) := by
  have hdrop : (ofWrites capacity account.accepted account.refused).recordDrop =
      ofWrites capacity account.accepted (account.refused + 1) := recordDrop_ofHistory
  rw [append_of_locked rfl]
  calc
    _ = (Except.error Error.eventLocked,
        { (ofWrites capacity account.accepted account.refused).recordDrop with
          lock := { locked := true } }) := rfl
    _ = _ := by
      rw [hdrop]
      rfl

/-- The lock does not show in a copy. -/
theorem shows_ofAccount (hcapacity : 0 < capacity) (haccepted : account.accepted.length < 2 ^ 64)
    (hrefused : account.refused < 2 ^ 64) :
    (ofAccount capacity account locked).snapshotHeld.Shows capacity account.accepted
      account.refused :=
  shows_ofWrites hcapacity haccepted hrefused

end
end Ring
end EventLog
