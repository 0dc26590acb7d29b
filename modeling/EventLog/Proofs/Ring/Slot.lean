import EventLog.Proofs.Text.Field
import EventLog.Ring.Slot
import Mathlib.Data.List.Induction

/-! Slots under writes that follow one another. What a slot shows is decided by the last write
alone. -/
namespace EventLog

/-- An event with what else decides how a slot keeps it: the renderers that are known when it is
written, and the time. -/
structure Write where
  event : Event
  registry : Registry
  time : Instant

/-- The record of a write in the slot with the given index. -/
def Write.record (write : Write) (index : Nat) : Record :=
  { slot := index
    thread := Field.kept Limits.threadCapacity write.event.thread
    function := Field.kept Limits.functionCapacity write.event.function
    message := cut write.event.message (Limits.messageCapacity - 1)
    line := write.event.line
    time := write.time
    indent := write.event.indent.getD 0
    payload := Slot.store write.registry write.event.payload }

@[simp] theorem Write.record_slot (write : Write) (index : Nat) :
    (write.record index).slot = index := rfl

namespace Slot

/-- The slot after a write; a slot that another writer holds stays as it is. -/
def write (slot : Slot) (write : Write) : Slot :=
  (slot.populate? write.event write.registry write.time).getD slot

/-- The slot that the given writes leave, in this order, where it was empty. -/
def ofWrites (writes : List Write) : Slot := writes.foldl write {}

theorem populate?_of_free {slot : Slot} (h : slot.claim = {}) (w : Write) :
    slot.populate? w.event w.registry w.time = some (slot.write w) := by
  simp [write, populate?, h, SlotClaim.isWriting]

theorem claim_write {slot : Slot} (h : slot.claim = {}) (w : Write) :
    (slot.write w).claim = {} := by
  simp [write, populate?, h, SlotClaim.isWriting]

theorem used_write {slot : Slot} (h : slot.claim = {}) (w : Write) :
    (slot.write w).used = true := by
  simp [write, populate?, h, SlotClaim.isWriting]

/-- The earlier content of the slot, of any length, does not show. -/
theorem record_write {slot : Slot} (h : slot.claim = {}) (w : Write) (index : Nat) :
    (slot.write w).record index = w.record index := by
  simp [write, populate?, h, SlotClaim.isWriting, record, Write.record, Field.nonEmpty?_assign]

@[simp] theorem ofWrites_nil : ofWrites [] = {} := rfl

theorem ofWrites_concat (writes : List Write) (w : Write) :
    ofWrites (writes ++ [w]) = (ofWrites writes).write w := by
  simp [ofWrites]

@[simp] theorem claim_ofWrites (writes : List Write) : (ofWrites writes).claim = {} := by
  induction writes using List.reverseRecOn with
  | nil => rfl
  | append_singleton writes w ih => rw [ofWrites_concat, claim_write ih]

theorem populate?_ofWrites (writes : List Write) (w : Write) :
    (ofWrites writes).populate? w.event w.registry w.time = some (ofWrites (writes ++ [w])) := by
  rw [populate?_of_free (claim_ofWrites writes), ofWrites_concat]

@[simp] theorem used_ofWrites (writes : List Write) :
    (ofWrites writes).used = writes.getLast?.isSome := by
  cases writes using List.reverseRecOn with
  | nil => rfl
  | append_singleton writes w =>
    rw [ofWrites_concat, used_write (claim_ofWrites writes), List.getLast?_concat]
    rfl

theorem record_ofWrites {writes : List Write} {w : Write} (h : writes.getLast? = some w)
    (index : Nat) : (ofWrites writes).record index = w.record index := by
  obtain ⟨earlier, rfl⟩ := List.getLast?_eq_some_iff.mp h
  rw [ofWrites_concat, record_write (claim_ofWrites earlier)]

theorem read?_ofWrites (writes : List Write) (index : Nat) :
    (ofWrites writes).read? index = writes.getLast?.map fun w => w.record index := by
  rw [read?, claim_ofWrites, used_ofWrites]
  cases hlast : writes.getLast? with
  | none => rfl
  | some w =>
    rw [record_ofWrites hlast]
    rfl

end Slot
end EventLog
