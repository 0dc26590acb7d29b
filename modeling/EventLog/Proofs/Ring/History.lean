import EventLog.Proofs.Ring.Slot
import EventLog.Ring
import Mathlib.Data.List.Basic
import Mathlib.Data.Nat.ModEq

/-! A ring as its history makes it. Since it was new or last emptied, a number of slots has been
reserved, some of them have been filled, and some events have been dropped; every operation is one
equation on these, and what a copy of the ring shows is read off them. -/
namespace EventLog

/-- A write and the slot that it filled. -/
structure Fill where
  slot : Nat
  write : Write

namespace Ring

/-- The writes that filled the slot, in order. -/
def writesAt (fills : List Fill) (slot : Nat) : List Write :=
  (fills.filter fun fill => fill.slot == slot).map Fill.write

/-- The write that a slot holds. -/
def lastAt (fills : List Fill) (slot : Nat) : Option Write := (writesAt fills slot).getLast?

/-- The ring, its lock free, after `reserved` reservations, the given fills and `drops` drops. -/
def ofHistory (capacity reserved : Nat) (fills : List Fill) (drops : Nat) : Ring :=
  { slots := (List.range capacity).map fun slot => Slot.ofWrites (writesAt fills slot)
    next := reserved % capacity
    wraps := UInt64.ofNat (reserved / capacity)
    dropped := UInt64.ofNat drops }

/-- The slot at which a copy of the ring starts. -/
def start (ring : Ring) : Nat := if 0 < ring.wraps then ring.next else 0

theorem writesAt_concat (fills : List Fill) (fill : Fill) (slot : Nat) :
    writesAt (fills ++ [fill]) slot =
      writesAt fills slot ++ if fill.slot = slot then [fill.write] else [] := by
  by_cases h : fill.slot = slot <;> simp [writesAt, h]

theorem lastAt_concat (fills : List Fill) (fill : Fill) (slot : Nat) :
    lastAt (fills ++ [fill]) slot =
      if fill.slot = slot then some fill.write else lastAt fills slot := by
  rw [lastAt, writesAt_concat]
  split
  · rw [List.getLast?_concat]
  · rw [List.append_nil, lastAt]

section
variable {capacity reserved drops : Nat} {fills : List Fill}

@[simp] theorem capacity_ofHistory :
    (ofHistory capacity reserved fills drops).capacity = capacity := by
  simp [Ring.capacity, ofHistory]

@[simp] theorem lock_ofHistory : (ofHistory capacity reserved fills drops).lock = {} := rfl

theorem slots_ofHistory {slot : Nat} (h : slot < capacity) :
    (ofHistory capacity reserved fills drops).slots[slot]? =
      some (Slot.ofWrites (writesAt fills slot)) := by
  simp [ofHistory, h]

/-- Only the list of the filled slot gets longer, so only that slot changes. -/
theorem slots_set (slot : Nat) (w : Write) :
    ((List.range capacity).map fun i => Slot.ofWrites (writesAt fills i)).set slot
        (Slot.ofWrites (writesAt fills slot ++ [w])) =
      (List.range capacity).map fun i => Slot.ofWrites (writesAt (fills ++ [⟨slot, w⟩]) i) := by
  apply List.ext_getElem (by simp)
  intro i hi _
  rw [List.getElem_set]
  simp only [List.getElem_map, List.getElem_range, writesAt_concat]
  split
  · next heq => rw [← heq]
  · simp

/-- A ring that could be allocated is one without a history. -/
theorem new?_eq_ok {memory : Memory} {ring : Ring} (h : new? memory capacity = .ok ring) :
    0 < capacity ∧ ring = ofHistory capacity 0 [] 0 := by
  unfold new? at h
  split at h
  · simp at h
  next hpos =>
    split at h
    · obtain rfl := Except.ok.inj h
      refine ⟨by omega, ?_⟩
      simp [ofHistory, writesAt, List.map_const']
    · simp at h

theorem resetHeld_eq (ring : Ring) :
    ring.resetHeld = { ofHistory ring.capacity 0 [] 0 with lock := ring.lock } := by
  simp [resetHeld, ofHistory, writesAt, List.map_const']

theorem reset?_eq_some {ring emptied : Ring} (h : ring.reset? = some emptied) :
    emptied = ofHistory ring.capacity 0 [] 0 := by
  unfold reset? SpinLock.lock? at h
  split at h
  · simp at h
  next hfree =>
    obtain rfl := Option.some.inj h
    have hlock : ring.lock = {} := by
      cases hl : ring.lock
      simpa [hl] using hfree
    rw [resetHeld_eq, hlock]
    rfl

theorem reset?_ofHistory :
    (ofHistory capacity reserved fills drops).reset? = some (ofHistory capacity 0 [] 0) := by
  rw [reset?, lock_ofHistory, SpinLock.lock?, if_neg (by simp), Option.map_some, resetHeld_eq,
    capacity_ofHistory, lock_ofHistory]
  rfl

theorem recordDrop_ofHistory :
    (ofHistory capacity reserved fills drops).recordDrop =
      ofHistory capacity reserved fills (drops + 1) := by
  simp [recordDrop, ofHistory, UInt64.ofNat_add]

/-- The cursor and the wrap counter are quotient and remainder of one number of reservations. -/
theorem advance_ofHistory :
    (ofHistory capacity reserved fills drops).advance =
      (.ok (reserved % capacity), ofHistory capacity (reserved + 1) fills drops) := by
  have hnext : (reserved % capacity + 1) % capacity = (reserved + 1) % capacity := by simp
  have hwraps : (reserved + 1) / capacity =
      reserved / capacity + if (reserved + 1) % capacity = 0 then 1 else 0 := by
    simp [Nat.succ_div, Nat.dvd_iff_mod_eq_zero]
  rw [advance, capacity_ofHistory, lock_ofHistory, SpinLock.lockBounded, SpinLock.tryLock]
  simp only [Bool.not_false, ↓reduceIte]
  simp only [ofHistory, hnext, hwraps]
  split
  · simp [recordWrap, UInt64.ofNat_add]
  · rfl

theorem populate_ofHistory {slot : Nat} (h : slot < capacity) (w : Write) :
    (ofHistory capacity reserved fills drops).populate slot w.event w.registry w.time =
      (.ok (), ofHistory capacity reserved (fills ++ [⟨slot, w⟩]) drops) := by
  rw [populate, slots_ofHistory h]
  simp only [Slot.populate?_ofWrites]
  simp only [ofHistory, slots_set]

theorem append_ofHistory (hcapacity : 0 < capacity) (w : Write) :
    (ofHistory capacity reserved fills drops).append w.event w.registry w.time =
      (.ok (), ofHistory capacity (reserved + 1)
        (fills ++ [⟨reserved % capacity, w⟩]) drops) := by
  rw [append, advance_ofHistory]
  exact populate_ofHistory (Nat.mod_lt _ hcapacity) w

/-- While the lock is held, an event is dropped and nothing else happens. -/
theorem append_of_locked {ring : Ring} (h : ring.lock.locked = true) (w : Write) :
    ring.append w.event w.registry w.time = (.error .eventLocked, ring.recordDrop) := by
  simp [append, advance, SpinLock.lockBounded, SpinLock.tryLock, h]

theorem lt_of_mem_order {ring : Ring} {slot : Nat} (h : slot ∈ ring.order) :
    slot < ring.capacity := by
  obtain ⟨offset, hoffset, rfl⟩ := List.mem_map.mp h
  have := List.mem_range.mp hoffset
  exact Nat.mod_lt _ (by omega)

/-- Each slot shows its last write, in cyclic order from the start. -/
theorem records_of_slots {ring : Ring}
    (hslots : ring.slots = (List.range capacity).map fun slot => Slot.ofWrites (writesAt fills slot)) :
    ring.snapshotHeld.records =
      ring.order.filterMap fun slot => (lastAt fills slot).map fun w => w.record slot := by
  apply List.filterMap_congr
  intro slot hslot
  have hlt : slot < capacity := by simpa [Ring.capacity, hslots] using lt_of_mem_order hslot
  have hget : ring.slots[slot]? = some (Slot.ofWrites (writesAt fills slot)) := by
    simp [hslots, hlt]
  rw [hget]
  exact Slot.read?_ofWrites _ _

theorem used_of_slots {ring : Ring}
    (hslots : ring.slots = (List.range capacity).map fun slot => Slot.ofWrites (writesAt fills slot)) :
    ring.statusHeld.used = (List.range capacity).countP fun slot => (lastAt fills slot).isSome := by
  simp [statusHeld, hslots, List.countP_map, Function.comp_def, lastAt]

theorem records_ofHistory :
    (ofHistory capacity reserved fills drops).snapshotHeld.records =
      (ofHistory capacity reserved fills drops).order.filterMap fun slot =>
        (lastAt fills slot).map fun w => w.record slot :=
  records_of_slots rfl

theorem used_ofHistory :
    (ofHistory capacity reserved fills drops).statusHeld.used =
      (List.range capacity).countP fun slot => (lastAt fills slot).isSome :=
  used_of_slots rfl

theorem snapshot?_ofHistory :
    (ofHistory capacity reserved fills drops).snapshot? =
      some (ofHistory capacity reserved fills drops).snapshotHeld := rfl

theorem status?_ofHistory :
    (ofHistory capacity reserved fills drops).status? =
      some (ofHistory capacity reserved fills drops).statusHeld := rfl

end

theorem order_eq (ring : Ring) :
    ring.order = (List.range ring.capacity).map fun offset =>
      (ring.start + offset) % ring.capacity := rfl

/-- Wherever a copy starts, it comes to every slot. -/
theorem mem_order {ring : Ring} {slot : Nat} (h : slot < ring.capacity) : slot ∈ ring.order := by
  have hstart := Nat.div_add_mod ring.start ring.capacity
  have hlt : ring.start % ring.capacity < ring.capacity := Nat.mod_lt _ (by omega)
  rw [order_eq]
  refine List.mem_map.mpr ⟨(slot + (ring.capacity - ring.start % ring.capacity)) % ring.capacity,
    List.mem_range.mpr (Nat.mod_lt _ (by omega)), ?_⟩
  rw [Nat.add_mod_mod, show ring.start + (slot + (ring.capacity - ring.start % ring.capacity)) =
    slot + ring.capacity + ring.capacity * (ring.start / ring.capacity) by omega,
    Nat.add_mul_mod_self_left, Nat.add_mod_right, Nat.mod_eq_of_lt h]

/-- The cursor starts the copy as soon as the ring has wrapped; a wrap counter that has overflowed
to zero hides that it has. -/
theorem start_ofHistory (capacity reserved drops : Nat) (fills : List Fill) :
    (ofHistory capacity reserved fills drops).start =
      if reserved / capacity % 2 ^ 64 = 0 then 0 else reserved % capacity := by
  have h : 0 < (ofHistory capacity reserved fills drops).wraps ↔
      reserved / capacity % 2 ^ 64 ≠ 0 := by
    rw [UInt64.lt_iff_toNat_lt]
    simp [ofHistory, Nat.pos_iff_ne_zero]
  rw [start]
  by_cases hz : reserved / capacity % 2 ^ 64 = 0
  · rw [if_neg (by simpa [h] using hz), if_pos hz]
  · rw [if_pos (h.2 hz), if_neg hz]
    rfl

end Ring
end EventLog
