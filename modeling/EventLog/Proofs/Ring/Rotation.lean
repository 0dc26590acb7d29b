import EventLog.Proofs.Ring.History
import Mathlib.Data.List.Rotate

/-! A ring in any use. Slots may be filled that nobody reserved, and the counters, which do not depend
on the slots, may be driven by hand; still a copy goes once around the ring, from the cursor or from the
first slot, and shows each slot that is used as its last fill has left it. -/
namespace EventLog
namespace Ring

/-- Whether there is a slot at the index, and it is used. -/
def isUsed (ring : Ring) (index : Nat) : Bool := ring.slots[index]?.any Slot.used

/-- The slots are what their fills have left, and the cursor is at one of them. -/
structure Filled (ring : Ring) (capacity : Nat) (fills : List Fill) : Prop where
  slots_eq : ring.slots =
    (List.range capacity).map fun slot => Slot.ofWrites (writesAt fills slot)
  next_lt : ring.next < capacity

section
variable {ring other : Ring} {capacity index : Nat} {fills : List Fill}

/-- A writer finds the lock held and drops its event, or it moves the cursor and perhaps counts. -/
theorem advance_cases (ring : Ring) :
    ring.lock.locked = true ∧ ring.advance = (.error .eventLocked, ring.recordDrop) ∨
      ring.lock.locked = false ∧ ∃ wraps, ring.advance =
        (.ok ring.next, { ring with next := (ring.next + 1) % ring.capacity, wraps }) := by
  unfold advance SpinLock.lockBounded SpinLock.tryLock
  cases hlocked : ring.lock.locked with
  | true => exact .inl ⟨rfl, rfl⟩
  | false =>
    refine .inr ⟨rfl, ?_⟩
    dsimp only
    rw [if_pos (show (!false) = true from rfl)]
    split
    · exact ⟨ring.wraps + 1, rfl⟩
    · exact ⟨ring.wraps, rfl⟩

/-- Outside the ring there is no slot to fill. -/
theorem populate_of_le (hindex : ring.capacity ≤ index) (w : Write) :
    ring.populate index w.event w.registry w.time =
      (.error (.invalidParameter "index" ("Slot " ++ Numeral.decimal index ++
        " out of range for capacity " ++ Numeral.decimal ring.capacity)), ring) := by
  unfold populate
  rw [List.getElem?_eq_none hindex]

namespace Filled

theorem capacity_eq (h : ring.Filled capacity fills) : ring.capacity = capacity := by
  simp [Ring.capacity, h.slots_eq]

theorem getElem? (h : ring.Filled capacity fills) (hindex : index < capacity) :
    ring.slots[index]? = some (Slot.ofWrites (writesAt fills index)) := by
  simp [h.slots_eq, hindex]

theorem of_ofHistory (hcapacity : 0 < capacity) :
    (ofHistory capacity 0 [] 0).Filled capacity [] where
  slots_eq := rfl
  next_lt := Nat.mod_lt 0 hcapacity

/-- Neither the lock nor the counters matter. -/
theorem congr (h : ring.Filled capacity fills) (hslots : other.slots = ring.slots)
    (hnext : other.next = ring.next) : other.Filled capacity fills where
  slots_eq := hslots.trans h.slots_eq
  next_lt := hnext ▸ h.next_lt

theorem advance (h : ring.Filled capacity fills) : ring.advance.2.Filled capacity fills := by
  rcases advance_cases ring with ⟨-, hadvance⟩ | ⟨-, wraps, hadvance⟩
  · rw [hadvance]
    exact h.congr rfl rfl
  · rw [hadvance]
    refine ⟨h.slots_eq, ?_⟩
    rw [h.capacity_eq]
    exact Nat.mod_lt _ (Nat.zero_lt_of_lt h.next_lt)

theorem resetHeld (h : ring.Filled capacity fills) : ring.resetHeld.Filled capacity [] := by
  rw [resetHeld_eq, h.capacity_eq]
  exact (of_ofHistory (Nat.zero_lt_of_lt h.next_lt)).congr rfl rfl

/-- A fill never fails, reserved or not; it changes its slot and nothing else. -/
theorem populate_eq (h : ring.Filled capacity fills) (hindex : index < capacity) (w : Write) :
    ring.populate index w.event w.registry w.time =
      (.ok (), { ring with
        slots := ring.slots.set index (Slot.ofWrites (writesAt fills index ++ [w])) }) := by
  unfold populate
  rw [h.getElem? hindex]
  dsimp only
  rw [Slot.populate?_ofWrites]

theorem populate (h : ring.Filled capacity fills) (w : Write) :
    Filled { ring with
      slots := ring.slots.set index (Slot.ofWrites (writesAt fills index ++ [w])) } capacity
        (fills ++ [⟨index, w⟩]) where
  slots_eq := by rw [h.slots_eq, slots_set]
  next_lt := h.next_lt

theorem isUsed_eq (h : ring.Filled capacity fills) (hindex : index < capacity) :
    ring.isUsed index = (lastAt fills index).isSome := by
  unfold isUsed
  rw [h.getElem? hindex, Option.any_some, Slot.used_ofWrites]
  rfl

end Filled

/-- The copy goes once around the ring. -/
theorem order_eq_rotate (ring : Ring) : ring.order = (List.range ring.capacity).rotate ring.start := by
  apply List.ext_getElem
  · rw [order_eq, List.length_map, List.length_rotate]
  · intro offset _ _
    simp [order_eq, List.getElem_rotate, Nat.add_comm]

end
end Ring

/-- The copy of a ring shows the used slots, each once, in cyclic order from the cursor, or from the first
slot as long as nothing counts as a wrap; each event is what its slot holds, the last that was written
to it. -/
structure Snapshot.Rotates (snapshot : Snapshot) (ring : Ring) (fills : List Fill) : Prop where
  status_eq : snapshot.status = ring.statusHeld
  slots_eq : snapshot.records.map Record.slot =
    ((List.range ring.capacity).rotate (if ring.wraps ≠ 0 then ring.next else 0)).filter ring.isUsed
  nodup : (snapshot.records.map Record.slot).Nodup
  mem_iff : ∀ index, index ∈ snapshot.records.map Record.slot ↔ ring.isUsed index = true
  held : ∀ record ∈ snapshot.records, ∃ slot w, ring.slots[record.slot]? = some slot ∧
    record = slot.record record.slot ∧
    Ring.lastAt fills record.slot = some w ∧ record = w.record record.slot
  length_eq : snapshot.records.length = snapshot.status.used
  used_le : snapshot.status.used ≤ ring.capacity

namespace Ring
section
variable {ring : Ring} {capacity : Nat} {fills : List Fill}

theorem start_eq (ring : Ring) : ring.start = if ring.wraps ≠ 0 then ring.next else 0 := by
  unfold start
  have hpos : 0 < ring.wraps ↔ ring.wraps ≠ 0 := by
    rw [UInt64.lt_iff_toNat_lt, Ne, ← UInt64.toNat_inj]
    exact Nat.pos_iff_ne_zero
  by_cases h : ring.wraps = 0
  · rw [if_neg (fun hlt => hpos.mp hlt h), if_neg (fun hne => hne h)]
  · rw [if_pos (hpos.mpr h), if_pos h]

theorem mem_order_of_isUsed {index : Nat} (hused : ring.isUsed index = true) :
    index ∈ ring.order := by
  apply mem_order
  by_contra hout
  unfold isUsed at hused
  rw [List.getElem?_eq_none (Nat.le_of_not_lt hout)] at hused
  exact Bool.false_ne_true hused

namespace Filled

theorem map_slot_records (h : ring.Filled capacity fills) :
    ring.snapshotHeld.records.map Record.slot = ring.order.filter ring.isUsed := by
  rw [records_of_slots h.slots_eq, List.map_filterMap, ← List.filterMap_eq_filter]
  apply List.filterMap_congr
  intro slot hslot
  have hlt := lt_of_mem_order hslot
  rw [h.capacity_eq] at hlt
  rw [Option.guard, h.isUsed_eq hlt]
  cases lastAt fills slot <;> rfl

theorem rotates (h : ring.Filled capacity fills) : ring.snapshotHeld.Rotates ring fills where
  status_eq := rfl
  slots_eq := by rw [h.map_slot_records, order_eq_rotate, start_eq]
  nodup := by
    rw [h.map_slot_records, order_eq_rotate]
    exact (List.nodup_rotate.mpr List.nodup_range).filter _
  mem_iff := by
    intro index
    rw [h.map_slot_records, List.mem_filter]
    exact and_iff_right_of_imp mem_order_of_isUsed
  held := by
    intro record hrecord
    rw [records_of_slots h.slots_eq] at hrecord
    obtain ⟨index, hindex, hlast⟩ := List.mem_filterMap.mp hrecord
    obtain ⟨w, hw, rfl⟩ := Option.map_eq_some_iff.mp hlast
    have hlt := lt_of_mem_order hindex
    rw [h.capacity_eq] at hlt
    exact ⟨_, w, h.getElem? hlt, (Slot.record_ofWrites hw index).symm, hw, rfl⟩
  length_eq := by
    -- The counter goes from the first slot on and the copy from its start; a rotation counts alike.
    have hlength := congrArg List.length h.map_slot_records
    rw [List.length_map, ← List.countP_eq_length_filter, order_eq_rotate, h.capacity_eq,
      (List.rotate_perm _ _).countP_eq] at hlength
    rw [hlength]
    refine (List.countP_congr ?_).trans (used_of_slots h.slots_eq).symm
    intro index hindex
    rw [h.isUsed_eq (List.mem_range.mp hindex)]
  used_le := List.countP_le_length

end Filled
end
end Ring

/-- A ring in use, with the fills of its slots since it was last emptied. -/
structure Usage where
  ring : Ring
  fills : List Fill := []

namespace Usage

/-- What may be done to a ring. Its counters are open to everyone, so they may be set to anything; its
lock may be taken, and freed by whoever likes to. -/
inductive Move where
  | act (registry : Registry) (action : Ring.Action)
  | setCounters (wraps dropped : UInt64)
  | acquire
  | release
  | resetHeld

/-- The fills after an action, by its answer: an event that was not written fills nothing. -/
def fillsAfter (usage : Usage) (registry : Registry) : Ring.Action → Ring.Answer → List Fill
  | .populate index event now, .done => usage.fills ++ [⟨index, ⟨event, registry, now⟩⟩]
  | .append event now, .done => usage.fills ++ [⟨usage.ring.next, ⟨event, registry, now⟩⟩]
  | .reset, .done => []
  | _, _ => usage.fills

/-- One move. A caller who would wait for the lock forever changes nothing. -/
def step (usage : Usage) : Move → Usage
  | .act registry action =>
    { ring := (usage.ring.step registry action).2
      fills := usage.fillsAfter registry action (usage.ring.step registry action).1 }
  | .setCounters wraps dropped => { usage with ring := { usage.ring with wraps, dropped } }
  | .acquire => { usage with ring := usage.ring.acquire?.getD usage.ring }
  | .release => { usage with ring := usage.ring.release }
  | .resetHeld => { ring := usage.ring.resetHeld }

def run (usage : Usage) (moves : List Move) : Usage := moves.foldl step usage

/-- The ring shows what the fills have left in it. -/
def Sound (capacity : Nat) (usage : Usage) : Prop := usage.ring.Filled capacity usage.fills

section
variable {capacity : Nat} {usage : Usage}

namespace Sound

theorem populate (h : usage.Sound capacity) (registry : Registry) (index : Nat) (event : Event)
    (now : Instant) : (usage.step (.act registry (.populate index event now))).Sound capacity := by
  have hcapacity := h.capacity_eq
  by_cases hindex : index < capacity
  · have heq := h.populate_eq hindex ⟨event, registry, now⟩
    simp only [Sound, step, Ring.step, heq]
    exact Ring.Filled.populate h ⟨event, registry, now⟩
  · have hout : usage.ring.capacity ≤ index := by omega
    have heq := Ring.populate_of_le hout ⟨event, registry, now⟩
    simp only [Sound, step, Ring.step, heq]
    exact h

/-- An event that is appended fills the slot that was reserved for it, where the cursor was. -/
theorem append (h : usage.Sound capacity) (registry : Registry) (event : Event) (now : Instant) :
    (usage.step (.act registry (.append event now))).Sound capacity := by
  have hadvance := h.advance
  rcases Ring.advance_cases usage.ring with ⟨-, heq⟩ | ⟨-, wraps, heq⟩
  · rw [heq] at hadvance
    simp only [Sound, step, Ring.step, Ring.append, heq]
    exact hadvance
  · rw [heq] at hadvance
    have hpopulate := hadvance.populate_eq h.next_lt ⟨event, registry, now⟩
    simp only [Sound, step, Ring.step, Ring.append, heq, hpopulate]
    exact hadvance.populate ⟨event, registry, now⟩

theorem reset (h : usage.Sound capacity) (registry : Registry) :
    (usage.step (.act registry .reset)).Sound capacity := by
  simp only [Sound, step, Ring.step]
  cases hreset : usage.ring.reset? with
  | none => exact h
  | some ring =>
    obtain rfl := Ring.reset?_eq_some hreset
    rw [h.capacity_eq]
    exact Ring.Filled.of_ofHistory (Nat.zero_lt_of_lt h.next_lt)

theorem act (h : usage.Sound capacity) (registry : Registry) (action : Ring.Action) :
    (usage.step (.act registry action)).Sound capacity := by
  cases action with
  | advance =>
    have hadvance := h.advance
    simp only [Sound, step, Ring.step]
    split
    · next heq =>
      rw [heq] at hadvance
      exact hadvance
    · next heq =>
      rw [heq] at hadvance
      exact hadvance
  | populate index event now => exact h.populate registry index event now
  | append event now => exact h.append registry event now
  | reset => exact h.reset registry
  | status => exact h
  | snapshot => exact h
  | recordDrop => exact h.congr rfl rfl
  | recordWrap => exact h.congr rfl rfl
  | resetCounters => exact h.congr rfl rfl

theorem acquire (h : usage.Sound capacity) : (usage.step .acquire).Sound capacity := by
  simp only [Sound, step, Ring.acquire?]
  cases usage.ring.lock.lock? with
  | none => exact h
  | some lock => exact h.congr rfl rfl

theorem step (h : usage.Sound capacity) (move : Move) : (usage.step move).Sound capacity := by
  cases move with
  | act registry action => exact h.act registry action
  | setCounters wraps dropped => exact h.congr rfl rfl
  | acquire => exact h.acquire
  | release => exact h.congr rfl rfl
  | resetHeld => exact h.resetHeld

theorem run (h : usage.Sound capacity) (moves : List Move) : (usage.run moves).Sound capacity := by
  induction moves generalizing usage with
  | nil => exact h
  | cons move moves ih => exact ih (h.step move)

end Sound

/-- However a ring has been used, its cursor is within it, only a slot within it can be filled, and that
changes this slot alone; a copy of it, taken as soon as the lock is free, shows the used slots in
order. -/
theorem snapshot_rotates_used {memory : Memory} {ring : Ring} {moves : List Move}
    (hnew : Ring.new? memory capacity = .ok ring) (hrun : run { ring } moves = usage) :
    usage.ring.capacity = capacity ∧ usage.ring.next < capacity ∧
      (∀ index, capacity ≤ index → ∀ w : Write,
        usage.ring.populate index w.event w.registry w.time =
          (.error (.invalidParameter "index" ("Slot " ++ Numeral.decimal index ++
            " out of range for capacity " ++ Numeral.decimal capacity)), usage.ring)) ∧
      (∀ index < capacity, ∀ w : Write, ∃ slot,
        usage.ring.populate index w.event w.registry w.time =
          (.ok (), { usage.ring with slots := usage.ring.slots.set index slot }) ∧
        slot.read? index = some (w.record index)) ∧
      usage.ring.snapshotHeld.Rotates usage.ring usage.fills ∧
      (usage.ring.lock.locked = false →
        usage.ring.snapshot? = some usage.ring.snapshotHeld) := by
  obtain ⟨hcapacity, rfl⟩ := Ring.new?_eq_ok hnew
  have hstart : Sound capacity { ring := Ring.ofHistory capacity 0 [] 0 } :=
    Ring.Filled.of_ofHistory hcapacity
  have hsound : usage.Sound capacity := hrun ▸ hstart.run moves
  have hlength := hsound.capacity_eq
  refine ⟨hlength, hsound.next_lt, ?outside, ?inside, hsound.rotates, ?free⟩
  case outside =>
    intro index hindex w
    rw [Ring.populate_of_le (hlength ▸ hindex) w, hlength]
  case inside =>
    intro index hindex w
    refine ⟨_, hsound.populate_eq hindex w, ?_⟩
    rw [Slot.read?_ofWrites, List.getLast?_concat]
    rfl
  case free =>
    intro hlocked
    rw [Ring.snapshot?, SpinLock.lock?, if_neg (by rw [hlocked]; exact Bool.false_ne_true)]
    rfl

end

/-- Two slots are filled that nobody reserved, and a wrap is counted that did not happen. -/
def countedByHand : List Move :=
  let registry : Registry := { capacity := 2 }
  [.act registry (.populate 2 { message := "last" } {}), .act registry .recordWrap,
    .act registry (.populate 0 { message := "first" } {}), .act registry .advance]

theorem snapshot_rotates_used_countedByHand :
    ∃ ring usage snapshot, Ring.new? .ample 3 = .ok ring ∧ run { ring } countedByHand = usage ∧
      usage.ring.snapshot? = some snapshot ∧ snapshot.Rotates usage.ring usage.fills ∧
      snapshot.records.map Record.slot = [2, 0] := by
  have hnew : Ring.new? .ample 3 = .ok (Ring.ofHistory 3 0 [] 0) := rfl
  have hrun : run { ring := Ring.ofHistory 3 0 [] 0 } countedByHand = _ := rfl
  obtain ⟨-, -, -, -, hrotates, hfree⟩ := snapshot_rotates_used hnew hrun
  exact ⟨_, _, _, hnew, rfl, hfree rfl, hrotates, hrotates.slots_eq.trans rfl⟩

end Usage
end EventLog
