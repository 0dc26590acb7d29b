import EventLog.Proofs.Ring.Dump

/-! What a reset does not do: it takes no reservation back. A ticket from before it still fills its
slot, and the event stands there among the new ones until the slot is filled once more. -/
namespace EventLog.Traffic

/-- The ticket was given before the ring was last emptied. -/
def Late (traffic : Traffic) (delivery : Delivery) : Prop :=
  delivery.ticket.resets < traffic.resets

/-- Every fill that came too late has been overwritten since. -/
def LateOverwritten (traffic : Traffic) : Prop :=
  ∀ before late after, traffic.delivered = before ++ late :: after → traffic.Late late →
    ∃ delivery ∈ after, delivery.ticket.slot = late.ticket.slot

/-- No slot at or after the cursor is in use. -/
def UnusedFromCursor (traffic : Traffic) : Prop :=
  ∀ (index : Nat) (slot : Slot), traffic.ring.next ≤ index →
    traffic.ring.slots[index]? = some slot → slot.used = false

section
variable {capacity : Nat} {traffic : Traffic}

theorem held?_isSome_iff {slot : Nat} :
    (traffic.held? slot).isSome ↔ ∃ d ∈ traffic.delivered, d.ticket.slot = slot := by
  simp [held?]

namespace Sound

theorem slot_lt_of_delivered (h : Sound capacity traffic) (hcapacity : 0 < capacity)
    {d : Delivery} (hmem : d ∈ traffic.delivered) : d.ticket.slot < capacity :=
  h.slot_lt hcapacity (mem_tickets hmem)

/-- A copy shows exactly the deliveries that the slots hold. -/
theorem mem_held (h : Sound capacity traffic) (hcapacity : 0 < capacity) {d : Delivery} :
    d ∈ traffic.ring.order.filterMap traffic.held? ↔ traffic.held? d.ticket.slot = some d := by
  rw [List.mem_filterMap]
  constructor
  · rintro ⟨slot, -, hheld⟩
    rwa [held?_slot hheld]
  · intro hheld
    have hslot := h.slot_lt_of_delivered hcapacity (held?_mem hheld)
    rw [← h.capacity_eq] at hslot
    exact ⟨_, Ring.mem_order hslot, hheld⟩

theorem shown_current_iff (h : Sound capacity traffic) (hcapacity : 0 < capacity) :
    (∀ d ∈ traffic.ring.order.filterMap traffic.held?, d.ticket.resets = traffic.resets) ↔
      traffic.LateOverwritten := by
  constructor
  · intro hcurrent before late after hdelivered hlate
    by_contra hkept
    push Not at hkept
    have hheld : traffic.held? late.ticket.slot = some late :=
      held?_eq_some_iff.mpr ⟨rfl, before, after, hdelivered, hkept⟩
    have := hcurrent late ((h.mem_held hcapacity).mpr hheld)
    unfold Late at hlate
    omega
  · intro hover d hd
    have hheld := (h.mem_held hcapacity).mp hd
    have hle := h.tickets.resets_le _ (mem_tickets (held?_mem hheld))
    obtain ⟨-, before, after, hdelivered, hafter⟩ := held?_eq_some_iff.mp hheld
    by_contra hne
    obtain ⟨e, he, hslot⟩ := hover before d after hdelivered (by unfold Late; omega)
    exact hafter e he hslot

theorem used_iff (h : Sound capacity traffic) {index : Nat} {slot : Slot}
    (hslot : traffic.ring.slots[index]? = some slot) :
    slot.used = true ↔ ∃ d ∈ traffic.delivered, d.ticket.slot = index := by
  have hlt : index < capacity := by
    rw [← h.capacity_eq]
    exact (List.getElem?_eq_some_iff.mp hslot).1
  rw [h.ring, Ring.slots_ofHistory hlt] at hslot
  obtain rfl := Option.some.inj hslot
  rw [Slot.used_ofWrites, ← Ring.lastAt, lastAt_delivered, ← held?, Option.isSome_map,
    held?_isSome_iff]

theorem unusedFromCursor_iff (h : Sound capacity traffic) (hcapacity : 0 < capacity) :
    traffic.UnusedFromCursor ↔
      ∀ d ∈ traffic.delivered, d.ticket.slot < traffic.ring.next := by
  constructor
  · intro hunused d hd
    by_contra hle
    have hslot := h.slot_lt_of_delivered hcapacity hd
    rw [← h.capacity_eq] at hslot
    have hget : traffic.ring.slots[d.ticket.slot]? = some traffic.ring.slots[d.ticket.slot] :=
      List.getElem?_eq_getElem hslot
    have hfree := hunused _ _ (by omega) hget
    rw [(h.used_iff hget).mpr ⟨d, hd, rfl⟩] at hfree
    exact Bool.noConfusion hfree
  · intro hbefore index slot hle hget
    rw [← Bool.not_eq_true, h.used_iff hget]
    rintro ⟨d, hd, rfl⟩
    have := hbefore d hd
    omega

/-- Before the first wrap the cursor counts the reservations, so it has passed every slot that was
reserved since the ring was emptied. -/
theorem slot_lt_next (h : Sound capacity traffic) (hcapacity : 0 < capacity)
    (hwraps : traffic.ring.wraps = 0) (hbound : traffic.reserved < capacity * 2 ^ 64)
    {d : Delivery} (hd : d ∈ traffic.delivered) (hcurrent : ¬ traffic.Late d) :
    d.ticket.slot < traffic.ring.next := by
  have hround : traffic.reserved / capacity = 0 := by
    have hlt : traffic.reserved / capacity < 2 ^ 64 := Nat.div_lt_of_lt_mul hbound
    have hzero : traffic.reserved / capacity % 2 ^ 64 = 0 := by
      have := congrArg UInt64.toNat hwraps
      rw [h.ring] at this
      simpa [Ring.ofHistory] using this
    rwa [Nat.mod_eq_of_lt hlt] at hzero
  have hsmall : traffic.reserved < capacity := by
    rcases Nat.div_eq_zero_iff.mp hround with hzero | hlt
    · omega
    · exact hlt
  have hle := h.tickets.resets_le _ (mem_tickets hd)
  have hnumber := h.tickets.number_lt (mem_tickets hd) (by unfold Late at hcurrent; omega)
  have hnext : traffic.ring.next = traffic.reserved := by
    rw [h.ring]
    exact Nat.mod_eq_of_lt hsmall
  rw [h.tickets.slot_eq _ (mem_tickets hd), hnext, Nat.mod_eq_of_lt (by omega)]
  exact hnumber

end Sound

/-- A copy is free of events from before the last reset exactly if every late fill has been
overwritten. And while the wrap counter is zero, the slots from the cursor on are unused exactly
if all late fills went to slots before the cursor; should the counter be zero because it has
overflowed, that is asked of all fills. -/
theorem reset_separates_iff {memory : Memory} {ring : Ring} {moves : List Move}
    (hnew : Ring.new? memory capacity = .ok ring) (hrun : run? { ring } moves = some traffic) :
    ∃ snapshot, traffic.ring.snapshot? = some snapshot ∧
      snapshot.records = (traffic.shown snapshot).map Delivery.record ∧
      ((∀ d ∈ traffic.shown snapshot, d.ticket.resets = traffic.resets) ↔
        traffic.LateOverwritten) ∧
      (traffic.ring.wraps = 0 →
        (traffic.UnusedFromCursor ↔
          ∀ d ∈ traffic.delivered, traffic.Late d ∨ capacity * 2 ^ 64 ≤ traffic.reserved →
            d.ticket.slot < traffic.ring.next)) := by
  obtain ⟨hcapacity, rfl⟩ := Ring.new?_eq_ok hnew
  have hsound := sound_start.run hcapacity hrun
  obtain ⟨snapshot, hsnapshot, hshown, hrecords⟩ := hsound.snapshot
  refine ⟨snapshot, hsnapshot, hrecords, ?_, ?_⟩
  · rw [hshown]
    exact hsound.shown_current_iff hcapacity
  · intro hwraps
    rw [hsound.unusedFromCursor_iff hcapacity]
    constructor
    · intro hall d hd _
      exact hall d hd
    · intro hexcept d hd
      by_cases hlate : traffic.Late d ∨ capacity * 2 ^ 64 ≤ traffic.reserved
      · exact hexcept d hd hlate
      · rw [not_or, Nat.not_le] at hlate
        exact hsound.slot_lt_next hcapacity hwraps hlate.2 hd hlate.1

end

/-- A slot is reserved, the ring is emptied, and then the event arrives. -/
def filledLate : List Move := [.reserve, .reset, .deliver ⟨0, 0, 0⟩ (plain "old")]

theorem reset_separates_iff_filledLate :
    ∃ ring traffic snapshot, Ring.new? .ample 2 = .ok ring ∧
      run? { ring } filledLate = some traffic ∧
      traffic.ring.snapshot? = some snapshot ∧
      ((∀ d ∈ traffic.shown snapshot, d.ticket.resets = traffic.resets) ↔
        traffic.LateOverwritten) := by
  have hnew : Ring.new? .ample 2 = .ok (Ring.ofHistory 2 0 [] 0) := rfl
  have hrun : run? { ring := Ring.ofHistory 2 0 [] 0 } filledLate = some _ := rfl
  obtain ⟨snapshot, hsnapshot, -, hcurrent, -⟩ := reset_separates_iff hnew hrun
  exact ⟨_, _, snapshot, hnew, hrun, hsnapshot, hcurrent⟩

/-- The emptied ring shows the old event, in a slot that its cursor has not reached. -/
theorem filledLate_shows_old :
    ∃ ring traffic snapshot, Ring.new? .ample 2 = .ok ring ∧
      run? { ring } filledLate = some traffic ∧
      traffic.ring.snapshot? = some snapshot ∧
      (∃ d ∈ traffic.shown snapshot, d.ticket.resets < traffic.resets) ∧
      traffic.ring.wraps = 0 ∧ ¬ traffic.UnusedFromCursor := by
  refine ⟨_, _, _, rfl, rfl, rfl, ⟨⟨⟨0, 0, 0⟩, plain "old"⟩, ?_, ?_⟩, rfl, ?_⟩
  · exact List.mem_singleton.mpr rfl
  · decide
  · intro hunused
    exact Bool.noConfusion (hunused 0 _ (Nat.zero_le 0) rfl)

end EventLog.Traffic
