import EventLog.Proofs.Ring.Traffic

/-! What a copy of a ring shows while writers are at work: for each slot its last delivery since
the ring was emptied, in the order in which the slots were last reserved. That is the order of the
events themselves only as long as no slot has been reserved again that still shows an older event.
-/
namespace EventLog.Traffic

/-- The delivery that a slot holds. -/
def held? (traffic : Traffic) (slot : Nat) : Option Delivery :=
  traffic.delivered.reverse.find? fun delivery => delivery.ticket.slot == slot

/-- The deliveries behind the records of a copy. -/
def shown (traffic : Traffic) (snapshot : Snapshot) : List Delivery :=
  snapshot.records.filterMap fun record => traffic.held? record.slot

/-- The copy lists its events in the order of their tickets. -/
def InOrder (traffic : Traffic) (snapshot : Snapshot) : Prop :=
  (traffic.shown snapshot).Pairwise fun d e => d.ticket.number < e.ticket.number

/-- Deliveries to one slot came in the order of their tickets. -/
def InSlotOrder (traffic : Traffic) : Prop :=
  traffic.delivered.Pairwise fun d e =>
    d.ticket.slot = e.ticket.slot → d.ticket.number < e.ticket.number

instance (traffic : Traffic) (snapshot : Snapshot) : Decidable (traffic.InOrder snapshot) := by
  unfold InOrder
  infer_instance

instance (traffic : Traffic) : Decidable traffic.InSlotOrder := by
  unfold InSlotOrder
  infer_instance

/-- The tickets counted in rounds of the ring, each round from the slot at which a copy starts. -/
def round (traffic : Traffic) (delivery : Delivery) : Nat :=
  (delivery.ticket.number + (traffic.ring.capacity - traffic.ring.start)) / traffic.ring.capacity

/-- The place of a delivery's slot in a copy. -/
def place (traffic : Traffic) (delivery : Delivery) : Nat :=
  (delivery.ticket.number + (traffic.ring.capacity - traffic.ring.start)) % traffic.ring.capacity

/-- The last ticket that was given for the slot of a delivery. -/
def latest (traffic : Traffic) (delivery : Delivery) : Nat :=
  delivery.ticket.number + (traffic.reserved - 1 - delivery.ticket.number) /
    traffic.ring.capacity * traffic.ring.capacity

section
variable {capacity : Nat} {traffic : Traffic}

theorem lastAt_delivered (deliveries : List Delivery) (slot : Nat) :
    Ring.lastAt (deliveries.map Delivery.fill) slot =
      (deliveries.reverse.find? fun d => d.ticket.slot == slot).map Delivery.write := by
  induction deliveries using List.reverseRecOn with
  | nil => rfl
  | append_singleton deliveries d ih =>
    rw [List.map_append, List.map_singleton, Ring.lastAt_concat, ih, List.reverse_append,
      List.reverse_singleton, List.singleton_append, List.find?_cons]
    by_cases h : d.ticket.slot = slot
    · simp [Delivery.fill, h]
    · simp [Delivery.fill, h, beq_eq_false_iff_ne.mpr h]

theorem held?_slot {slot : Nat} {d : Delivery} (h : traffic.held? slot = some d) :
    d.ticket.slot = slot := by
  simpa using List.find?_some h

theorem held?_mem {slot : Nat} {d : Delivery} (h : traffic.held? slot = some d) :
    d ∈ traffic.delivered := by
  simpa using List.mem_of_find?_eq_some h

/-- A slot holds the last delivery to it. -/
theorem held?_eq_some_iff {slot : Nat} {d : Delivery} :
    traffic.held? slot = some d ↔ d.ticket.slot = slot ∧
      ∃ before after, traffic.delivered = before ++ d :: after ∧
        ∀ e ∈ after, e.ticket.slot ≠ slot := by
  rw [held?, List.find?_eq_some_iff_append]
  constructor
  · rintro ⟨hslot, after, before, hdelivered, hafter⟩
    refine ⟨by simpa using hslot, before.reverse, after.reverse, ?_, ?_⟩
    · rw [← List.reverse_reverse traffic.delivered, hdelivered]
      simp
    · simpa using hafter
  · rintro ⟨hslot, before, after, hdelivered, hafter⟩
    refine ⟨by simpa using hslot, after.reverse, before.reverse, ?_, ?_⟩
    · rw [hdelivered]
      simp
    · simpa using hafter

namespace Sound

theorem capacity_eq (h : Sound capacity traffic) : traffic.ring.capacity = capacity := by
  rw [h.ring, Ring.capacity_ofHistory]

theorem mem_tickets {d : Delivery} (hmem : d ∈ traffic.delivered) : d.ticket ∈ traffic.tickets :=
  List.mem_append_right _ (List.mem_map_of_mem hmem)

/-- The copy never waits, and it shows what the slots hold. -/
theorem snapshot (h : Sound capacity traffic) :
    ∃ snapshot, traffic.ring.snapshot? = some snapshot ∧
      traffic.shown snapshot = traffic.ring.order.filterMap traffic.held? ∧
      snapshot.records = (traffic.shown snapshot).map Delivery.record := by
  have hrecords : traffic.ring.snapshotHeld.records =
      (traffic.ring.order.filterMap traffic.held?).map Delivery.record := by
    rw [h.ring, Ring.records_ofHistory, ← h.ring, List.map_filterMap]
    apply List.filterMap_congr
    intro slot _
    rw [lastAt_delivered, ← held?, Option.map_map]
    cases hheld : traffic.held? slot with
    | none => rfl
    | some d => simp [Delivery.record, held?_slot hheld]
  have hshown : traffic.shown traffic.ring.snapshotHeld =
      traffic.ring.order.filterMap traffic.held? := by
    rw [shown, hrecords, List.map_filterMap, List.filterMap_filterMap]
    apply List.filterMap_congr
    intro slot _
    cases hheld : traffic.held? slot with
    | none => rfl
    | some d => simp [Delivery.record, held?_slot hheld, hheld]
  refine ⟨traffic.ring.snapshotHeld, ?_, hshown, hshown ▸ hrecords⟩
  rw [h.ring, Ring.snapshot?_ofHistory]

theorem start_lt (h : Sound capacity traffic) (hcapacity : 0 < capacity) :
    traffic.ring.start < capacity := by
  rw [h.ring, Ring.start_ofHistory]
  split
  · exact hcapacity
  · exact Nat.mod_lt _ hcapacity

/-- A copy lists the slots by their places. -/
theorem shown_pairwise_place (h : Sound capacity traffic) (hcapacity : 0 < capacity) :
    (traffic.ring.order.filterMap traffic.held?).Pairwise fun d e =>
      traffic.place d < traffic.place e := by
  have hplace {offset : Nat} (hoffset : offset < capacity) {d : Delivery}
      (hheld : traffic.held? ((traffic.ring.start + offset) % capacity) = some d) :
      traffic.place d = offset := by
    have hstart := h.start_lt hcapacity
    have hmod : d.ticket.number ≡ traffic.ring.start + offset [MOD capacity] := by
      rw [Nat.ModEq, ← h.tickets.slot_eq _ (mem_tickets (held?_mem hheld)), held?_slot hheld]
    have hsum := hmod.add_right (capacity - traffic.ring.start)
    rw [show traffic.ring.start + offset + (capacity - traffic.ring.start) = offset + capacity
      by omega, Nat.ModEq, Nat.add_mod_right, Nat.mod_eq_of_lt hoffset] at hsum
    rw [place, h.capacity_eq, hsum]
  rw [Ring.order_eq, h.capacity_eq, List.filterMap_map, List.pairwise_filterMap]
  refine List.Pairwise.imp_of_mem ?_ List.pairwise_lt_range
  intro i j hi hj hlt d hd e he
  rw [hplace (List.mem_range.mp hi) hd, hplace (List.mem_range.mp hj) he]
  exact hlt

/-- Within one copy the order of the tickets is the order of their rounds. -/
theorem number_lt_iff_round_le (h : Sound capacity traffic) (hcapacity : 0 < capacity)
    {d e : Delivery} (hplace : traffic.place d < traffic.place e) :
    d.ticket.number < e.ticket.number ↔ traffic.round d ≤ traffic.round e := by
  rw [place, place, h.capacity_eq] at hplace
  rw [round, round, h.capacity_eq]
  have hd := Nat.div_add_mod (d.ticket.number + (capacity - traffic.ring.start)) capacity
  have he := Nat.div_add_mod (e.ticket.number + (capacity - traffic.ring.start)) capacity
  have hmod := Nat.mod_lt (e.ticket.number + (capacity - traffic.ring.start)) hcapacity
  constructor
  · intro hlt
    exact Nat.div_le_div_right (by omega)
  · intro hle
    have := Nat.mul_le_mul_left capacity hle
    omega

/-- Unless the wrap counter has overflowed, a slot's place tells when it was last reserved. -/
theorem latest_eq (h : Sound capacity traffic) (hcapacity : 0 < capacity)
    (hbound : traffic.reserved < capacity * 2 ^ 64) {d : Delivery}
    (hnumber : d.ticket.number < traffic.reserved) :
    traffic.latest d = traffic.reserved - capacity + traffic.place d := by
  have hwraps : traffic.reserved / capacity % 2 ^ 64 = traffic.reserved / capacity :=
    Nat.mod_eq_of_lt (Nat.div_lt_of_lt_mul hbound)
  have hstart : traffic.ring.start =
      if traffic.reserved / capacity = 0 then 0 else traffic.reserved % capacity := by
    rw [h.ring, Ring.start_ofHistory, hwraps]
  rw [latest, place, h.capacity_eq, hstart]
  have hsteps := Nat.div_add_mod (traffic.reserved - 1 - d.ticket.number) capacity
  have hrest := Nat.mod_lt (traffic.reserved - 1 - d.ticket.number) hcapacity
  rw [Nat.mul_comm _ capacity]
  split
  · next hzero =>
    have hsmall : traffic.reserved < capacity := by
      rcases Nat.div_eq_zero_iff.mp hzero with hc | hlt
      · omega
      · exact hlt
    rw [Nat.div_eq_of_lt (by omega), Nat.sub_zero, Nat.add_mod_right,
      Nat.mod_eq_of_lt (by omega)]
    omega
  · next hwrapped =>
    have hfull : capacity ≤ traffic.reserved := by
      by_contra hlt
      exact hwrapped (Nat.div_eq_of_lt (by omega))
    obtain ⟨k, hk⟩ : ∃ k, traffic.reserved / capacity =
        (traffic.reserved - 1 - d.ticket.number) / capacity + k :=
      Nat.exists_eq_add_of_le (Nat.div_le_div_right (by omega))
    have hreserved := Nat.div_add_mod traffic.reserved capacity
    have hcursor := Nat.mod_lt traffic.reserved hcapacity
    rw [hk, Nat.mul_add] at hreserved
    have hplace : d.ticket.number + (capacity - traffic.reserved % capacity) =
        capacity - 1 - (traffic.reserved - 1 - d.ticket.number) % capacity + capacity * k := by
      omega
    rw [hplace, Nat.add_mul_mod_self_left, Nat.mod_eq_of_lt (by omega)]
    omega

end Sound

/-- A list sorted by `f` is sorted by `g` exactly if `g` never contradicts `f` on its members. -/
theorem pairwise_lt_iff {α : Type} {l : List α} {f g : α → Nat}
    (hf : l.Pairwise fun a b => f a < f b) (hinj : ∀ a ∈ l, ∀ b ∈ l, g a = g b → f a = f b) :
    l.Pairwise (fun a b => g a < g b) ↔ ∀ a ∈ l, ∀ b ∈ l, g a < g b → f a < f b := by
  constructor
  · intro hg a ha b hb hlt
    obtain ⟨i, hi, rfl⟩ := List.mem_iff_getElem.mp ha
    obtain ⟨j, hj, rfl⟩ := List.mem_iff_getElem.mp hb
    rw [List.pairwise_iff_getElem] at hf hg
    rcases Nat.lt_trichotomy i j with hij | rfl | hij
    · exact hf i j hi hj hij
    · omega
    · have := hg j i hj hi hij
      omega
  · intro hall
    refine List.Pairwise.imp_of_mem ?_ hf
    intro a b ha hb hlt
    rcases Nat.lt_trichotomy (g a) (g b) with h | h | h
    · exact h
    · have := hinj a ha b hb h
      omega
    · have := hall b hb a ha h
      omega

namespace Sound

theorem number_lt_of_shown (h : Sound capacity traffic) (hreset : traffic.resets = 0)
    {d : Delivery} (hd : d ∈ traffic.ring.order.filterMap traffic.held?) :
    d.ticket.number < traffic.reserved := by
  obtain ⟨slot, -, hheld⟩ := List.mem_filterMap.mp hd
  have hmem := mem_tickets (held?_mem hheld)
  have hresets := h.tickets.resets_le _ hmem
  exact h.tickets.number_lt hmem (by omega)

theorem pairwise_number_iff_round (h : Sound capacity traffic) (hcapacity : 0 < capacity) :
    (traffic.ring.order.filterMap traffic.held?).Pairwise
        (fun d e => d.ticket.number < e.ticket.number) ↔
      (traffic.ring.order.filterMap traffic.held?).Pairwise
        fun d e => traffic.round d ≤ traffic.round e := by
  have hplaces := h.shown_pairwise_place hcapacity
  constructor
  · intro horder
    refine List.Pairwise.imp₂ ?_ hplaces horder
    intro d e hplace hlt
    exact (h.number_lt_iff_round_le hcapacity hplace).mp hlt
  · intro hrounds
    refine List.Pairwise.imp₂ ?_ hplaces hrounds
    intro d e hplace hle
    exact (h.number_lt_iff_round_le hcapacity hplace).mpr hle

theorem pairwise_number_iff_latest (h : Sound capacity traffic) (hcapacity : 0 < capacity)
    (hreset : traffic.resets = 0) (hbound : traffic.reserved < capacity * 2 ^ 64) :
    (traffic.ring.order.filterMap traffic.held?).Pairwise
        (fun d e => d.ticket.number < e.ticket.number) ↔
      ∀ d ∈ traffic.ring.order.filterMap traffic.held?,
        ∀ e ∈ traffic.ring.order.filterMap traffic.held?,
          d.ticket.number < e.ticket.number → traffic.latest d < traffic.latest e := by
  rw [pairwise_lt_iff (h.shown_pairwise_place hcapacity) ?_]
  · refine forall₂_congr fun d hd => forall₂_congr fun e he => ?_
    rw [h.latest_eq hcapacity hbound (h.number_lt_of_shown hreset hd),
      h.latest_eq hcapacity hbound (h.number_lt_of_shown hreset he)]
    omega
  · intro d _ e _ heq
    rw [place, place, heq]

end Sound

/-- A copy taken at any moment lists its events in the order of their tickets exactly if the
rounds of the tickets, counted from the slot where the copy starts, do not go back along it. As
long as the wrap counter has not overflowed this means: of any two events that it shows, the slot
of the older one was last reserved before the slot of the newer one. -/
theorem snapshot_in_ticket_order_iff {memory : Memory} {ring : Ring} {moves : List Move}
    (hnew : Ring.new? memory capacity = .ok ring) (hrun : run? { ring } moves = some traffic)
    (hreset : traffic.resets = 0) :
    ∃ snapshot, traffic.ring.snapshot? = some snapshot ∧
      snapshot.records = (traffic.shown snapshot).map Delivery.record ∧
      (traffic.InOrder snapshot ↔
        (traffic.shown snapshot).Pairwise fun d e => traffic.round d ≤ traffic.round e) ∧
      (traffic.reserved < capacity * 2 ^ 64 →
        (traffic.InOrder snapshot ↔
          ∀ d ∈ traffic.shown snapshot, ∀ e ∈ traffic.shown snapshot,
            d.ticket.number < e.ticket.number → traffic.latest d < traffic.latest e)) := by
  obtain ⟨hcapacity, rfl⟩ := Ring.new?_eq_ok hnew
  have hsound := sound_start.run hcapacity hrun
  obtain ⟨snapshot, hsnapshot, hshown, hrecords⟩ := hsound.snapshot
  refine ⟨snapshot, hsnapshot, hrecords, ?_, ?_⟩
  · rw [InOrder, hshown]
    exact hsound.pairwise_number_iff_round hcapacity
  · intro hbound
    rw [InOrder, hshown]
    exact hsound.pairwise_number_iff_latest hcapacity hreset hbound

end

/-- An event with a message alone. -/
def plain (message : String) : Write := ⟨{ message }, { capacity := 2 }, {}⟩

/-- Two slots, both filled, and the first one reserved again. -/
def reservedAgain : List Move :=
  [.reserve, .deliver ⟨0, 0, 0⟩ (plain "a"), .reserve, .deliver ⟨0, 1, 1⟩ (plain "b"), .reserve]

theorem snapshot_in_ticket_order_iff_reservedAgain :
    ∃ ring traffic snapshot, Ring.new? .ample 2 = .ok ring ∧
      run? { ring } reservedAgain = some traffic ∧ traffic.resets = 0 ∧
      traffic.ring.snapshot? = some snapshot ∧
      (traffic.InOrder snapshot ↔
        (traffic.shown snapshot).Pairwise fun d e => traffic.round d ≤ traffic.round e) := by
  have hnew : Ring.new? .ample 2 = .ok (Ring.ofHistory 2 0 [] 0) := rfl
  have hrun : run? { ring := Ring.ofHistory 2 0 [] 0 } reservedAgain = some _ := rfl
  obtain ⟨snapshot, hsnapshot, -, horder, -⟩ := snapshot_in_ticket_order_iff hnew hrun rfl
  exact ⟨_, _, snapshot, hnew, hrun, rfl, hsnapshot, horder⟩

/-- The slot that has been reserved again still shows its old event, and shows it last. -/
theorem reservedAgain_snapshot_not_inOrder :
    ∃ ring traffic snapshot, Ring.new? .ample 2 = .ok ring ∧
      run? { ring } reservedAgain = some traffic ∧ traffic.resets = 0 ∧ traffic.InSlotOrder ∧
      traffic.ring.snapshot? = some snapshot ∧ ¬ traffic.InOrder snapshot := by
  refine ⟨_, _, _, rfl, rfl, rfl, ?_, rfl, ?_⟩
  · decide
  · decide

end EventLog.Traffic
