import EventLog.Proofs.Ring.Dump
import EventLog.Proofs.Ring.Sequence
import Mathlib.Data.List.Nodup

/-! A ring at rest. Once every reservation has been filled it does not show in which order the
fills of different slots came: the ring is the one that appends in the order of the tickets would
have left. -/
namespace EventLog

/-- The ring is new, or has just been emptied. -/
def Ring.Fresh (ring : Ring) : Prop :=
  (∃ memory capacity, Ring.new? memory capacity = .ok ring) ∨
    ∃ old : Ring, 0 < old.capacity ∧ old.reset? = some ring

theorem Ring.Fresh.eq_ofHistory {ring : Ring} (h : ring.Fresh) :
    0 < ring.capacity ∧ ring = Ring.ofHistory ring.capacity 0 [] 0 := by
  rcases h with ⟨_, capacity, hnew⟩ | ⟨old, hpos, hreset⟩
  · obtain ⟨hpos, rfl⟩ := Ring.new?_eq_ok hnew
    rw [Ring.capacity_ofHistory]
    exact ⟨hpos, rfl⟩
  · obtain rfl := Ring.reset?_eq_some hreset
    rw [Ring.capacity_ofHistory]
    exact ⟨hpos, rfl⟩

/-- The writes that went to a slot are those whose numbers belong to it. -/
theorem Ring.writesAt_sequence (capacity : Nat) (writes : List Write) (slot : Nat) :
    Ring.writesAt (Ring.sequence capacity writes) slot =
      ((List.range writes.length).filter fun k => k % capacity == slot).filterMap (writes[·]?) := by
  induction writes using List.reverseRecOn with
  | nil => rfl
  | append_singleton writes w ih =>
    have hearlier : ((List.range writes.length).filter fun k => k % capacity == slot).filterMap
        ((writes ++ [w])[·]?) =
        ((List.range writes.length).filter fun k => k % capacity == slot).filterMap
          (writes[·]?) := by
      apply List.filterMap_congr
      intro k hk
      exact List.getElem?_append_left (List.mem_range.mp (List.mem_filter.mp hk).1)
    rw [Ring.sequence_concat, Ring.writesAt_concat, ih, List.length_append, List.length_singleton,
      List.range_succ, List.filter_append, List.filterMap_append, hearlier]
    by_cases hslot : writes.length % capacity = slot <;> simp [hslot]

namespace Traffic

/-- The events in the order of their tickets. -/
def writes (traffic : Traffic) : List Write :=
  (List.range traffic.reserved).filterMap fun number =>
    (traffic.delivered.find? fun d => d.ticket.number == number).map Delivery.write

/-- No ticket was used before the one that reserved the same slot in the round before it. -/
def InRounds (traffic : Traffic) : Prop :=
  traffic.delivered.Pairwise fun d e => d.ticket.number ≠ e.ticket.number + traffic.ring.capacity

instance (traffic : Traffic) : Decidable traffic.InRounds := by
  unfold InRounds
  infer_instance

theorem getElem?_filterMap_range {α : Type} {n : Nat} {f : Nat → Option α}
    (h : ∀ k < n, (f k).isSome) :
    ((List.range n).filterMap f).length = n ∧
      ∀ k < n, ((List.range n).filterMap f)[k]? = f k := by
  induction n with
  | zero => simp
  | succ n ih =>
    obtain ⟨hlength, hget⟩ := ih fun k hk => h k (by omega)
    obtain ⟨a, ha⟩ := Option.isSome_iff_exists.mp (h n (by omega))
    rw [List.range_succ, List.filterMap_append, List.filterMap_cons_some ha,
      List.filterMap_nil]
    refine ⟨by simp [hlength], fun k hk => ?_⟩
    rcases Nat.lt_succ_iff_lt_or_eq.mp hk with hlt | rfl
    · rw [List.getElem?_append_left (by omega), hget k hlt]
    · rw [List.getElem?_append_right (by omega), hlength, ha]
      simp

/-- In a list of all numbers below `n` in which each comes before the one `capacity` higher,
numbers of one slot increase. -/
theorem pairwise_of_rounds {numbers : List Nat} {n capacity : Nat}
    (hperm : numbers.Perm (List.range n))
    (hrounds : numbers.Pairwise fun a b => a ≠ b + capacity) :
    numbers.Pairwise fun a b => a % capacity = b % capacity → a < b := by
  have hnodup : numbers.Nodup := hperm.nodup_iff.mpr List.nodup_range
  -- Wherever two numbers of one slot stand, the lower one comes first; the rounds between them are
  -- all in the list.
  have hfirst (k : Nat) : ∀ (i j : Nat) (hi : i < numbers.length) (hj : j < numbers.length),
      numbers[j] = numbers[i] + capacity * k → i ≤ j := by
    induction k with
    | zero =>
      intro i j hi hj heq
      exact ((hnodup.getElem_inj_iff).mp (by simpa using heq)).ge
    | succ k ih =>
      intro i j hi hj heq
      rw [Nat.mul_succ, ← Nat.add_assoc] at heq
      have hbelow : numbers[i] + capacity * k ∈ numbers := by
        have := List.mem_range.mp (hperm.mem_iff.mp (List.getElem_mem hj))
        exact hperm.mem_iff.mpr (List.mem_range.mpr (by omega))
      obtain ⟨m, hm, hmid⟩ := List.mem_iff_getElem.mp hbelow
      have him := ih i m hi hm hmid
      rw [List.pairwise_iff_getElem] at hrounds
      by_contra hlt
      exact hrounds j m hj hm (by omega) (by omega)
  rw [List.pairwise_iff_getElem]
  intro i j hi hj hij hmod
  by_contra hle
  obtain ⟨k, hk⟩ := (Nat.modEq_iff_dvd' (by omega)).mp hmod.symm
  have := hfirst k j i hj hi (by omega)
  omega

section
variable {ring : Ring} {traffic : Traffic} {moves : List Move} {capacity : Nat}

/-- Without a reservation that is still to be filled, the deliveries are all tickets. -/
theorem Sound.numbers_delivered (h : Sound capacity traffic) (hreset : traffic.resets = 0)
    (hpending : traffic.pending = []) :
    (traffic.delivered.map fun d => d.ticket.number).Perm (List.range traffic.reserved) := by
  have hall : traffic.tickets.filter (fun ticket => ticket.resets == traffic.resets) =
      traffic.delivered.map Delivery.ticket := by
    rw [List.filter_eq_self.mpr]
    · simp [Traffic.tickets, hpending]
    · intro ticket hmem
      have := h.tickets.resets_le ticket hmem
      simp only [beq_iff_eq]
      omega
  have hnumbers := h.tickets.numbers
  rwa [hall, List.map_map] at hnumbers

theorem writes_of_perm
    (hperm : (traffic.delivered.map fun d => d.ticket.number).Perm (List.range traffic.reserved)) :
    traffic.writes.length = traffic.reserved ∧
      ∀ d ∈ traffic.delivered, traffic.writes[d.ticket.number]? = some d.write := by
  have hfind {number : Nat} (h : number < traffic.reserved) :
      (traffic.delivered.find? fun d => d.ticket.number == number).isSome := by
    rw [← List.mem_range, ← hperm.mem_iff] at h
    simpa using h
  have hwrites : ∀ number < traffic.reserved,
      ((traffic.delivered.find? fun d => d.ticket.number == number).map Delivery.write).isSome := by
    intro number h
    rw [Option.isSome_map]
    exact hfind h
  obtain ⟨hlength, hget⟩ := getElem?_filterMap_range hwrites
  refine ⟨hlength, fun d hd => ?_⟩
  have hlt : d.ticket.number < traffic.reserved :=
    List.mem_range.mp (hperm.mem_iff.mp (List.mem_map_of_mem hd))
  rw [writes, hget _ hlt]
  obtain ⟨e, he⟩ := Option.isSome_iff_exists.mp (hfind hlt)
  have hsame : e = d := by
    have hnodup : (traffic.delivered.map fun d => d.ticket.number).Nodup :=
      hperm.nodup_iff.mpr List.nodup_range
    exact List.inj_on_of_nodup_map hnodup (List.mem_of_find?_eq_some he) hd
      (by simpa using List.find?_some he)
  rw [he, hsame, Option.map_some]

/-- Slot by slot the deliveries are those of appends in the order of the tickets. -/
theorem writesAt_delivered (h : Sound capacity traffic) (hrounds : traffic.InRounds)
    (hperm : (traffic.delivered.map fun d => d.ticket.number).Perm (List.range traffic.reserved))
    (slot : Nat) :
    Ring.writesAt (traffic.delivered.map Delivery.fill) slot =
      Ring.writesAt (Ring.sequence capacity traffic.writes) slot := by
  obtain ⟨hlength, hget⟩ := writes_of_perm hperm
  have hnumbers : (traffic.delivered.map fun d => d.ticket.number).filter
      (fun number => number % capacity == slot) =
      (List.range traffic.reserved).filter fun number => number % capacity == slot := by
    have hsorted : ((traffic.delivered.map fun d => d.ticket.number).filter
        fun number => number % capacity == slot).Pairwise (· < ·) := by
      rw [InRounds, h.capacity_eq] at hrounds
      have hslots := (pairwise_of_rounds hperm (List.pairwise_map.mpr hrounds)).filter
        fun number => number % capacity == slot
      refine List.Pairwise.imp_of_mem ?_ hslots
      intro a b ha hb hlt
      simp only [List.mem_filter, beq_iff_eq] at ha hb
      exact hlt (by rw [ha.2, hb.2])
    have hantisymm : ∀ a b : Nat, a < b → b < a → a = b := by omega
    exact List.Perm.eq_of_pairwise (fun a b _ _ => hantisymm a b) hsorted
      (List.pairwise_lt_range.filter _) (hperm.filter _)
  have hslots : (traffic.delivered.filter fun d => d.ticket.slot == slot) =
      traffic.delivered.filter fun d => d.ticket.number % capacity == slot := by
    apply List.filter_congr
    intro d hd
    rw [h.tickets.slot_eq _ (Sound.mem_tickets hd)]
  rw [Ring.writesAt_sequence, hlength, ← hnumbers, List.filter_map, List.filterMap_map,
    Ring.writesAt, List.filter_map, List.map_map]
  calc
    _ = (traffic.delivered.filter fun d => d.ticket.slot == slot).map Delivery.write := rfl
    _ = (traffic.delivered.filter fun d => d.ticket.number % capacity == slot).filterMap
        (some ∘ Delivery.write) := by rw [hslots, List.filterMap_eq_map]
    _ = _ := by
      apply List.filterMap_congr
      intro d hd
      exact (hget d (List.mem_of_mem_filter hd)).symm

theorem Sound.ring_eq_ofWrites (h : Sound capacity traffic) (hrounds : traffic.InRounds)
    (hperm : (traffic.delivered.map fun d => d.ticket.number).Perm
      (List.range traffic.reserved)) :
    traffic.ring = Ring.ofWrites capacity traffic.writes 0 := by
  rw [h.ring, Ring.ofWrites, (writes_of_perm hperm).1]
  simp only [Ring.ofHistory, writesAt_delivered h hrounds hperm]

/-- Once no reservation is outstanding, the ring is the one that appends in the order of the
tickets would have left, in whatever order the slots were filled and whatever was read in between;
a copy and the bookkeeping show just these writes. -/
theorem settled_eq_appendAll (hfresh : ring.Fresh) (hrun : run? { ring } moves = some traffic)
    (hreset : traffic.resets = 0) (hpending : traffic.pending = [])
    (hrounds : traffic.InRounds) :
    traffic.writes.length = traffic.reserved ∧
      (∀ d ∈ traffic.delivered, traffic.writes[d.ticket.number]? = some d.write) ∧
      traffic.ring = ring.appendAll traffic.writes ∧
      (traffic.reserved < 2 ^ 64 →
        ∃ snapshot, traffic.ring.snapshot? = some snapshot ∧
          traffic.ring.status? = some snapshot.status ∧
          snapshot.Shows ring.capacity traffic.writes 0) := by
  obtain ⟨hcapacity, hring⟩ := hfresh.eq_ofHistory
  rw [hring] at hrun
  have hsound := sound_start.run hcapacity hrun
  have hperm := hsound.numbers_delivered hreset hpending
  have hwrites := hsound.ring_eq_ofWrites hrounds hperm
  obtain ⟨hlength, hget⟩ := writes_of_perm hperm
  refine ⟨hlength, hget, ?_, ?_⟩
  · rw [hwrites, ← Ring.appendAll_eq hcapacity, ← hring]
  · intro hbound
    refine ⟨traffic.ring.snapshotHeld, ?_, ?_, ?_⟩
    · rw [hwrites]
      rfl
    · rw [hwrites]
      rfl
    · rw [hwrites]
      exact Ring.shows_ofWrites hcapacity (hlength ▸ hbound) (by decide)

/-- Three tickets for two slots; the second one is used before the first. -/
def filledBackwards : List Move :=
  [.reserve, .reserve, .deliver ⟨0, 1, 1⟩ (plain "b"), .snapshot, .deliver ⟨0, 0, 0⟩ (plain "a"),
    .reserve, .status, .deliver ⟨0, 2, 0⟩ (plain "c")]

theorem settled_eq_appendAll_filledBackwards :
    ∃ ring traffic, ring.Fresh ∧ run? { ring } filledBackwards = some traffic ∧
      traffic.resets = 0 ∧ traffic.pending = [] ∧ traffic.InRounds ∧
      traffic.ring = ring.appendAll traffic.writes := by
  have hfresh : (Ring.ofHistory 2 0 [] 0).Fresh := .inl ⟨.ample, 2, rfl⟩
  have hrun : run? { ring := Ring.ofHistory 2 0 [] 0 } filledBackwards = some _ := rfl
  have hsettled := settled_eq_appendAll hfresh hrun rfl rfl (by decide)
  exact ⟨_, _, hfresh, hrun, rfl, rfl, by decide, hsettled.2.2.1⟩

end
end Traffic
end EventLog
