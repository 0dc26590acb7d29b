import EventLog.Proofs.Ring.History

/-! A ring under appends that follow one another. It holds the last events, as many as there are
slots, and a copy lists them oldest first. -/
namespace EventLog
namespace Ring

/-- The fills of writes that follow one another: the k-th goes to slot k modulo the capacity. -/
def sequence (capacity : Nat) (writes : List Write) : List Fill :=
  writes.mapIdx fun k w => ⟨k % capacity, w⟩

/-- The ring, its lock free, after these appends and the given number of drops. -/
def ofWrites (capacity : Nat) (writes : List Write) (drops : Nat) : Ring :=
  ofHistory capacity writes.length (sequence capacity writes) drops

/-- The records of the last `capacity` writes, oldest first. -/
def lastRecords (capacity : Nat) (writes : List Write) : List Record :=
  (writes.drop (writes.length - capacity)).mapIdx fun offset w =>
    w.record ((writes.length - capacity + offset) % capacity)

end Ring

/-- The copy of a ring of the given capacity that took exactly these writes, in this order, and
dropped so many: it lists the last of them, and its bookkeeping counts them. -/
structure Snapshot.Shows (snapshot : Snapshot) (capacity : Nat) (writes : List Write)
    (drops : Nat) : Prop where
  capacity_eq : snapshot.status.capacity = capacity
  used_eq : snapshot.status.used = min writes.length capacity
  wraps_eq : snapshot.status.wraps.toNat = writes.length / capacity
  dropped_eq : snapshot.status.dropped.toNat = drops
  next_eq : snapshot.status.next = writes.length % capacity
  records_eq : snapshot.records = Ring.lastRecords capacity writes

namespace Ring

/-- Appends the writes one after the other. -/
def appendAll (ring : Ring) (writes : List Write) : Ring :=
  writes.foldl (fun ring w => (ring.append w.event w.registry w.time).2) ring

theorem sequence_concat (capacity : Nat) (writes : List Write) (w : Write) :
    sequence capacity (writes ++ [w]) =
      sequence capacity writes ++ [⟨writes.length % capacity, w⟩] := by
  simp [sequence, List.mapIdx_append]

theorem filterMap_range_getElem? {α β : Type} (l : List α) (f : Nat → α → β) {m : Nat}
    (h : l.length ≤ m) : (List.range m).filterMap (fun k => l[k]?.map (f k)) = l.mapIdx f := by
  induction l generalizing m f with
  | nil => simp
  | cons a l ih =>
    obtain ⟨m, rfl⟩ : ∃ m', m = m' + 1 := ⟨m - 1, by simp at h; omega⟩
    rw [List.range_succ_eq_map, List.filterMap_cons_some (b := f 0 a) (by simp),
      List.filterMap_map, List.mapIdx_cons, ← ih (fun k => f (k + 1)) (by simpa using h)]
    rfl

section
variable {capacity : Nat} {writes : List Write}

@[simp] theorem capacity_ofWrites (drops : Nat) :
    (ofWrites capacity writes drops).capacity = capacity := capacity_ofHistory

/-- Within the last round of the ring nothing overwrites a slot again. -/
theorem lastAt_sequence {k : Nat} (hk : k < writes.length) (hround : writes.length ≤ k + capacity) :
    lastAt (sequence capacity writes) (k % capacity) = writes[k]? := by
  induction writes using List.reverseRecOn with
  | nil => simp at hk
  | append_singleton writes w ih =>
    rw [List.length_append, List.length_singleton] at hk hround
    rw [sequence_concat, lastAt_concat]
    by_cases hlast : k = writes.length
    · simp [hlast]
    · have hne : writes.length % capacity ≠ k % capacity := by
        intro heq
        have hdvd : capacity ∣ writes.length - k :=
          (Nat.modEq_iff_dvd' (by omega)).1 heq.symm
        have := Nat.le_of_dvd (by omega) hdvd
        omega
      rw [if_neg hne, ih (by omega) (by omega), List.getElem?_append_left (by omega)]

theorem isSome_lastAt_sequence {slot : Nat} (h : slot < capacity) :
    (lastAt (sequence capacity writes) slot).isSome = decide (slot < writes.length) := by
  induction writes using List.reverseRecOn with
  | nil => simp [sequence, lastAt, writesAt]
  | append_singleton writes w ih =>
    rw [sequence_concat, lastAt_concat, List.length_append, List.length_singleton]
    by_cases hlast : writes.length % capacity = slot
    · have : slot ≤ writes.length := hlast ▸ Nat.mod_le _ _
      simp [hlast]
      omega
    · have hne : slot ≠ writes.length := by
        rintro rfl
        exact hlast (Nat.mod_eq_of_lt h)
      rw [if_neg hlast, ih, decide_eq_decide]
      omega

theorem countP_range_lt (capacity n : Nat) :
    (List.range capacity).countP (fun slot => decide (slot < n)) = min n capacity := by
  induction capacity with
  | zero => simp
  | succ capacity ih =>
    rw [List.range_succ, List.countP_append, ih, List.countP_singleton]
    by_cases h : capacity < n
    · simp [h]
      omega
    · simp [h]
      omega

theorem used_ofWrites (drops : Nat) :
    (ofWrites capacity writes drops).statusHeld.used =
      min writes.length capacity := by
  rw [ofWrites, used_ofHistory, ← countP_range_lt]
  apply List.countP_congr
  intro slot hslot
  rw [isSome_lastAt_sequence (List.mem_range.mp hslot)]

/-- From the cursor of a ring that has wrapped, and from the first slot of one that has not, the
slots come in the order of the writes that they hold. -/
theorem start_ofWrites (hcapacity : 0 < capacity) (hbound : writes.length < 2 ^ 64)
    (drops offset : Nat) :
    ((ofWrites capacity writes drops).start + offset) % capacity =
      (writes.length - capacity + offset) % capacity := by
  rw [ofWrites, start_ofHistory]
  have hlt : writes.length / capacity % 2 ^ 64 = writes.length / capacity :=
    Nat.mod_eq_of_lt ((Nat.div_le_self _ _).trans_lt hbound)
  rw [hlt]
  split
  · next hzero =>
    rcases Nat.div_eq_zero_iff.mp hzero with h | h
    · omega
    · rw [Nat.sub_eq_zero_of_le h.le]
  · next hwrapped =>
    have hle : capacity ≤ writes.length := by
      by_contra hsmall
      exact hwrapped (Nat.div_eq_of_lt (by omega))
    rw [Nat.mod_add_mod, ← Nat.add_mod_right (writes.length - capacity + offset)]
    congr 1
    omega

theorem records_ofWrites (hcapacity : 0 < capacity) (hbound : writes.length < 2 ^ 64)
    (drops : Nat) :
    (ofWrites capacity writes drops).snapshotHeld.records = lastRecords capacity writes := by
  rw [ofWrites, records_ofHistory, ← ofWrites, order_eq, capacity_ofWrites, List.filterMap_map,
    lastRecords, ← filterMap_range_getElem? _ _ (m := capacity) (by simp; omega)]
  apply List.filterMap_congr
  intro offset hoffset
  rw [List.mem_range] at hoffset
  rw [Function.comp_apply, start_ofWrites hcapacity hbound, List.getElem?_drop]
  by_cases hk : writes.length - capacity + offset < writes.length
  · rw [lastAt_sequence hk (by omega)]
  · -- The ring is not full, and this slot has not been reached.
    have hslot : (writes.length - capacity + offset) % capacity = offset := by
      rw [show writes.length - capacity + offset = offset by omega, Nat.mod_eq_of_lt hoffset]
    have hnone : (lastAt (sequence capacity writes) offset).isSome = decide (offset < _) :=
      isSome_lastAt_sequence hoffset
    rw [decide_eq_false (by omega), Option.isSome_eq_false_iff, Option.isNone_iff_eq_none] at hnone
    rw [hslot, hnone, List.getElem?_eq_none (by omega)]

/-- What a copy of the ring shows after appends that follow one another. -/
theorem shows_ofWrites (hcapacity : 0 < capacity) (hbound : writes.length < 2 ^ 64) {drops : Nat}
    (hdrops : drops < 2 ^ 64) :
    (ofWrites capacity writes drops).snapshotHeld.Shows capacity writes drops where
  capacity_eq := capacity_ofWrites drops
  used_eq := used_ofWrites drops
  wraps_eq := by
    have hwraps : writes.length / capacity < 2 ^ 64 := (Nat.div_le_self _ _).trans_lt hbound
    exact (UInt64.toNat_ofNat').trans (Nat.mod_eq_of_lt hwraps)
  dropped_eq := (UInt64.toNat_ofNat').trans (Nat.mod_eq_of_lt hdrops)
  next_eq := rfl
  records_eq := records_ofWrites hcapacity hbound drops

theorem append_ofWrites (hcapacity : 0 < capacity) (drops : Nat) (w : Write) :
    (ofWrites capacity writes drops).append w.event w.registry w.time =
      (.ok (), ofWrites capacity (writes ++ [w]) drops) := by
  rw [ofWrites, append_ofHistory hcapacity, ofWrites, sequence_concat, List.length_append,
    List.length_singleton]

theorem appendAll_eq (hcapacity : 0 < capacity) (drops : Nat) (writes : List Write) :
    (ofHistory capacity 0 [] drops).appendAll writes = ofWrites capacity writes drops := by
  induction writes using List.reverseRecOn with
  | nil => rfl
  | append_singleton writes w ih =>
    rw [appendAll, List.foldl_concat, ← appendAll, ih, append_ofWrites hcapacity]

/-- The newest write is the last that is listed. -/
theorem getLast?_lastRecords (hcapacity : 0 < capacity) (writes : List Write) (w : Write) :
    (lastRecords capacity (writes ++ [w])).getLast? =
      some (w.record (writes.length % capacity)) := by
  have hle : writes.length + 1 - capacity ≤ writes.length := by omega
  unfold lastRecords
  rw [List.length_append, List.length_singleton, List.drop_append_of_le_length hle,
    List.mapIdx_append, List.mapIdx_singleton, List.getLast?_concat, List.length_drop, Nat.zero_add,
    Nat.add_sub_of_le hle]

/-- The newest write is in the copy, and what the copy has from its slot is that write, however often
the ring has wrapped. -/
theorem records_ofWrites_concat (hcapacity : 0 < capacity) (writes : List Write) (w : Write)
    (drops : Nat) :
    w.record (writes.length % capacity) ∈
        (ofWrites capacity (writes ++ [w]) drops).snapshotHeld.records ∧
      ∀ record ∈ (ofWrites capacity (writes ++ [w]) drops).snapshotHeld.records,
        record.slot = writes.length % capacity →
          record = w.record (writes.length % capacity) := by
  have hlast : lastAt (sequence capacity (writes ++ [w])) (writes.length % capacity) = some w := by
    rw [sequence_concat, lastAt_concat, if_pos rfl]
  rw [ofWrites, records_ofHistory]
  constructor
  · refine List.mem_filterMap.mpr ⟨writes.length % capacity, mem_order ?_, ?_⟩
    · rw [capacity_ofHistory]
      exact Nat.mod_lt _ hcapacity
    · rw [hlast]
      rfl
  · intro record hrecord hslot
    obtain ⟨slot, -, hread⟩ := List.mem_filterMap.mp hrecord
    obtain ⟨found, hfound, rfl⟩ := Option.map_eq_some_iff.mp hread
    obtain rfl : slot = writes.length % capacity := hslot
    rw [hlast] at hfound
    cases hfound
    rfl

end
end Ring
end EventLog
