import EventLog.Proofs.Store.Lock
import Mathlib.Data.List.Range

/-! The entries of a table: which are free, which comes first, and what becomes of the default. A ring
keeps the capacity that it was made with. -/
namespace EventLog

namespace Config

theorem clamp_pos {config : Config} (h : 0 < config.maxEvents) (capacity : Nat) :
    0 < config.clamp capacity := by
  unfold clamp
  split <;> omega

theorem clamp_le (config : Config) (capacity : Nat) :
    config.clamp capacity ≤ config.maxEvents := by
  unfold clamp
  split <;> omega

theorem pos_of_validate {config : Config} (h : config.validate = .ok ()) :
    0 < config.maxBuffers ∧ 0 < config.maxEvents := by
  unfold validate at h
  split at h
  · cases h
  · split at h
    · cases h
    · omega

end Config

namespace Store

theorem eq_ofConfig_of_build? {config : Config} {store : Store}
    (h : build? config = some store) : store = ofConfig config := by
  obtain ⟨registry, hregistry, h⟩ := Option.bind_eq_some_iff.mp h
  obtain ⟨table, htable, h⟩ := Option.bind_eq_some_iff.mp h
  obtain ⟨-, hempty⟩ := Option.ite_none_right_eq_some.mp hregistry
  obtain ⟨-, hslots⟩ := Option.ite_none_right_eq_some.mp htable
  obtain rfl := Option.some.inj hempty
  obtain rfl := Option.some.inj hslots
  exact (Option.some.inj h).symm

theorem eq_ofConfig_of_new? {config : Config} {store : Store}
    (h : new? config = .ok store) : config.validate = .ok () ∧ store = ofConfig config := by
  unfold new? at h
  cases hvalid : config.validate with
  | error error =>
    rw [hvalid] at h
    cases h
  | ok _ =>
    rw [hvalid] at h
    cases hbuild : build? config with
    | none =>
      rw [hbuild] at h
      cases h
    | some built =>
      rw [hbuild] at h
      obtain rfl := Except.ok.inj h
      exact ⟨rfl, eq_ofConfig_of_build? hbuild⟩

end Store

namespace Ring

variable {memory : Memory} {capacity : Nat}

theorem capacity_of_new? {ring : Ring} (h : new? memory capacity = .ok ring) :
    ring.capacity = capacity := by
  rw [eq_of_new? h]
  exact List.length_replicate

/-- There is a ring exactly if it has slots and there is room for them. -/
theorem new?_eq_ok_iff : (∃ ring, new? memory capacity = .ok ring) ↔
    0 < capacity ∧ memory capacity = true := by
  unfold new?
  split
  · simp only [reduceCtorEq, exists_false, false_iff]
    omega
  · split
    · next hroom =>
      simp only [Except.ok.injEq, exists_eq', true_iff]
      exact ⟨by omega, hroom⟩
    · next hscarce => simp [hscarce]

theorem slots_advance (ring : Ring) : ring.advance.2.slots = ring.slots := by
  unfold advance
  split
  · dsimp only
    split
    · rfl
    · rfl
  · rfl

theorem capacity_append (ring : Ring) (event : Event) (registry : Registry) (now : Instant) :
    (ring.append event registry now).2.capacity = ring.capacity := by
  have hslots := ring.slots_advance
  unfold append capacity
  cases hadvance : ring.advance with
  | mk result moved =>
    rw [hadvance] at hslots
    rw [← hslots]
    cases result with
    | error error => rfl
    | ok index =>
      dsimp only
      unfold populate
      split
      · rfl
      · split
        · exact List.length_set
        · rfl

end Ring

namespace Table

/-- The lowest entry that is free. -/
def LowestFree (table : Table) (id : Nat) : Prop :=
  id < table.size ∧ table.get? id = none ∧ ∀ other < id, (table.get? other).isSome = true

/-- The lowest entry that has a ring. -/
def Lowest (table : Table) (id : Nat) : Prop :=
  (table.get? id).isSome = true ∧ ∀ other < id, table.get? other = none

section
variable {table next : Table} {id other : Nat} {ring : Ring} {f : Ring → Ring}

theorem free?_eq_some_iff : table.free? = some id ↔ table.LowestFree id := by
  unfold free? LowestFree size
  rw [List.findIdx?_eq_some_iff_getElem]
  constructor
  · rintro ⟨hlt, hfree, hlower⟩
    refine ⟨hlt, ?_, ?_⟩
    · rw [get?_eq_getElem hlt]
      simpa using hfree
    · intro other hother
      rw [get?_eq_getElem (hother.trans hlt), Option.isSome_iff_ne_none]
      simpa using hlower other hother
  · rintro ⟨hlt, hfree, hlower⟩
    refine ⟨hlt, ?_, ?_⟩
    · rw [get?_eq_getElem hlt] at hfree
      simpa using hfree
    · intro other hother
      have hsome := hlower other hother
      rw [get?_eq_getElem (hother.trans hlt), Option.isSome_iff_ne_none] at hsome
      simpa using hsome

theorem free?_eq_none_iff :
    table.free? = none ↔ ∀ id < table.size, (table.get? id).isSome = true := by
  unfold free? size
  rw [List.findIdx?_eq_none_iff]
  constructor
  · intro h id hlt
    rw [get?_eq_getElem hlt]
    simpa using h _ (List.getElem_mem hlt)
  · intro h entry hmem
    obtain ⟨id, hlt, rfl⟩ := List.getElem_of_mem hmem
    have hsome := h id hlt
    rw [get?_eq_getElem hlt] at hsome
    simpa using hsome

theorem mem_ids_iff : id ∈ table.ids ↔ (table.get? id).isSome = true := by
  constructor
  · intro h
    obtain ⟨⟨found, ring⟩, hmem, rfl⟩ := List.mem_map.mp h
    rw [mem_present.mp hmem]
    rfl
  · intro h
    obtain ⟨ring, hget⟩ := Option.isSome_iff_exists.mp h
    exact mem_ids hget

theorem ids_pairwise_lt (table : Table) : table.ids.Pairwise (· < ·) := by
  have hindices : table.entries.zipIdx.Pairwise fun a b => a.2 < b.2 := by
    rw [← List.pairwise_map (f := Prod.snd) (R := (· < ·)), List.zipIdx_map_snd]
    exact List.pairwise_lt_range'
  unfold ids present
  rw [List.pairwise_map, List.pairwise_filterMap]
  refine hindices.imp ?_
  rintro ⟨first, i⟩ ⟨second, j⟩ hlt a ha b hb
  obtain ⟨-, -, rfl⟩ := Option.map_eq_some_iff.mp ha
  obtain ⟨-, -, rfl⟩ := Option.map_eq_some_iff.mp hb
  exact hlt

theorem head?_ids_eq_some_iff : table.ids.head? = some id ↔ table.Lowest id := by
  have hlowest {id : Nat} (h : table.ids.head? = some id) : table.Lowest id := by
    obtain ⟨rest, hids⟩ := List.head?_eq_some_iff.mp h
    have hpairwise := table.ids_pairwise_lt
    rw [hids, List.pairwise_cons] at hpairwise
    refine ⟨mem_ids_iff.mp (hids ▸ List.mem_cons_self), ?_⟩
    intro other hlt
    by_contra hsome
    have hmem : other ∈ table.ids := mem_ids_iff.mpr (Option.isSome_iff_ne_none.mpr hsome)
    rw [hids] at hmem
    rcases List.mem_cons.mp hmem with rfl | hmem
    · exact lt_irrefl _ hlt
    · exact lt_asymm hlt (hpairwise.1 other hmem)
  refine ⟨hlowest, ?_⟩
  rintro ⟨hsome, hlower⟩
  cases hhead : table.ids.head? with
  | none =>
    have hmem := mem_ids_iff.mpr hsome
    rw [List.head?_eq_none_iff.mp hhead] at hmem
    cases hmem
  | some first =>
    obtain ⟨hfirst, hfirstLower⟩ := hlowest hhead
    rcases lt_trichotomy first id with hlt | rfl | hlt
    · rw [hlower first hlt] at hfirst
      cases hfirst
    · rfl
    · rw [hfirstLower id hlt] at hsome
      cases hsome

theorem head?_ids_eq_none_iff : table.ids.head? = none ↔ ∀ id, table.get? id = none := by
  rw [List.head?_eq_none_iff, List.eq_nil_iff_forall_not_mem]
  refine forall_congr' fun id => ?_
  rw [mem_ids_iff]
  simp

theorem size_put : (table.put id ring).size = table.size := List.length_set

theorem size_remove (table : Table) (id : Nat) : (table.remove id).size = table.size := by
  unfold remove
  dsimp only
  split <;> exact List.length_set

theorem default_remove_of_ne (h : table.default ≠ some id) :
    (table.remove id).default = table.default := by
  unfold remove
  dsimp only
  rw [if_neg h]

/-- When the default goes, the lowest ring that is left takes over. -/
theorem default_remove_of_eq (h : table.default = some id) :
    (table.remove id).default = (table.remove id).ids.head? := by
  unfold remove
  dsimp only
  rw [if_pos h]
  rfl

end

end Table
end EventLog
