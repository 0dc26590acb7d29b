import EventLog.Proofs.Registry.Lookup
import Mathlib.Algebra.Ring.Nat
import Mathlib.Data.List.Range

/-! The numbering of a registry: the built-in renderers come first, the others follow from the first
dynamic id on without a gap, and no two entries are the same renderer. -/
namespace EventLog.Registry

/-- The built-in renderers and, after them, as many others as were registered. -/
structure Numbered (registry : Registry) (registered : Nat) : Prop where
  ids : registry.entries.map (fun entry => entry.1.id.toNat) =
    1 :: 2 :: (List.range registered).map (16 + ·)
  next : registry.next.id.toNat = 16 + registered
  distinct : registry.entries.Pairwise fun a b => a.2.same b.2 = false
  length_le : registry.entries.length ≤ max registry.capacity 2

namespace Numbered

section
variable {registry : Registry} {registered : Nat}

theorem length_eq (h : registry.Numbered registered) :
    registry.entries.length = registered + 2 := by
  simpa using congrArg List.length h.ids

theorem nodup (h : registry.Numbered registered) : (registry.entries.map Prod.fst).Nodup := by
  have hnodup : (registry.entries.map fun entry => entry.1.id.toNat).Nodup := by
    rw [h.ids, List.nodup_cons, List.nodup_cons]
    have hrange : ∀ id ∈ (List.range registered).map (16 + ·), 16 ≤ id := by
      intro id hid
      obtain ⟨i, -, rfl⟩ := List.mem_map.mp hid
      exact Nat.le_add_right 16 i
    refine ⟨?_, ?_, List.nodup_range.map fun a b h => Nat.add_left_cancel h⟩
    · intro hmem
      rcases List.mem_cons.mp hmem with heq | hmem
      · cases heq
      · exact absurd (hrange 1 hmem) (by decide)
    · intro hmem
      exact absurd (hrange 2 hmem) (by decide)
  rw [← Function.comp_def (fun type : EventType => type.id.toNat) Prod.fst, ← List.map_map] at hnodup
  exact hnodup.of_map _

theorem eq_of_same (h : registry.Numbered registered) {a b : EventType × Renderer}
    (ha : a ∈ registry.entries) (hb : b ∈ registry.entries) (hsame : a.2.same b.2 = true) :
    a = b :=
  eq_of_same_of_pairwise h.distinct ha hb hsame

/-- The types that have an entry. -/
theorem exists_mem_iff (h : registry.Numbered registered) (type : EventType) :
    (∃ entry ∈ registry.entries, entry.1 = type) ↔
      type.id.toNat = 1 ∨ type.id.toNat = 2 ∨
        16 ≤ type.id.toNat ∧ type.id.toNat < 16 + registered := by
  have hmem : (∃ entry ∈ registry.entries, entry.1 = type) ↔
      type.id.toNat ∈ registry.entries.map fun entry => entry.1.id.toNat := by
    rw [List.mem_map]
    refine exists_congr fun entry => and_congr_right fun _ => ?_
    rw [EventType.mk.injEq, UInt32.toNat_inj]
  rw [hmem, h.ids, List.mem_cons, List.mem_cons, List.mem_map]
  refine or_congr_right (or_congr_right ⟨?_, ?_⟩)
  · rintro ⟨i, hi, heq⟩
    rw [List.mem_range] at hi
    omega
  · rintro ⟨hle, hlt⟩
    exact ⟨type.id.toNat - 16, List.mem_range.mpr (by omega), by omega⟩

/-- To be valid is to be found. -/
theorem isValid_eq (h : registry.Numbered registered) (hinit : registry.initialized = true)
    (type : EventType) : registry.isValid type = (registry.resolve? type).isSome := by
  rw [Bool.eq_iff_iff, resolve?_isSome_iff, h.exists_mem_iff type]
  unfold isValid EventType.isBuiltin EventType.isDynamic
  simp only [Bool.or_eq_true, Bool.and_eq_true, decide_eq_true_eq, UInt32.lt_iff_toNat_lt,
    UInt32.le_iff_toNat_le, h.next, hinit, true_and]
  have hnone : EventType.none.id.toNat = 0 := rfl
  have hlast : EventType.lastBuiltin.id.toNat = 2 := rfl
  have hfirst : EventType.firstDynamic.id.toNat = 16 := rfl
  omega

end

theorem installBuiltins (capacity : Nat) :
    Numbered (Registry.installBuiltins { capacity }) 0 where
  ids := rfl
  next := rfl
  distinct := by
    show builtins.Pairwise fun a b => a.2.same b.2 = false
    decide
  length_le := Nat.le_max_right capacity 2

theorem enter {registry : Registry} {registered : Nat} {renderer : Renderer}
    (h : registry.Numbered registered) (hcapacity : registry.capacity ≤ 2 ^ 32 - 16)
    (hnew : ∀ entry ∈ registry.entries, entry.2.same renderer = false)
    (hroom : registry.entries.length < registry.capacity) :
    (registry.enter renderer).Numbered (registered + 1) where
  ids := by
    unfold Registry.enter
    rw [List.map_append, h.ids, List.range_succ, List.map_append]
    simp [h.next]
  next := by
    have hlength := h.length_eq
    show (registry.next.id + 1).toNat = 16 + (registered + 1)
    rw [UInt32.toNat_add, h.next]
    exact Nat.mod_eq_of_lt (by simp; omega)
  distinct := pairwise_enter h.distinct hnew
  length_le := by
    unfold Registry.enter
    rw [List.length_append, List.length_singleton]
    exact le_trans hroom (Nat.le_max_left _ _)

end Numbered

end EventLog.Registry
