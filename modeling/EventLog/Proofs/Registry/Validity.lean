import EventLog.Proofs.Registry.Lookup

/-! A valid type has a renderer. Validity only compares ids, so it has to keep up with the entries, and
it does so for any number of registrations, also where the ids run over. -/
namespace EventLog.Registry

/-- Once the built-in renderers are there, every valid type has a renderer. Until then no other type is
valid. -/
structure Covered (registry : Registry) : Prop where
  next_eq : registry.initialized = false → registry.next = .firstDynamic
  isSome_resolve? : registry.initialized = true → ∀ type, registry.isValid type = true →
    (registry.resolve? type).isSome = true

namespace Covered

section
variable {registry : Registry} {type : EventType}

theorem isValid_iff : registry.isValid type = true ↔
    type.isBuiltin = true ∨ type.isDynamic = true ∧ type.id.toNat < registry.next.id.toNat := by
  simp [isValid, UInt32.lt_iff_toNat_lt]

theorem new (capacity : Nat) : Covered { capacity } where
  next_eq _ := rfl
  isSome_resolve? hinit := by cases hinit

/-- There is an entry for every built-in type, whatever was there before. -/
theorem exists_builtin (h : type.isBuiltin = true) (entries : List (EventType × Renderer)) :
    ∃ entry ∈ entries ++ builtins.filter fun new => !entries.any fun old => old.1 == new.1,
      entry.1 = type := by
  have htype : ∃ new ∈ builtins, new.1 = type := by
    obtain ⟨id⟩ := type
    have hid : id = 1 ∨ id = 2 := by
      simp only [EventType.isBuiltin, Bool.and_eq_true, decide_eq_true_eq,
        UInt32.lt_iff_toNat_lt, UInt32.le_iff_toNat_le] at h
      have hnone : EventType.none.id.toNat = 0 := rfl
      have hlast : EventType.lastBuiltin.id.toNat = 2 := rfl
      rw [← UInt32.toNat_inj, ← UInt32.toNat_inj]
      show id.toNat = 1 ∨ id.toNat = 2
      omega
    rcases hid with rfl | rfl
    · exact ⟨_, List.mem_cons_self, rfl⟩
    · exact ⟨_, List.mem_cons_of_mem _ List.mem_cons_self, rfl⟩
  obtain ⟨new, hnew, rfl⟩ := htype
  cases hold : entries.any fun old => old.1 == new.1 with
  | true =>
    obtain ⟨old, hmem, heq⟩ := List.any_eq_true.mp hold
    exact ⟨old, List.mem_append_left _ hmem, by simpa using heq⟩
  | false =>
    exact ⟨new, List.mem_append_right _ (List.mem_filter.mpr ⟨hnew, by simp [hold]⟩), rfl⟩

theorem installBuiltins (h : registry.Covered) : registry.installBuiltins.Covered := by
  cases hinit : registry.initialized with
  | true =>
    rw [installBuiltins_of_initialized hinit]
    exact h
  | false =>
    unfold Registry.installBuiltins
    rw [if_neg (by simp [hinit])]
    refine ⟨nofun, ?_⟩
    intro _ type hvalid
    rw [resolve?_isSome_iff]
    refine ⟨rfl, exists_builtin ?_ _⟩
    refine (isValid_iff.mp hvalid).resolve_right ?_
    rintro ⟨hdynamic, hlt⟩
    rw [EventType.isDynamic, decide_eq_true_eq, UInt32.le_iff_toNat_le] at hdynamic
    have hlt' : type.id.toNat < EventType.firstDynamic.id.toNat := h.next_eq hinit ▸ hlt
    omega

/-- The next id becomes valid when it gets its entry. -/
theorem enter (h : registry.Covered) (hinit : registry.initialized = true) (renderer : Renderer) :
    (registry.enter renderer).Covered := by
  refine ⟨fun hnot => absurd (hinit.symm.trans hnot) nofun, ?_⟩
  intro _ type hvalid
  by_cases hold : registry.isValid type = true
  · obtain ⟨found, hfound⟩ := Option.isSome_iff_exists.mp (h.isSome_resolve? hinit type hold)
    rw [resolve?_enter hfound renderer]
    rfl
  · have hnext : type = registry.next := by
      rw [isValid_iff] at hvalid hold
      obtain ⟨hdynamic, hlt⟩ := hvalid.resolve_left fun hbuiltin => hold (.inl hbuiltin)
      have hge : ¬ type.id.toNat < registry.next.id.toNat := fun hlt => hold (.inr ⟨hdynamic, hlt⟩)
      -- Where the ids run over, the next one falls to zero; the bound holds all the same.
      have hle : (registry.enter renderer).next.id.toNat ≤ registry.next.id.toNat + 1 := by
        show (registry.next.id + 1).toNat ≤ _
        rw [UInt32.toNat_add]
        exact Nat.mod_le _ _
      have hid : type.id = registry.next.id := UInt32.toNat_inj.mp (by omega)
      exact congrArg EventType.mk hid
    rw [resolve?_isSome_iff]
    exact ⟨hinit, _, List.mem_append_right _ List.mem_cons_self, hnext.symm⟩

theorem register (h : registry.Covered) (renderer : Renderer) :
    (registry.register renderer).2.Covered := by
  rcases register_cases registry renderer with
    ⟨-, heq⟩ | ⟨hinit, ⟨_, -, -, heq⟩ | ⟨-, ⟨-, heq⟩ | ⟨-, heq⟩⟩⟩
  · rw [heq]
    exact h
  · rw [heq]
    exact h
  · rw [heq]
    exact h
  · rw [heq]
    exact h.enter hinit renderer

end
end Covered
end EventLog.Registry
