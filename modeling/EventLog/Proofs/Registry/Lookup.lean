import EventLog.Registry
import Mathlib.Data.List.Nodup
import Mathlib.Data.List.Pairwise

/-! Which renderers are one and the same, and what a registry finds under a type. Entries are only
added, and only at the end, so what a type once named it names from then on. -/
namespace EventLog

namespace Renderer

variable {a b c : Renderer}

@[simp] theorem same_self (a : Renderer) : a.same a = true := by
  cases a <;> simp [same]

theorem same_symm (h : a.same b = true) : b.same a = true := by
  cases a <;> cases b <;> simp_all [same]

theorem same_trans (hab : a.same b = true) (hbc : b.same c = true) : a.same c = true := by
  cases a <;> cases b <;> cases c <;> simp_all [same]

end Renderer

namespace Registry

/-- A built-in renderer is the same as itself only. -/
theorem eq_of_same_builtin {type : EventType} {a b : Renderer} (ha : (type, a) ∈ builtins)
    (hsame : a.same b = true) : b = a := by
  have hcases : a = .hexDump ∨ a = .backtrace := by
    simp only [builtins, List.mem_cons, Prod.mk.injEq, List.not_mem_nil, or_false] at ha
    rcases ha with ⟨-, rfl⟩ | ⟨-, rfl⟩
    · exact .inl rfl
    · exact .inr rfl
  rcases hcases with rfl | rfl
  · cases b <;> simp_all [Renderer.same]
  · cases b <;> simp_all [Renderer.same]

/-- The registry with a new entry at its end. -/
def enter (registry : Registry) (renderer : Renderer) : Registry :=
  { registry with
    entries := registry.entries ++ [(registry.next, renderer)]
    next := registry.next.next }

section
variable {registry : Registry} {renderer found : Renderer} {type : EventType}

/-- What registering a renderer does: it is too early for it, or the renderer is there, or the table
is full, or there is a new entry. -/
theorem register_cases (registry : Registry) (renderer : Renderer) :
    registry.initialized = false ∧
        registry.register renderer = (.error .notInitialized, registry) ∨
      registry.initialized = true ∧
        ((∃ entry ∈ registry.entries, entry.2.same renderer = true ∧
            registry.register renderer = (.ok entry.1, registry)) ∨
          (∀ entry ∈ registry.entries, entry.2.same renderer = false) ∧
            (registry.capacity ≤ registry.entries.length ∧
                registry.register renderer =
                  (.error (.registryFull registry.capacity), registry) ∨
              registry.entries.length < registry.capacity ∧
                registry.register renderer = (.ok registry.next, registry.enter renderer))) := by
  unfold register find?
  cases hinit : registry.initialized with
  | false => exact .inl ⟨rfl, by simp⟩
  | true =>
    refine .inr ⟨rfl, ?_⟩
    cases hfind : registry.entries.find? fun entry => entry.2.same renderer with
    | some entry =>
      have hsame : entry.2.same renderer = true := by simpa using List.find?_some hfind
      exact .inl ⟨entry, List.mem_of_find?_eq_some hfind, hsame, by simp⟩
    | none =>
      have hnew : ∀ entry ∈ registry.entries, entry.2.same renderer = false := by
        simpa using List.find?_eq_none.mp hfind
      refine .inr ⟨hnew, ?_⟩
      by_cases hfull : registry.capacity ≤ registry.entries.length
      · exact .inl ⟨hfull, by simp [hfull]⟩
      · exact .inr ⟨by omega, by simp [hfull, hinit, enter]⟩

/-- Installing the built-in renderers a second time does nothing. -/
theorem installBuiltins_of_initialized (h : registry.initialized = true) :
    registry.installBuiltins = registry := by
  unfold installBuiltins
  rw [if_pos h]

theorem initialized_installBuiltins (registry : Registry) :
    registry.installBuiltins.initialized = true := by
  unfold installBuiltins
  split
  · assumption
  · rfl

theorem register_eq_self_or_enter (registry : Registry) (renderer : Renderer) :
    (registry.register renderer).2 = registry ∨
      (registry.register renderer).2 = registry.enter renderer := by
  rcases register_cases registry renderer with
    ⟨-, h⟩ | ⟨-, ⟨_, -, -, h⟩ | ⟨-, ⟨-, h⟩ | ⟨-, h⟩⟩⟩
  · exact .inl (by rw [h])
  · exact .inl (by rw [h])
  · exact .inl (by rw [h])
  · exact .inr (by rw [h])

/-- Where no two entries are the same renderer, those that are the same as each other are one. -/
theorem eq_of_same_of_pairwise {entries : List (EventType × Renderer)}
    (h : entries.Pairwise fun a b => a.2.same b.2 = false) {a b : EventType × Renderer}
    (ha : a ∈ entries) (hb : b ∈ entries) (hsame : a.2.same b.2 = true) : a = b := by
  have : Std.Symm fun a b : EventType × Renderer => a.2.same b.2 = false := by
    refine ⟨fun a b hab => ?_⟩
    by_contra hba
    rw [Renderer.same_symm (by simpa using hba)] at hab
    cases hab
  by_contra hne
  rw [h.forall ha hb hne] at hsame
  cases hsame

theorem pairwise_enter (h : registry.entries.Pairwise fun a b => a.2.same b.2 = false)
    (hnew : ∀ entry ∈ registry.entries, entry.2.same renderer = false) :
    (registry.enter renderer).entries.Pairwise fun a b => a.2.same b.2 = false := by
  unfold enter
  rw [List.pairwise_append]
  refine ⟨h, List.pairwise_singleton _ _, ?_⟩
  intro entry hentry new hmem
  rw [List.mem_singleton.mp hmem]
  exact hnew entry hentry

/-- A renderer that is there is given its type again. -/
theorem register_of_entry (hinit : registry.initialized = true)
    (h : registry.entries.Pairwise fun a b => a.2.same b.2 = false) {entry : EventType × Renderer}
    (hentry : entry ∈ registry.entries) (hsame : entry.2.same renderer = true) :
    registry.register renderer = (.ok entry.1, registry) := by
  rcases register_cases registry renderer with
    ⟨hearly, -⟩ | ⟨-, ⟨other, hother, hotherSame, hold⟩ | ⟨hnew, -⟩⟩
  · rw [hinit] at hearly
    cases hearly
  · have heq : other = entry := eq_of_same_of_pairwise h hother hentry
      (Renderer.same_trans hotherSame (Renderer.same_symm hsame))
    rw [hold, heq]
  · rw [hnew entry hentry] at hsame
    cases hsame

theorem initialized_register (registry : Registry) (renderer : Renderer) :
    (registry.register renderer).2.initialized = registry.initialized := by
  rcases register_eq_self_or_enter registry renderer with h | h
  · rw [h]
  · rw [h]
    rfl

theorem resolve?_eq_some_iff :
    registry.resolve? type = some found ↔
      registry.initialized = true ∧
        registry.entries.find? (fun entry => entry.1 == type) = some (type, found) := by
  unfold resolve?
  split
  · next h =>
    rw [Option.map_eq_some_iff]
    constructor
    · rintro ⟨⟨first, second⟩, hfind, rfl⟩
      obtain rfl : first = type := by simpa using List.find?_some hfind
      exact ⟨h, hfind⟩
    · rintro ⟨-, hfind⟩
      exact ⟨_, hfind, rfl⟩
  · next h => simp [h]

theorem resolve?_isSome_iff :
    (registry.resolve? type).isSome = true ↔
      registry.initialized = true ∧ ∃ entry ∈ registry.entries, entry.1 = type := by
  unfold resolve?
  split
  · next h => simp [h]
  · next h => simp [h]

/-- Where no type occurs twice, an entry is what its type finds. -/
theorem resolve?_of_mem (hinit : registry.initialized = true)
    (hnodup : (registry.entries.map Prod.fst).Nodup) (hmem : (type, found) ∈ registry.entries) :
    registry.resolve? type = some found := by
  have hsome : (registry.entries.find? fun entry => entry.1 == type).isSome = true := by
    rw [List.find?_isSome]
    exact ⟨_, hmem, by simp⟩
  obtain ⟨entry, hentry⟩ := Option.isSome_iff_exists.mp hsome
  have htype : entry.1 = type := by simpa using List.find?_some hentry
  have heq : entry = (type, found) :=
    List.inj_on_of_nodup_map hnodup (List.mem_of_find?_eq_some hentry) hmem htype
  rw [resolve?_eq_some_iff]
  exact ⟨hinit, heq ▸ hentry⟩

theorem resolve?_installBuiltins (h : registry.resolve? type = some found) :
    registry.installBuiltins.resolve? type = some found := by
  rw [installBuiltins_of_initialized (resolve?_eq_some_iff.mp h).1]
  exact h

theorem resolve?_enter (h : registry.resolve? type = some found) (renderer : Renderer) :
    (registry.enter renderer).resolve? type = some found := by
  obtain ⟨hinit, hfind⟩ := resolve?_eq_some_iff.mp h
  rw [resolve?_eq_some_iff]
  refine ⟨hinit, ?_⟩
  unfold enter
  rw [List.find?_append, hfind]
  rfl

theorem resolve?_register (h : registry.resolve? type = some found) (renderer : Renderer) :
    (registry.register renderer).2.resolve? type = some found := by
  rcases register_eq_self_or_enter registry renderer with heq | heq
  · rw [heq]
    exact h
  · rw [heq]
    exact resolve?_enter h renderer

end
end Registry
end EventLog
