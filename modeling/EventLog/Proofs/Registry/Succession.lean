import EventLog.Proofs.Registry.Roll

/-! The types that a registry hands out one after another, for any number of renderers. The next one
depends only on how many there are, so it is above all earlier ones until the ids run over. -/
namespace EventLog

/-- The type of a renderer that was registered after this many others. -/
def EventType.dynamic (registered : Nat) : EventType := ⟨UInt32.ofNat (16 + registered)⟩

namespace EventType

theorem next_dynamic (registered : Nat) : (dynamic registered).next = dynamic (registered + 1) := by
  unfold next dynamic
  rw [← Nat.add_assoc, UInt32.ofNat_add (16 + registered) 1]
  rfl

theorem toNat_dynamic (registered : Nat) :
    (dynamic registered).id.toNat = (16 + registered) % 2 ^ 32 := UInt32.toNat_ofNat'

end EventType

namespace Registry.Roll

/-- A registry with its built-in renderers whose other types follow one another, and the types that
its users were given. -/
structure Counted (capacity registered : Nat) (roll : Roll) : Prop where
  initialized : roll.registry.initialized = true
  capacity_eq : roll.registry.capacity = capacity
  types : roll.registry.entries.map Prod.fst =
    .hexDump :: .backtrace :: (List.range registered).map .dynamic
  next : roll.registry.next = .dynamic registered
  distinct : roll.registry.entries.Pairwise fun a b => a.2.same b.2 = false
  entered : ∀ given ∈ roll.issued, ∃ first,
    (given.2, first) ∈ roll.registry.entries ∧ first.same given.1 = true
  given : ∀ entry ∈ roll.registry.entries, entry ∈ builtins ∨ (entry.2, entry.1) ∈ roll.issued

namespace Counted

section
variable {capacity registered : Nat} {roll : Roll} {renderer : Renderer}
  {entry : EventType × Renderer}

theorem length_eq (h : Counted capacity registered roll) :
    roll.registry.entries.length = registered + 2 := by
  simpa using congrArg List.length h.types

theorem install (capacity : Nat) :
    Counted capacity 0 { registry := Registry.installBuiltins { capacity } } where
  initialized := rfl
  capacity_eq := rfl
  types := rfl
  next := rfl
  distinct := (Numbered.installBuiltins capacity).distinct
  entered given hgiven := by cases hgiven
  given entry hentry := .inl hentry

theorem again (h : Counted capacity registered roll) (hentry : entry ∈ roll.registry.entries)
    (hsame : entry.2.same renderer = true) :
    Counted capacity registered { roll with issued := roll.issued ++ [(renderer, entry.1)] } where
  initialized := h.initialized
  capacity_eq := h.capacity_eq
  types := h.types
  next := h.next
  distinct := h.distinct
  entered given hgiven := by
    rcases List.mem_append.mp hgiven with hgiven | hgiven
    · exact h.entered given hgiven
    · obtain rfl := List.mem_singleton.mp hgiven
      exact ⟨entry.2, hentry, hsame⟩
  given other hother := (h.given other hother).imp_right (List.mem_append_left _)

theorem enter (h : Counted capacity registered roll)
    (hnew : ∀ entry ∈ roll.registry.entries, entry.2.same renderer = false) :
    Counted capacity (registered + 1)
      { registry := roll.registry.enter renderer
        issued := roll.issued ++ [(renderer, roll.registry.next)] } where
  initialized := h.initialized
  capacity_eq := h.capacity_eq
  types := by
    unfold Registry.enter
    rw [List.map_append, h.types, h.next, List.range_succ, List.map_append]
    rfl
  next := by
    show roll.registry.next.next = _
    rw [h.next, EventType.next_dynamic]
  distinct := pairwise_enter h.distinct hnew
  entered given hgiven := by
    rcases List.mem_append.mp hgiven with hgiven | hgiven
    · obtain ⟨first, hfirst, hsame⟩ := h.entered given hgiven
      exact ⟨first, List.mem_append_left _ hfirst, hsame⟩
    · obtain rfl := List.mem_singleton.mp hgiven
      exact ⟨renderer, List.mem_append_right _ List.mem_cons_self, Renderer.same_self renderer⟩
  given := given_enter h.given renderer

/-- The types that were given out are built in, or come before the next one. -/
theorem type_of_issued (h : Counted capacity registered roll) {given : Renderer × EventType}
    (hgiven : given ∈ roll.issued) :
    given.2 = .hexDump ∨ given.2 = .backtrace ∨ ∃ i < registered, .dynamic i = given.2 := by
  obtain ⟨first, hfirst, -⟩ := h.entered given hgiven
  have hmem : given.2 ∈ roll.registry.entries.map Prod.fst := List.mem_map_of_mem hfirst
  rw [h.types] at hmem
  simpa using hmem

/-- Every type from the first dynamic one on was given to someone. -/
theorem exists_issued (h : Counted capacity registered roll) {i : Nat} (hlt : i < registered)
    (hfits : 16 + i < 2 ^ 32) : ∃ given ∈ roll.issued, given.2 = .dynamic i := by
  have hmem : EventType.dynamic i ∈ roll.registry.entries.map Prod.fst := by
    rw [h.types]
    simp only [List.mem_cons, List.mem_map, List.mem_range]
    exact .inr (.inr ⟨i, hlt, rfl⟩)
  obtain ⟨entry, hentry, htype⟩ := List.mem_map.mp hmem
  rcases h.given entry hentry with hbuiltin | hgiven
  · have hid : entry.1.id.toNat ≤ 2 := by
      have hall : ∀ entry ∈ builtins, entry.1.id.toNat ≤ 2 := by decide
      exact hall entry hbuiltin
    rw [htype, EventType.toNat_dynamic, Nat.mod_eq_of_lt hfits] at hid
    omega
  · exact ⟨_, hgiven, htype⟩

/-- The next type is above all dynamic ones that were given out, as long as the ids do not run over. -/
theorem above_iff (h : Counted capacity registered roll) :
    (∀ given ∈ roll.issued, given.2.isDynamic = true → given.2.id < roll.registry.next.id) ↔
      16 + registered < 2 ^ 32 := by
  rw [h.next]
  constructor
  · intro habove
    by_contra hover
    obtain ⟨given, hgiven, htype⟩ :=
      h.exists_issued (i := 2 ^ 32 - 17) (by omega) (by decide)
    have hlt := habove given hgiven (by rw [htype]; decide)
    rw [htype, UInt32.lt_iff_toNat_lt, EventType.toNat_dynamic] at hlt
    have hbound := (EventType.dynamic registered).id.toNat_lt
    omega
  · intro hfits given hgiven hdynamic
    rcases h.type_of_issued hgiven with htype | htype | ⟨i, hlt, htype⟩
    · rw [htype] at hdynamic
      cases hdynamic
    · rw [htype] at hdynamic
      cases hdynamic
    · rw [← htype, UInt32.lt_iff_toNat_lt, EventType.toNat_dynamic, EventType.toNat_dynamic]
      omega

end
end Counted

/-- Until the built-in renderers are installed nothing happens to a registry, and from then on its types
follow one another. -/
inductive Regular (capacity : Nat) (roll : Roll) : Prop
  | fresh (h : roll = { registry := { capacity } })
  | counted (registered : Nat) (h : Counted capacity registered roll)

namespace Regular

section
variable {capacity : Nat} {roll other : Roll} {renderer : Renderer}

theorem step (h : Regular capacity roll) (action : Action) :
    Regular capacity (roll.step action) := by
  cases h with
  | fresh h =>
    subst h
    cases action with
    | install => exact .counted 0 (Counted.install capacity)
    | register renderer => exact .fresh rfl
  | counted registered h =>
    rcases step_cases h.initialized action with
      heq | ⟨renderer, entry, hentry, hsame, heq⟩ | ⟨renderer, hnew, -, heq⟩
    · rw [heq]
      exact .counted registered h
    · rw [heq]
      exact .counted registered (h.again hentry hsame)
    · rw [heq]
      exact .counted (registered + 1) (h.enter hnew)

theorem run (h : Regular capacity roll) (actions : List Action) :
    Regular capacity (roll.run actions) := by
  induction actions generalizing roll with
  | nil => exact h
  | cons action actions ih => exact ih (h.step action)

/-- A registry is told by its entries: how many there are tells the next type. -/
theorem registry_eq (h : Regular capacity roll) (hother : Regular capacity other)
    (hentries : roll.registry.entries = other.registry.entries) :
    roll.registry = other.registry := by
  have hlength := congrArg List.length hentries
  cases h with
  | fresh h =>
    cases hother with
    | fresh hother => rw [h, hother]
    | counted registered hother =>
      rw [hother.length_eq, h] at hlength
      cases hlength
  | counted registered h =>
    cases hother with
    | fresh hother =>
      rw [h.length_eq, hother] at hlength
      cases hlength
    | counted others hother =>
      rw [h.length_eq, hother.length_eq] at hlength
      obtain rfl : registered = others := Nat.add_right_cancel hlength
      calc
        roll.registry = ⟨capacity, true, roll.registry.entries, .dynamic registered⟩ := by
          rw [← h.capacity_eq, ← h.initialized, ← h.next]
        _ = ⟨capacity, true, other.registry.entries, .dynamic registered⟩ := by rw [hentries]
        _ = other.registry := by rw [← hother.capacity_eq, ← hother.initialized, ← hother.next]

/-- Whoever was given a type is given it again, as is anyone with the same renderer. -/
theorem register_of_issued (h : Regular capacity roll) {given : Renderer × EventType}
    (hgiven : given ∈ roll.issued) (hsame : given.1.same renderer = true) :
    roll.registry.register renderer = (.ok given.2, roll.registry) := by
  cases h with
  | fresh h =>
    rw [h] at hgiven
    cases hgiven
  | counted registered h =>
    obtain ⟨first, hfirst, hfirstSame⟩ := h.entered given hgiven
    exact register_of_entry h.initialized h.distinct hfirst (Renderer.same_trans hfirstSame hsame)

/-- A new renderer is given the next type while there is room. -/
theorem type_of_new (h : Regular capacity roll)
    (hnew : ∀ entry ∈ roll.registry.entries, entry.2.same renderer = false) {type : EventType}
    {registry : Registry} (hregister : roll.registry.register renderer = (.ok type, registry)) :
    roll.registry.entries.length < capacity ∧
      type.id.toNat = (14 + roll.registry.entries.length) % 2 ^ 32 ∧
      ((∀ given ∈ roll.issued, given.2.isDynamic = true → given.2.id < type.id) ↔
        14 + roll.registry.entries.length < 2 ^ 32) := by
  rcases register_cases roll.registry renderer with
    ⟨-, hearly⟩ | ⟨hinit, ⟨entry, hentry, hsame, -⟩ | ⟨-, ⟨-, hfull⟩ | ⟨hroom, hok⟩⟩⟩
  · cases hearly.symm.trans hregister
  · rw [hnew entry hentry] at hsame
    cases hsame
  · cases hfull.symm.trans hregister
  · cases hok.symm.trans hregister
    cases h with
    | fresh h =>
      rw [h] at hinit
      cases hinit
    | counted registered h =>
      have hlength : 14 + roll.registry.entries.length = 16 + registered := by
        rw [h.length_eq]
        omega
      rw [hlength, ← h.above_iff, h.next, EventType.toNat_dynamic]
      exact ⟨h.capacity_eq ▸ hroom, rfl, Iff.rfl⟩

end
end Regular
end Registry.Roll
end EventLog
