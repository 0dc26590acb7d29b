import EventLog.Proofs.Store.Quiet
import Mathlib.Logic.Function.Basic

/-! The default of a table is one of its rings whenever there is one, and the capacity of a ring is the
one that was asked for, within the limits. Every operation of a store keeps it so. -/
namespace EventLog

namespace Table

/-- The table of a store with these limits whose rings were created on these requests. -/
structure Allocated (table : Table) (config : Config) (requests : Nat → Nat) : Prop where
  size_eq : table.size = config.maxBuffers
  default_isSome : ∀ id, table.default = some id → (table.get? id).isSome = true
  of_default_none : table.default = none → ∀ id, table.get? id = none
  capacity_eq : ∀ id ring, table.get? id = some ring → ring.capacity = config.clamp (requests id)

namespace Allocated

section
variable {table next : Table} {config : Config} {requests : Nat → Nat} {id capacity : Nat}
  {ring : Ring}

theorem empty (config : Config) (requests : Nat → Nat) :
    (Table.empty config.maxBuffers).Allocated config requests where
  size_eq := List.length_replicate
  default_isSome _ h := by cases h
  of_default_none _ := get?_empty config.maxBuffers
  capacity_eq id ring h := by
    rw [get?_empty] at h
    cases h

theorem of_quiet (h : table.Allocated config requests) (hquiet : table.Quiet next) :
    next.Allocated config requests where
  size_eq := hquiet.size_eq.trans h.size_eq
  default_isSome id hdefault := by
    rw [hquiet.isSome_eq]
    exact h.default_isSome id (hquiet.default_eq ▸ hdefault)
  of_default_none hdefault id := by
    rw [hquiet.get?_eq_none_iff]
    exact h.of_default_none (hquiet.default_eq ▸ hdefault) id
  capacity_eq id ring hget := by
    obtain ⟨old, hold, hring⟩ := hquiet.exists_old hget
    rw [hring.capacity_eq]
    exact h.capacity_eq id old hold

/-- A ring in the place of another of the same capacity. -/
theorem put (h : table.Allocated config requests) {changed : Ring}
    (hget : table.get? id = some ring) (hcapacity : changed.capacity = ring.capacity) :
    (table.put id changed).Allocated config requests where
  size_eq := size_put.trans h.size_eq
  default_isSome other hdefault := by
    rw [get?_put_of_lt (lt_size hget)]
    split
    · rfl
    · exact h.default_isSome other hdefault
  of_default_none hdefault := by
    rw [h.of_default_none hdefault id] at hget
    cases hget
  capacity_eq other found hfound := by
    rcases eq_of_get?_put hfound with ⟨rfl, rfl⟩ | ⟨-, hold⟩
    · rw [hcapacity]
      exact h.capacity_eq other ring hget
    · exact h.capacity_eq other found hold

theorem default_eq_none_iff (h : table.Allocated config requests) :
    table.default = none ↔ ∀ id, table.get? id = none := by
  refine ⟨h.of_default_none, ?_⟩
  intro hempty
  cases hdefault : table.default with
  | none => rfl
  | some id =>
    have hsome := h.default_isSome id hdefault
    rw [hempty id] at hsome
    cases hsome

theorem lt_maxBuffers (h : table.Allocated config requests) (hget : table.get? id = some ring) :
    id < config.maxBuffers :=
  h.size_eq ▸ lt_size hget

/-- The capacity of a ring that is put in an entry is the one that is asked for there. -/
theorem capacity_put (h : table.Allocated config requests)
    (hring : ring.capacity = config.clamp capacity) {other : Nat} {found : Ring}
    (hget : (table.put id ring).get? other = some found) :
    found.capacity = config.clamp (Function.update requests id capacity other) := by
  rcases eq_of_get?_put hget with ⟨rfl, rfl⟩ | ⟨hne, hold⟩
  · rw [Function.update_self]
    exact hring
  · rw [Function.update_of_ne hne]
    exact h.capacity_eq other found hold

theorem add (h : table.Allocated config requests) (hfree : table.free? = some id)
    (hring : ring.capacity = config.clamp capacity) :
    (table.add id ring).Allocated config (Function.update requests id capacity) where
  size_eq := size_put.trans h.size_eq
  default_isSome other hdefault := by
    rw [get?_add hfree]
    split
    · rfl
    · next hne =>
      have hdefault : table.default.getD id = other := Option.some.inj hdefault
      cases hold : table.default with
      | none =>
        rw [hold] at hdefault
        exact absurd hdefault.symm hne
      | some first =>
        rw [hold] at hdefault
        exact h.default_isSome other (hdefault ▸ hold)
  of_default_none hdefault := by cases hdefault
  capacity_eq _ _ hget := h.capacity_put hring hget

/-- The first ring of a table that had none. -/
theorem putDefault (h : table.Allocated config requests) (hlt : id < config.maxBuffers)
    (hring : ring.capacity = config.clamp capacity) :
    Allocated { table.put id ring with default := some id } config
      (Function.update requests id capacity) where
  size_eq := size_put.trans h.size_eq
  default_isSome other hdefault := by
    obtain rfl := Option.some.inj hdefault
    show ((table.put id ring).get? id).isSome = true
    rw [get?_put_of_lt (h.size_eq ▸ hlt), if_pos rfl]
    rfl
  of_default_none hdefault := by cases hdefault
  capacity_eq _ _ hget := h.capacity_put hring hget

theorem remove (h : table.Allocated config requests) (id : Nat) :
    (table.remove id).Allocated config requests where
  size_eq := (size_remove table id).trans h.size_eq
  default_isSome other hdefault := by
    by_cases hwas : table.default = some id
    · rw [default_remove_of_eq hwas] at hdefault
      exact (head?_ids_eq_some_iff.mp hdefault).1
    · rw [default_remove_of_ne hwas] at hdefault
      have hne : other ≠ id := by
        rintro rfl
        exact hwas hdefault
      rw [get?_remove, if_neg hne]
      exact h.default_isSome other hdefault
  of_default_none hdefault := by
    by_cases hwas : table.default = some id
    · rw [default_remove_of_eq hwas] at hdefault
      exact head?_ids_eq_none_iff.mp hdefault
    · rw [default_remove_of_ne hwas] at hdefault
      intro other
      rw [get?_remove, h.of_default_none hdefault other]
      split <;> rfl
  capacity_eq other ring hget := by
    rw [get?_remove] at hget
    split at hget
    · cases hget
    · exact h.capacity_eq other ring hget

end
end Allocated
end Table

namespace Store

/-- A store with these limits whose rings were created on these requests; it has none while it is
down. -/
structure Allocated (store : Store) (config : Config) (requests : Nat → Nat) : Prop where
  config_eq : store.config = config
  table : store.table.Allocated config requests
  of_down : store.isInitialized = false → ∀ id, store.table.get? id = none

namespace Allocated

section
variable {store next : Store} {config : Config} {requests : Nat → Nat} {me : ThreadId}
  {capacity id : Nat} {memory : Memory}

theorem ofConfig (config : Config) (requests : Nat → Nat) :
    (Store.ofConfig config).Allocated config requests where
  config_eq := rfl
  table := .empty config requests
  of_down _ := Table.get?_empty config.maxBuffers

theorem of_quiet (h : store.Allocated config requests) (hquiet : store.Quiet next) :
    next.Allocated config requests where
  config_eq := hquiet.config_eq.trans h.config_eq
  table := h.table.of_quiet hquiet.table
  of_down hdown id := (hquiet.table.get?_eq_none_iff id).mpr (h.of_down (hquiet.up_eq ▸ hdown) id)

theorem log (h : store.Allocated config requests) (context : Context) (target : Target)
    (event : Event) (now : Instant) :
    (store.log context target event now).2.Allocated config requests := by
  unfold Store.log
  split
  · exact h
  · next id ring hdestination =>
    have hget := (destination_eq_ok hdestination).2
    refine ⟨h.config_eq, h.table.put hget (Ring.capacity_append _ _ _ _), ?_⟩
    intro hdown
    rw [h.of_down hdown id] at hget
    cases hget

theorem init_error (h : store.Allocated config requests) {fault : Fault}
    (hinit : store.init capacity memory = (.error fault, next)) :
    next.Allocated config requests := by
  rcases init_cases store capacity memory with
    ⟨_, herror⟩ | ⟨-, ⟨_, herror⟩ | ⟨_, hok, -⟩⟩
  · cases herror.symm.trans hinit
    exact h
  · cases herror.symm.trans hinit
    exact ⟨h.config_eq, h.table, h.of_down⟩
  · cases hok.symm.trans hinit

theorem init_ok (h : store.Allocated config requests) (hpos : 0 < config.maxBuffers)
    (hinit : store.init capacity memory = (.ok (), next)) :
    next.Allocated config
      (if capacity = 0 then requests else Function.update requests 0 capacity) := by
  rcases init_cases store capacity memory with
    ⟨_, herror⟩ | ⟨-, ⟨_, herror⟩ | ⟨_, hok, ⟨rfl, rfl⟩ | ⟨hne, ring, hnew, rfl⟩⟩⟩
  · cases herror.symm.trans hinit
  · cases herror.symm.trans hinit
  · cases hok.symm.trans hinit
    exact ⟨h.config_eq, h.table, nofun⟩
  · cases hok.symm.trans hinit
    rw [if_neg hne]
    rw [h.config_eq] at hnew
    exact ⟨h.config_eq, h.table.putDefault hpos (Ring.capacity_of_new? hnew), nofun⟩

theorem cleanup (h : store.Allocated config requests) (me : ThreadId) :
    (store.cleanup me).2.Allocated config requests := by
  rcases cleanup_cases store me with ⟨_, herror⟩ | hok
  · rw [herror]
    exact h
  · rw [hok, h.table.size_eq]
    exact ⟨h.config_eq, .empty config requests, fun _ => Table.get?_empty config.maxBuffers⟩

theorem create_error (h : store.Allocated config requests) {fault : Fault}
    (hcreate : store.create me capacity memory = (.error fault, next)) :
    next.Allocated config requests := by
  rcases create_cases store me capacity memory with
    ⟨_, -, herror⟩ | ⟨hlock, ⟨-, herror⟩ | ⟨_, -, ⟨_, -, herror⟩ | ⟨_, -, hok⟩⟩⟩
  · cases herror.symm.trans hcreate
    exact h
  · cases herror.symm.trans hcreate
    exact h.of_quiet (.freed (isInitialized_of_lockGlobal hlock))
  · cases herror.symm.trans hcreate
    exact h.of_quiet (.freed (isInitialized_of_lockGlobal hlock))
  · cases hok.symm.trans hcreate

theorem create_ok (h : store.Allocated config requests)
    (hcreate : store.create me capacity memory = (.ok id, next)) :
    next.Allocated config (Function.update requests id capacity) := by
  rcases create_cases store me capacity memory with
    ⟨_, -, herror⟩ | ⟨-, ⟨-, herror⟩ | ⟨_, hfree, ⟨_, -, herror⟩ | ⟨ring, hnew, hok⟩⟩⟩
  · cases herror.symm.trans hcreate
  · cases herror.symm.trans hcreate
  · cases herror.symm.trans hcreate
  · cases hok.symm.trans hcreate
    rw [h.config_eq] at hnew
    exact ⟨h.config_eq, h.table.add hfree (Ring.capacity_of_new? hnew), nofun⟩

theorem delete (h : store.Allocated config requests) (me : ThreadId) (id : Nat) :
    (store.delete me id).2.Allocated config requests := by
  rcases delete_cases store me id with
    ⟨_, -, herror⟩ | ⟨-, table, htable, hdeleted⟩
  · rw [herror]
    exact h
  have hlocked := h.table.of_quiet (.mapRings?_acquire htable)
  rcases hdeleted with ⟨-, herror⟩ | ⟨-, hok⟩
  · rw [herror]
    exact ⟨h.config_eq, hlocked.of_quiet (.mapAt_release _ _), nofun⟩
  · rw [hok]
    exact ⟨h.config_eq, (hlocked.remove id).of_quiet (.mapAt_release _ _), nofun⟩

end
end Allocated
end Store
end EventLog
