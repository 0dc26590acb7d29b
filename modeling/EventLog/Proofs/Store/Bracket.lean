import EventLog.Proofs.Store.Access
import EventLog.Proofs.Store.Quiet
import EventLog.Report.Store

/-! Reading and emptying rings under the global lock, in either mode, next to the same without the lock.
The answers and the reports are the same, and what a call leaves behind is what it would have left
behind without the lock, locked. -/
namespace EventLog

namespace Table

theorem mapRings_put (f : Ring → Ring) (table : Table) (id : Nat) (ring : Ring) :
    (table.mapRings f).put id (f ring) = (table.put id ring).mapRings f := by
  unfold mapRings put
  rw [List.map_set]
  rfl

theorem Quiet.ids_eq {table next : Table} (h : table.Quiet next) : next.ids = table.ids := by
  have hnodup (table : Table) : table.ids.Nodup := table.ids_pairwise_lt.imp fun hlt => hlt.ne
  have hperm : next.ids.Perm table.ids := by
    rw [List.perm_ext_iff_of_nodup (hnodup next) (hnodup table)]
    intro id
    rw [mem_ids_iff, mem_ids_iff, h.isSome_eq]
  exact hperm.eq_of_pairwise (fun _ _ _ _ hab hba => absurd hab (lt_asymm hba))
    next.ids_pairwise_lt table.ids_pairwise_lt

end Table

namespace Store

/-- The store is up, and no thread has its lock. -/
structure Free (store : Store) (me : ThreadId) : Prop where
  phase : store.Phase me none
  up : store.isInitialized = true

namespace Free

section
variable {store : Store} {me : ThreadId}

theorem held (h : store.Free me) (full : Bool) :
    (store.held me full).Phase me (some (store.guardOf full)) :=
  (h.phase.lockGlobal (h.phase.lockGlobal_eq h.up full)).2.2

theorem reset (h : store.Free me) (id : Nat) : (store.reset me id).2.Free me :=
  ⟨h.phase.reset id, (Quiet.reset store me id).up_eq.trans h.up⟩

theorem resetAll (h : store.Free me) : (store.resetAll me).2.Free me :=
  ⟨h.phase.resetAll, (Quiet.resetAll store me).up_eq.trans h.up⟩

theorem isInitialized_held (h : store.Free me) (full : Bool) :
    (store.held me full).isInitialized = store.isInitialized := by
  rw [h.up]
  cases full with
  | false => rfl
  | true => rfl

theorem get?_held (store : Store) (me : ThreadId) (full : Bool) (id : Nat) :
    (store.held me full).table.get? id =
      (store.table.get? id).map fun ring => if full then ring.held else ring := by
  cases full with
  | false => exact Option.map_id'.symm
  | true => exact Table.get?_mapRings _ _ _

theorem require_held (h : store.Free me) (full : Bool) (id : Nat) :
    (store.held me full).require id =
      (store.require id).map fun ring => if full then ring.held else ring := by
  unfold require
  rw [h.isInitialized_held, h.up, get?_held]
  cases store.table.get? id with
  | none => rfl
  | some ring => rfl

theorem snapshot_held (h : store.Free me) (full : Bool) (id : Nat) :
    (store.held me full).snapshot me id = store.snapshot me id := by
  rw [(h.held full).snapshot_eq, h.phase.snapshot_eq, h.require_held]
  cases store.require id with
  | error fault => rfl
  | ok ring =>
    cases full with
    | false => rfl
    | true => rfl

theorem statuses_held (h : store.Free me) (full : Bool) :
    (store.held me full).statuses me = store.statuses me := by
  rw [(h.held full).statuses, h.phase.statuses]
  cases full with
  | false => rfl
  | true =>
    show Except.ok ((store.table.mapRings Ring.held).present.map _) = _
    rw [Table.present_mapRings, List.map_map]
    rfl

theorem reset_held (h : store.Free me) (full : Bool) (id : Nat) :
    (store.held me full).reset me id =
      ((store.reset me id).1, (store.reset me id).2.held me full) := by
  rw [(h.held full).reset_eq, h.phase.reset_eq, h.require_held]
  cases store.require id with
  | error fault => rfl
  | ok ring =>
    cases full with
    | false => rfl
    | true =>
      show (_, { store.held me true with
        table := (store.table.mapRings Ring.held).put id (Ring.held ring.resetHeld) }) = _
      rw [Table.mapRings_put]
      rfl

theorem resetAll_held (h : store.Free me) (full : Bool) :
    (store.held me full).resetAll me =
      ((store.resetAll me).1, (store.resetAll me).2.held me full) := by
  rw [(h.held full).resetAll_eq, h.phase.resetAll_eq, h.isInitialized_held, h.up]
  cases full with
  | false => rfl
  | true =>
    show (_, { store.held me true with
      table := (store.table.mapRings Ring.held).mapRings Ring.resetHeld }) = _
    rw [Table.mapRings_mapRings]
    show _ = (_, { store.held me true with
      table := (store.table.mapRings Ring.resetHeld).mapRings Ring.held })
    rw [Table.mapRings_mapRings]
    rfl

/-- What the holder keeps depends on nothing that is read or emptied. -/
theorem guardOf_reset (h : store.Free me) (full : Bool) (id : Nat) :
    (store.reset me id).2.guardOf full = store.guardOf full := by
  have hids := (Quiet.reset store me id).table.ids_eq
  have henabled : (store.reset me id).2.enabled = store.enabled := by
    rw [h.phase.reset_eq]
    cases store.require id with
    | error fault => rfl
    | ok ring => rfl
  unfold guardOf
  rw [hids, henabled]

theorem guardOf_resetAll (h : store.Free me) (full : Bool) :
    (store.resetAll me).2.guardOf full = store.guardOf full := by
  have hids := (Quiet.resetAll store me).table.ids_eq
  have henabled : (store.resetAll me).2.enabled = store.enabled := by
    rw [h.phase.resetAll_eq, if_pos h.up]
  unfold guardOf
  rw [hids, henabled]

theorem default_held (store : Store) (me : ThreadId) (full : Bool) :
    (store.held me full).table.default = store.table.default := by
  cases full with
  | false => rfl
  | true => rfl

theorem ids_held (store : Store) (me : ThreadId) (full : Bool) :
    (store.held me full).table.ids = store.table.ids := by
  cases full with
  | false => rfl
  | true => exact Table.ids_mapRings Ring.held store.table

theorem config_held (store : Store) (me : ThreadId) (full : Bool) :
    (store.held me full).config = store.config := by
  cases full with
  | false => rfl
  | true => rfl

theorem list_held (h : store.Free me) (full : Bool) :
    Report.list (store.held me full) = Report.list store := by
  unfold Report.list
  rw [h.isInitialized_held, config_held, ids_held, default_held]

theorem withSnapshot_held (h : store.Free me) (full : Bool) (id : Nat)
    (present : Snapshot → Emit Unit) (absent : Emit Unit) :
    Report.withSnapshot (store.held me full) me id present absent =
      Report.withSnapshot store me id present absent := by
  unfold Report.withSnapshot
  rw [h.snapshot_held]

theorem buffer_held (h : store.Free me) (full : Bool) (id : Nat) :
    Report.buffer (store.held me full) me id = Report.buffer store me id :=
  h.withSnapshot_held full id _ _

theorem all_held (h : store.Free me) (full : Bool) (withStatus withEvents : Bool) :
    Report.all (store.held me full) me withStatus withEvents =
      Report.all store me withStatus withEvents := by
  unfold Report.all
  simp only [h.isInitialized_held, config_held, h.withSnapshot_held]

end
end Free
end Store
end EventLog
