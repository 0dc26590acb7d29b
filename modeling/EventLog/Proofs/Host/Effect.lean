import EventLog.Host
import EventLog.Proofs.Console.Session
import EventLog.Proofs.Store.Table

/-! What an action does to the store, and to the guard of the thread that takes it. An action is one
call to the store, a session, or it leaves the store alone. -/
namespace EventLog

/-- Where no ring leaves the table, none goes on by itself. -/
theorem Kept.follow_eq_self (kept : Kept) {old new : Table}
    (h : ∀ id ring, old.get? id = some ring → (new.get? id).isSome = true) :
    kept.follow old new = kept := by
  unfold follow
  have hpresent : ∀ entry ∈ old.present, (new.get? entry.1).isSome = true :=
    fun entry hentry => h entry.1 entry.2 (Table.mem_present.mp hentry)
  generalize old.present = entries at hpresent
  induction entries with
  | nil => rfl
  | cons entry entries ih =>
    have hstays : (new.get? entry.1).isNone = false :=
      Option.isNone_eq_false_iff.mpr (hpresent entry List.mem_cons_self)
    rw [List.foldl_cons, hstays]
    exact ih fun other hother => hpresent other (List.mem_cons_of_mem _ hother)

namespace Host

/-- A store with the same buffers takes the place of the old one. -/
theorem withStore_eq (host : Host) {store : Store}
    (h : ∀ id, (store.table.get? id).isSome = (host.store.table.get? id).isSome) :
    host.withStore store = { host with store } := by
  unfold withStore
  rw [host.kept.follow_eq_self fun id ring hget => by rw [h, hget]; rfl]

/-- The store after an action. -/
def storeAfter (host : Host) (worker : Worker) : Action → Store
  | .init capacity memory => (host.store.init capacity memory).2
  | .cleanup => (host.store.cleanup worker.id).2
  | .create capacity memory => (host.store.create worker.id capacity memory).2
  | .delete id => (host.store.delete worker.id id).2
  | .reset id => (host.store.reset worker.id id).2
  | .resetAll => (host.store.resetAll worker.id).2
  | .enable => host.store.enable
  | .disable => host.store.disable
  | .toggle => host.store.toggle
  | .lock full => (host.store.lockGlobal worker.id full).2
  | .unlock =>
    match worker.guard with
    | some guard => host.store.release guard
    | none => host.store
  | .register renderer => (host.store.register renderer).2
  | .log target event now => (host.store.log worker.context target event now).2
  | .session source room =>
    (Session.start host.store worker.id source { sink := { room }, uses := host.uses }).run.2.store
  | _ => host.store

/-- The guard that the thread has after an action. -/
def guardAfter (host : Host) (worker : Worker) : Action → Option Guard
  | .lock full =>
    match (host.store.lockGlobal worker.id full).1 with
    | .ok guard => some guard
    | .error _ => worker.guard
  | .unlock => none
  | _ => worker.guard

section
variable {α : Type} (host : Host) (worker : Worker)

@[simp] theorem store_changed (result : Except Fault α × Store) (answer : α → Answer)
    (notices : α → List Notice) :
    (host.changed worker result answer notices).host.store = result.2 := by
  obtain ⟨result, store⟩ := result
  cases result with
  | ok value => rfl
  | error fault => rfl

@[simp] theorem worker_changed (result : Except Fault α × Store) (answer : α → Answer)
    (notices : α → List Notice) :
    (host.changed worker result answer notices).worker = worker := by
  obtain ⟨result, store⟩ := result
  cases result with
  | ok value => rfl
  | error fault => rfl

@[simp] theorem store_seen (result : Except Fault α) (answer : α → Answer) :
    (host.seen worker result answer).host.store = host.store := by
  cases result with
  | ok value => rfl
  | error fault => rfl

@[simp] theorem worker_seen (result : Except Fault α) (answer : α → Answer) :
    (host.seen worker result answer).worker = worker := by
  cases result with
  | ok value => rfl
  | error fault => rfl

theorem store_perform (action : Action) :
    (host.perform worker action).host.store = host.storeAfter worker action := by
  cases action with
  | lock full =>
    unfold perform storeAfter
    dsimp only
    split
    · next h =>
      rw [h]
      rfl
    · next h =>
      rw [h]
      rfl
  | unlock =>
    unfold perform storeAfter
    cases worker.guard with
    | some guard => rfl
    | none => rfl
  | leave =>
    unfold perform storeAfter
    dsimp only
    split <;> rfl
  | init _ _ | cleanup | create _ _ | delete _ | reset _ | resetAll | register _ | log _ _ _ =>
    exact store_changed host worker _ _ _
  | snapshot _ | statuses => exact store_seen host worker _ _
  | _ => rfl

theorem worker_perform (action : Action) :
    (host.perform worker action).worker.id = worker.id ∧
      (host.perform worker action).worker.guard = host.guardAfter worker action := by
  cases action with
  | lock full =>
    unfold perform guardAfter
    dsimp only
    split
    · next h =>
      rw [h]
      exact ⟨rfl, rfl⟩
    · next h =>
      rw [h]
      exact ⟨rfl, rfl⟩
  | unlock =>
    unfold perform guardAfter
    cases h : worker.guard with
    | some guard => exact ⟨rfl, rfl⟩
    | none => exact ⟨rfl, h⟩
  | leave =>
    unfold perform guardAfter
    dsimp only
    split <;> exact ⟨rfl, rfl⟩
  | init _ _ | cleanup | create _ _ | delete _ | reset _ | resetAll | register _ | log _ _ _ =>
    unfold perform
    rw [worker_changed]
    exact ⟨rfl, rfl⟩
  | snapshot _ | statuses =>
    unfold perform
    rw [worker_seen]
    exact ⟨rfl, rfl⟩
  | _ => exact ⟨rfl, rfl⟩

end
end Host
end EventLog
