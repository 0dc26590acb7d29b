import EventLog.Proofs.Console.Progress
import EventLog.Proofs.Host.Effect
import EventLog.Proofs.Host.Solo
import EventLog.Proofs.Store.Progress

/-! The global lock along every run of one thread. The lock is held exactly while the thread has a
guard, no call waits for a lock that the thread holds, and under a full lock no ring takes an event. -/
namespace EventLog

/-- What a ring holds: its slots, cursor and wrap counter. -/
def Ring.content (ring : Ring) : List Slot × Nat × UInt64 := (ring.slots, ring.next, ring.wraps)

/-- The thread came to wait for a lock, at the call itself or in the middle of its output. -/
def Answer.Waits : Answer → Prop
  | .fault reason => reason = .waits
  | .transcript written => written.halt = some .waits
  | .session written _ _ => written.halt = some .waits
  | _ => False

namespace Store

/-- A store all of whose rings are locked takes no event, whether it is switched on or not. -/
theorem log_of_locked {store : Store} (hlocked : store.table.Locked true) (context : Context)
    (target : Target) (event : Event) (now : Instant) :
    (store.log context target event now).1 ≠ .ok () ∧
      ∀ id, ((store.log context target event now).2.table.get? id).map Ring.content =
        (store.table.get? id).map Ring.content := by
  unfold Store.log
  split
  · exact ⟨nofun, fun _ => rfl⟩
  · next id ring hdestination =>
    obtain ⟨-, hget⟩ := destination_eq_ok hdestination
    rw [Table.append_of_locked hlocked hget]
    refine ⟨nofun, ?_⟩
    intro other
    rw [Table.get?_put_of_lt (Table.lt_size hget)]
    split
    · next heq =>
      rw [heq, hget]
      rfl
    · rfl

namespace Phase

variable {host : Host} {worker : Worker}

theorem perform (h : host.store.Phase worker.id worker.guard) (action : Action) :
    (host.perform worker action).host.store.Phase (host.perform worker action).worker.id
      (host.perform worker action).worker.guard := by
  obtain ⟨hid, hguard⟩ := host.worker_perform worker action
  rw [host.store_perform, hid, hguard]
  cases action with
  | init capacity memory => exact h.init capacity memory
  | cleanup => exact h.cleanup
  | create capacity memory => exact h.create capacity memory
  | delete id => exact h.delete id
  | reset id => exact h.reset id
  | resetAll => exact h.resetAll
  | lock full =>
    unfold Host.storeAfter Host.guardAfter
    dsimp only
    cases hlock : host.store.lockGlobal worker.id full with
    | mk result next =>
      cases result with
      | error fault =>
        obtain rfl := eq_of_lockGlobal_error hlock
        exact h
      | ok taken => exact (h.lockGlobal hlock).2.2
  | unlock =>
    unfold Host.storeAfter Host.guardAfter
    dsimp only
    cases hguard : worker.guard with
    | none =>
      rw [hguard] at h
      exact h
    | some taken =>
      rw [hguard] at h
      exact h.release
  | log target event now => exact h.log worker.context target event now
  | session source room =>
    exact Session.store_run (P := fun store => store.Phase worker.id worker.guard)
      (fun _ id hstore => hstore.reset id) (fun _ hstore => hstore.resetAll) h
  | enable | disable | toggle | register _ => exact h.same rfl rfl
  | _ => exact h

end Phase
end Store

namespace Host

variable {host : Host} {worker : Worker}

theorem not_waits_changed {α : Type} {result : Except Fault α × Store} {answer : α → Answer}
    {notices : α → List Notice} (hresult : result.1 ≠ .error .waits)
    (hanswer : ∀ value, ¬ (answer value).Waits) :
    ¬ (host.changed worker result answer notices).answer.Waits := by
  obtain ⟨result, store⟩ := result
  cases result with
  | ok value => exact hanswer value
  | error fault =>
    intro (h : fault = .waits)
    exact hresult (congrArg Except.error h)

theorem not_waits_seen {α : Type} {result : Except Fault α} {answer : α → Answer}
    (hresult : result ≠ .error .waits) (hanswer : ∀ value, ¬ (answer value).Waits) :
    ¬ (host.seen worker result answer).answer.Waits := by
  cases result with
  | ok value => exact hanswer value
  | error fault =>
    intro (h : fault = .waits)
    exact hresult (congrArg Except.error h)

theorem liftError_ne_waits {α : Type} (result : Except Error α × Store) :
    (liftError result).1 ≠ .error .waits := by
  obtain ⟨result, store⟩ := result
  cases result with
  | ok value => exact nofun
  | error error => exact nofun

theorem not_waits_written {writer : Emit Unit} (h : writer.Unhindered) (room : Option Nat) :
    ¬ (host.written worker room writer).answer.Waits :=
  h.halt_transcript room host.uses

theorem not_waits_session (h : host.store.Phase worker.id worker.guard) (source : Source)
    (room : Option Nat) : ¬ (host.session worker source room).answer.Waits := by
  have hresult : (Session.start host.store worker.id source
      { sink := { room }, uses := host.uses }).run.1 ≠ .error .waits := Session.run_ne_waits h
  unfold session closed
  dsimp only
  intro hwaits
  unfold Answer.Waits at hwaits
  dsimp only at hwaits
  split at hwaits
  · cases hwaits
  · next halt heq =>
    rw [heq] at hresult
    exact hresult (congrArg Except.error (Option.some.inj hwaits))

/-- No call of a thread that works alone waits. -/
theorem not_waits_perform (h : host.store.Phase worker.id worker.guard) (action : Action) :
    ¬ (host.perform worker action).answer.Waits := by
  cases action with
  | init capacity memory =>
    exact not_waits_changed (h.init_ne_waits capacity memory) fun _ => not_false
  | cleanup => exact not_waits_changed h.cleanup_ne_waits fun _ => not_false
  | create capacity memory =>
    exact not_waits_changed (h.create_ne_waits capacity memory) fun _ => not_false
  | delete id => exact not_waits_changed (h.delete_ne_waits id) fun _ => not_false
  | reset id => exact not_waits_changed (h.reset_ne_waits id) fun _ => not_false
  | resetAll => exact not_waits_changed h.resetAll_ne_waits fun _ => not_false
  | register renderer => exact not_waits_changed (liftError_ne_waits _) fun _ => not_false
  | log target event now => exact not_waits_changed (liftError_ne_waits _) fun _ => not_false
  | snapshot id => exact not_waits_seen (h.snapshot_ne_waits id) fun _ => not_false
  | statuses => exact not_waits_seen h.statuses_ne_waits fun _ => not_false
  | list room => exact not_waits_written (Emit.Unhindered.compositional.list _) room
  | dump id room => exact not_waits_written (h.unhindered_buffer id) room
  | dumpAll withStatus withEvents room =>
    exact not_waits_written (h.unhindered_all withStatus withEvents) room
  | session source room => exact not_waits_session h source room
  | lock full =>
    have hne := h.lockGlobal_ne_waits full
    unfold perform
    dsimp only
    split
    · exact not_false
    · next fault _ hlock =>
      rw [hlock] at hne
      intro (hwaits : fault = .waits)
      exact hne (congrArg Except.error hwaits)
  | unlock =>
    unfold perform
    dsimp only
    split
    · exact not_false
    · exact not_false
  | leave =>
    unfold perform
    dsimp only
    split
    · exact not_false
    · exact not_false
  | _ => exact not_false

end Host

namespace Solo

variable {solo : Solo}

theorem phase_run (h : solo.host.store.Phase solo.worker.id solo.worker.guard)
    (actions : List Action) :
    (solo.run actions).host.store.Phase (solo.run actions).worker.id
      (solo.run actions).worker.guard := by
  induction actions generalizing solo with
  | nil => exact h
  | cons action actions ih => exact ih (h.perform action)

/-- Whatever one thread does, the state, the lock and the owner of the store tell whether it has a
guard, and the rings are locked exactly under a full lock. With a guard it is refused what needs the
lock anew. It never waits, nor does anything that it has shown or serves, and under a full lock no event
is let in. -/
theorem lock_follows_guard {config : Config} {store : Store} {worker : Worker}
    {actions : List Action} (hnew : Store.new? config = .ok store) (hguard : worker.guard = none)
    (hrun : run { host := { store }, worker } actions = solo) :
    (solo.host.store.state.isLocked = true ↔ solo.worker.guard.isSome = true) ∧
    (solo.host.store.globalLock.locked = true ↔ solo.worker.guard.isSome = true) ∧
    solo.host.store.owner = solo.worker.guard.map (fun _ => solo.worker.id) ∧
    (∀ id ring, solo.host.store.table.get? id = some ring →
      (ring.lock.locked = true ↔ solo.host.store.state = .fullyLocked)) ∧
    (solo.worker.guard.isSome = true →
      (∀ full, solo.host.store.lockGlobal solo.worker.id full =
        (.error (.error Store.alreadyHeld), solo.host.store)) ∧
      (∀ capacity memory, solo.host.store.create solo.worker.id capacity memory =
        (.error (.error Store.alreadyHeld), solo.host.store)) ∧
      (∀ id, solo.host.store.delete solo.worker.id id =
        (.error (.error Store.alreadyHeld), solo.host.store)) ∧
      solo.host.store.cleanup solo.worker.id =
        (.error (.error Store.alreadyHeld), solo.host.store)) ∧
    (∀ action, ¬ (solo.host.perform solo.worker action).answer.Waits) ∧
    (solo.host.store.state = .fullyLocked → ∀ context target event now,
      (solo.host.store.log context target event now).1 ≠ .ok () ∧
        ∀ id, ((solo.host.store.log context target event now).2.table.get? id).map Ring.content =
          (solo.host.store.table.get? id).map Ring.content) := by
  have hphase : solo.host.store.Phase solo.worker.id solo.worker.guard :=
    hrun ▸ phase_run (sound_start hnew hguard).phase actions
  refine ⟨hphase.isLocked_iff, hphase.globalLock_iff, hphase.owner_eq,
    fun _ _ => hphase.ring_locked_iff, ?_, Host.not_waits_perform hphase, ?_⟩
  · intro hsome
    obtain ⟨taken, htaken⟩ := Option.isSome_iff_exists.mp hsome
    rw [htaken] at hphase
    exact ⟨hphase.lockGlobal_of_guard, fun _ _ => hphase.underLock_of_guard false _,
      fun _ => hphase.underLock_of_guard true _, hphase.cleanup_of_guard⟩
  · intro hfull
    refine Store.log_of_locked ?_
    intro id ring hget
    have hlocked := (hphase.ring_locked_iff hget).mpr hfull
    cases hlock : ring.lock
    simpa [hlock] using hlocked

/-- A full lock is taken and the store is switched on under it. -/
theorem lock_follows_guard_switchedOn :
    ∃ store solo, Store.new? {} = .ok store ∧
      run { host := { store }, worker := {} } [.init 2, .lock true, .enable] = solo ∧
      solo.host.store.state = .fullyLocked ∧ solo.host.store.enabled = true ∧
      solo.worker.guard.isSome = true ∧ solo.host.store.owner = some 0 ∧
      ¬ (solo.host.perform solo.worker (.dumpAll true true none)).answer.Waits ∧
      (solo.host.store.log {} .default { message := "a" } {}).1 ≠ .ok () := by
  have hnew : Store.new? {} = .ok (Store.ofConfig {}) := rfl
  obtain ⟨hstate, -, howner, -, -, hwaits, hlog⟩ := lock_follows_guard hnew rfl
    (rfl : run { host := { store := Store.ofConfig {} }, worker := {} }
      [.init 2, .lock true, .enable] = _)
  have hfull : (run { host := { store := Store.ofConfig {} }, worker := {} }
      [.init 2, .lock true, .enable]).host.store.state = .fullyLocked := rfl
  refine ⟨_, _, hnew, rfl, hfull, rfl, hstate.mp ?_, howner, hwaits _, (hlog hfull _ _ _ _).1⟩
  rw [hfull]
  rfl

end Solo
end EventLog
