import EventLog.Proofs.Host.Books
import EventLog.Proofs.Store.Objection

/-! Events written by any number of threads, to a store that any of them may have locked. -/
namespace EventLog

namespace Table.Accounted

/-- Between two turns no slot is being written. -/
theorem ready {table : Table} {n : Nat} (h : table.Accounted n) {id : Nat} {ring : Ring}
    (hget : table.get? id = some ring) : ring.Ready := by
  obtain ⟨ledger, hbooked, -⟩ := h
  obtain ⟨capacity, locked, hcapacity, rfl⟩ := hbooked id ring hget
  exact Ring.ready_ofAccount hcapacity (ledger id) locked

end Table.Accounted

namespace Crew

section
variable {crew : Crew}

/-- Whatever any threads did before and however the store is locked, an event is turned away for the
first of the reasons that stand against it, and is taken where there is none. An event that does not
get to its buffer leaves no trace, one that finds it locked is counted there as dropped, and one that
is taken fills the slot at its cursor; nothing else changes, neither in the store nor in the thread. A
payload of no kind might as well not be there. -/
theorem log_answers_first_objection {config : Config} {start : Store}
    {turns : List (ThreadId × Action)} (hnew : Store.new? config = .ok start)
    (hrun : run { host := { store := start } } turns = crew) (me : ThreadId) (context : Context)
    (target : Target) (event : Event) (now : Instant) :
    ∃ next,
      crew.host.perform { crew.worker me with context } (.log target event now) =
        { answer := (crew.host.store.objections target event).head?.elim .done
            fun error => .fault (.error error)
          host := { crew.host with store := next }
          worker := { crew.worker me with context } } ∧
      crew.host.store.Logged context target event now
        (crew.host.store.objections target event).head? next ∧
      next = { crew.host.store with table := next.table } ∧
      next.table.default = crew.host.store.table.default ∧
      (∀ other, crew.host.store.table.named? target ≠ some other →
        next.table.get? other = crew.host.store.table.get? other) ∧
      ∀ payload : Payload, payload.type = .none →
        crew.host.store.log context target { event with payload := some payload } now =
          crew.host.store.log context target { event with payload := none } now := by
  have haccounted := accounted_of_new hnew turns
  have hsound := (sound_start hnew).run turns
  rw [hrun] at haccounted hsound
  obtain ⟨holder, hphase, -⟩ := hsound.phase
  obtain ⟨next, hlog, hlogged⟩ := Store.exists_logged hphase (fun _ _ => haccounted.ready) context
    target event now
  obtain ⟨hframe, hdefault, hpresent⟩ := hlogged.frame
  refine ⟨next, ?_, hlogged, hframe, hdefault, fun other => hlogged.get?_eq, fun payload =>
    crew.host.store.log_of_none_payload context target event now⟩
  have hstore : crew.host.withStore next = { crew.host with store := next } :=
    crew.host.withStore_eq hpresent
  unfold Host.perform Host.changed Host.liftError
  dsimp only
  rw [hlog]
  dsimp only
  cases (crew.host.store.objections target event).head? with
  | none =>
    show ({ answer := _, notices := _, host := crew.host.withStore next, worker := _ } : Outcome) = _
    rw [hstore]
    rfl
  | some error =>
    show ({ answer := _, host := crew.host.withStore next, worker := _ } : Outcome) = _
    rw [hstore]
    rfl

/-- A thread has the full lock, and another one has switched the store on again. -/
def openedUnderLock : List (ThreadId × Action) := [(0, .init 2), (1, .lock true), (0, .enable)]

/-- An event for a buffer that is not there, with an empty payload of a kind that is not known. -/
def misdirected : Event := { message := "a", payload := some { type := ⟨5⟩, data := [] } }

/-- Of three reasons against an event the first is the answer, and it leaves no trace; one against
which there is only the lock is counted. -/
theorem log_answers_first_objection_openedUnderLock :
    ∃ start crew next, Store.new? {} = .ok start ∧
      run { host := { store := start } } openedUnderLock = crew ∧
      crew.host.store.objections (.buffer 7) misdirected =
        [.invalidBufferId 7, .invalidEventType ⟨5⟩, .eventLocked] ∧
      crew.host.perform (crew.worker 0) (.log (.buffer 7) misdirected {}) =
        { answer := .fault (.error (.invalidBufferId 7)), host := crew.host
          worker := crew.worker 0 } ∧
      crew.host.store.Logged {} .default { message := "b" } {} (some .eventLocked) next := by
  have hnew : Store.new? {} = .ok (Store.ofConfig {}) := rfl
  have hthree : (run { host := { store := Store.ofConfig {} } }
      openedUnderLock).host.store.objections (.buffer 7) misdirected =
        [.invalidBufferId 7, .invalidEventType ⟨5⟩, .eventLocked] := by decide
  have hlocked : (run { host := { store := Store.ofConfig {} } }
      openedUnderLock).host.store.objections .default { message := "b" } = [.eventLocked] := by
    decide
  obtain ⟨first, hperform, hlogged, -⟩ :=
    log_answers_first_objection hnew rfl 0 {} (.buffer 7) misdirected {}
  obtain ⟨second, -, hdropped, -⟩ :=
    log_answers_first_objection hnew rfl 0 {} .default { message := "b" } {}
  rw [hthree] at hperform hlogged
  rw [hlocked] at hdropped
  refine ⟨_, _, second, hnew, rfl, hthree, ?_, hdropped⟩
  cases hlogged
  exact hperform

end
end Crew
end EventLog
