import EventLog.Proofs.Console.Conversation
import EventLog.Proofs.Host.Payload

/-! Sessions in the store of any number of threads. A session is its interpreter: what it says, what it
does to the store and where it ends is what the lines of its input ask for. -/
namespace EventLog

namespace Store.Backed

/-- In a store whose registry has only renderers that do not fail, every event can be shown whose time
has a text. -/
theorem legible {store : Store} (h : store.Backed)
    (hsure : ∀ entry ∈ store.registry.entries, entry.2.Sure)
    (htime : ∀ id ring, store.table.get? id = some ring →
      ∀ record ∈ ring.snapshotHeld.records, record.time.Supported) : store.Legible := by
  intro id ring hget record hrecord
  refine ⟨htime id ring hget record hrecord, ?_⟩
  intro payload renderer hpayload hrenderer
  obtain ⟨slot, hslot, heq⟩ := Ring.exists_slot_of_mem_records hrecord
  obtain ⟨found, hfound, hresolve⟩ :=
    (h.rings id ring hget slot hslot payload (heq.symm.trans hpayload)).renderer
  obtain rfl := Option.some.inj (hfound.symm.trans hrenderer)
  unfold Registry.resolve? at hresolve
  split at hresolve
  · obtain ⟨entry, hentry, rfl⟩ := Option.map_eq_some_iff.mp hresolve
    exact hsure entry (List.mem_of_find?_eq_some hentry)
  · cases hresolve

end Store.Backed

namespace Crew

section
variable {crew : Crew}

/-- Two buffers with an event each. -/
def filledTwice : List (ThreadId × Action) :=
  [(0, .init 2), (0, .create 3), (1, .log .default { message := "a" } {}),
    (1, .log (.buffer 1) { message := "b" } {})]

theorem guard_filledTwice (me : ThreadId) :
    ((run { host := { store := Store.ofConfig {} } } filledTwice).worker me).guard = none := by
  by_cases hmember : me = 0 ∨ me = 1
  · rcases hmember with rfl | rfl <;> rfl
  · rw [not_or] at hmember
    rw [worker_run_of_absent (by simp [filledTwice, hmember])]

end
end Crew
end EventLog
