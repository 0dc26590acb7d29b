import EventLog.Proofs.Console.Session
import EventLog.Proofs.Store.Held
import EventLog.Proofs.Store.Lifecycle

/-! The switch of a store and its lock. While the lock is taken no call brings the store up or down,
takes the lock anew or turns the switch; a full lock turns it off when it is taken. -/
namespace EventLog

namespace Store

section
variable {store next : Store} {me : ThreadId} {full : Bool}

/-- A lock that is taken is not there for anyone, its holder included. -/
theorem lockGlobal_of_locked (h : store.globalLock.locked = true) (me : ThreadId) (full : Bool) :
    ∃ fault, store.lockGlobal me full = (.error fault, store) := by
  rcases lockGlobal_cases store me full with herror | ⟨-, -, hfree, -⟩
  · exact herror
  · rw [hfree] at h
    cases h

theorem underLock_of_locked {α : Type} (h : store.globalLock.locked = true) (me : ThreadId)
    (full : Bool) (change : Store → Except Fault α × Store) :
    ∃ fault, store.underLock me full change = (.error fault, store) := by
  obtain ⟨fault, herror⟩ := lockGlobal_of_locked h me full
  unfold underLock
  rw [herror]
  exact ⟨fault, rfl⟩

theorem cleanup_of_locked (h : store.globalLock.locked = true) (me : ThreadId) :
    ∃ fault, store.cleanup me = (.error fault, store) := by
  obtain ⟨fault, herror⟩ := lockGlobal_of_locked h me false
  unfold cleanup
  rw [herror]
  exact ⟨fault, rfl⟩

/-- A store with the same locks, and its switch in the same position. -/
def Steady (store next : Store) : Prop := next.locks = store.locks ∧ next.enabled = store.enabled

namespace Steady

theorem refl (store : Store) : store.Steady store := ⟨rfl, rfl⟩

theorem trans {last : Store} (h : store.Steady next) (hlast : next.Steady last) :
    store.Steady last :=
  ⟨hlast.1.trans h.1, hlast.2.trans h.2⟩

theorem state_eq (h : store.Steady next) : next.state = store.state := congrArg Prod.fst h.1

theorem globalLock_eq (h : store.Steady next) : next.globalLock = store.globalLock :=
  congrArg (fun locks => locks.2.2) h.1

theorem reset (store : Store) (me : ThreadId) (id : Nat) : store.Steady (store.reset me id).2 := by
  unfold Store.reset
  split
  · exact .refl _
  · split
    · exact ⟨rfl, rfl⟩
    · split
      · exact ⟨rfl, rfl⟩
      · exact .refl _

theorem resetPresent (store : Store) (me : ThreadId) : store.Steady (store.resetPresent me).2 := by
  unfold Store.resetPresent
  split
  · exact ⟨rfl, rfl⟩
  · split
    · exact ⟨rfl, rfl⟩
    · exact .refl _

theorem log (store : Store) (context : Context) (target : Target) (event : Event)
    (now : Instant) : store.Steady (store.log context target event now).2 := by
  unfold Store.log
  split
  · exact .refl _
  · exact ⟨rfl, rfl⟩

/-- Under the lock rings are emptied through it, or not at all. -/
theorem resetAll (h : store.globalLock.locked = true) (me : ThreadId) :
    store.Steady (store.resetAll me).2 := by
  unfold Store.resetAll
  split
  · exact .resetPresent store me
  · obtain ⟨_, herror⟩ := underLock_of_locked h me false fun store => store.resetPresent me
    rw [herror]
    exact .refl _

/-- A store that is up is not brought up again. -/
theorem init (hup : store.isInitialized = true) (capacity : Nat) (memory : Memory) :
    store.Steady (store.init capacity memory).2 := by
  unfold Store.init
  rw [if_pos hup]
  exact .refl _

theorem cleanup (h : store.globalLock.locked = true) (me : ThreadId) :
    store.Steady (store.cleanup me).2 := by
  obtain ⟨_, herror⟩ := cleanup_of_locked h me
  rw [herror]
  exact .refl _

theorem underLock {α : Type} (h : store.globalLock.locked = true) (me : ThreadId) (full : Bool)
    (change : Store → Except Fault α × Store) :
    store.Steady (store.underLock me full change).2 := by
  obtain ⟨_, herror⟩ := underLock_of_locked h me full change
  rw [herror]
  exact .refl _

/-- A session under the lock. -/
theorem session (h : store.globalLock.locked = true) {session : Session}
    (hstore : session.store = store) : store.Steady session.run.2.store := by
  refine Session.store_run (P := fun next => store.Steady next) ?_ ?_ (hstore ▸ .refl _)
  · intro next id hnext
    exact hnext.trans (.reset next _ id)
  · intro next hnext
    exact hnext.trans (.resetAll (hnext.globalLock_eq ▸ h) _)

end Steady

/-- The store is not fully locked. -/
def Loose (store : Store) : Prop := store.state ≠ .fullyLocked

namespace Loose

theorem of_steady (h : store.Loose) (hsteady : store.Steady next) : next.Loose := by
  unfold Loose
  rwa [hsteady.state_eq]

/-- Whatever its guard was, a lock that is given back is not a full one any more. -/
theorem release (store : Store) (guard : Guard) : (store.release guard).Loose := by
  unfold Loose Store.release
  dsimp only
  split <;> exact nofun

theorem underLock {α : Type} (h : store.Loose) (me : ThreadId) (full : Bool)
    (change : Store → Except Fault α × Store) : (store.underLock me full change).2.Loose := by
  unfold Store.underLock
  split
  · next hlock =>
    rw [eq_of_lockGlobal_error hlock]
    exact h
  · exact release _ _

theorem resetAll (h : store.Loose) (me : ThreadId) : (store.resetAll me).2.Loose := by
  unfold Store.resetAll
  split
  · exact h.of_steady (.resetPresent store me)
  · exact h.underLock me false _

theorem init (h : store.Loose) (capacity : Nat) (memory : Memory) :
    (store.init capacity memory).2.Loose := by
  rcases init_cases store capacity memory with ⟨_, herror⟩ | ⟨-, ⟨_, herror⟩ | ⟨_, hok, -⟩⟩
  · rw [herror]
    exact h
  · rw [herror]
    exact h
  · rw [hok]
    exact nofun

theorem cleanup (h : store.Loose) (me : ThreadId) : (store.cleanup me).2.Loose := by
  rcases cleanup_cases store me with ⟨_, herror⟩ | hok
  · rw [herror]
    exact h
  · rw [hok]
    exact nofun

theorem session {session : Session} (h : session.store.Loose) : session.run.2.store.Loose :=
  Session.store_run (P := Loose) (fun next id hnext => hnext.of_steady (.reset next _ id))
    (fun _ hnext => hnext.resetAll _) h

end Loose

/-- Only a full lock, taken while the lock is free, makes a store fully locked; it turns the switch
off. -/
theorem lockGlobal_full_of_loose (h : store.Loose) (me : ThreadId) (full : Bool) :
    (store.lockGlobal me full).2.Loose ∨
      full = true ∧ store.isInitialized = true ∧ store.globalLock.locked = false ∧
        (store.lockGlobal me full).2.enabled = false := by
  rcases lockGlobal_cases store me full with
    ⟨_, herror⟩ | ⟨-, hup, hfree, ⟨-, hsimple⟩ | ⟨rfl, table, -, hfull⟩⟩
  · rw [herror]
    exact .inl h
  · rw [hsimple]
    exact .inl nofun
  · rw [hfull, hfree]
    exact .inr ⟨rfl, hup, rfl, rfl⟩

/-- What a locked store answers to an event: that it is switched off, why the event has no ring to go
to, or that the ring is locked and counts it as dropped. -/
theorem log_eq_of_locked (hlocked : store.table.Locked true) (hup : store.isInitialized = true)
    (context : Context) (target : Target) (event : Event) (now : Instant) :
    (store.log context target event now = (.error .disabled, store) ↔ store.enabled = false) ∧
      ∀ id ring, store.destination target event = .ok (id, ring) →
        store.log context target event now =
          (.error .eventLocked, { store with table := store.table.put id ring.recordDrop }) := by
  refine ⟨⟨?_, ?_⟩, ?_⟩
  · intro hlog
    unfold Store.log at hlog
    split at hlog
    · next hdestination =>
      cases hlog
      exact enabled_of_destination_disabled hdestination
    · next id ring hdestination =>
      have hget := (destination_eq_ok hdestination).2
      rw [Table.append_of_locked hlocked hget] at hlog
      cases hlog
  · intro hoff
    unfold Store.log
    rw [destination_eq, hup, hoff]
    rfl
  · intro id ring hdestination
    have hget := (destination_eq_ok hdestination).2
    unfold Store.log
    rw [hdestination]
    dsimp only
    rw [Table.append_of_locked hlocked hget]

end
end Store
end EventLog
