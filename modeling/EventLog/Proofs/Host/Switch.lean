import EventLog.Proofs.Host.Crew
import EventLog.Proofs.Store.Switch

/-! The switch under a full lock, along every run of any number of threads. Taking the lock turns the
switch off, but any thread may turn it on again while the lock is held. What an event is answered
depends on that; it is let in by neither. -/
namespace EventLog

/-- What an action does to the switch where it does nothing else. -/
def Action.switch : Action → Bool → Bool
  | .enable, _ => true
  | .disable, _ => false
  | .toggle, on => !on
  | _, on => on

/-- The position of the switch after these turns of a store that is switched off. -/
def Action.switched (turns : List (ThreadId × Action)) : Bool :=
  turns.foldl (fun on turn => turn.2.switch on) false

/-- Where nobody turns it on, the switch stays off. -/
theorem Action.switched_eq_false {turns : List (ThreadId × Action)}
    (h : ∀ turn ∈ turns, turn.2 ≠ .enable ∧ turn.2 ≠ .toggle) : Action.switched turns = false := by
  unfold Action.switched
  induction turns with
  | nil => rfl
  | cons turn turns ih =>
    obtain ⟨henable, htoggle⟩ := h turn List.mem_cons_self
    have hoff : turn.2.switch false = false := by
      unfold Action.switch
      split <;> simp_all
    rw [List.foldl_cons, hoff]
    exact ih fun other hother => h other (List.mem_cons_of_mem _ hother)

namespace Host

section
variable {host : Host} {worker : Worker}

/-- An action while the lock is taken turns the switch only if that is what it is for. -/
theorem storeAfter_of_locked (hlock : host.store.globalLock.locked = true)
    (hup : host.store.isInitialized = true) {action : Action}
    (hfull : (host.storeAfter worker action).state = .fullyLocked) :
    (host.storeAfter worker action).state = host.store.state ∧
      (host.storeAfter worker action).enabled = action.switch host.store.enabled := by
  have hkeeps {next : Store} (h : host.store.Steady next) :
      next.state = host.store.state ∧ next.enabled = host.store.enabled := ⟨h.state_eq, h.2⟩
  cases action with
  | init capacity memory => exact hkeeps (.init hup capacity memory)
  | cleanup => exact hkeeps (.cleanup hlock worker.id)
  | create capacity memory => exact hkeeps (.underLock hlock worker.id false _)
  | delete id => exact hkeeps (.underLock hlock worker.id true _)
  | reset id => exact hkeeps (.reset host.store worker.id id)
  | resetAll => exact hkeeps (.resetAll hlock worker.id)
  | log target event now => exact hkeeps (.log host.store worker.context target event now)
  | session source room => exact hkeeps (.session hlock rfl)
  | lock full =>
    obtain ⟨_, herror⟩ := Store.lockGlobal_of_locked hlock worker.id full
    have hsame : host.storeAfter worker (.lock full) = host.store := congrArg Prod.snd herror
    rw [hsame]
    exact hkeeps (.refl _)
  | unlock =>
    unfold storeAfter at hfull ⊢
    dsimp only at hfull ⊢
    cases hguard : worker.guard with
    | none => exact hkeeps (.refl _)
    | some taken =>
      rw [hguard] at hfull
      exact absurd hfull (Store.Loose.release host.store taken)
  | _ => exact ⟨rfl, rfl⟩

/-- Only taking a full lock makes a store fully locked. -/
theorem eq_lock_of_storeAfter (hloose : host.store.Loose) {action : Action}
    (hfull : (host.storeAfter worker action).state = .fullyLocked) :
    action = .lock true ∧ host.store.isInitialized = true ∧
      host.store.globalLock.locked = false ∧
      (host.storeAfter worker action).enabled = false := by
  cases action with
  | init capacity memory => exact absurd hfull (hloose.init capacity memory)
  | cleanup => exact absurd hfull (hloose.cleanup worker.id)
  | create capacity memory => exact absurd hfull (hloose.underLock worker.id false _)
  | delete id => exact absurd hfull (hloose.underLock worker.id true _)
  | reset id => exact absurd hfull (hloose.of_steady (.reset host.store worker.id id))
  | resetAll => exact absurd hfull (hloose.resetAll worker.id)
  | log target event now =>
    exact absurd hfull (hloose.of_steady (.log host.store worker.context target event now))
  | session source room => exact absurd hfull (Store.Loose.session hloose)
  | lock full =>
    rcases Store.lockGlobal_full_of_loose hloose worker.id full with
      hstays | ⟨rfl, hup, hfree, hoff⟩
    · exact absurd hfull hstays
    · exact ⟨rfl, hup, hfree, hoff⟩
  | unlock =>
    unfold storeAfter at hfull
    dsimp only at hfull
    cases hguard : worker.guard with
    | none =>
      rw [hguard] at hfull
      exact absurd hfull hloose
    | some taken =>
      rw [hguard] at hfull
      exact absurd hfull (Store.Loose.release host.store taken)
  | _ => exact absurd hfull hloose

end
end Host

namespace Crew

section
variable {crew : Crew}

/-- The turns since a thread took the full lock, with the store fully locked all the while. -/
def Locking (crew : Crew) (turns since : List (ThreadId × Action)) : Prop :=
  ∃ before holder, turns = before ++ (holder, .lock true) :: since ∧
    (crew.run before).host.store.state = .unlocked ∧
    ∀ early, early <+: since →
      (crew.run (before ++ (holder, .lock true) :: early)).host.store.state = .fullyLocked

/-- The lock is held for another turn. -/
theorem Locking.concat {turns since : List (ThreadId × Action)} {turn : ThreadId × Action}
    (h : crew.Locking turns since)
    (hfull : (crew.run (turns ++ [turn])).host.store.state = .fullyLocked) :
    crew.Locking (turns ++ [turn]) (since ++ [turn]) := by
  obtain ⟨before, holder, rfl, hbefore, hearly⟩ := h
  refine ⟨before, holder, by simp, hbefore, ?_⟩
  intro early hprefix
  rcases List.prefix_concat_iff.mp hprefix with rfl | hprefix
  · simpa using hfull
  · exact hearly early hprefix

theorem Locking.start {turns : List (ThreadId × Action)} {holder : ThreadId}
    (hbefore : (crew.run turns).host.store.state = .unlocked)
    (hfull : (crew.run (turns ++ [(holder, .lock true)])).host.store.state = .fullyLocked) :
    crew.Locking (turns ++ [(holder, .lock true)]) [] := by
  refine ⟨turns, holder, rfl, hbefore, ?_⟩
  intro early hprefix
  obtain rfl := List.prefix_nil.mp hprefix
  exact hfull

/-- A store that is fully locked was locked by one of the turns, and the turns since then tell how its
switch stands. -/
theorem exists_locking (hsound : crew.Sound) (hloose : crew.host.store.Loose)
    {turns : List (ThreadId × Action)}
    (hfull : (crew.run turns).host.store.state = .fullyLocked) :
    ∃ since, crew.Locking turns since ∧
      (crew.run turns).host.store.enabled = Action.switched since := by
  induction turns using List.reverseRecOn with
  | nil => exact absurd hfull hloose
  | append_singleton turns turn ih =>
    obtain ⟨me, action⟩ := turn
    obtain ⟨holder, hphase, -⟩ := (run_induction (P := fun _ => True) (fun _ _ _ _ => trivial)
      hsound trivial turns).1.phase
    have hstep := store_step (crew.run turns) me action
    rw [← run_concat] at hstep
    have hafter := hfull
    rw [hstep] at hafter
    by_cases hbefore : (crew.run turns).host.store.state = .fullyLocked
    · have hlock : (crew.run turns).host.store.globalLock.locked = true := by
        rw [hphase.globalLock_iff, ← hphase.isLocked_iff, hbefore]
        rfl
      have hup : (crew.run turns).host.store.isInitialized = true := by
        simp [Store.isInitialized, LockState.isInitialized, hbefore]
      obtain ⟨since, hlocking, henabled⟩ := ih hbefore
      refine ⟨since ++ [(me, action)], hlocking.concat hfull, ?_⟩
      rw [hstep, (Host.storeAfter_of_locked hlock hup hafter).2, henabled, Action.switched,
        Action.switched, List.foldl_concat]
    · obtain ⟨rfl, hup, hfree, hoff⟩ := Host.eq_lock_of_storeAfter hbefore hafter
      have hguard : ¬ ((crew.run turns).worker holder).guard.isSome = true := by
        rw [← hphase.globalLock_iff, hfree]
        exact Bool.false_ne_true
      rw [Option.not_isSome_iff_eq_none.mp hguard] at hphase
      refine ⟨[], .start (hphase.unlocked hup).1 hfull, ?_⟩
      rw [hstep, hoff]
      rfl

end

section
variable {host : Host} {worker : ThreadId → Worker} {requests : Requests}

/-- Whatever any threads do, a store that is fully locked is switched off unless a thread has switched
it on since the lock was taken: the switches since then alone decide. While it is off an event is
refused as such and leaves no trace; while it is on an event for a ring is counted there as dropped.
It is let in by neither. -/
theorem fullyLocked_off_iff {config : Config} {start : Store} {turns : List (ThreadId × Action)}
    (hnew : Store.new? config = .ok start)
    (hrun : run { host := { store := start } } turns = { host, worker, requests })
    (hfull : host.store.state = .fullyLocked) :
    (∃ since, Locking { host := { store := start } } turns since ∧
      host.store.enabled = Action.switched since ∧
      ((∀ turn ∈ since, turn.2 ≠ .enable ∧ turn.2 ≠ .toggle) → host.store.enabled = false)) ∧
    ∀ context target event now,
      (host.store.log context target event now = (.error .disabled, host.store) ↔
        host.store.enabled = false) ∧
      (host.store.log context target event now).1 ≠ .ok () ∧
      ∀ id ring, host.store.destination target event = .ok (id, ring) →
        host.store.log context target event now = (.error .eventLocked,
          { host.store with table := host.store.table.put id ring.recordDrop }) := by
  have hsound := (run_induction (P := fun _ => True) (fun _ _ _ _ => trivial)
    (sound_start hnew) trivial turns).1
  have hloose : start.Loose := by
    obtain ⟨-, rfl⟩ := Store.eq_ofConfig_of_new? hnew
    exact nofun
  rw [hrun] at hsound
  obtain ⟨holder, hphase, -⟩ := hsound.phase
  have hlocked := hphase.locked_of_fullyLocked hfull
  have hup : host.store.isInitialized = true := by
    simp [Store.isInitialized, LockState.isInitialized, hfull]
  refine ⟨?_, ?_⟩
  · obtain ⟨since, hlocking, henabled⟩ := exists_locking (sound_start hnew) hloose
      (by rw [hrun]; exact hfull)
    rw [hrun] at henabled
    exact ⟨since, hlocking, henabled, fun hnone => henabled.trans (Action.switched_eq_false hnone)⟩
  · intro context target event now
    obtain ⟨hoff, hdropped⟩ := Store.log_eq_of_locked hlocked hup context target event now
    exact ⟨hoff, (Store.log_of_locked hlocked context target event now).1, hdropped⟩

/-- Under a full lock another thread turns the switch on and off again. -/
def switchedTwice : List (ThreadId × Action) :=
  [(0, .init 2), (0, .lock true), (1, .toggle), (1, .disable)]

theorem fullyLocked_off_iff_switchedTwice :
    ∃ start crew, Store.new? {} = .ok start ∧
      run { host := { store := start } } switchedTwice = crew ∧
      crew.host.store.state = .fullyLocked ∧ crew.host.store.enabled = false ∧
      crew.host.store.log {} .default { message := "a" } {} =
        (.error .disabled, crew.host.store) := by
  have hnew : Store.new? {} = .ok (Store.ofConfig {}) := rfl
  obtain ⟨-, hlog⟩ := fullyLocked_off_iff hnew
    (rfl : run { host := { store := Store.ofConfig {} } } switchedTwice = _) rfl
  exact ⟨_, _, hnew, rfl, rfl, rfl, (hlog {} .default { message := "a" } {}).1.mpr rfl⟩

/-- A store that is switched on under a full lock answers an event with the locked ring, which counts
it as dropped. -/
theorem switchedOn_counts_dropped :
    ∃ start crew, Store.new? {} = .ok start ∧
      run { host := { store := start } } [(0, .init 2), (0, .lock true), (0, .enable)] = crew ∧
      crew.host.store.state = .fullyLocked ∧ crew.host.store.enabled = true ∧
      (crew.host.store.log {} .default { message := "a" } {}).1 = .error .eventLocked ∧
      (crew.host.store.table.get? 0).map Ring.dropped = some 0 ∧
      ((crew.host.store.log {} .default { message := "a" } {}).2.table.get? 0).map Ring.dropped =
        some 1 :=
  ⟨_, _, rfl, rfl, rfl, rfl, rfl, rfl, rfl⟩

end
end Crew
end EventLog
