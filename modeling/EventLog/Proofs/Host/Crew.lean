import EventLog.Proofs.Host.Lock
import EventLog.Proofs.Store.Quiet

/-! Any number of threads at work on one host, an action at a time: no call begins before the one before
it has returned. At most one of them has a guard, and it stands with the store as if it worked alone; the
others wait for the global lock. -/
namespace EventLog

namespace Store.Phase

variable {store : Store} {me other : ThreadId} {taken : Guard} {host : Host} {worker : Worker}

/-- Without a guard no thread stands with the store differently from another. -/
theorem of_none (h : store.Phase me none) : store.Phase other none := by
  cases h with
  | down hs ho hl he => exact .down hs ho hl he
  | up hs ho hl hr => exact .up hs ho hl hr

/-- The lock is not there for a thread while another has a guard. -/
theorem lockGlobal_of_other (h : store.Phase me (some taken)) (hne : other ≠ me) (full : Bool) :
    store.lockGlobal other full = (.error .waits, store) := by
  have hup : store.isInitialized = true := by
    cases h with
    | simple hs | full _ _ hs => simp [isInitialized, LockState.isInitialized, hs]
  have hlock : store.globalLock.locked = true := by
    rw [h.globalLock_iff]
    rfl
  have howner : store.holdsGlobal other = false := by
    unfold holdsGlobal
    rw [h.owner_eq]
    simpa using hne.symm
  unfold Store.lockGlobal SpinLock.lock?
  rw [howner, hup, hlock]
  rfl

theorem underLock_of_other {α : Type} (h : store.Phase me (some taken)) (hne : other ≠ me)
    (full : Bool) (change : Store → Except Fault α × Store) :
    store.underLock other full change = (.error .waits, store) := by
  unfold Store.underLock
  rw [h.lockGlobal_of_other hne full]

theorem cleanup_of_other (h : store.Phase me (some taken)) (hne : other ≠ me) :
    store.cleanup other = (.error .waits, store) := by
  unfold Store.cleanup
  rw [h.lockGlobal_of_other hne false]

theorem resetAll_of_other (h : store.Phase me (some taken)) (hne : other ≠ me) :
    store.resetAll other = (.error .waits, store) := by
  have howner : ¬ store.holdsGlobal other = true := by
    unfold holdsGlobal
    rw [h.owner_eq]
    simpa using hne.symm
  unfold Store.resetAll
  rw [if_neg howner]
  exact h.underLock_of_other hne false _

/-- What a thread without a guard does leaves the guard of another in place. -/
theorem perform_of_other (h : host.store.Phase me (some taken)) (hne : worker.id ≠ me)
    (hguard : worker.guard = none) (action : Action) :
    (host.storeAfter worker action).Phase me (some taken) ∧
      host.guardAfter worker action = none := by
  have hsame (next : Store) (heq : next = host.store) : next.Phase me (some taken) := heq ▸ h
  cases action with
  | init capacity memory => exact ⟨h.init capacity memory, hguard⟩
  | cleanup => exact ⟨hsame _ (congrArg Prod.snd (h.cleanup_of_other hne)), hguard⟩
  | create capacity memory =>
    exact ⟨hsame _ (congrArg Prod.snd (h.underLock_of_other hne false _)), hguard⟩
  | delete id => exact ⟨hsame _ (congrArg Prod.snd (h.underLock_of_other hne true _)), hguard⟩
  | reset id => exact ⟨h.resetBy worker.id id, hguard⟩
  | resetAll => exact ⟨hsame _ (congrArg Prod.snd (h.resetAll_of_other hne)), hguard⟩
  | lock full =>
    unfold Host.storeAfter Host.guardAfter
    dsimp only
    rw [h.lockGlobal_of_other hne full]
    exact ⟨h, hguard⟩
  | unlock =>
    unfold Host.storeAfter Host.guardAfter
    dsimp only
    rw [hguard]
    exact ⟨h, rfl⟩
  | log target event now => exact ⟨h.log worker.context target event now, hguard⟩
  | session source room =>
    refine ⟨?_, hguard⟩
    refine Session.store_run (P := fun store => store.Phase me (some taken)) ?_ ?_ h
    · intro store id hstore
      exact hstore.resetBy worker.id id
    · intro store hstore
      show (store.resetAll worker.id).2.Phase me (some taken)
      rw [hstore.resetAll_of_other hne]
      exact hstore
  | enable | disable | toggle | register _ => exact ⟨h.same rfl rfl, hguard⟩
  | _ => exact ⟨h, hguard⟩

end Store.Phase

/-- No ring leaves the table while rings are only locked and emptied. -/
theorem Host.withStore_of_quiet {host : Host} {store : Store} (h : host.store.Quiet store) :
    host.withStore store = { host with store } :=
  host.withStore_eq h.table.isSome_eq

/-- Whether an action neither writes an event nor changes which rings and renderers there are. -/
def Action.isQuiet : Action → Bool
  | .init _ _ | .cleanup | .create _ _ | .delete _ | .register _ | .log _ _ _ => false
  | _ => true

/-- For each id the capacity that was asked for when a ring was created under it. -/
abbrev Requests := Nat → Nat

def Requests.post (requests : Requests) : Action → Answer → Requests
  | .init capacity _, .done =>
    if capacity = 0 then requests else Function.update requests 0 capacity
  | .create capacity _, .id id => Function.update requests id capacity
  | _, _ => requests

/-- A host, the threads at work on it, and the requests that onlookers noted. -/
structure Crew where
  host : Host
  worker : ThreadId → Worker := fun id => { id }
  requests : Requests := fun _ => 0

namespace Crew

/-- A thread takes an action. -/
def step (crew : Crew) (turn : ThreadId × Action) : Crew :=
  let outcome := crew.host.perform (crew.worker turn.1) turn.2
  { host := outcome.host
    worker := Function.update crew.worker turn.1 outcome.worker
    requests := crew.requests.post turn.2 outcome.answer }

def run (crew : Crew) (turns : List (ThreadId × Action)) : Crew := turns.foldl step crew

/-- One thread stands with the store as if it worked alone, and no other has a guard. -/
structure Sound (crew : Crew) : Prop where
  id_worker : ∀ me, (crew.worker me).id = me
  phase : ∃ me, crew.host.store.Phase me (crew.worker me).guard ∧
    ∀ other, other ≠ me → (crew.worker other).guard = none

section
variable {crew : Crew}

theorem store_step (crew : Crew) (me : ThreadId) (action : Action) :
    (crew.step (me, action)).host.store = crew.host.storeAfter (crew.worker me) action :=
  crew.host.store_perform (crew.worker me) action

theorem worker_step_self (crew : Crew) (me : ThreadId) (action : Action) :
    (crew.step (me, action)).worker me = (crew.host.perform (crew.worker me) action).worker :=
  Function.update_self me _ _

theorem worker_step_of_ne (crew : Crew) {me other : ThreadId} {action : Action}
    (hne : other ≠ me) : (crew.step (me, action)).worker other = crew.worker other :=
  Function.update_of_ne hne _ _

/-- A turn that leaves its thread as it is leaves all of them so. -/
theorem worker_step_eq {me : ThreadId} {action : Action}
    (h : (crew.host.perform (crew.worker me) action).worker = crew.worker me) :
    (crew.step (me, action)).worker = crew.worker := by
  show Function.update crew.worker me (crew.host.perform (crew.worker me) action).worker = _
  rw [h, Function.update_eq_self]

theorem run_append (crew : Crew) (early late : List (ThreadId × Action)) :
    crew.run (early ++ late) = (crew.run early).run late :=
  List.foldl_append

theorem run_concat (crew : Crew) (turns : List (ThreadId × Action)) (turn : ThreadId × Action) :
    crew.run (turns ++ [turn]) = (crew.run turns).step turn := by
  unfold run
  rw [List.foldl_concat]

/-- A thread that takes no turn stays as it is. -/
theorem worker_run_of_absent {turns : List (ThreadId × Action)} {other : ThreadId}
    (h : ∀ turn ∈ turns, other ≠ turn.1) : (crew.run turns).worker other = crew.worker other := by
  induction turns generalizing crew with
  | nil => rfl
  | cons turn turns ih =>
    show ((crew.step turn).run turns).worker other = crew.worker other
    rw [ih fun later hlater => h later (List.mem_cons_of_mem _ hlater)]
    exact worker_step_of_ne crew (h turn List.mem_cons_self)

theorem id_worker_step (h : ∀ me, (crew.worker me).id = me) (turn : ThreadId × Action)
    (me : ThreadId) : ((crew.step turn).worker me).id = me := by
  by_cases heq : me = turn.1
  · subst heq
    rw [worker_step_self, (crew.host.worker_perform _ turn.2).1, h]
  · rw [worker_step_of_ne crew heq, h]

theorem sound_start {config : Config} {store : Store} (hnew : Store.new? config = .ok store) :
    Sound { host := { store } } where
  id_worker _ := rfl
  phase := ⟨0, (Solo.sound_start hnew (rfl : ({} : Worker).guard = none)).phase, fun _ _ => rfl⟩

namespace Sound

/-- A thread with a guard is the one that stands with the store. -/
theorem phase_of_guard (h : crew.Sound) {me : ThreadId} {taken : Guard}
    (hguard : (crew.worker me).guard = some taken) : crew.host.store.Phase me (some taken) := by
  obtain ⟨holder, hphase, hothers⟩ := h.phase
  by_cases heq : me = holder
  · subst heq
    rwa [hguard] at hphase
  · rw [hothers me heq] at hguard
    cases hguard

/-- Where nobody has a guard, every thread stands with the store as if it worked alone. -/
theorem phase_of_free (h : crew.Sound) (hfree : ∀ me, (crew.worker me).guard = none)
    (me : ThreadId) : crew.host.store.Phase me none := by
  obtain ⟨holder, hphase, -⟩ := h.phase
  rw [hfree holder] at hphase
  exact hphase.of_none

/-- The turn of a thread that stands with the store as if it worked alone. -/
theorem step_of_alone (hid : ∀ me, (crew.worker me).id = me) {me : ThreadId}
    (hphase : crew.host.store.Phase me (crew.worker me).guard)
    (hothers : ∀ other, other ≠ me → (crew.worker other).guard = none) (action : Action) :
    (crew.step (me, action)).Sound where
  id_worker := id_worker_step hid (me, action)
  phase := by
    have hself : crew.host.store.Phase (crew.worker me).id (crew.worker me).guard := by
      rwa [hid me]
    have hperform := hself.perform action
    rw [(crew.host.worker_perform (crew.worker me) action).1, hid me] at hperform
    refine ⟨me, ?_, ?_⟩
    · rw [worker_step_self]
      exact hperform
    · intro other hne
      rw [worker_step_of_ne crew hne]
      exact hothers other hne

/-- The turn of a thread while another has a guard. -/
theorem step_of_held (hid : ∀ me, (crew.worker me).id = me) {me holder : ThreadId} {taken : Guard}
    (hne : me ≠ holder) (hphase : crew.host.store.Phase holder (some taken))
    (htaken : (crew.worker holder).guard = some taken)
    (hothers : ∀ other, other ≠ holder → (crew.worker other).guard = none) (action : Action) :
    (crew.step (me, action)).Sound where
  id_worker := id_worker_step hid (me, action)
  phase := by
    have hother : (crew.worker me).id ≠ holder := by rwa [hid me]
    obtain ⟨hkept, hnone⟩ := hphase.perform_of_other hother (hothers me hne) action
    refine ⟨holder, ?_, ?_⟩
    · rw [worker_step_of_ne crew hne.symm, htaken, store_step]
      exact hkept
    · intro other hother
      by_cases heq : other = me
      · rw [heq, worker_step_self, (crew.host.worker_perform _ action).2, hnone]
      · rw [worker_step_of_ne crew heq]
        exact hothers other hother

theorem step (h : crew.Sound) (turn : ThreadId × Action) : (crew.step turn).Sound := by
  obtain ⟨me, action⟩ := turn
  obtain ⟨holder, hphase, hothers⟩ := h.phase
  -- The turn is the holder's own, or there is no guard and any thread may stand in for the holder,
  -- or the guard of the holder keeps the thread from the lock.
  by_cases heq : me = holder
  · subst heq
    exact step_of_alone h.id_worker hphase hothers action
  cases htaken : (crew.worker holder).guard with
  | none =>
    have hfree (other : ThreadId) : (crew.worker other).guard = none := by
      by_cases hother : other = holder
      · rw [hother, htaken]
      · exact hothers other hother
    refine step_of_alone h.id_worker ?_ (fun other _ => hfree other) action
    rw [hfree me]
    exact h.phase_of_free hfree me
  | some taken =>
    rw [htaken] at hphase
    exact step_of_held h.id_worker heq hphase htaken hothers action

end Sound

theorem quiet_step (h : crew.Sound) (me : ThreadId) {action : Action}
    (hquiet : action.isQuiet = true) :
    crew.host.store.Quiet (crew.step (me, action)).host.store := by
  rw [store_step]
  cases action with
  | init _ _ | cleanup | create _ _ | delete _ | register _ | log _ _ _ => cases hquiet
  | reset id => exact .reset _ _ id
  | resetAll => exact .resetAll _ _
  | enable | disable | toggle => exact .switch _ _
  | lock full => exact .lockGlobal _ _ full
  | unlock =>
    unfold Host.storeAfter
    dsimp only
    cases hguard : (crew.worker me).guard with
    | none => exact .refl _
    | some taken => exact (h.phase_of_guard hguard).quiet_release
  | session source room =>
    exact Session.store_run (P := fun store => crew.host.store.Quiet store)
      (fun store id hstore => hstore.trans (.reset store _ id))
      (fun store hstore => hstore.trans (.resetAll store _)) (.refl _)
  | _ => exact .refl _

/-- What holds of a crew at the start, and is kept whenever a thread takes its turn, holds after
every run. -/
theorem run_induction {P : Crew → Prop}
    (hstep : ∀ crew turn, crew.Sound → P crew → P (crew.step turn)) (hsound : crew.Sound)
    (h : P crew) (turns : List (ThreadId × Action)) : (crew.run turns).Sound ∧ P (crew.run turns) := by
  induction turns generalizing crew with
  | nil => exact ⟨hsound, h⟩
  | cons turn turns ih => exact ih (hsound.step turn) (hstep crew turn hsound h)

theorem Sound.run (h : crew.Sound) (turns : List (ThreadId × Action)) : (crew.run turns).Sound :=
  (run_induction (P := fun _ => True) (fun _ _ _ _ => trivial) h trivial turns).1

end
end Crew
end EventLog
