import EventLog.Host
import EventLog.Proofs.Store.Entries
import EventLog.Proofs.Store.Ledger

/-! A host with one thread at work, and the books that an onlooker keeps who sees the calls and
their answers. Whatever the thread does, a copy of a ring shows the last events in its books. -/
namespace EventLog

/-- A whole session of the console, which is many calls to the store. -/
def Action.isSession : Action → Bool
  | .session _ _ => true
  | _ => false

/-- The books after a call that was made on the given store. A write is booked for the ring that
its target named at that moment, and together with what the store and the thread added to it. -/
def Ledger.post (ledger : Ledger) (store : Store) (context : Context) : Action → Answer → Ledger
  | .init capacity _, .done => if capacity = 0 then ledger else ledger.clear 0
  | .create _ _, .id id => ledger.clear id
  | .reset id, .done => ledger.clear id
  | .resetAll, .done => fun _ => {}
  | .log target event now, .done =>
    ledger.amend (fun account => account.accept ⟨context.complete event, store.registry, now⟩)
      (store.table.named? target)
  | .log target _ _, .fault (.error .eventLocked) =>
    ledger.amend Account.refuse (store.table.named? target)
  | _, _ => ledger

/-- A host, the one thread at work on it, and the books. -/
structure Solo where
  host : Host
  worker : Worker
  ledger : Ledger := fun _ => {}

namespace Solo

def step (solo : Solo) (action : Action) : Solo :=
  let outcome := solo.host.perform solo.worker action
  { host := outcome.host
    worker := outcome.worker
    ledger := solo.ledger.post solo.host.store solo.worker.context action outcome.answer }

def run (solo : Solo) (actions : List Action) : Solo := actions.foldl step solo

/-- The guard of the thread tells how the store is locked, and the books what its rings hold. -/
structure Sound (solo : Solo) : Prop where
  phase : solo.host.store.Phase solo.worker.id solo.worker.guard
  booked : solo.host.store.table.Booked solo.ledger

section
variable {solo : Solo} {action : Action}

theorem sound_start {config : Config} {store : Store} (hnew : Store.new? config = .ok store)
    {worker : Worker} (hguard : worker.guard = none) : Sound { host := { store }, worker } := by
  obtain ⟨-, rfl⟩ := Store.eq_ofConfig_of_new? hnew
  refine ⟨?_, Table.Booked.empty config.maxBuffers _⟩
  rw [hguard]
  exact .down rfl rfl rfl (Table.get?_empty config.maxBuffers)

/-- An action that changes neither the locks nor the rings. -/
theorem Sound.same (h : solo.Sound) {next : Solo}
    (hlocks : next.host.store.locks = solo.host.store.locks)
    (htable : next.host.store.table = solo.host.store.table)
    (hid : next.worker.id = solo.worker.id) (hguard : next.worker.guard = solo.worker.guard)
    (hledger : next.ledger = solo.ledger) : next.Sound where
  phase := by
    rw [hid, hguard]
    exact h.phase.same hlocks htable
  booked := by
    rw [htable, hledger]
    exact h.booked

/-- An action that is one call to the store. -/
theorem Sound.changed {α : Type} {result : Except Fault α × Store} {answer : α → Answer}
    {notices : α → List Notice} (entry : Except Fault α → Ledger)
    (hperform : solo.host.perform solo.worker action =
      solo.host.changed solo.worker result answer notices)
    (hphase : result.2.Phase solo.worker.id solo.worker.guard)
    (hbooked : result.2.table.Booked (entry result.1))
    (hok : ∀ value, solo.ledger.post solo.host.store solo.worker.context action (answer value) =
      entry (.ok value))
    (hfault : ∀ fault, solo.ledger.post solo.host.store solo.worker.context action (.fault fault) =
      entry (.error fault)) : (solo.step action).Sound := by
  unfold Solo.step
  rw [hperform]
  obtain ⟨result, store⟩ := result
  cases result with
  | error fault =>
    rw [← hfault fault] at hbooked
    exact ⟨hphase, hbooked⟩
  | ok value =>
    rw [← hok value] at hbooked
    exact ⟨hphase, hbooked⟩

theorem Sound.step (h : solo.Sound) (haction : action.isSession = false) :
    (solo.step action).Sound := by
  have hphase := h.phase
  have hbooked := h.booked
  cases action with
  | init capacity memory =>
    exact .changed (solo.ledger.after _) rfl (hphase.init capacity memory)
      (hbooked.init capacity memory)
      (fun _ => rfl) (fun _ => rfl)
  | cleanup =>
    exact .changed (fun _ => solo.ledger) rfl hphase.cleanup hbooked.cleanup
      (fun _ => rfl) (fun _ => rfl)
  | create capacity memory =>
    exact .changed (solo.ledger.after _) rfl (hphase.create capacity memory)
      (hbooked.create capacity memory)
      (fun _ => rfl) (fun _ => rfl)
  | delete id =>
    exact .changed (fun _ => solo.ledger) rfl (hphase.delete id) (hbooked.delete id)
      (fun _ => rfl) (fun _ => rfl)
  | reset id =>
    exact .changed (solo.ledger.after _) rfl (hphase.reset id) (hbooked.reset id)
      (fun _ => rfl) (fun _ => rfl)
  | resetAll =>
    exact .changed (solo.ledger.after _) rfl hphase.resetAll hbooked.resetAll
      (fun _ => rfl) (fun _ => rfl)
  | lock full =>
    have hlocked := hbooked.lockGlobal solo.worker.id full
    unfold Solo.step Host.perform
    dsimp only
    cases hlock : solo.host.store.lockGlobal solo.worker.id full with
    | mk result next =>
      rw [hlock] at hlocked
      cases result with
      | error fault =>
        obtain rfl := Store.eq_of_lockGlobal_error hlock
        exact ⟨hphase, hlocked⟩
      | ok taken =>
        obtain ⟨-, -, htaken⟩ := hphase.lockGlobal hlock
        exact ⟨htaken, hlocked⟩
  | unlock =>
    unfold Solo.step Host.perform
    dsimp only
    cases hguard : solo.worker.guard with
    | none => exact ⟨hphase, hbooked⟩
    | some taken =>
      rw [hguard] at hphase
      exact ⟨hphase.release, hbooked.release taken⟩
  | register renderer =>
    exact .changed (fun _ => solo.ledger) rfl (hphase.same rfl rfl) hbooked
      (fun _ => rfl) (fun _ => rfl)
  | leave =>
    unfold Solo.step Host.perform
    dsimp only
    split
    · exact h
    · exact h.same rfl rfl rfl rfl rfl
  | log target event now =>
    have hlogged := hbooked.log solo.worker.context target event now
    refine .changed (solo.ledger.logged _ _) rfl
      (hphase.log solo.worker.context target event now) hlogged (fun _ => rfl) ?_
    intro fault
    cases fault with
    | waits => rfl
    | error error => cases error <;> rfl
  | snapshot _ | statuses =>
    unfold Solo.step Host.perform Host.seen
    dsimp only
    split
    · exact h
    · exact h
  | enable | disable | toggle | setName _ | clearName | enter | list _ | dump _ _ | dumpAll _ _ _ =>
    exact h.same rfl rfl rfl rfl rfl
  | session source room => cases haction

theorem Sound.run (h : solo.Sound) {actions : List Action}
    (hactions : ∀ action ∈ actions, action.isSession = false) : (solo.run actions).Sound := by
  induction actions generalizing solo with
  | nil => exact h
  | cons action actions ih =>
    rw [Solo.run, List.foldl_cons, ← Solo.run]
    exact ih (h.step (hactions action List.mem_cons_self)) fun other hmem =>
      hactions other (List.mem_cons_of_mem _ hmem)

/-- In every state that one thread reaches, a ring holds what the calls to the store and their
answers say it holds: a copy lists the last events that were accepted for it since it was created
or last emptied, and its bookkeeping counts them and those that were refused. -/
theorem snapshot_shows_accepted {config : Config} {store : Store} {worker : Worker}
    {actions : List Action} {id : Nat} {ring : Ring} (hnew : Store.new? config = .ok store)
    (hguard : worker.guard = none) (hactions : ∀ action ∈ actions, action.isSession = false)
    (hrun : run { host := { store }, worker } actions = solo)
    (hring : solo.host.store.table.get? id = some ring)
    (haccepted : (solo.ledger id).accepted.length < 2 ^ 64)
    (hrefused : (solo.ledger id).refused < 2 ^ 64) :
    ∃ snapshot statuses, solo.host.store.snapshot solo.worker.id id = .ok snapshot ∧
      snapshot.Shows ring.capacity (solo.ledger id).accepted (solo.ledger id).refused ∧
      solo.host.store.statuses solo.worker.id = .ok statuses ∧
      (id, snapshot.status) ∈ statuses := by
  have hsound : solo.Sound := hrun ▸ (sound_start hnew hguard).run hactions
  obtain ⟨capacity, locked, hcapacity, hbooked⟩ := hsound.booked id ring hring
  refine ⟨ring.snapshotHeld, _, hsound.phase.snapshot hring, ?_, hsound.phase.statuses, ?_⟩
  · rw [hbooked, Ring.capacity_ofAccount]
    exact Ring.shows_ofAccount hcapacity haccepted hrefused
  · exact List.mem_map.mpr ⟨(id, ring), Table.mem_present.mpr hring, rfl⟩

/-- A buffer of two slots takes an event, turns one away while it is locked, and takes two more. -/
def overwriting : List Action :=
  [.init 2, .log .default { message := "a" } {}, .lock true, .enable,
    .log (.buffer 0) { message := "b" } {}, .unlock, .log .default { message := "c" } {},
    .log .default { message := "d" } {}]

theorem snapshot_shows_accepted_overwriting :
    ∃ store solo ring snapshot, Store.new? {} = .ok store ∧
      run { host := { store }, worker := {} } overwriting = solo ∧
      solo.host.store.table.get? 0 = some ring ∧
      (solo.ledger 0).accepted.length = 3 ∧ (solo.ledger 0).refused = 1 ∧
      solo.host.store.snapshot 0 0 = .ok snapshot ∧
      snapshot.Shows ring.capacity (solo.ledger 0).accepted (solo.ledger 0).refused := by
  have hnew : Store.new? {} = .ok (Store.ofConfig {}) := rfl
  have hactions : ∀ action ∈ overwriting, action.isSession = false := by decide
  have hrun : run { host := { store := Store.ofConfig {} }, worker := {} } overwriting = _ := rfl
  have hring : (run { host := { store := Store.ofConfig {} }, worker := {} }
      overwriting).host.store.table.get? 0 = some _ := rfl
  obtain ⟨snapshot, statuses, hsnapshot, hshows, -, -⟩ :=
    snapshot_shows_accepted hnew rfl hactions hrun hring (by decide) (by decide)
  exact ⟨_, _, _, snapshot, hnew, rfl, rfl, by decide, by decide, hsnapshot, hshows⟩

end
end Solo
end EventLog
