import EventLog.Proofs.Console.Mirror
import EventLog.Proofs.Host.Crew
import EventLog.Proofs.Store.Bracket

/-! A thread that takes the global lock, reads and empties rings, dumps them and holds console sessions,
and gives the lock back. It gets the same answers and leaves everything as if it had not taken the
lock: while it holds it, all goes on as without it, next to the locked image of the store. -/
namespace EventLog

/-- Whether an action only reads and empties rings. -/
def Action.isUpkeep : Action → Bool
  | .reset _ | .resetAll | .snapshot _ | .statuses | .list _ | .dump _ _ | .dumpAll _ _ _
  | .session _ _ => true
  | _ => false

namespace Store

/-- A store that is still free after rings of it were emptied. -/
structure Emptied (store next : Store) (me : ThreadId) : Prop where
  free : next.Free me
  quiet : store.Quiet next
  guardOf_eq : ∀ full, next.guardOf full = store.guardOf full

namespace Emptied

section
variable {store next last : Store} {me : ThreadId}

theorem refl (h : store.Free me) : store.Emptied store me := ⟨h, .refl _, fun _ => rfl⟩

theorem reset (h : store.Emptied next me) (id : Nat) : store.Emptied (next.reset me id).2 me where
  free := h.free.reset id
  quiet := h.quiet.trans (.reset next me id)
  guardOf_eq full := (h.free.guardOf_reset full id).trans (h.guardOf_eq full)

theorem resetAll (h : store.Emptied next me) : store.Emptied (next.resetAll me).2 me where
  free := h.free.resetAll
  quiet := h.quiet.trans (.resetAll next me)
  guardOf_eq full := (h.free.guardOf_resetAll full).trans (h.guardOf_eq full)

theorem trans (h : store.Emptied next me) (hlast : next.Emptied last me) :
    store.Emptied last me where
  free := hlast.free
  quiet := h.quiet.trans hlast.quiet
  guardOf_eq full := (hlast.guardOf_eq full).trans (h.guardOf_eq full)

end
end Emptied

theorem Free.faithful (me : ThreadId) (full : Bool) :
    Session.Faithful (fun store => store.held me full) (fun store => store.Free me) me where
  default store _ := default_held store me full
  list _ h := h.list_held full
  buffer _ id h := h.buffer_held full id
  all _ withStatus withEvents h := h.all_held full withStatus withEvents
  reset _ id h := h.reset_held full id
  resetAll _ h := h.resetAll_held full
  keeps_reset _ id h := h.reset id
  keeps_resetAll _ h := h.resetAll

theorem isSome_get?_held (store : Store) (me : ThreadId) (full : Bool) (id : Nat) :
    ((store.held me full).table.get? id).isSome = (store.table.get? id).isSome := by
  rw [Free.get?_held, Option.isSome_map]

end Store

namespace Host

section
variable {host : Host} {worker : Worker} {action : Action} {full : Bool}

/-- The host as it is while a thread has the lock. -/
def heldBy (host : Host) (me : ThreadId) (full : Bool) : Host :=
  { host with store := host.store.held me full }

theorem withStore_held {me : ThreadId} {store : Store} (h : host.store.Quiet store) :
    (host.heldBy me full).withStore (store.held me full) = (host.withStore store).heldBy me full := by
  rw [withStore_of_quiet h]
  refine (host.heldBy me full).withStore_eq ?_
  intro id
  rw [Store.isSome_get?_held, h.table.isSome_eq]
  exact (Store.isSome_get?_held host.store me full id).symm

/-- The outcome of a call on the locked image of the store. -/
theorem changed_held {α : Type} {me : ThreadId} {holder : Worker}
    {result : Except Fault α × Store} {answer : α → Answer} {notices : α → List Notice}
    (h : host.store.Quiet result.2) :
    (host.heldBy me full).changed holder (result.1, result.2.held me full) answer notices =
      { host.changed worker result answer notices with
        host := (host.changed worker result answer notices).host.heldBy me full
        worker := holder } := by
  have hwith : (host.heldBy me full).withStore (result.2.held me full) =
      (host.withStore result.2).heldBy me full := withStore_held h
  obtain ⟨result, store⟩ := result
  cases result with
  | ok value =>
    unfold changed
    dsimp only
    rw [hwith]
  | error fault =>
    unfold changed
    dsimp only
    rw [hwith]

/-- What is left of a session on the locked image of the store. -/
theorem closed_held {me : ThreadId} {result : Except Halt Unit × Session}
    (h : host.store.Quiet result.2.store) :
    (host.heldBy me full).closed (result.1, result.2.onto fun store => store.held me full) =
      ((host.closed result).1, (host.closed result).2.heldBy me full) := by
  show (_, { (host.heldBy me full).withStore (result.2.store.held me full) with
    uses := result.2.channel.uses }) = _
  rw [withStore_held h]
  rfl

/-- Reading and emptying rings leaves a free store free. -/
theorem emptied_storeAfter (h : host.store.Free worker.id) (haction : action.isUpkeep = true) :
    host.store.Emptied (host.storeAfter worker action) worker.id := by
  cases action with
  | reset id => exact Store.Emptied.reset (.refl h) id
  | resetAll => exact Store.Emptied.resetAll (.refl h)
  | session source room =>
    exact Session.store_run (P := fun store => host.store.Emptied store worker.id)
      (fun _ id hstore => hstore.reset id) (fun _ hstore => hstore.resetAll) (.refl h)
  | snapshot _ | statuses | list _ | dump _ _ | dumpAll _ _ _ => exact .refl h
  | _ => cases haction

/-- A whole session on the locked image of the store. -/
theorem session_held (h : host.store.Free worker.id) (full : Bool) (guard : Guard)
    (source : Source) (room : Option Nat) :
    (host.heldBy worker.id full).session { worker with guard := some guard } source room =
      { host.session worker source room with
        host := (host.session worker source room).host.heldBy worker.id full
        worker := { worker with guard := some guard } } := by
  have hquiet : host.store.Quiet (host.storeAfter worker (.session source room)) :=
    (emptied_storeAfter h rfl).quiet
  have hstart : Session.start (host.heldBy worker.id full).store worker.id source
      { sink := { room }, uses := (host.heldBy worker.id full).uses } =
        (Session.start host.store worker.id source
          { sink := { room }, uses := host.uses }).onto fun store => store.held worker.id full :=
    Session.start_onto (Store.Free.default_held host.store worker.id full) worker.id source _
  unfold session
  dsimp only
  rw [hstart, Session.run_onto (Store.Free.faithful worker.id full) h, closed_held hquiet]
  rfl

theorem worker_of_upkeep (haction : action.isUpkeep = true) :
    (host.perform worker action).worker = worker := by
  cases action with
  | reset _ | resetAll => exact worker_changed host worker _ _ _
  | snapshot _ | statuses => exact worker_seen host worker _ _
  | list _ | dump _ _ | dumpAll _ _ _ | session _ _ => rfl
  | _ => cases haction

/-- Whoever has the lock is answered as if there were none, and leaves what would be left, locked. -/
theorem perform_held {me : ThreadId} (hid : worker.id = me) (h : host.store.Free me)
    (haction : action.isUpkeep = true) (full : Bool) (guard : Guard) :
    (host.heldBy me full).perform { worker with guard := some guard } action =
      { host.perform worker action with
        host := (host.perform worker action).host.heldBy me full
        worker := { worker with guard := some guard } } := by
  subst hid
  have hquiet := (emptied_storeAfter h haction).quiet
  cases action with
  | reset id =>
    unfold perform
    dsimp only
    rw [show (host.heldBy worker.id full).store.reset worker.id id = _ from h.reset_held full id]
    exact changed_held hquiet
  | resetAll =>
    unfold perform
    dsimp only
    rw [show (host.heldBy worker.id full).store.resetAll worker.id = _ from h.resetAll_held full]
    exact changed_held hquiet
  | snapshot id =>
    unfold perform
    dsimp only
    rw [show (host.heldBy worker.id full).store.snapshot worker.id id = _ from
      h.snapshot_held full id]
    cases host.store.snapshot worker.id id with
    | ok snapshot => rfl
    | error fault => rfl
  | statuses =>
    unfold perform
    dsimp only
    rw [show (host.heldBy worker.id full).store.statuses worker.id = _ from h.statuses_held full]
    cases host.store.statuses worker.id with
    | ok statuses => rfl
    | error fault => rfl
  | list room =>
    unfold perform
    dsimp only
    rw [show Report.list (host.heldBy worker.id full).store = _ from h.list_held full]
    rfl
  | dump id room =>
    unfold perform
    dsimp only
    rw [show Report.buffer (host.heldBy worker.id full).store worker.id id = _ from
      h.buffer_held full id]
    rfl
  | dumpAll withStatus withEvents room =>
    unfold perform
    dsimp only
    rw [show Report.all (host.heldBy worker.id full).store worker.id withStatus withEvents = _ from
      h.all_held full withStatus withEvents]
    rfl
  | session source room => exact session_held h full guard source room
  | _ => cases haction

end
end Host

namespace Crew

/-- What the turns are answered, and what they report to the journal of the process. -/
def replies (crew : Crew) : List (ThreadId × Action) → List (Answer × List Notice)
  | [] => []
  | turn :: turns =>
    let outcome := crew.host.perform (crew.worker turn.1) turn.2
    (outcome.answer, outcome.notices) :: (crew.step turn).replies turns

/-- The crew as it is while a thread has the lock. -/
def heldBy (crew : Crew) (me : ThreadId) (full : Bool) : Crew :=
  { crew with
    host := crew.host.heldBy me full
    worker := Function.update crew.worker me
      { crew.worker me with guard := some (crew.host.store.guardOf full) } }

/-- A thread without the lock, in front of a store whose lock is free. -/
structure Idle (crew : Crew) (me : ThreadId) : Prop where
  free : crew.host.store.Free me
  id_eq : (crew.worker me).id = me
  guard_eq : (crew.worker me).guard = none

namespace Idle

section
variable {crew : Crew} {me : ThreadId}

theorem of_unlocked (h : crew.Sound) (hstate : crew.host.store.state = .unlocked) (me : ThreadId) :
    crew.Idle me := by
  obtain ⟨holder, hphase, hothers⟩ := h.phase
  have hnone : (crew.worker holder).guard = none := by
    rw [← Option.not_isSome_iff_eq_none, ← hphase.isLocked_iff, hstate]
    exact nofun
  have hguard (other : ThreadId) : (crew.worker other).guard = none := by
    by_cases heq : other = holder
    · rw [heq, hnone]
    · exact hothers other heq
  refine ⟨⟨h.phase_of_free hguard me, ?_⟩, h.id_worker me, hguard me⟩
  simp [Store.isInitialized, LockState.isInitialized, hstate]

/-- Reading and emptying rings neither takes the lock nor turns the switch. -/
theorem step (h : crew.Idle me) {action : Action} (haction : action.isUpkeep = true) :
    (crew.step (me, action)).Idle me ∧
      crew.host.store.Emptied (crew.step (me, action)).host.store me := by
  have hfree : crew.host.store.Free (crew.worker me).id := h.id_eq.symm ▸ h.free
  have hemptied := Host.emptied_storeAfter hfree haction
  rw [← store_step, h.id_eq] at hemptied
  obtain ⟨hid, hguard⟩ := crew.host.worker_perform (crew.worker me) action
  rw [← worker_step_self] at hid hguard
  refine ⟨⟨hemptied.free, hid.trans h.id_eq, hguard.trans ?_⟩, hemptied⟩
  cases action with
  | lock _ | unlock => cases haction
  | _ => exact h.guard_eq

theorem perform_lock (h : crew.Idle me) (full : Bool) :
    crew.host.perform (crew.worker me) (.lock full) =
      { answer := .guard (crew.host.store.guardOf full)
        host := crew.host.heldBy me full
        worker := { crew.worker me with guard := some (crew.host.store.guardOf full) } } := by
  unfold Host.perform
  dsimp only
  rw [h.id_eq, h.free.phase.lockGlobal_eq h.free.up full]
  dsimp only
  rw [Host.withStore_eq _ (Store.isSome_get?_held crew.host.store me full)]
  rfl

theorem perform_unlock (h : crew.Idle me) (full : Bool) :
    (crew.heldBy me full).host.perform ((crew.heldBy me full).worker me) .unlock =
      { answer := .flag true, host := crew.host, worker := crew.worker me } := by
  have hguard : { crew.worker me with guard := none } = crew.worker me := by
    rw [← h.guard_eq]
  unfold heldBy Host.perform
  dsimp only
  rw [Function.update_self]
  dsimp only
  rw [show (crew.host.heldBy me full).store.release (crew.host.store.guardOf full) =
    crew.host.store from h.free.phase.release_held h.free.up full,
    Host.withStore_eq _ fun id => (Store.isSome_get?_held crew.host.store me full id).symm, hguard]
  rfl

theorem step_lock (h : crew.Idle me) (full : Bool) :
    crew.step (me, .lock full) = crew.heldBy me full := by
  unfold Crew.step
  rw [h.perform_lock full]
  rfl

theorem step_unlock (h : crew.Idle me) (full : Bool) :
    (crew.heldBy me full).step (me, .unlock) = crew := by
  unfold Crew.step
  rw [h.perform_unlock full]
  unfold heldBy
  dsimp only
  rw [Function.update_idem, Function.update_eq_self]
  rfl

theorem worker_heldBy (crew : Crew) (me : ThreadId) (full : Bool) :
    (crew.heldBy me full).worker me =
      { crew.worker me with guard := some (crew.host.store.guardOf full) } :=
  Function.update_self me _ _

/-- A turn of the holder is answered as without the lock, and leads to the same crew, locked. -/
theorem perform_heldBy (h : crew.Idle me) {action : Action} (haction : action.isUpkeep = true)
    (full : Bool) :
    (crew.heldBy me full).host.perform ((crew.heldBy me full).worker me) action =
      { crew.host.perform (crew.worker me) action with
        host := (crew.host.perform (crew.worker me) action).host.heldBy me full
        worker := (crew.heldBy me full).worker me } := by
  rw [worker_heldBy]
  exact Host.perform_held h.id_eq h.free haction full _

theorem step_heldBy (h : crew.Idle me) {action : Action} (haction : action.isUpkeep = true)
    (full : Bool) :
    (crew.heldBy me full).step (me, action) = (crew.step (me, action)).heldBy me full := by
  have hguard := (h.step haction).2.guardOf_eq full
  have hcrew : (crew.step (me, action)).worker = crew.worker :=
    worker_step_eq (Host.worker_of_upkeep haction)
  unfold Crew.step
  dsimp only
  rw [h.perform_heldBy haction full]
  dsimp only
  rw [Function.update_eq_self]
  show ({ host := _, worker := (crew.heldBy me full).worker, requests := _ } : Crew) =
    { host := _, worker := Function.update (crew.step (me, action)).worker me
        { (crew.step (me, action)).worker me with
          guard := some ((crew.step (me, action)).host.store.guardOf full) }
      requests := _ }
  rw [hguard, hcrew]
  rfl

/-- The turns of the holder are answered as without the lock, and lead to the same crew, locked. -/
theorem run_heldBy (h : crew.Idle me) {turns : List (ThreadId × Action)}
    (hturns : ∀ turn ∈ turns, turn.1 = me ∧ turn.2.isUpkeep = true) (full : Bool) :
    (crew.heldBy me full).replies turns = crew.replies turns ∧
      (crew.heldBy me full).run turns = (crew.run turns).heldBy me full ∧
      (crew.run turns).Idle me ∧ crew.host.store.Emptied (crew.run turns).host.store me := by
  induction turns generalizing crew with
  | nil => exact ⟨rfl, rfl, h, .refl h.free⟩
  | cons turn turns ih =>
    obtain ⟨other, action⟩ := turn
    obtain ⟨rfl, haction⟩ := hturns _ List.mem_cons_self
    obtain ⟨hidle, hemptied⟩ := h.step haction
    obtain ⟨hreplies, hrun, hlast, hmore⟩ := ih hidle fun later hlater =>
      hturns later (List.mem_cons_of_mem _ hlater)
    refine ⟨?_, ?_, hlast, hemptied.trans hmore⟩
    · show (_, _) :: ((crew.heldBy other full).step (other, action)).replies turns = _
      rw [h.step_heldBy haction full, hreplies, h.perform_heldBy haction full]
      rfl
    · show ((crew.heldBy other full).step (other, action)).run turns = _
      rw [h.step_heldBy haction full, hrun]
      rfl

end
end Idle

section
variable {crew : Crew}

theorem replies_append (crew : Crew) (turns more : List (ThreadId × Action)) :
    crew.replies (turns ++ more) = crew.replies turns ++ (crew.run turns).replies more := by
  induction turns generalizing crew with
  | nil => rfl
  | cons turn turns ih => exact congrArg (_ :: ·) (ih (crew.step turn))

/-- Wherever any threads left an unlocked store, a thread may take its lock in either mode, read, empty
and dump rings and hold sessions under it, and give it back: all that it is answered and shown, and all
that there is in the end, is as if it had done so without the lock. The store is then unlocked with
every ring free, and has the default and the switch as before. -/
theorem lock_bracket_changes_nothing {config : Config} {start : Store}
    {turns upkeep : List (ThreadId × Action)} (hnew : Store.new? config = .ok start)
    (hrun : run { host := { store := start } } turns = crew)
    (hstate : crew.host.store.state = .unlocked) (me : ThreadId) (full : Bool)
    (hupkeep : ∀ turn ∈ upkeep, turn.1 = me ∧ turn.2.isUpkeep = true) :
    (∃ guard, guard.isFull = full ∧
      crew.replies ((me, .lock full) :: (upkeep ++ [(me, .unlock)])) =
        (.guard guard, []) :: (crew.replies upkeep ++ [(.flag true, [])])) ∧
    crew.run ((me, .lock full) :: (upkeep ++ [(me, .unlock)])) = crew.run upkeep ∧
    (crew.run ((me, .lock full) :: upkeep)).host.store.state =
      (if full then .fullyLocked else .simpleLocked) ∧
    (crew.run ((me, .lock full) :: upkeep)).host.store.table.Locked full ∧
    (crew.run upkeep).host.store.state = .unlocked ∧
    (crew.run upkeep).host.store.owner = none ∧
    (crew.run upkeep).host.store.table.Locked false ∧
    (crew.run upkeep).host.store.table.default = crew.host.store.table.default ∧
    (crew.run upkeep).host.store.enabled = crew.host.store.enabled := by
  have hsound := (run_induction (P := fun _ => True) (fun _ _ _ _ => trivial)
    (sound_start hnew) trivial turns).1
  rw [hrun] at hsound
  have hidle := Idle.of_unlocked hsound hstate me
  obtain ⟨hreplies, hheld, hlast, hemptied⟩ := hidle.run_heldBy hupkeep full
  obtain ⟨hunlocked, howner, -, hrings⟩ := hlast.free.phase.unlocked hlast.free.up
  have hunder : crew.run ((me, .lock full) :: upkeep) = (crew.run upkeep).heldBy me full := by
    show (crew.step (me, .lock full)).run upkeep = _
    rw [hidle.step_lock, hheld]
  have hswitch : some (crew.run upkeep).host.store.enabled = some crew.host.store.enabled :=
    congrArg Guard.restore (hemptied.guardOf_eq true)
  refine ⟨⟨_, crew.host.store.isFull_guardOf full, ?_⟩, ?_, ?_, ?_, hunlocked, howner, hrings,
    hemptied.quiet.table.default_eq, Option.some.inj hswitch⟩
  · show (_, _) :: (crew.step (me, .lock full)).replies (upkeep ++ [(me, .unlock)]) = _
    rw [hidle.step_lock, replies_append, hreplies, hheld, hidle.perform_lock]
    show _ :: (_ ++ [(_, _)]) = _
    rw [hlast.perform_unlock]
  · show (crew.run ((me, .lock full) :: upkeep ++ [(me, .unlock)])) = _
    rw [run_concat, hunder, hlast.step_unlock]
  · rw [hunder]
    cases full with
    | false => rfl
    | true => rfl
  · rw [hunder]
    cases full with
    | false => exact hrings
    | true => exact (hlast.free.held true).locked_of_fullyLocked rfl

/-- Two buffers, and an event in the first. -/
def writtenOnce : List (ThreadId × Action) :=
  [(0, .init 2), (0, .create 3), (1, .log .default { message := "a" } {})]

/-- The event is copied, dumped and thrown away, the last in a session. -/
def thrownAway : List (ThreadId × Action) :=
  [(1, .snapshot 0), (1, .dump 0 none), (1, .reset 7),
    (1, .session { rest := Utf8.encode "3\n5\n" } (some 900))]

theorem lock_bracket_changes_nothing_thrownAway :
    ∃ start crew, Store.new? {} = .ok start ∧
      run { host := { store := start } } writtenOnce = crew ∧
      crew.host.store.state = .unlocked ∧
      crew.run ((1, .lock true) :: (thrownAway ++ [(1, .unlock)])) = crew.run thrownAway ∧
      (crew.run ((1, .lock true) :: thrownAway)).host.store.state = .fullyLocked ∧
      (crew.run thrownAway).host.store.state = .unlocked ∧
      (crew.run thrownAway).host.store.enabled = true := by
  have hnew : Store.new? {} = .ok (Store.ofConfig {}) := rfl
  have hupkeep : ∀ turn ∈ thrownAway, turn.1 = 1 ∧ turn.2.isUpkeep = true := by decide
  obtain ⟨-, hsame, hfull, -, hstate, -, -, -, henabled⟩ := lock_bracket_changes_nothing hnew
    (rfl : run { host := { store := Store.ofConfig {} } } writtenOnce = _) rfl 1 true hupkeep
  exact ⟨_, _, hnew, rfl, rfl, hsame, hfull, hstate, henabled⟩

end
end Crew
end EventLog
