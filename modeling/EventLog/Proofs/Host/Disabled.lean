import EventLog.Proofs.Host.Deletion
import EventLog.Proofs.Store.Switch

/-! How long a store that was switched off stays off, while threads take and drop locks around it. Only
a full lock remembers the position of the switch, so only one that was taken while the store was on,
and is still held when it is switched off, can switch it on again: it does so when it is dropped. Calls do
not overlap, except that a deletion is made of moves between which other threads may act. -/
namespace EventLog

/-- Whether an action may switch the store on by itself. -/
def Action.switchesOn : Action → Bool
  | .enable | .toggle | .init _ _ => true
  | _ => false

def Move.switchesOn : Move → Bool
  | .act action => action.switchesOn
  | .remove _ => false

namespace Store

section
variable {store next : Store} {me : ThreadId} {taken : Guard} {full : Bool}

theorem restore_of_lockGlobal (h : store.lockGlobal me full = (.ok taken, next)) :
    taken.restore = if full then some store.enabled else none := by
  rcases lockGlobal_cases store me full with
    ⟨_, herror⟩ | ⟨-, -, -, ⟨rfl, hok⟩ | ⟨rfl, _, -, hok⟩⟩
  · cases herror.symm.trans h
  · cases hok.symm.trans h
    rfl
  · cases hok.symm.trans h
    rfl

theorem off_lockGlobal (hoff : store.enabled = false) (me : ThreadId) (full : Bool) :
    (store.lockGlobal me full).2.enabled = false := by
  rcases lockGlobal_cases store me full with
    ⟨_, herror⟩ | ⟨-, -, -, ⟨-, hok⟩ | ⟨-, _, -, hok⟩⟩
  · rw [herror]
    exact hoff
  · rw [hok]
    exact hoff
  · rw [hok]
    rfl

theorem off_release (hoff : store.enabled = false) (hrestore : taken.restore ≠ some true) :
    (store.release taken).enabled = false := by
  show taken.restore.getD store.enabled = false
  cases hwas : taken.restore with
  | none => exact hoff
  | some on =>
    rw [hwas] at hrestore
    simpa using hrestore

/-- A lock that is taken while the store is off leaves it off when it is given back. -/
theorem off_underLock {α : Type} {change : Store → Except Fault α × Store}
    (hoff : store.enabled = false) (me : ThreadId) (full : Bool)
    (hchange : ∀ locked : Store, (change locked).2.enabled = locked.enabled) :
    (store.underLock me full change).2.enabled = false := by
  have hlocked := off_lockGlobal hoff me full
  unfold underLock
  cases hlock : store.lockGlobal me full with
  | mk result locked =>
    rw [hlock] at hlocked
    cases result with
    | error fault => exact hlocked
    | ok taken =>
      refine off_release ((hchange locked).trans hlocked) ?_
      rw [restore_of_lockGlobal hlock, hoff]
      split <;> simp

theorem off_resetAll (hoff : store.enabled = false) (me : ThreadId) :
    (store.resetAll me).2.enabled = false := by
  unfold resetAll
  split
  · exact (Steady.resetPresent store me).2.trans hoff
  · exact off_underLock hoff me false fun locked => (Steady.resetPresent locked me).2

/-- A store that is off turns every event away before it looks at the rings. -/
theorem log_of_off (hoff : store.enabled = false) (context : Context) (target : Target)
    (event : Event) (now : Instant) :
    store.log context target event now =
      (.error (if store.isInitialized then .disabled else .notInitialized), store) := by
  unfold log
  rw [destination_eq, hoff]
  cases store.isInitialized with
  | false => rfl
  | true => rfl

end
end Store

/-- A store that is off stays so, unless it is switched on or a guard that was taken while it was on is
dropped. -/
theorem Host.off_storeAfter {host : Host} {worker : Worker} {action : Action}
    (hoff : host.store.enabled = false) (haction : action.switchesOn = false)
    (hguard : action = .unlock → ∀ taken, worker.guard = some taken → taken.restore ≠ some true) :
    (host.storeAfter worker action).enabled = false := by
  cases action with
  | init _ _ | enable | toggle => cases haction
  | cleanup =>
    show (host.store.cleanup worker.id).2.enabled = false
    rcases Store.cleanup_cases host.store worker.id with ⟨_, herror⟩ | hok
    · rw [herror]
      exact hoff
    · rw [hok]
  | create capacity memory =>
    refine Store.off_underLock hoff worker.id false fun locked => ?_
    cases locked.table.free? with
    | none => rfl
    | some id =>
      dsimp only
      split <;> rfl
  | delete id =>
    refine Store.off_underLock hoff worker.id true fun locked => ?_
    split <;> rfl
  | reset id => exact (Store.Steady.reset host.store worker.id id).2.trans hoff
  | resetAll => exact Store.off_resetAll hoff worker.id
  | log target event now =>
    exact (Store.Steady.log host.store worker.context target event now).2.trans hoff
  | session source room =>
    exact Session.store_run (P := fun store => store.enabled = false)
      (fun store id hstore => (Store.Steady.reset store _ id).2.trans hstore)
      (fun _ hstore => Store.off_resetAll hstore _) hoff
  | lock full => exact Store.off_lockGlobal hoff worker.id full
  | unlock =>
    unfold storeAfter
    dsimp only
    cases htaken : worker.guard with
    | none => exact hoff
    | some taken => exact Store.off_release hoff (hguard rfl taken htaken)
  | disable => rfl
  | _ => exact hoff

namespace Crew

/-- The thread has a guard that will switch the store on when it is dropped. -/
def Restoring (crew : Crew) (holder : ThreadId) : Prop :=
  ∃ taken, (crew.worker holder).guard = some taken ∧ taken.restore = some true

/-- One of the turns took a full lock for the thread while the store was on, and none dropped it. -/
def FoundOn (crew : Crew) (turns : List (ThreadId × Move)) (holder : ThreadId) : Prop :=
  ∃ earlier held taken next, turns = earlier ++ (holder, .act (.lock true)) :: held ∧
    (crew.moves earlier).host.store.enabled = true ∧
    (crew.moves earlier).host.store.lockGlobal holder true = (.ok taken, next) ∧
    (holder, .act .unlock) ∉ held

section
variable {crew : Crew} {holder : ThreadId} {turn : ThreadId × Move}

theorem guard_step (crew : Crew) (me : ThreadId) (action : Action) :
    ((crew.step (me, action)).worker me).guard = crew.host.guardAfter (crew.worker me) action := by
  rw [worker_step_self, (crew.host.worker_perform _ action).2]

/-- A guard is kept until its holder drops it. -/
theorem Sound.guard_move (h : crew.Sound) {taken : Guard}
    (hguard : (crew.worker holder).guard = some taken) (hturn : turn ≠ (holder, .act .unlock)) :
    ((crew.move turn).worker holder).guard = some taken := by
  obtain ⟨me, act | id⟩ := turn
  swap
  · exact hguard
  by_cases heq : holder = me
  swap
  · show ((crew.step (me, act)).worker holder).guard = some taken
    rw [worker_step_of_ne crew heq]
    exact hguard
  subst heq
  show ((crew.step (holder, act)).worker holder).guard = some taken
  rw [guard_step]
  cases act with
  | unlock => exact absurd rfl hturn
  | lock full =>
    unfold Host.guardAfter
    dsimp only
    cases hlock : crew.host.store.lockGlobal (crew.worker holder).id full with
    | mk result next =>
      cases result with
      | error fault => exact hguard
      | ok other =>
        rw [h.id_worker] at hlock
        cases ((h.phase_of_guard hguard).lockGlobal hlock).1
  | _ => exact hguard

theorem Sound.guard_moves (h : crew.Sound) {taken : Guard} {turns : List (ThreadId × Move)}
    (hguard : (crew.worker holder).guard = some taken) (hturns : (holder, .act .unlock) ∉ turns) :
    ((crew.moves turns).worker holder).guard = some taken := by
  induction turns generalizing crew with
  | nil => exact hguard
  | cons turn turns ih =>
    rw [List.mem_cons, not_or] at hturns
    exact ih (h.move turn) (h.guard_move hguard (Ne.symm hturns.1)) hturns.2

/-- Only a full lock that is taken while the store is on comes with a guard to switch it on. -/
theorem Sound.restoring_of_move (h : crew.Sound) (hafter : (crew.move turn).Restoring holder) :
    crew.Restoring holder ∧ turn ≠ (holder, .act .unlock) ∨
      turn = (holder, .act (.lock true)) ∧ crew.host.store.enabled = true ∧
        ∃ taken next, crew.host.store.lockGlobal holder true = (.ok taken, next) := by
  obtain ⟨me, act | id⟩ := turn
  swap
  · exact .inl ⟨hafter, nofun⟩
  obtain ⟨taken, hguard, hrestore⟩ := hafter
  change ((crew.step (me, act)).worker holder).guard = some taken at hguard
  by_cases heq : holder = me
  swap
  · rw [worker_step_of_ne crew heq] at hguard
    exact .inl ⟨⟨taken, hguard, hrestore⟩, fun hturn => heq (congrArg Prod.fst hturn).symm⟩
  subst heq
  rw [guard_step] at hguard
  cases act with
  | unlock => cases hguard
  | lock full =>
    unfold Host.guardAfter at hguard
    dsimp only at hguard
    cases hlock : crew.host.store.lockGlobal (crew.worker holder).id full with
    | mk result next =>
      rw [hlock] at hguard
      cases result with
      | error fault => exact .inl ⟨⟨taken, hguard, hrestore⟩, nofun⟩
      | ok other =>
        obtain rfl : other = taken := Option.some.inj hguard
        rw [Store.restore_of_lockGlobal hlock] at hrestore
        rw [h.id_worker] at hlock
        cases full with
        | false => cases hrestore
        | true => exact .inr ⟨rfl, Option.some.inj hrestore, other, next, hlock⟩
  | _ => exact .inl ⟨⟨taken, hguard, hrestore⟩, nofun⟩

/-- Who switches the store on when it drops its guard can be told from the turns. -/
theorem Sound.restoring_iff (h : crew.Sound) (hfree : ∀ me, (crew.worker me).guard = none)
    (turns : List (ThreadId × Move)) :
    (crew.moves turns).Restoring holder ↔ crew.FoundOn turns holder := by
  constructor
  · intro hrestoring
    induction turns using List.reverseRecOn with
    | nil =>
      obtain ⟨taken, hguard, -⟩ := hrestoring
      cases (hfree holder).symm.trans hguard
    | append_singleton turns turn ih =>
      rw [moves_concat] at hrestoring
      rcases (h.moves turns).restoring_of_move hrestoring with
        ⟨hbefore, hturn⟩ | ⟨rfl, hon, taken, next, hlock⟩
      · obtain ⟨earlier, held, taken, next, rfl, hon, hlock, hkept⟩ := ih hbefore
        refine ⟨earlier, held ++ [turn], taken, next, by simp, hon, hlock, ?_⟩
        simpa [hkept] using hturn.symm
      · exact ⟨turns, [], taken, next, rfl, hon, hlock, by simp⟩
  · rintro ⟨earlier, held, taken, next, rfl, hon, hlock, hkept⟩
    have hsound := h.moves earlier
    rw [← hsound.id_worker holder] at hlock
    refine ⟨taken, ?_, ?_⟩
    · rw [moves_append]
      refine (hsound.move (holder, .act (.lock true))).guard_moves ?_ hkept
      show (((crew.moves earlier).step (holder, .lock true)).worker holder).guard = some taken
      rw [guard_step]
      unfold Host.guardAfter
      dsimp only
      rw [hlock]
    · rw [Store.restore_of_lockGlobal hlock, hon]
      rfl

/-- Where no guard that was there before switches the store on, it stays off from turn to turn, and no
guard that is taken meanwhile will switch it on either. -/
theorem Sound.off_moves (h : crew.Sound) (hoff : crew.host.store.enabled = false)
    {turns : List (ThreadId × Move)} (hturns : ∀ turn ∈ turns, turn.2.switchesOn = false)
    (hdrops : ∀ holder, crew.Restoring holder → (holder, .act .unlock) ∉ turns) :
    (crew.moves turns).host.store.enabled = false := by
  induction turns generalizing crew with
  | nil => exact hoff
  | cons turn turns ih =>
    refine ih (h.move turn) ?_ (fun other hother => hturns other (List.mem_cons_of_mem _ hother)) ?_
    · obtain ⟨me, act | id⟩ := turn
      · show (crew.step (me, act)).host.store.enabled = false
        rw [store_step]
        refine Host.off_storeAfter hoff (hturns _ List.mem_cons_self) ?_
        rintro rfl taken hguard hrestore
        exact hdrops me ⟨taken, hguard, hrestore⟩ List.mem_cons_self
      · show (crew.host.store.removed (crew.worker me).guard id).enabled = false
        unfold Store.removed
        split <;> exact hoff
    · intro holder hafter hmem
      rcases h.restoring_of_move hafter with ⟨hbefore, -⟩ | ⟨-, hon, -⟩
      · exact hdrops holder hbefore (List.mem_cons_of_mem _ hmem)
      · rw [hoff] at hon
        cases hon

/-- The drop that switches the store on. -/
theorem Sound.on_unlock (h : crew.Sound) {early : List (ThreadId × Move)}
    (hrestoring : crew.Restoring holder) (hearly : (holder, .act .unlock) ∉ early) :
    (crew.moves (early ++ [(holder, .act .unlock)])).host.store.enabled = true := by
  obtain ⟨taken, hguard, hrestore⟩ := hrestoring
  have hkept := h.guard_moves hguard hearly
  rw [moves_concat]
  show ((crew.moves early).step (holder, .unlock)).host.store.enabled = true
  rw [store_step]
  unfold Host.storeAfter
  dsimp only
  rw [hkept]
  show taken.restore.getD _ = true
  rw [hrestore]
  rfl

end

section
variable {config : Config} {start : Store} {before since : List (ThreadId × Move)} {me : ThreadId}
  {off : Crew}

/-- A store that was switched off turns every event away until it is switched on or brought up, or
until a full lock is dropped that was held when it was switched off and was taken while it was on. That
drop switches the store on. A deletion takes such a lock and drops it as well. -/
theorem stays_off_until_restored (hnew : Store.new? config = .ok start)
    (hrun : moves { host := { store := start } } (before ++ [(me, .act .disable)]) = off)
    (hsince : ∀ turn ∈ since, turn.2.switchesOn = false) :
    ((∀ holder, FoundOn { host := { store := start } } (before ++ [(me, .act .disable)]) holder →
        (holder, .act .unlock) ∉ since) →
      ∀ early, early <+: since → ∀ context target event now,
        (off.moves early).host.store.log context target event now =
          (.error (if (off.moves early).host.store.isInitialized then .disabled
            else .notInitialized), (off.moves early).host.store)) ∧
    (∀ holder, FoundOn { host := { store := start } } (before ++ [(me, .act .disable)]) holder →
      ∀ early, (holder, .act .unlock) ∉ early →
        (off.moves (early ++ [(holder, .act .unlock)])).host.store.enabled = true) ∧
    ∀ early other id, ((off.moves early).worker other).guard = none →
      ((off.moves early).step (other, .delete id)).host.store =
          ((off.moves early).moves (deletion other id)).host.store ∧
        ((off.moves early).step (other, .delete id)).worker =
          ((off.moves early).moves (deletion other id)).worker := by
  have hstart := sound_start hnew
  have hsound : off.Sound := hrun ▸ hstart.moves _
  have hoff : off.host.store.enabled = false := by
    rw [← hrun, moves_concat]
    rfl
  have hrestoring (holder : ThreadId) : off.Restoring holder ↔
      FoundOn { host := { store := start } } (before ++ [(me, .act .disable)]) holder :=
    hrun ▸ hstart.restoring_iff (fun _ => rfl) _
  refine ⟨?_, ?_, fun early other id hfree => step_delete hfree id⟩
  · intro hdrops early hbegins context target event now
    refine Store.log_of_off (hsound.off_moves hoff ?_ ?_) context target event now
    · exact fun turn hturn => hsince turn (hbegins.subset hturn)
    · intro holder hholder hmem
      exact hdrops holder ((hrestoring holder).mp hholder) (hbegins.subset hmem)
  · intro holder hfound early hearly
    exact hsound.on_unlock ((hrestoring holder).mpr hfound) hearly

/-- Thread 0 has the lock to delete the default buffer, and is about to remove it. -/
def amidDeletion : List (ThreadId × Move) := [(0, .act (.init 2)), (0, .act (.lock true))]

theorem stays_off_until_restored_amidDeletion :
    ∃ start off, Store.new? {} = .ok start ∧
      moves { host := { store := start } } (amidDeletion ++ [(1, .act .disable)]) = off ∧
      (∀ turn ∈ [((0 : ThreadId), Move.remove 0)], turn.2.switchesOn = false) ∧
      FoundOn { host := { store := start } } (amidDeletion ++ [(1, .act .disable)]) 0 ∧
      ((off.moves [(0, .remove 0)]).host.store.log {} .default { message := "a" } {}).1 =
        .error .disabled ∧
      (off.moves ([(0, .remove 0)] ++ [(0, .act .unlock)])).host.store.enabled = true := by
  have hnew : Store.new? {} = .ok (Store.ofConfig {}) := rfl
  have hsince : ∀ turn ∈ [((0 : ThreadId), Move.remove 0)], turn.2.switchesOn = false := by
    simp [Move.switchesOn]
  have hfound :
      FoundOn { host := { store := Store.ofConfig {} } } (amidDeletion ++ [(1, .act .disable)]) 0 :=
    ⟨[(0, .act (.init 2))], [(1, .act .disable)], _, _, rfl, rfl, rfl, by simp⟩
  obtain ⟨hoff, hon, -⟩ := stays_off_until_restored hnew
    (rfl : moves { host := { store := Store.ofConfig {} } }
      (amidDeletion ++ [(1, .act .disable)]) = _) hsince
  refine ⟨_, _, hnew, rfl, hsince, hfound, ?_, hon 0 hfound [(0, .remove 0)] (by simp)⟩
  rw [hoff (fun _ _ => by simp) _ (List.prefix_refl _)]
  rfl

/-- A store that is switched off while a full lock is held is on again when the lock was dropped,
although nobody switched it on. -/
theorem dropped_lock_switches_on :
    ∃ start crew, Store.new? {} = .ok start ∧
      moves { host := { store := start } }
        [(0, .act (.init 2)), (0, .act (.lock true)), (0, .act .disable), (0, .act .unlock)] =
          crew ∧
      (crew.host.store.log {} .default { message := "x" } {}).1 = .ok () :=
  ⟨_, _, rfl, rfl, rfl⟩

end
end Crew
end EventLog
