import EventLog.Proofs.Host.Bracket
import EventLog.Proofs.Registry.Succession

/-! The registry along every run of any number of threads. Bringing a store up installs the built-in
renderers, threads register others, and nothing else touches it: a run is a history of the registry. -/
namespace EventLog

/-- Whether an action may add renderers to the registry. -/
def Action.registers : Action → Bool
  | .init _ _ | .register _ => true
  | _ => false

/-- The type that an action was given for a renderer. -/
def Action.given? : Action → Answer → Option (Renderer × EventType)
  | .register renderer, .type type => some (renderer, type)
  | _, _ => none

namespace Crew

/-- The types that threads are given for renderers in these turns, in order. -/
def issued (crew : Crew) (turns : List (ThreadId × Action)) : List (Renderer × EventType) :=
  (turns.zip (crew.replies turns)).filterMap fun turn => turn.1.2.given? turn.2.1

section
variable {crew : Crew}

theorem issued_cons (crew : Crew) (turn : ThreadId × Action) (turns : List (ThreadId × Action)) :
    crew.issued (turn :: turns) =
      (turn.2.given? (crew.host.perform (crew.worker turn.1) turn.2).answer).toList ++
        (crew.step turn).issued turns := by
  unfold issued
  rw [replies, List.zip_cons_cons, List.filterMap_cons]
  dsimp only
  cases turn.2.given? (crew.host.perform (crew.worker turn.1) turn.2).answer with
  | none => rfl
  | some given => rfl

theorem registry_step (h : crew.Sound) (me : ThreadId) {action : Action}
    (haction : action.registers = false) :
    (crew.step (me, action)).host.store.registry = crew.host.store.registry := by
  cases action with
  | init _ _ | register _ => cases haction
  | cleanup =>
    rw [store_step]
    exact Store.registry_cleanup _ _
  | create capacity memory =>
    rw [store_step]
    exact Store.registry_create _ _ capacity memory
  | delete id =>
    rw [store_step]
    exact Store.registry_delete _ _ id
  | log target event now =>
    rw [store_step]
    exact Store.registry_log _ _ target event now
  | _ => exact (quiet_step h me rfl).registry_eq

/-- A turn does to the registry, and gives out, what a call of the registry does, or nothing. -/
theorem roll_step (h : crew.Sound) (turn : ThreadId × Action) (before : List (Renderer × EventType)) :
    ∃ actions, Registry.Roll.run ⟨crew.host.store.registry, before⟩ actions =
      ⟨(crew.step turn).host.store.registry,
        before ++ (turn.2.given? (crew.host.perform (crew.worker turn.1) turn.2).answer).toList⟩ := by
  obtain ⟨me, action⟩ := turn
  cases action with
  | init capacity memory =>
    rw [store_step]
    show ∃ actions, Registry.Roll.run ⟨crew.host.store.registry, before⟩ actions =
      ⟨(crew.host.store.init capacity memory).2.registry, before ++ []⟩
    rw [List.append_nil]
    rcases Store.init_cases crew.host.store capacity memory with
      ⟨_, herror⟩ | ⟨-, ⟨_, herror⟩ | ⟨_, hok, -⟩⟩
    · rw [herror]
      exact ⟨[], rfl⟩
    · rw [herror]
      exact ⟨[.install], rfl⟩
    · rw [hok]
      exact ⟨[.install], rfl⟩
  | register renderer =>
    refine ⟨[.register renderer], ?_⟩
    rw [store_step]
    unfold Registry.Roll.run Host.storeAfter Host.perform Store.register
    dsimp only [List.foldl_cons, List.foldl_nil]
    cases hregister : crew.host.store.registry.register renderer with
    | mk result registry =>
      cases result with
      | ok type => exact Registry.Roll.step_register_ok hregister
      | error error =>
        rw [Registry.Roll.step_register_error hregister]
        exact congrArg _ (List.append_nil before).symm
  | _ =>
    exact ⟨[], (congrArg₂ Registry.Roll.mk (registry_step h me (by rfl))
      (List.append_nil before)).symm⟩

/-- A run is a history of the registry. -/
theorem roll_run (h : crew.Sound) (turns : List (ThreadId × Action))
    (before : List (Renderer × EventType)) :
    ∃ actions, Registry.Roll.run ⟨crew.host.store.registry, before⟩ actions =
      ⟨(crew.run turns).host.store.registry, before ++ crew.issued turns⟩ := by
  induction turns generalizing crew before with
  | nil => exact ⟨[], congrArg _ (List.append_nil before).symm⟩
  | cons turn turns ih =>
    obtain ⟨first, hfirst⟩ := roll_step h turn before
    obtain ⟨later, hlater⟩ := ih (h.step turn)
      (before ++ (turn.2.given? (crew.host.perform (crew.worker turn.1) turn.2).answer).toList)
    refine ⟨first ++ later, ?_⟩
    rw [issued_cons, ← List.append_assoc]
    show List.foldl Registry.Roll.step _ (first ++ later) = _
    rw [List.foldl_append]
    show Registry.Roll.run (Registry.Roll.run _ first) later = _
    rw [hfirst, hlater]
    rfl

end
end Crew
end EventLog
