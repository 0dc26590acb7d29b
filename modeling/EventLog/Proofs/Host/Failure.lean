import EventLog.Proofs.Host.Allocation
import EventLog.Proofs.Store.Failure

/-! Management calls that fail, along every run of any number of threads. A call that fails leaves
everything as it was, with one exception: an initialization that runs out of memory leaves the built-in
renderers behind, and with them a registry that takes registrations. -/
namespace EventLog

/-- The calls that bring a store up and down, lock it, change, empty or copy its rings, and add
renderers. -/
def Action.isManagement : Action → Bool
  | .init _ _ | .cleanup | .create _ _ | .delete _ | .reset _ | .resetAll | .lock _ | .register _
  | .snapshot _ => true
  | _ => false

namespace Host

section
variable {host : Host} {worker : Worker} {action : Action} {error : Error}

/-- A call to the store that is answered with a fault, which it left at the given store. -/
theorem changed_fault {α : Type} {result : Except Fault α × Store} {answer : α → Answer}
    {notices : α → List Notice} {fault : Fault} (hanswer : ∀ value, answer value ≠ .fault fault)
    (h : (host.changed worker result answer notices).answer = .fault fault) :
    ∃ next, result = (.error fault, next) ∧ host.changed worker result answer notices =
      { answer := .fault fault, host := host.withStore next, worker } := by
  obtain ⟨result, next⟩ := result
  cases result with
  | ok value => exact absurd h (hanswer value)
  | error _ =>
    cases h
    exact ⟨next, rfl, rfl⟩

theorem seen_fault {α : Type} {result : Except Fault α} {answer : α → Answer} {fault : Fault}
    (hanswer : ∀ value, answer value ≠ .fault fault)
    (h : (host.seen worker result answer).answer = .fault fault) :
    host.seen worker result answer = { answer := .fault fault, host, worker } := by
  cases result with
  | ok value => exact absurd h (hanswer value)
  | error _ =>
    cases h
    rfl

theorem withStore_self (host : Host) : host.withStore host.store = host :=
  host.withStore_eq fun _ => rfl

/-- What a failed call leaves behind is the store as it was. -/
theorem changed_fault_eq {α : Type} {result : Except Fault α × Store} {answer : α → Answer}
    {notices : α → List Notice} {fault : Fault} (hanswer : ∀ value, answer value ≠ .fault fault)
    (h : (host.changed worker result answer notices).answer = .fault fault)
    (hsame : ∀ next, result = (.error fault, next) → next = host.store) :
    host.changed worker result answer notices = { answer := .fault fault, host, worker } := by
  obtain ⟨next, hresult, heq⟩ := changed_fault hanswer h
  rw [heq, hsame next hresult, withStore_self]

/-- The outcome of a management call that fails. -/
theorem perform_fault {holder : ThreadId} {guard : Option Guard}
    (hphase : host.store.Phase holder guard) (hpos : 0 < host.store.config.maxEvents)
    (haction : action.isManagement = true)
    (h : (host.perform worker action).answer = .fault (.error error)) :
    ¬ ((∃ capacity memory, action = .init capacity memory) ∧ ∃ message, error = .memory message) ∧
        host.perform worker action = { answer := .fault (.error error), host, worker } ∨
      (∃ capacity memory, action = .init capacity memory) ∧ (∃ message, error = .memory message) ∧
        host.perform worker action =
          { answer := .fault (.error error)
            host := { host with store := host.store.installed }
            worker } := by
  cases action with
  | init capacity memory =>
    obtain ⟨next, hresult, heq⟩ := changed_fault (by exact nofun) h
    change host.perform worker (.init capacity memory) = _ at heq
    rw [heq]
    rcases Store.init_error_cases hpos hresult with ⟨hother, rfl⟩ | ⟨⟨message, hmemory⟩, rfl⟩
    · refine .inl ⟨?_, by rw [withStore_self]⟩
      rintro ⟨-, message, rfl⟩
      exact hother message rfl
    · cases hmemory
      refine .inr ⟨⟨capacity, memory, rfl⟩, ⟨message, rfl⟩, ?_⟩
      rw [withStore_eq]
      exact fun _ => rfl
  | cleanup =>
    exact .inl ⟨nofun, changed_fault_eq nofun h fun _ => Store.eq_of_cleanup_error⟩
  | create capacity memory =>
    exact .inl ⟨nofun, changed_fault_eq nofun h fun _ => hphase.eq_of_create_error⟩
  | delete id =>
    exact .inl ⟨nofun, changed_fault_eq nofun h fun _ => hphase.eq_of_delete_error⟩
  | reset id =>
    exact .inl ⟨nofun, changed_fault_eq nofun h fun _ => Store.eq_of_reset_error⟩
  | resetAll =>
    exact .inl ⟨nofun, changed_fault_eq nofun h fun _ => hphase.eq_of_resetAll_error⟩
  | register renderer =>
    refine .inl ⟨nofun, changed_fault_eq nofun h ?_⟩
    intro next hresult
    cases hregister : host.store.register renderer with
    | mk result after =>
      rw [hregister] at hresult
      cases result with
      | ok type => cases hresult
      | error _ =>
        cases hresult
        exact Store.eq_of_register_error hregister
  | snapshot id => exact .inl ⟨nofun, seen_fault nofun h⟩
  | lock full =>
    refine .inl ⟨nofun, ?_⟩
    unfold perform at h ⊢
    dsimp only at h ⊢
    split at h
    · cases h
    · next hlock =>
      cases h
      obtain rfl := Store.eq_of_lockGlobal_error hlock
      rw [withStore_self]
  | _ => cases haction

end
end Host

namespace Crew

section
variable {crew : Crew}

/-- Whatever any threads did before, a management call that fails changes nothing at all: not the
store, its rings, locks, switch or renderers, not the threads nor the buffers that are kept. The one
exception is an initialization that runs out of memory while the built-in renderers are not there yet:
it leaves them installed, and nothing else. -/
theorem failure_changes_nothing_iff {config : Config} {start : Store}
    {turns : List (ThreadId × Action)} {me : ThreadId} {action : Action} {error : Error}
    (hnew : Store.new? config = .ok start) (hrun : run { host := { store := start } } turns = crew)
    (haction : action.isManagement = true)
    (hfail : (crew.host.perform (crew.worker me) action).answer = .fault (.error error)) :
    (crew.step (me, action) = crew ↔
      ¬ ((∃ capacity memory, action = .init capacity memory) ∧
        (∃ message, error = .memory message) ∧
        crew.host.store.registry.initialized = false)) ∧
    (crew.step (me, action) ≠ crew → crew.step (me, action) =
      { crew with host := { crew.host with
          store := { crew.host.store with
            registry := crew.host.store.registry.installBuiltins } } }) := by
  obtain ⟨hvalid, rfl⟩ := Store.eq_ofConfig_of_new? hnew
  obtain ⟨hpos, hevents⟩ := Config.pos_of_validate hvalid
  obtain ⟨hsound, h⟩ := run_induction
    (P := fun crew => crew.host.store.Allocated config crew.requests)
    (fun crew turn hsound h => allocated_step hpos hsound h turn) (sound_start hnew)
    (.ofConfig config fun _ => 0) turns
  rw [hrun] at hsound h
  obtain ⟨holder, hphase, -⟩ := hsound.phase
  have hkept : crew.requests.post action (.fault (.error error)) = crew.requests := by
    cases action with
    | _ => rfl
  -- Only the host may change: the thread is as before, and a fault is no request.
  have hstep (host : Host) (hperform : crew.host.perform (crew.worker me) action =
      { answer := .fault (.error error), host, worker := crew.worker me }) :
      crew.step (me, action) = { crew with host } := by
    unfold step
    rw [hperform]
    dsimp only
    rw [hkept, Function.update_eq_self]
  rcases Host.perform_fault hphase (h.config_eq ▸ hevents) haction hfail with
    ⟨hother, hperform⟩ | ⟨hinit, hmemory, hperform⟩
  · have hsame : crew.step (me, action) = crew := hstep _ hperform
    refine ⟨iff_of_true hsame ?_, fun hne => absurd hsame hne⟩
    rintro ⟨hinit, hmemory, -⟩
    exact hother ⟨hinit, hmemory⟩
  · have hinstalled := hstep _ hperform
    refine ⟨⟨?_, ?_⟩, fun _ => hinstalled⟩
    · rintro hsame ⟨-, -, hnone⟩
      have hregistry := Registry.initialized_installBuiltins crew.host.store.registry
      rw [hsame] at hinstalled
      have heq : crew.host.store.registry = crew.host.store.registry.installBuiltins :=
        congrArg (fun crew => crew.host.store.registry) hinstalled
      rw [← heq, hnone] at hregistry
      cases hregistry
    · intro hnot
      have hregistry : crew.host.store.registry.initialized = true := by
        by_contra hnone
        exact hnot ⟨hinit, hmemory, by simpa using hnone⟩
      rw [hinstalled, Store.installed_of_initialized hregistry]

/-- A buffer is created, and deleted by another thread. -/
def deletedOnce : List (ThreadId × Action) :=
  [(0, .init 2), (0, .log .default { message := "a" } {}), (0, .create 3), (1, .delete 1)]

/-- Deleted again, the full lock is taken and given back in vain. -/
theorem failure_changes_nothing_iff_deletedTwice :
    ∃ start crew, Store.new? {} = .ok start ∧
      run { host := { store := start } } deletedOnce = crew ∧
      (crew.host.perform (crew.worker 1) (.delete 1)).answer =
        .fault (.error (.invalidBufferId 1)) ∧
      crew.step (1, .delete 1) = crew := by
  have hnew : Store.new? {} = .ok (Store.ofConfig {}) := rfl
  refine ⟨_, _, hnew, rfl, rfl, (failure_changes_nothing_iff hnew rfl rfl rfl).1.mpr ?_⟩
  rintro ⟨⟨_, _, hinit⟩, -⟩
  cases hinit

/-- A store whose buffers may have more slots than there is room for. -/
def boundless : Config := { maxEvents := 2 ^ 60 }

/-- Memory without room for so many slots. -/
def scarce : Memory := fun slots => slots < 2 ^ 60

/-- A renderer that writes nothing. -/
def mute : Renderer := .function "a" fun _ => { pieces := [] }

/-- The first initialization of a store fails for want of memory, and yet the store has renderers
afterwards and takes more of them. -/
theorem memoryShort_leaves_renderers :
    ∃ start message, Store.new? boundless = .ok start ∧
      (Host.perform { store := start } {} (.init (2 ^ 60) scarce)).answer =
        .fault (.error (.memory message)) ∧
      start.registry.entries = [] ∧ (start.register mute).1 = .error .notInitialized ∧
      ∃ next, next = (Host.perform { store := start } {} (.init (2 ^ 60) scarce)).host.store ∧
        next.state = .uninitialized ∧ next.registry.entries = Registry.builtins ∧
        (next.register mute).1 = .ok ⟨16⟩ :=
  ⟨_, _, rfl, rfl, rfl, rfl, _, rfl, rfl, rfl, rfl⟩

end
end Crew
end EventLog
