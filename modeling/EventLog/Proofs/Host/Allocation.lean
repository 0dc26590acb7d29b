import EventLog.Proofs.Host.Crew
import EventLog.Proofs.Store.Default

/-! The table of buffers along every run of any number of threads. Its default is one of its rings
whenever there is one, and a ring keeps the capacity that was asked for when it was created, within
the limits of the store. -/
namespace EventLog

namespace Crew

section
variable {crew : Crew} {config : Config}

theorem allocated_step (hpos : 0 < config.maxBuffers) (hsound : crew.Sound)
    (h : crew.host.store.Allocated config crew.requests) (turn : ThreadId × Action) :
    (crew.step turn).host.store.Allocated config (crew.step turn).requests := by
  obtain ⟨me, action⟩ := turn
  cases action with
  | init capacity memory =>
    unfold step Host.perform
    dsimp only
    cases hinit : crew.host.store.init capacity memory with
    | mk result next =>
      cases result with
      | error fault => exact h.init_error hinit
      | ok _ => exact h.init_ok hpos hinit
  | create capacity memory =>
    unfold step Host.perform
    dsimp only
    cases hcreate : crew.host.store.create (crew.worker me).id capacity memory with
    | mk result next =>
      cases result with
      | error fault => exact h.create_error hcreate
      | ok id => exact h.create_ok hcreate
  | cleanup =>
    rw [store_step]
    exact h.cleanup _
  | delete id =>
    rw [store_step]
    exact h.delete _ id
  | register renderer =>
    rw [store_step]
    exact ⟨h.config_eq, h.table, h.of_down⟩
  | log target event now =>
    rw [store_step]
    exact h.log _ target event now
  | _ => exact h.of_quiet (quiet_step hsound me rfl)

/-- No ring is created under the id of another. -/
theorem requests_step_of_present (h : crew.host.store.Allocated config crew.requests) {id : Nat}
    {ring : Ring} (hget : crew.host.store.table.get? id = some ring) (turn : ThreadId × Action) :
    (crew.step turn).requests id = crew.requests id := by
  obtain ⟨me, action⟩ := turn
  cases action with
  | init capacity memory =>
    unfold step Host.perform
    dsimp only
    cases hinit : crew.host.store.init capacity memory with
    | mk result next =>
      cases result with
      | error fault => rfl
      | ok _ =>
        rcases Store.init_cases crew.host.store capacity memory with ⟨_, herror⟩ | ⟨hdown, -⟩
        · cases herror.symm.trans hinit
        · rw [h.of_down hdown id] at hget
          cases hget
  | create capacity memory =>
    unfold step Host.perform
    dsimp only
    cases hcreate : crew.host.store.create (crew.worker me).id capacity memory with
    | mk result next =>
      cases result with
      | error fault => rfl
      | ok other =>
        obtain ⟨-, hfree, -⟩ := Store.lowestFree_of_create hcreate
        have hne : id ≠ other := by
          rintro rfl
          rw [hfree] at hget
          cases hget
        exact Function.update_of_ne hne _ _
  | _ => rfl

end

section
variable {host : Host} {worker : ThreadId → Worker} {requests : Requests}

/-- Whatever any threads do, the default is there exactly when there is a ring, and is one of them.
Ids stay below the limit of the store and capacities are those that were asked for. A new ring gets
the lowest free id, and a default that is deleted gives way to the lowest ring that is left. -/
theorem table_follows_requests {config : Config} {start : Store}
    {turns : List (ThreadId × Action)} (hnew : Store.new? config = .ok start)
    (hrun : run { host := { store := start } } turns = { host, worker, requests }) :
    (host.store.table.default = none ↔ ∀ id, host.store.table.get? id = none) ∧
    (∀ id, host.store.table.default = some id → (host.store.table.get? id).isSome = true) ∧
    (host.store.isInitialized = false →
      host.store.table.default = none ∧ ∀ id, host.store.table.get? id = none) ∧
    (∀ id ring, host.store.table.get? id = some ring →
      id < config.maxBuffers ∧ 1 ≤ ring.capacity ∧ ring.capacity ≤ config.maxEvents ∧
      ring.capacity = config.clamp (requests id) ∧
      ∀ turn changed,
        (step { host, worker, requests } turn).host.store.table.get? id = some changed →
        changed.capacity = ring.capacity) ∧
    (∀ me capacity memory id next, host.store.create me capacity memory = (.ok id, next) →
      host.store.table.LowestFree id) ∧
    (host.store.isInitialized = true → (∀ other, (worker other).guard = none) → ∀ me,
      (∀ capacity memory,
        ((host.store.create me capacity memory).1 =
            .error (.error (.noFreeBuffer config.maxBuffers)) ↔
          ∀ id < config.maxBuffers, (host.store.table.get? id).isSome = true) ∧
        ((∃ id, (host.store.create me capacity memory).1 = .ok id) ↔
          memory (config.clamp capacity) = true ∧
            ∃ id < config.maxBuffers, host.store.table.get? id = none)) ∧
      ∀ id, (host.store.table.get? id).isSome = true → (host.store.delete me id).1 = .ok ()) ∧
    (∀ me id next, host.store.delete me id = (.ok (), next) →
      (∀ other, (next.table.get? other).isSome = true ↔
        other ≠ id ∧ (host.store.table.get? other).isSome = true) ∧
      (host.store.table.default = some id →
        ∀ first, next.table.default = some first ↔ next.table.Lowest first)) ∧
    (∀ id, host.store.table.default = some id → ∀ me,
      (∀ capacity memory, (host.store.create me capacity memory).2.table.default = some id) ∧
      ∀ other, (other ≠ id ∨ (host.store.delete me other).1 ≠ .ok ()) →
        (host.store.delete me other).2.table.default = some id) ∧
    (∀ id ring, host.store.table.get? id = some ring →
      ∀ capacity memory, (host.store.init capacity memory).2.table.get? id = some ring) ∧
    ∀ context event now id,
      (host.store.log context .default event now).1 ≠ .error (.invalidBufferId id) := by
  obtain ⟨hvalid, rfl⟩ := Store.eq_ofConfig_of_new? hnew
  obtain ⟨hpos, hevents⟩ := Config.pos_of_validate hvalid
  obtain ⟨hsound, h⟩ := run_induction
    (P := fun crew => crew.host.store.Allocated config crew.requests)
    (fun crew turn hsound h => allocated_step hpos hsound h turn) (sound_start hnew)
    (.ofConfig config fun _ => 0) turns
  rw [hrun] at hsound h
  refine ⟨h.table.default_eq_none_iff, h.table.default_isSome, ?_, ?_, ?_, ?_, ?_, ?_,
    fun _ _ hget => h.get?_init hget, h.log_default_ne_invalidBufferId⟩
  · intro hdown
    exact ⟨h.table.default_eq_none_iff.mpr (h.of_down hdown), h.of_down hdown⟩
  · intro id ring hget
    have hcapacity := h.table.capacity_eq id ring hget
    refine ⟨h.table.lt_maxBuffers hget, ?_, ?_, hcapacity, ?_⟩
    · rw [hcapacity]
      exact Config.clamp_pos hevents _
    · rw [hcapacity]
      exact config.clamp_le _
    · intro turn changed hchanged
      have hafter := allocated_step hpos hsound h turn
      rw [hafter.table.capacity_eq id changed hchanged, requests_step_of_present h hget turn,
        hcapacity]
  · intro me capacity memory id next hcreate
    exact Store.lowestFree_of_create hcreate
  · intro hup hfree me
    have hphase := hsound.phase_of_free hfree me
    obtain ⟨_, _, hsimple⟩ := hphase.lockGlobal_of_up hup false
    obtain ⟨_, _, hfull⟩ := hphase.lockGlobal_of_up hup true
    refine ⟨fun capacity memory => ⟨h.create_eq_noFreeBuffer_iff hsimple capacity memory, ?_⟩,
      fun _ => Store.delete_eq_ok hfull⟩
    exact h.create_eq_ok_iff hsimple (Config.clamp_pos hevents capacity)
  · intro me id next hdelete
    obtain ⟨hleft, htakesOver, -⟩ := Store.delete_ok hdelete
    exact ⟨hleft, htakesOver⟩
  · intro id hdefault me
    refine ⟨Store.default_create hdefault me, ?_⟩
    intro other hother
    cases hdelete : host.store.delete me other with
    | mk result next =>
      cases result with
      | error fault => exact (Store.default_delete_error hdelete).trans hdefault
      | ok _ =>
        have hne : other ≠ id := hother.resolve_right (by simp [hdelete])
        have hnot : host.store.table.default ≠ some other := by
          rw [hdefault]
          simpa using hne.symm
        exact ((Store.delete_ok hdelete).2.2 hnot).trans hdefault

/-- Two threads create buffers, the second one larger than allowed, and the default is deleted. -/
def defaultDeleted : List (ThreadId × Action) :=
  [(0, .init 2), (0, .create 3), (1, .create 200), (1, .delete 0)]

theorem table_follows_requests_defaultDeleted :
    ∃ start crew, Store.new? {} = .ok start ∧
      run { host := { store := start } } defaultDeleted = crew ∧
      crew.host.store.table.default = some 1 ∧ crew.requests 2 = 200 ∧
      (∃ ring, crew.host.store.table.get? 2 = some ring ∧ ring.capacity = 128) ∧
      (∃ id, (crew.host.store.create 0 7 .ample).1 = .ok id) ∧
      (crew.host.store.delete 1 1).1 = .ok () := by
  have hnew : Store.new? {} = .ok (Store.ofConfig {}) := rfl
  obtain ⟨-, -, -, hcapacity, -, hroom, -⟩ := table_follows_requests hnew
    (rfl : run { host := { store := Store.ofConfig {} } } defaultDeleted = _)
  have hfree (other : ThreadId) :
      ((run { host := { store := Store.ofConfig {} } } defaultDeleted).worker other).guard =
        none := by
    by_cases hturn : other = 0 ∨ other = 1
    · rcases hturn with rfl | rfl
      · rfl
      · rfl
    · rw [worker_run_of_absent]
      intro turn hmem
      have hthread : ∀ turn ∈ defaultDeleted, turn.1 = 0 ∨ turn.1 = 1 := by decide
      rintro rfl
      exact hturn (hthread turn hmem)
  refine ⟨_, _, hnew, rfl, rfl, rfl, ⟨_, rfl, (hcapacity 2 _ rfl).2.2.2.1⟩, ?_, ?_⟩
  · exact ((hroom rfl hfree 0).1 7 .ample).2.mpr ⟨rfl, 0, by decide, rfl⟩
  · exact (hroom rfl hfree 1).2 1 rfl

end
end Crew
end EventLog
