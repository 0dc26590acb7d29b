import EventLog.Proofs.Host.Crew
import EventLog.Proofs.Store.Payload

/-! Payloads along every run of any number of threads, with registrations, overwritten slots and
stores that come up and go down in between. A payload in a ring is shown by the renderer that its type
stands for. -/
namespace EventLog

namespace Crew

section
variable {crew : Crew} {host : Host} {worker : ThreadId → Worker} {requests : Requests}

/-- A thread is answered at once unless another has a guard. -/
theorem Sound.phase_of_alone (h : crew.Sound) {me : ThreadId}
    (hothers : ∀ other, other ≠ me → (crew.worker other).guard = none) :
    crew.host.store.Phase me (crew.worker me).guard := by
  cases hguard : (crew.worker me).guard with
  | some taken => exact h.phase_of_guard hguard
  | none =>
    refine h.phase_of_free ?_ me
    intro other
    by_cases heq : other = me
    · rw [heq, hguard]
    · exact hothers other heq

theorem backed_step (hsound : crew.Sound) (h : crew.host.store.Backed)
    (turn : ThreadId × Action) : (crew.step turn).host.store.Backed := by
  obtain ⟨me, action⟩ := turn
  cases action with
  | init capacity memory =>
    rw [store_step]
    exact h.init capacity memory
  | cleanup =>
    rw [store_step]
    exact h.cleanup _
  | create capacity memory =>
    rw [store_step]
    exact h.create _ capacity memory
  | delete id =>
    rw [store_step]
    exact h.delete _ id
  | register renderer =>
    rw [store_step]
    exact h.register renderer
  | log target event now =>
    rw [store_step]
    exact h.log _ target event now
  | _ => exact h.of_quiet (quiet_step hsound me rfl)

/-- Whatever any threads do, a payload in a copy of a ring has a kind and bytes, and the renderer that
it was kept with is the one that the registry finds under its type at this moment, which then draws it.
An event that is let in with a payload is in the copy with it. -/
theorem payloads_keep_renderer {config : Config} {start : Store}
    {turns : List (ThreadId × Action)} (hnew : Store.new? config = .ok start)
    (hrun : run { host := { store := start } } turns = { host, worker, requests }) :
    (∀ id ring, host.store.table.get? id = some ring →
      (∀ me, (∀ other, other ≠ me → (worker other).guard = none) →
        host.store.snapshot me id = .ok ring.snapshotHeld) ∧
      (∀ me snapshot, host.store.snapshot me id = .ok snapshot → snapshot = ring.snapshotHeld) ∧
      ∀ record ∈ ring.snapshotHeld.records, ∀ payload, record.payload = some payload →
        payload.type ≠ .none ∧ payload.data ≠ [] ∧
        ∃ renderer, payload.renderer = some renderer ∧
          host.store.registry.resolve? payload.type = some renderer ∧
          payload.render = do
            renderer.render payload.data
            return true) ∧
    ∀ context target event now payload next,
      host.store.log context target event now = (.ok (), next) →
      event.payload = some payload → payload.isStorable = true →
      ∃ renderer id ring, host.store.registry.resolve? payload.type = some renderer ∧
        host.store.table.named? target = some id ∧ next.table.get? id = some ring ∧
        ∃ record ∈ ring.snapshotHeld.records, record.payload =
          some { type := payload.type, data := payload.data, renderer := some renderer } := by
  obtain ⟨-, rfl⟩ := Store.eq_ofConfig_of_new? hnew
  obtain ⟨hsound, h⟩ := run_induction (P := fun crew => crew.host.store.Backed)
    (fun _ turn hsound h => backed_step hsound h turn) (sound_start hnew) (.ofConfig config) turns
  rw [hrun] at hsound h
  refine ⟨?_, fun _ _ _ _ _ _ hlog => h.shown_of_log hlog⟩
  intro id ring hget
  refine ⟨fun me hothers => (hsound.phase_of_alone hothers).snapshot hget, ?_, ?_⟩
  · intro me snapshot hsnapshot
    obtain ⟨found, hfound, rfl⟩ := Store.exists_ring_of_snapshot hsnapshot
    rw [Option.some.inj (hget.symm.trans hfound)]
  · intro record hrecord payload hpayload
    obtain ⟨slot, hslot, heq⟩ := Ring.exists_slot_of_mem_records hrecord
    have hbacked := h.rings id ring hget slot hslot payload (heq.symm.trans hpayload)
    obtain ⟨renderer, hrenderer, hresolve⟩ := hbacked.renderer
    refine ⟨hbacked.type_ne, hbacked.data_ne, renderer, hrenderer, hresolve, ?_⟩
    unfold StoredPayload.render
    rw [hrenderer]

/-- Two renderers, the second registered after a payload of the first was written; a slot is used
again, and the store goes down and comes up. -/
def drawnAfterRestart : List (ThreadId × Action) :=
  [(0, .init 1), (1, .register (.function "first" fun _ => { pieces := [] })),
    (0, .log .default { message := "a", payload := some { type := ⟨16⟩, data := [1] } } {}),
    (0, .cleanup), (1, .init 1),
    (1, .register (.function "second" fun data => { pieces := [data] })),
    (0, .log .default { message := "b", payload := some { type := ⟨16⟩, data := [2] } } {}),
    (0, .log .default { message := "c", payload := some { type := ⟨17⟩, data := [3] } } {})]

theorem payloads_keep_renderer_drawnAfterRestart :
    ∃ start crew ring record payload, Store.new? {} = .ok start ∧
      run { host := { store := start } } drawnAfterRestart = crew ∧
      crew.host.store.table.get? 0 = some ring ∧ ring.snapshotHeld.records = [record] ∧
      record.payload = some payload ∧ payload.type = ⟨17⟩ ∧ payload.data = [3] ∧
      ∃ renderer, payload.renderer = some renderer ∧
        crew.host.store.registry.resolve? ⟨17⟩ = some renderer := by
  have hnew : Store.new? {} = .ok (Store.ofConfig {}) := rfl
  obtain ⟨hrings, -⟩ := payloads_keep_renderer hnew
    (rfl : run { host := { store := Store.ofConfig {} } } drawnAfterRestart = _)
  obtain ⟨-, -, hrecords⟩ := hrings 0 _ rfl
  obtain ⟨-, -, renderer, hrenderer, hresolve, -⟩ := hrecords _ List.mem_cons_self _ rfl
  exact ⟨_, _, _, _, _, hnew, rfl, rfl, rfl, rfl, rfl, rfl, renderer, hrenderer, hresolve⟩

end
end Crew
end EventLog
