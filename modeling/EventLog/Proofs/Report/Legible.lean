import EventLog.Proofs.Report.Orderly
import EventLog.Proofs.Store.Clearing
import EventLog.Proofs.Store.Payload
import EventLog.Proofs.Store.Progress

/-! Stores that can be shown to the end. Where every time in the rings has a text and no renderer of
their payloads fails, the reports do not break off, and emptying rings leaves it so. -/
namespace EventLog

/-- A renderer that never fails by itself. -/
def Renderer.Sure : Renderer → Prop
  | function _ draw => ∀ data, (draw data).halt = none
  | shared _ _ draw => ∀ n data, (draw n data).halt = none
  | _ => True

/-- An event that can be shown to the end. -/
structure Record.Legible (record : Record) : Prop where
  time : record.time.Supported
  renderer : ∀ payload renderer, record.payload = some payload →
    payload.renderer = some renderer → renderer.Sure

/-- A store all of whose events can be shown to the end. -/
def Store.Legible (store : Store) : Prop :=
  ∀ id ring, store.table.get? id = some ring →
    ∀ record ∈ ring.snapshotHeld.records, record.Legible

/-- Where rings are emptied, what is left can still be shown. -/
theorem Store.Legible.cleared {store : Store} (h : store.Legible) (clearing : Clearing) :
    (store.cleared clearing).Legible := by
  have hempty (ring : Ring) : ∀ record ∈ ring.resetHeld.snapshotHeld.records, record.Legible := by
    intro record hrecord
    obtain ⟨slot, hslot, hused, -⟩ := Ring.exists_used_of_mem_records hrecord
    rw [List.eq_of_mem_replicate hslot] at hused
    cases hused
  intro id ring hget
  cases clearing with
  | ring cleared =>
    unfold Store.cleared at hget
    dsimp only at hget
    split at hget
    · rcases Table.eq_of_get?_put hget with ⟨-, rfl⟩ | ⟨-, hold⟩
      · exact hempty _
      · exact h id ring hold
    · exact h id ring hget
  | all =>
    obtain ⟨old, -, rfl⟩ := Option.map_eq_some_iff.mp
      ((Table.get?_mapRings Ring.resetHeld store.table id).symm.trans hget)
    exact hempty old

theorem Emit.Finishes.halt_transcript {writer : Emit Unit} (h : writer.Finishes) (uses : Uses) :
    (writer.transcript none uses).1.halt = none := by
  obtain ⟨a, after, hrun, -⟩ := h { uses } rfl
  unfold Emit.transcript
  rw [hrun]

theorem Drawing.finishes_play {drawing : Drawing} (h : drawing.halt = none) :
    drawing.play.Finishes := by
  unfold play
  rw [h]
  exact .bind (Emit.Finishes.compositional.forM fun _ _ => .put _) fun _ => .pure _

theorem Renderer.Sure.finishes_render {renderer : Renderer} (h : renderer.Sure) (data : Bytes) :
    (renderer.render data).Finishes := by
  cases renderer with
  | hexDump => exact Drawing.finishes_play rfl
  | backtrace => exact Drawing.finishes_play rfl
  | function name draw => exact Drawing.finishes_play (h data)
  | shared key name draw =>
    exact .bind (.countUse key) fun n => Drawing.finishes_play (h n data)

namespace Report

section
variable {store : Store} {me : ThreadId} {guard : Option Guard}

theorem finishes_event {record : Record} (h : record.Legible) : (event record).Finishes := by
  refine Emit.Finishes.compositional.event ?_ ?_
  · intro hnone
    unfold eventLine? Instant.text? at hnone
    rw [if_pos h.time] at hnone
    cases hnone
  · intro payload hpayload hsome
    obtain ⟨renderer, hrenderer⟩ := Option.isSome_iff_exists.mp hsome
    unfold StoredPayload.render
    rw [hrenderer]
    exact .bind ((h.renderer payload renderer hpayload hrenderer).finishes_render _) fun _ => .pure _

theorem finishes_list (store : Store) : (list store).Finishes :=
  Emit.Finishes.compositional.list store

/-- What is in a copy can be shown. -/
theorem finishes_of_snapshot (hlegible : store.Legible) (id : Nat) (snapshot : Snapshot)
    (hsnapshot : store.snapshot me id = .ok snapshot) (record : Record)
    (hrecord : record ∈ snapshot.records) : (event record).Finishes := by
  obtain ⟨ring, hget, rfl⟩ := Store.exists_ring_of_snapshot hsnapshot
  exact finishes_event (hlegible id ring hget record hrecord)

theorem finishes_buffer (h : store.Phase me guard) (hlegible : store.Legible) (id : Nat) :
    (buffer store me id).Finishes :=
  Emit.Finishes.compositional.buffer (finishes_of_snapshot hlegible)
    (fun other hwaits => absurd hwaits (h.snapshot_ne_waits other)) id

theorem finishes_all (h : store.Phase me guard) (hlegible : store.Legible)
    (withStatus withEvents : Bool) : (all store me withStatus withEvents).Finishes :=
  Emit.Finishes.compositional.all (finishes_of_snapshot hlegible)
    (fun other hwaits => absurd hwaits (h.snapshot_ne_waits other)) withStatus withEvents

end
end Report
end EventLog
