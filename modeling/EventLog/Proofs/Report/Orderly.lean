import EventLog.Proofs.Output.Orderly
import EventLog.Report.Store

/-! Reports as wholes of lines and payloads. Every report writes in order: whatever sink it gets, it puts
its bytes one after the other, and stops where the sink refuses. -/
namespace EventLog

/-- An event is its line and then what its payload adds. -/
theorem Report.event_eq (record : Record) :
    event record =
      (match eventLine? record with
      | none => throw .panic
      | some line => Emit.line line) >>= fun _ =>
        match record.payload.filter fun payload => payload.renderer.isSome with
        | none => pure ()
        | some payload =>
          Emit.line "" >>= fun _ => payload.render >>= fun _ => Emit.line "" := by
  unfold event
  cases eventLine? record <;> rfl

namespace Emit.Compositional

section
variable {P : {α : Type} → Emit α → Prop} (hP : Compositional P)
include hP

theorem event {record : Record}
    (hline : Report.eventLine? record = none → P (MonadExcept.throw Halt.panic : Emit PUnit))
    (hrender : ∀ payload, record.payload = some payload → payload.renderer.isSome = true →
      P payload.render) : P (Report.event record) := by
  rw [Report.event_eq]
  refine hP.bind ?_ fun _ => ?_
  · cases heq : Report.eventLine? record with
    | none => exact hline heq
    | some line => exact hP.line _
  · cases hpayload : record.payload.filter fun payload => payload.renderer.isSome with
    | none => exact hP.pure _
    | some payload =>
      obtain ⟨hrecord, hsome⟩ := Option.filter_eq_some_iff.mp hpayload
      exact hP.bind (hP.line _) fun _ =>
        hP.bind (hrender payload hrecord hsome) fun _ => hP.line _

theorem events {records : List Record} (h : ∀ record ∈ records, P (Report.event record)) :
    P (Report.events records) :=
  hP.forM h

section
variable (hput : ∀ bytes, P (Emit.put bytes)) (hcount : ∀ key, P (Emit.countUse key))
  (hfail : ∀ failure : Drawing.Failure, P (MonadExcept.throw failure.halt : Emit PUnit))
include hput hcount hfail

omit hcount in
theorem play (drawing : Drawing) : P drawing.play := by
  refine hP.bind (hP.forM fun _ _ => hput _) fun _ => ?_
  cases drawing.halt with
  | none => exact hP.pure _
  | some failure => exact hfail failure

theorem render (renderer : Renderer) (data : Bytes) : P (renderer.render data) := by
  cases renderer with
  | hexDump => exact hP.play hput hfail (Drawing.ofLines _)
  | backtrace => exact hP.play hput hfail (Drawing.ofLines _)
  | function name draw => exact hP.play hput hfail (draw data)
  | shared key name draw =>
    exact hP.bind (hcount key) fun n => hP.play hput hfail (draw n data)

theorem payload (payload : StoredPayload) : P payload.render := by
  unfold StoredPayload.render
  cases payload.renderer with
  | none => exact hP.pure _
  | some renderer => exact hP.bind (hP.render hput hcount hfail renderer _) fun _ => hP.pure _

end

theorem status (status : Status) : P (Report.status status) :=
  hP.bind (hP.line _) fun _ => hP.bind (hP.line _) fun _ => hP.bind (hP.line _) fun _ =>
    hP.bind (hP.line _) fun _ => hP.bind (hP.line _) fun _ => hP.bind (hP.line _) fun _ => hP.line _

theorem list (store : Store) : P (Report.list store) := by
  unfold Report.list
  split
  · exact hP.line _
  · exact hP.forM fun _ _ => hP.line _

section
variable {store : Store} {me : ThreadId}
  (hevent : ∀ id snapshot, store.snapshot me id = .ok snapshot →
    ∀ record ∈ snapshot.records, P (Report.event record))
  (hwaits : ∀ id, store.snapshot me id = .error .waits →
    P (MonadExcept.throw Halt.waits : Emit Unit))
include hevent hwaits

omit hP in
theorem withSnapshot (id : Nat) {present : Snapshot → Emit Unit} {absent : Emit Unit}
    (hpresent : ∀ snapshot : Snapshot, (∀ record ∈ snapshot.records, P (Report.event record)) →
      P (present snapshot)) (habsent : P absent) :
    P (Report.withSnapshot store me id present absent) := by
  unfold Report.withSnapshot
  split
  · next snapshot hsnapshot => exact hpresent snapshot (hevent id snapshot hsnapshot)
  · exact habsent
  · next heq => exact hwaits id heq

theorem buffer (id : Nat) : P (Report.buffer store me id) :=
  withSnapshot hevent hwaits id (fun _ => hP.events) (hP.line _)

theorem all (withStatus withEvents : Bool) : P (Report.all store me withStatus withEvents) := by
  unfold Report.all
  split
  · exact hP.line _
  · refine hP.forM fun id _ => hP.bind (hP.line _) fun _ =>
      withSnapshot hevent hwaits id (fun snapshot hsnapshot => ?_) (hP.line _)
    have hevents : P (if withEvents = true then Emit.line "Log messages:" >>= fun _ =>
        Report.events snapshot.records else Pure.pure () : Emit Unit) := by
      split
      · exact hP.bind (hP.line _) fun _ => hP.events hsnapshot
      · exact hP.pure _
    cases withStatus with
    | true => exact hP.bind (hP.status _) fun _ => hevents
    | false => exact hevents

end
end
end Emit.Compositional

open Emit

theorem Renderer.orderly_render (renderer : Renderer) (data : Bytes) :
    (renderer.render data).Orderly :=
  Orderly.compositional.render .put .countUse (fun failure => .throw failure.halt) renderer data

theorem StoredPayload.orderly_render (payload : StoredPayload) : payload.render.Orderly :=
  Orderly.compositional.payload .put .countUse (fun failure => .throw failure.halt) payload

namespace Report

theorem orderly_event (record : Record) : (event record).Orderly :=
  Orderly.compositional.event (fun _ => .throw _) fun payload _ _ => payload.orderly_render

theorem orderly_list (store : Store) : (list store).Orderly := Orderly.compositional.list store

theorem orderly_buffer (store : Store) (me : ThreadId) (id : Nat) :
    (buffer store me id).Orderly :=
  Orderly.compositional.buffer (fun _ _ _ record _ => orderly_event record) (fun _ _ => .throw _) id

theorem orderly_all (store : Store) (me : ThreadId) (withStatus withEvents : Bool) :
    (all store me withStatus withEvents).Orderly :=
  Orderly.compositional.all (fun _ _ _ record _ => orderly_event record) (fun _ _ => .throw _)
    withStatus withEvents

end Report
end EventLog
