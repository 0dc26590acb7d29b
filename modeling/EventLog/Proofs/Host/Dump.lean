import EventLog.Proofs.Host.Effect
import EventLog.Proofs.Output.Limited
import EventLog.Proofs.Report.Orderly

/-! Dumps to a sink that fills up. Whatever is written, the sink has a beginning of what an endless one
would have, the writer is told when that is not all, and the store does not notice. -/
namespace EventLog

open Emit

namespace Report

theorem orderly_events (records : List Record) : (events records).Orderly :=
  Orderly.compositional.events fun record _ => orderly_event record

theorem orderly_status (status : Status) : (Report.status status).Orderly :=
  Orderly.compositional.status status

end Report

/-- What a store can be asked to show. -/
inductive Dump where
  | list
  | buffer (id : Nat)
  | all (withStatus withEvents : Bool)
  deriving DecidableEq, Repr

namespace Dump

def action (dump : Dump) (room : Option Nat) : Action :=
  match dump with
  | list => .list room
  | buffer id => .dump id room
  | all withStatus withEvents => .dumpAll withStatus withEvents room

def writer (dump : Dump) (store : Store) (me : ThreadId) : Emit Unit :=
  match dump with
  | list => Report.list store
  | buffer id => Report.buffer store me id
  | all withStatus withEvents => Report.all store me withStatus withEvents

theorem orderly_writer (dump : Dump) (store : Store) (me : ThreadId) :
    (dump.writer store me).Orderly := by
  cases dump with
  | list => exact Report.orderly_list store
  | buffer id => exact Report.orderly_buffer store me id
  | all withStatus withEvents => exact Report.orderly_all store me withStatus withEvents

theorem answer_perform (dump : Dump) (host : Host) (worker : Worker) (room : Option Nat) :
    (host.perform worker (dump.action room)).answer =
      .transcript ((dump.writer host.store worker.id).transcript room host.uses).1 := by
  cases dump <;> rfl

theorem store_perform (dump : Dump) (host : Host) (worker : Worker) (room : Option Nat) :
    (host.perform worker (dump.action room)).host.store = host.store := by
  cases dump <;> rfl

end Dump

/-- Of events, the bookkeeping of a ring, what a store shows, or a payload that is drawn, a sink that is
full after a number of bytes has the first that many of the bytes that an endless sink has. The writer
ends with the error of the sink if there were more, and as on the endless sink if there were not. How a
text is cut into pieces makes no difference, and a dump leaves the store as it is, also when it breaks
off. -/
theorem limited_sink_cuts_output :
    (∀ (pieces : List Bytes) channel,
      (pieces.forM put).run channel = (put pieces.flatten).run channel) ∧
    (∀ records, (Report.events records).Cut) ∧
    (∀ status, (Report.status status).Cut) ∧
    (∀ (dump : Dump) store me, (dump.writer store me).Cut) ∧
    (∀ (renderer : Renderer) data, (renderer.render data).Cut) ∧
    ∀ (dump : Dump) (host : Host) (worker : Worker) limit, ∃ whole,
      (host.perform worker (dump.action none)).answer = .transcript whole ∧
      (host.perform worker (dump.action (some limit))).answer =
        .transcript (whole.cutAt limit) ∧
      ∀ room, (host.perform worker (dump.action room)).host.store = host.store := by
  refine ⟨run_forM_put, ?_, ?_, ?_, ?_, ?_⟩
  · intro records
    exact (Report.orderly_events records).cut_transcript
  · intro status
    exact (Report.orderly_status status).cut_transcript
  · intro dump store me
    exact (dump.orderly_writer store me).cut_transcript
  · intro renderer data
    exact (renderer.orderly_render data).cut_transcript
  · intro dump host worker limit
    have hcut := (dump.orderly_writer host.store worker.id).cut_transcript limit host.uses
    refine ⟨_, dump.answer_perform host worker none, ?_, dump.store_perform host worker⟩
    rw [dump.answer_perform, hcut]

end EventLog
