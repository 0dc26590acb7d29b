import EventLog.Proofs.Output.Orderly

/-! Writers on a sink of limited room, next to the same writers on an endless one. The limited sink
takes the first bytes of what the endless one takes, however the text is cut into pieces, and the
writer ends as on the endless one unless the room did not suffice. -/
namespace EventLog

/-- What a sink of limited room has of a transcript. -/
def Transcript.cutAt (transcript : Transcript) (limit : Nat) : Transcript where
  bytes := transcript.bytes.take limit
  halt := if transcript.bytes.length ≤ limit then transcript.halt else some Sink.full

theorem Sink.put_of_limit (limit : Nat) (bytes : Bytes) :
    ∃ after : Sink, after.bytes = bytes.take limit ∧
      Sink.put { room := some limit } bytes = (decide (bytes.length ≤ limit), after) := by
  unfold put
  dsimp only
  by_cases hfits : bytes.length ≤ limit
  · refine ⟨_, ?_, by rw [if_pos hfits, decide_eq_true hfits]⟩
    simp [Sink.bytes, List.take_of_length_le hfits]
  · refine ⟨_, ?_, by rw [if_neg hfits, decide_eq_false hfits]⟩
    simp [Sink.bytes]

namespace Emit

/-- Pieces in turn are taken as if they came at once. -/
theorem run_forM_put (pieces : List Bytes) (channel : Channel) :
    (pieces.forM put).run channel = (put pieces.flatten).run channel := by
  induction pieces generalizing channel with
  | nil =>
    rw [List.flatten_nil, run_put, Sink.put_nil]
    rfl
  | cons piece pieces ih =>
    show (put piece >>= fun _ => pieces.forM put).run channel = _
    rw [run_bind, run_put, List.flatten_cons, run_put, Sink.put_append]
    cases hput : channel.sink.put piece with
    | mk taken after =>
      cases taken with
      | false => rfl
      | true => exact (ih _).trans (run_put _ _)

section
variable {α : Type} {writer : Emit α}

/-- A writer whose output a limited sink cuts, and does nothing else to. -/
def Cut (writer : Emit α) : Prop :=
  ∀ limit uses, (writer.transcript (some limit) uses).1 =
    (writer.transcript none uses).1.cutAt limit

theorem transcript_eq (writer : Emit α) (room : Option Nat) (uses : Uses) :
    (writer.transcript room uses).1 =
      { bytes := (writer.run { sink := { room }, uses }).2.sink.bytes
        halt :=
          match (writer.run { sink := { room }, uses }).1 with
          | .ok _ => none
          | .error halt => some halt } := by
  unfold transcript
  cases writer.run { sink := { room }, uses } with
  | mk result after => cases result <;> rfl

theorem Orderly.cut_transcript (h : writer.Orderly) : writer.Cut := by
  intro limit uses
  have htext : (writer.transcript none uses).1.bytes = writer.text uses := by
    rw [transcript_eq]
    rfl
  obtain ⟨after, hbytes, hput⟩ := Sink.put_of_limit limit (writer.text uses)
  unfold Transcript.cutAt
  rw [htext]
  by_cases hfits : (writer.text uses).length ≤ limit
  · rw [decide_eq_true hfits] at hput
    rw [if_pos hfits, transcript_eq, transcript_eq, h.fits hput]
    dsimp only
    rw [hbytes]
  · rw [decide_eq_false hfits] at hput
    obtain ⟨left, hcut⟩ := h.cut hput
    rw [if_neg hfits, transcript_eq, hcut]
    dsimp only
    rw [hbytes]

end
end Emit
end EventLog
