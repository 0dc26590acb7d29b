import EventLog.Proofs.Output.Limited

/-! Writers on endless sinks. What a writer yields is known from what its parts yield, in turn up to the
first that breaks off. -/
namespace EventLog.Emit

section
variable {α β : Type} {writer first : Emit α} {next : α → Emit β} {a : α} {halt : Halt}
  {result : Except Halt β} {output more : Bytes}

/-- On every endless sink the writer ends with the result, adds the output and touches nothing else. -/
def Yields (writer : Emit α) (result : Except Halt α) (output : Bytes) : Prop :=
  ∀ channel : Channel, channel.sink.room = none →
    writer.run channel =
      (result, { channel with sink := { channel.sink with taken := channel.sink.taken ++ output } })

namespace Yields

theorem text {result : Except Halt α} (h : writer.Yields result output) (uses : Uses) :
    writer.text uses = output := by
  unfold Emit.text
  rw [h { uses } rfl]
  simp [Sink.bytes]

/-- A writer yields one thing. -/
theorem unique {result other : Except Halt α} (h : writer.Yields result output)
    (hother : writer.Yields other more) : result = other ∧ output = more :=
  ⟨congrArg Prod.fst ((h {} rfl).symm.trans (hother {} rfl)),
    (h.text {}).symm.trans (hother.text {})⟩

theorem of_silent {result : Except Halt α} (h : ∀ channel, writer.run channel = (result, channel)) :
    writer.Yields result [] := by
  intro channel _
  rw [h channel]
  simp

theorem pure (a : α) : (Pure.pure a : Emit α).Yields (.ok a) [] := of_silent fun _ => rfl

theorem throw (halt : Halt) : (MonadExcept.throw halt : Emit α).Yields (.error halt) [] :=
  of_silent fun _ => rfl

theorem put (bytes : Bytes) : (Emit.put bytes).Yields (.ok ()) bytes := by
  intro channel h
  rw [run_put, Sink.put_of_endless h]
  rfl

theorem line (text : String) : (Emit.line text).Yields (.ok ()) (Utf8.encode (text ++ "\n")) :=
  put _

theorem bind (hfirst : first.Yields (.ok a) output) (hnext : (next a).Yields result more) :
    (first >>= next).Yields result (output ++ more) := by
  intro channel h
  rw [run_bind_of_ok (hfirst channel h), Sink.taken_append]
  exact hnext _ h

theorem bind_error (hfirst : first.Yields (.error halt) output) :
    (first >>= next).Yields (.error halt) output := by
  intro channel h
  rw [run_bind, hfirst channel h]

theorem forM_put (pieces : List Bytes) :
    (pieces.forM Emit.put).Yields (.ok ()) pieces.flatten := by
  intro channel h
  rw [run_forM_put]
  exact put _ channel h

end Yields
end
end EventLog.Emit
