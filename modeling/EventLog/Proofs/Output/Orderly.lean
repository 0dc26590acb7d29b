import EventLog.Output
import Mathlib.Data.List.Basic

/-! What writers leave in a sink. A writer that never looks into the sink and ends at the first refusal
acts on every sink as if it put all that it has to say at once. -/
namespace EventLog

theorem run_bind {σ α β : Type} (first : ExceptT Halt (StateM σ) α)
    (next : α → ExceptT Halt (StateM σ) β) (state : σ) :
    (first >>= next).run state =
      match first.run state with
      | (.ok a, after) => (next a).run after
      | (.error halt, after) => (.error halt, after) := by
  show ExceptT.bindCont next (first.run state).1 (first.run state).2 = _
  cases first.run state with
  | mk result after => cases result <;> rfl

theorem run_bind_of_ok {σ α β : Type} {first : ExceptT Halt (StateM σ) α} {a : α} {state after : σ}
    (h : first.run state = (.ok a, after)) (next : α → ExceptT Halt (StateM σ) β) :
    (first >>= next).run state = (next a).run after := by
  rw [run_bind, h]

/-- What comes to its end has come through both of its parts. -/
theorem exists_of_run_bind {σ α β : Type} {first : ExceptT Halt (StateM σ) α}
    {next : α → ExceptT Halt (StateM σ) β} {b : β} {state after : σ}
    (h : (first >>= next).run state = (.ok b, after)) :
    ∃ a middle, first.run state = (.ok a, middle) ∧ (next a).run middle = (.ok b, after) := by
  rw [run_bind] at h
  split at h
  · next a middle hfirst => exact ⟨a, middle, hfirst, h⟩
  · cases h

namespace Sink

theorem taken_append (taken : Array UInt8) (first second : Bytes) :
    taken ++ (first ++ second) = taken ++ first ++ second := by
  rw [← Array.toList_inj]
  simp

theorem put_nil (sink : Sink) : sink.put [] = (true, sink) := by
  obtain ⟨room, taken⟩ := sink
  cases room with
  | none => simp [put]
  | some room => simp [put]

theorem put_of_endless {sink : Sink} (h : sink.room = none) (bytes : Bytes) :
    sink.put bytes = (true, { sink with taken := sink.taken ++ bytes }) := by
  unfold put
  rw [h]

/-- Two parts in turn are taken as if they came at once. -/
theorem put_append (sink : Sink) (first second : Bytes) :
    sink.put (first ++ second) =
      match sink.put first with
      | (true, after) => after.put second
      | (false, after) => (false, after) := by
  obtain ⟨room, taken⟩ := sink
  cases room with
  | none => simp [put, taken_append]
  | some room =>
    unfold put
    dsimp only
    rw [List.length_append]
    by_cases hfirst : first.length ≤ room
    · rw [if_pos hfirst]
      dsimp only
      by_cases hsecond : second.length ≤ room - first.length
      · rw [if_pos (by omega), if_pos hsecond, taken_append, Nat.sub_sub]
      · rw [if_neg (by omega), if_neg hsecond, List.take_append, taken_append,
          List.take_of_length_le hfirst]
    · rw [if_neg (by omega), if_neg hfirst, List.take_append_of_le_length (by omega)]

end Sink

namespace Emit

section
variable {α β : Type} {writer first : Emit α} {next : α → Emit β} {sink : Sink} {uses : Uses}

theorem run_put (bytes : Bytes) (channel : Channel) :
    (put bytes).run channel =
      (if (channel.sink.put bytes).1 then .ok () else .error Sink.full,
        { channel with sink := (channel.sink.put bytes).2 }) := by
  show (match channel.sink.put bytes with
    | (true, sink) => (Except.ok (), { channel with sink })
    | (false, sink) => (.error Sink.full, { channel with sink })) = _
  cases channel.sink.put bytes with
  | mk taken sink => cases taken <;> rfl

/-- All that a writer has to say. -/
def text (writer : Emit α) (uses : Uses) : Bytes := (writer.run { uses }).2.sink.bytes

theorem text_put (bytes : Bytes) (uses : Uses) : (put bytes).text uses = bytes := by
  rw [text, run_put, Sink.put_of_endless rfl]
  simp [Sink.bytes]

/-- A property of writers that every line has, and that a whole has if its parts have it. -/
structure Compositional (P : {α : Type} → Emit α → Prop) : Prop where
  pure : ∀ {α : Type} (a : α), P (Pure.pure a : Emit α)
  line : ∀ text : String, P (Emit.line text)
  bind : ∀ {α β : Type} {first : Emit α} {next : α → Emit β},
    P first → (∀ a, P (next a)) → P (first >>= next)

theorem Compositional.forM {P : {α : Type} → Emit α → Prop} (hP : Compositional P) {l : List β}
    {writer : β → Emit PUnit} (h : ∀ b ∈ l, P (writer b)) : P (l.forM writer) := by
  induction l with
  | nil => exact hP.pure _
  | cons b l ih =>
    exact hP.bind (h b List.mem_cons_self) fun _ =>
      ih fun other hother => h other (List.mem_cons_of_mem _ hother)

/-- A writer that acts on every sink as if it put all at once. -/
structure Orderly (writer : Emit α) : Prop where
  fits : ∀ {sink after : Sink} {uses : Uses}, sink.put (writer.text uses) = (true, after) →
    writer.run { sink, uses } =
      ((writer.run { uses }).1, { sink := after, uses := (writer.run { uses }).2.uses })
  cut : ∀ {sink after : Sink} {uses : Uses}, sink.put (writer.text uses) = (false, after) →
    ∃ left, writer.run { sink, uses } = (.error Sink.full, { sink := after, uses := left })

namespace Orderly

theorem run_of_endless (h : writer.Orderly) (hsink : sink.room = none) (uses : Uses) :
    writer.run { sink, uses } =
      ((writer.run { uses }).1,
        { sink := { sink with taken := sink.taken ++ writer.text uses }
          uses := (writer.run { uses }).2.uses }) :=
  h.fits (Sink.put_of_endless hsink _)

theorem run_fresh (h : writer.Orderly) (uses : Uses) :
    writer.run { uses } =
      ((writer.run { uses }).1,
        { sink := { taken := (writer.text uses).toArray }
          uses := (writer.run { uses }).2.uses }) := by
  have hrun : writer.run { sink := {}, uses } = _ := h.run_of_endless rfl uses
  rw [hrun]
  simp

/-- A writer that says nothing and leaves the sink alone. -/
theorem of_silent (h : ∀ sink uses, writer.run { sink, uses } =
    ((writer.run { uses }).1, { sink, uses := (writer.run { uses }).2.uses })) :
    writer.Orderly := by
  have htext (uses : Uses) : writer.text uses = [] := by
    rw [text, h {} uses]
    rfl
  constructor
  · intro sink after uses hput
    rw [htext, Sink.put_nil] at hput
    rw [h sink uses, (Prod.mk.inj hput).2]
  · intro sink after uses hput
    rw [htext, Sink.put_nil] at hput
    cases hput

theorem pure (a : α) : (Pure.pure a : Emit α).Orderly := of_silent fun _ _ => rfl

theorem throw (halt : Halt) : (MonadExcept.throw halt : Emit α).Orderly := of_silent fun _ _ => rfl

theorem countUse (key : Nat) : (Emit.countUse key).Orderly := of_silent fun _ _ => rfl

theorem put (bytes : Bytes) : (Emit.put bytes).Orderly := by
  constructor
  · intro sink after uses hput
    rw [text_put] at hput
    rw [run_put, run_put, hput, Sink.put_of_endless rfl]
  · intro sink after uses hput
    rw [text_put] at hput
    refine ⟨uses, ?_⟩
    rw [run_put, hput]
    rfl

theorem line (text : String) : (Emit.line text).Orderly := put _

theorem run_bind_error {halt : Halt} (h : (first.run { uses }).1 = .error halt) :
    (first >>= next).run { uses } = (.error halt, (first.run { uses }).2) := by
  rw [run_bind]
  cases hrun : first.run { uses } with
  | mk result after =>
    rw [hrun] at h
    cases h
    rfl

theorem text_bind_error {halt : Halt} (h : (first.run { uses }).1 = .error halt) :
    (first >>= next).text uses = first.text uses := by
  rw [text, run_bind_error h]
  rfl

/-- Two writers in turn, where the first comes to its end. -/
theorem run_bind_ok (hfirst : first.Orderly) (hnext : ∀ a, (next a).Orderly) {a : α}
    (h : (first.run { uses }).1 = .ok a) :
    (first >>= next).run { uses } =
      (((next a).run { uses := (first.run { uses }).2.uses }).1,
        { sink := { taken := (first.text uses).toArray ++
            (next a).text (first.run { uses }).2.uses }
          uses := ((next a).run { uses := (first.run { uses }).2.uses }).2.uses }) := by
  rw [run_bind, hfirst.run_fresh uses, h]
  exact (hnext a).run_of_endless rfl _

theorem text_bind_ok (hfirst : first.Orderly) (hnext : ∀ a, (next a).Orderly) {a : α}
    (h : (first.run { uses }).1 = .ok a) :
    (first >>= next).text uses =
      first.text uses ++ (next a).text (first.run { uses }).2.uses := by
  rw [text, run_bind_ok hfirst hnext h]
  simp [Sink.bytes]

theorem bind (hfirst : first.Orderly) (hnext : ∀ a, (next a).Orderly) :
    (first >>= next).Orderly := by
  -- A first writer that breaks off decides alone; otherwise the bytes are taken in two parts.
  constructor
  · intro sink after uses hput
    cases hresult : (first.run { uses }).1 with
    | error halt =>
      rw [text_bind_error hresult] at hput
      rw [run_bind_error hresult, run_bind, hfirst.fits hput, hresult]
    | ok a =>
      rw [text_bind_ok hfirst hnext hresult, Sink.put_append] at hput
      cases hmiddle : sink.put (first.text uses) with
      | mk taken middle =>
        rw [hmiddle] at hput
        cases taken with
        | false => cases hput
        | true =>
          rw [run_bind_ok hfirst hnext hresult, run_bind, hfirst.fits hmiddle, hresult]
          exact (hnext a).fits hput
  · intro sink after uses hput
    cases hresult : (first.run { uses }).1 with
    | error halt =>
      rw [text_bind_error hresult] at hput
      obtain ⟨left, hcut⟩ := hfirst.cut hput
      refine ⟨left, ?_⟩
      rw [run_bind, hcut]
    | ok a =>
      rw [text_bind_ok hfirst hnext hresult, Sink.put_append] at hput
      cases hmiddle : sink.put (first.text uses) with
      | mk taken middle =>
        rw [hmiddle] at hput
        cases taken with
        | false =>
          cases hput
          obtain ⟨left, hcut⟩ := hfirst.cut hmiddle
          refine ⟨left, ?_⟩
          rw [run_bind, hcut]
        | true =>
          obtain ⟨left, hcut⟩ := (hnext a).cut hput
          refine ⟨left, ?_⟩
          rw [run_bind, hfirst.fits hmiddle, hresult]
          exact hcut

theorem compositional : Compositional fun writer => writer.Orderly where
  pure := pure
  line := line
  bind := bind

end Orderly

/-- A writer that comes to its end on every endless sink. -/
def Finishes (writer : Emit α) : Prop :=
  ∀ channel : Channel, channel.sink.room = none →
    ∃ a after, writer.run channel = (.ok a, after) ∧ after.sink.room = none

namespace Finishes

theorem pure (a : α) : (Pure.pure a : Emit α).Finishes := fun channel h => ⟨a, channel, rfl, h⟩

theorem countUse (key : Nat) : (Emit.countUse key).Finishes := fun _ h => ⟨_, _, rfl, h⟩

theorem put (bytes : Bytes) : (Emit.put bytes).Finishes := by
  intro channel h
  rw [run_put, Sink.put_of_endless h]
  exact ⟨_, _, rfl, h⟩

theorem line (text : String) : (Emit.line text).Finishes := put _

theorem bind (hfirst : first.Finishes) (hnext : ∀ a, (next a).Finishes) :
    (first >>= next).Finishes := by
  intro channel h
  obtain ⟨a, middle, hrun, hmiddle⟩ := hfirst channel h
  rw [run_bind, hrun]
  exact hnext a middle hmiddle

theorem compositional : Compositional fun writer => writer.Finishes where
  pure := pure
  line := line
  bind := bind

end Finishes
end
end Emit
end EventLog
