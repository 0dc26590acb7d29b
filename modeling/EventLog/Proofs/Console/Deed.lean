import EventLog.Proofs.Console.Interpreter

/-! What a console does, as a list of deeds: texts are said and rings are emptied, one after the other.
The deeds tell how much has been said when rings are emptied, and so which rings are emptied for a peer
that takes no more than a number of bytes. -/
namespace EventLog

inductive Deed where
  | say (text : Bytes)
  | clear (clearing : Clearing)
  deriving DecidableEq

namespace Deed

/-- All that is said. -/
def text : List Deed → Bytes
  | [] => []
  | say bytes :: deeds => bytes ++ text deeds
  | clear _ :: deeds => text deeds

/-- What is emptied, each time with the number of bytes that are said before it. -/
def clearings : List Deed → List (Nat × Clearing)
  | [] => []
  | say bytes :: deeds => (clearings deeds).map fun done => (bytes.length + done.1, done.2)
  | clear clearing :: deeds => (0, clearing) :: clearings deeds

/-- What is emptied in all. -/
def whole (deeds : List Deed) : List Clearing := (clearings deeds).map Prod.snd

/-- What is emptied while no more than `limit` bytes have been said. -/
def within (limit : Nat) (deeds : List Deed) : List Clearing :=
  ((clearings deeds).filter fun done => done.1 ≤ limit).map Prod.snd

section
variable {deeds first second : List Deed} {limit : Nat}

@[simp] theorem text_append (first second : List Deed) :
    text (first ++ second) = text first ++ text second := by
  induction first with
  | nil => rfl
  | cons deed first ih => cases deed <;> simp [text, ih]

@[simp] theorem clearings_append (first second : List Deed) :
    clearings (first ++ second) = clearings first ++
      (clearings second).map fun done => ((text first).length + done.1, done.2) := by
  induction first with
  | nil => simp [clearings, text]
  | cons deed first ih =>
    cases deed with
    | say bytes => simp [clearings, text, ih, Function.comp_def, Nat.add_assoc]
    | clear clearing => simp [clearings, text, ih]

/-- Rings are emptied somewhere in the text or at its end. -/
theorem le_length_text {done : Nat × Clearing} (h : done ∈ clearings deeds) :
    done.1 ≤ (text deeds).length := by
  induction deeds generalizing done with
  | nil => cases h
  | cons deed deeds ih =>
    cases deed with
    | say bytes =>
      obtain ⟨later, hlater, rfl⟩ := List.mem_map.mp h
      have hle := ih hlater
      simp only [text, List.length_append]
      omega
    | clear clearing =>
      rcases List.mem_cons.mp h with rfl | hlater
      · exact Nat.zero_le _
      · exact ih hlater

@[simp] theorem whole_append (first second : List Deed) :
    whole (first ++ second) = whole first ++ whole second := by
  simp [whole, Function.comp_def]

theorem within_of_length_le (h : (text deeds).length ≤ limit) : within limit deeds = whole deeds := by
  unfold within whole
  rw [List.filter_eq_self.mpr]
  intro done hdone
  simpa using (le_length_text hdone).trans h

@[simp] theorem within_clear (limit : Nat) (clearing : Clearing) (deeds : List Deed) :
    within limit (clear clearing :: deeds) = clearing :: within limit deeds := by
  simp [within, clearings]

/-- Where the first text already goes beyond the limit, what comes later is not done. -/
theorem within_append_of_lt (h : limit < (text first).length) :
    within limit (first ++ second) = within limit first := by
  have hlate : ((clearings second).map fun done => ((text first).length + done.1, done.2)).filter
      (fun done => done.1 ≤ limit) = [] := by
    simp only [List.filter_eq_nil_iff, List.mem_map, decide_eq_true_eq]
    rintro _ ⟨done, -, rfl⟩
    simp only
    omega
  unfold within
  rw [clearings_append, List.filter_append, hlate, List.append_nil]

theorem within_append_of_le (h : (text first).length ≤ limit) :
    within limit (first ++ second) =
      whole first ++ within (limit - (text first).length) second := by
  have hearly := within_of_length_le h
  unfold within at hearly ⊢
  rw [clearings_append, List.filter_append, List.map_append, hearly, List.filter_map, List.map_map]
  congr 2
  apply List.filter_congr
  intro done _
  simp only [Function.comp_apply, decide_eq_decide]
  omega

/-- What is emptied for a peer with room for some bytes is the beginning of what is emptied. -/
theorem within_prefix (limit : Nat) (deeds : List Deed) : within limit deeds <+: whole deeds := by
  induction deeds generalizing limit with
  | nil => exact List.nil_prefix
  | cons deed deeds ih =>
    cases deed with
    | clear clearing =>
      rw [within_clear]
      exact (List.prefix_cons_inj clearing).mpr (ih limit)
    | say bytes =>
      show within limit ([say bytes] ++ deeds) <+: whole ([say bytes] ++ deeds)
      rw [whole_append]
      by_cases hfits : (text [say bytes]).length ≤ limit
      · rw [within_append_of_le hfits]
        exact (List.prefix_append_right_inj _).mpr (ih _)
      · rw [within_append_of_lt (Nat.lt_of_not_le hfits)]
        exact List.nil_prefix

end
end Deed

namespace Console

section
variable (console : Console)

/-- The outcome of emptying rings, as it is reported. -/
def outcomeText (clearing : Clearing) : Bytes :=
  lineText (match console.store.refusal? clearing with
    | none => "Reset has been completed."
    | some error => "Reset failed: " ++ error.message)

/-- The end of a section that empties rings: only then is the outcome reported. -/
def emptying (clearing : Clearing) : List Deed :=
  [.clear clearing, .say (console.outcomeText clearing), .say foot]

/-- What is done about an instruction. The head of the section stands before the rings are emptied, and
so does the line on the active buffer if only that is. -/
def deeds (instruction : Instruction) : List Deed :=
  match instruction.command with
  | .resetActive =>
    .say (head "Reset the active buffer") :: .say console.activeText ::
      console.emptying (.ring console.active)
  | .resetAll => .say (head "Reset all log buffers") :: console.emptying .all
  | _ => [.say (console.obey instruction).text]

end

/-- All that is done about a list of instructions. -/
def script (console : Console) : List Instruction → List Deed
  | [] => [.say menu]
  | instruction :: instructions =>
    .say menu :: console.deeds instruction ++
      match (console.obey instruction).halt with
      | some _ => []
      | none => (console.obey instruction).console.script instructions

section
variable {console : Console} {instruction : Instruction}

theorem script_cons_of_none (h : (console.obey instruction).halt = none)
    (instructions : List Instruction) :
    console.script (instruction :: instructions) =
      .say menu :: console.deeds instruction ++
        (console.obey instruction).console.script instructions := by
  rw [script, h]

theorem script_cons_of_some {halt : Halt} (h : (console.obey instruction).halt = some halt)
    (instructions : List Instruction) :
    console.script (instruction :: instructions) = .say menu :: console.deeds instruction := by
  rw [script, h, List.append_nil]

theorem text_clear (console : Console) (above : Bytes) (clearing : Clearing) :
    (console.clear above clearing).text = above ++ console.outcomeText clearing ++ foot := rfl

/-- The deeds say the response. -/
theorem text_deeds (console : Console) (instruction : Instruction) :
    Deed.text (console.deeds instruction) = (console.obey instruction).text := by
  unfold deeds obey
  cases instruction.command with
  | resetActive | resetAll => simp [Deed.text, emptying, text_clear]
  | _ => exact List.append_nil _

theorem text_script (console : Console) (instructions : List Instruction) :
    Deed.text (console.script instructions) = (console.interpret instructions).text := by
  induction instructions generalizing console with
  | nil => exact List.append_nil _
  | cons instruction instructions ih =>
    cases hhalt : (console.obey instruction).halt with
    | some halt =>
      rw [script_cons_of_some hhalt, interpret_cons_of_some hhalt, Deed.text, text_deeds]
    | none =>
      rw [script_cons_of_none hhalt, interpret_cons_of_none hhalt, Deed.text_append, Deed.text,
        text_deeds, ih]

end
end Console
end EventLog
