import EventLog.SlotClaim
import Mathlib.Data.List.Infix
import Mathlib.Data.Nat.Bitwise

/-! The claims that are out on one word, with any number of clients that take and drop them in any
order. The word tells which they are: a writer by its bit, readers by their number, as long as that
number does not reach the bit. -/
namespace EventLog.SlotClaim

theorem isWriting_iff (claim : SlotClaim) :
    claim.isWriting = true ↔ 2 ^ 31 ≤ claim.word.toNat := by
  have hlt : claim.word.toNat < 2 ^ 32 := claim.word.toNat_lt
  have hbit : 2 ^ 31 ≤ claim.word.toNat ↔ claim.word.toNat.testBit 31 = true := by
    rw [Nat.testBit_eq_decide_div_mod_eq, decide_eq_true_iff]
    omega
  unfold isWriting
  rw [bne_iff_ne, ne_eq, ← UInt32.toNat_inj, UInt32.toNat_and,
    show writerBit.toNat = 2 ^ 31 from rfl, Nat.and_two_pow, hbit]
  cases claim.word.toNat.testBit 31 <;> simp

theorem toNat_readers (claim : SlotClaim) :
    claim.readers.toNat = claim.word.toNat % 2 ^ 31 := by
  unfold readers
  rw [UInt32.toNat_and, show (~~~writerBit).toNat = 2 ^ 31 - 1 from rfl,
    Nat.and_two_pow_sub_one_eq_mod]

/-- Actions of any clients in turn. -/
def run (state : Held) (actions : List Action) : Held :=
  actions.foldl (fun state action => (step state action).2) state

namespace Held

/-- How many claims of a kind are out. -/
def outstanding (state : Held) (mode : Mode) : Nat :=
  state.holders.countP fun holder => holder.2 = mode

/-- Nobody writes, and the word counts those who read. -/
structure Shared (state : Held) : Prop where
  nodup : (state.holders.map Prod.fst).Nodup
  reading : ∀ holder ∈ state.holders, holder.2 = .reading
  word : state.claim.word.toNat = state.holders.length
  few : state.holders.length < 2 ^ 31

/-- One client writes, and nobody else has a claim. -/
structure Exclusive (state : Held) (key : String) : Prop where
  holders : state.holders = [(key, .writing)]
  word : state.claim.word = writerBit

inductive Sound (state : Held) : Prop
  | shared (h : state.Shared)
  | exclusive (key : String) (h : state.Exclusive key)

section
variable {state : Held} {key : String} {mode : Mode}

theorem drop_of_absent (h : state.find? key = none) : state.drop key = state := by
  unfold drop
  rw [h]

theorem drop_of_find? (h : state.find? key = some mode) :
    state.drop key =
      { claim := state.claim.release mode
        holders := state.holders.filter fun holder => holder.1 != key } := by
  unfold drop
  rw [h]

/-- A dropped claim is gone. -/
theorem key_notMem_drop (state : Held) (key : String) :
    key ∉ (state.drop key).holders.map Prod.fst := by
  rintro hmem
  obtain ⟨holder, hmem, rfl⟩ := List.mem_map.mp hmem
  cases hfind : state.find? holder.1 with
  | none =>
    rw [drop_of_absent hfind] at hmem
    simpa using List.lookup_eq_none_iff.mp hfind holder hmem
  | some mode =>
    rw [drop_of_find? hfind] at hmem
    simpa using (List.mem_filter.mp hmem).2

theorem keep_of_absent (h : state.find? key = none) (mode : Mode) (claim : SlotClaim) :
    state.keep key mode claim = { claim, holders := (key, mode) :: state.holders } := by
  have hdrop : ({ state with claim } : Held).drop key = { state with claim } := drop_of_absent h
  unfold keep
  rw [hdrop]

theorem keep_of_find? {held : Mode} (h : state.find? key = some held) (mode : Mode)
    (claim : SlotClaim) :
    state.keep key mode claim =
      { claim := claim.release held
        holders := (key, mode) :: state.holders.filter fun holder => holder.1 != key } := by
  have hdrop : ({ state with claim } : Held).drop key = _ := drop_of_find? h
  unfold keep
  rw [hdrop]

theorem mem_of_find? (h : state.find? key = some mode) : (key, mode) ∈ state.holders := by
  obtain ⟨before, after, heq, -⟩ := List.lookup_eq_some_iff.mp h
  rw [heq]
  exact List.mem_append_right _ List.mem_cons_self

/-- One claim is out under a key, so dropping it leaves one less. -/
theorem length_filter_key {holders : List (String × Mode)} (hnodup : (holders.map Prod.fst).Nodup)
    (hmem : (key, mode) ∈ holders) :
    (holders.filter fun holder => holder.1 != key).length + 1 = holders.length := by
  induction holders with
  | nil => cases hmem
  | cons holder holders ih =>
    rw [List.map_cons, List.nodup_cons] at hnodup
    obtain ⟨hnot, hnodup⟩ := hnodup
    by_cases heq : holder.1 = key
    · have hrest : (holders.filter fun holder => holder.1 != key) = holders := by
        rw [List.filter_eq_self]
        intro other hother
        have hne : other.1 ≠ key := by
          rintro rfl
          exact hnot (heq ▸ List.mem_map_of_mem hother)
        simpa using hne
      rw [List.filter_cons_of_neg (by simp [heq]), hrest, List.length_cons]
    · have htail : (key, mode) ∈ holders := by
        rcases List.mem_cons.mp hmem with rfl | htail
        · exact absurd rfl heq
        · exact htail
      rw [List.filter_cons_of_pos (by simp [heq]), List.length_cons, List.length_cons,
        ih hnodup htail]

/-- Who waits for the whole word is let in where it is free. -/
theorem step_write (state : Held) (key : String) :
    step state (.write key) =
      if state.claim.word = 0 then (.done, state.keep key .writing ⟨writerBit⟩)
      else (.waits, state) := by
  unfold step write
  dsimp only
  by_cases hfree : state.claim.word = 0
  · rw [if_pos hfree, if_pos hfree]
    rfl
  · rw [if_neg hfree, if_neg hfree]
    rfl

namespace Shared

theorem start : Shared {} where
  nodup := List.nodup_nil
  reading := nofun
  word := rfl
  few := by decide

theorem outstanding_reading (h : state.Shared) :
    state.outstanding .reading = state.holders.length := by
  unfold outstanding
  rw [List.countP_eq_length]
  intro holder hmem
  simp [h.reading holder hmem]

theorem outstanding_writing (h : state.Shared) : state.outstanding .writing = 0 := by
  unfold outstanding
  rw [List.countP_eq_zero]
  intro holder hmem
  simp [h.reading holder hmem]

theorem isWriting_eq (h : state.Shared) : state.claim.isWriting = false := by
  rw [Bool.eq_false_iff, ne_eq, isWriting_iff, h.word]
  exact Nat.not_le.mpr h.few

theorem word_eq_zero_iff (h : state.Shared) : state.claim.word = 0 ↔ state.holders = [] := by
  rw [← UInt32.toNat_inj, h.word, ← List.length_eq_zero_iff]
  rfl

/-- A reader that drops its claim takes one off the count. -/
theorem drop (h : state.Shared) (key : String) : (state.drop key).Shared := by
  cases hfind : state.find? key with
  | none =>
    rw [drop_of_absent hfind]
    exact h
  | some mode =>
    have hmem := mem_of_find? hfind
    obtain rfl : mode = .reading := h.reading _ hmem
    have hlength := length_filter_key h.nodup hmem
    have hfew := h.few
    have hle : (1 : UInt32) ≤ state.claim.word := by
      rw [UInt32.le_iff_toNat_le, h.word]
      show 1 ≤ state.holders.length
      omega
    have hword : (state.claim.word - 1).toNat = state.holders.length - 1 := by
      rw [UInt32.toNat_sub_of_le _ _ hle, h.word]
      rfl
    rw [drop_of_find? hfind]
    constructor
    · exact h.nodup.sublist (List.filter_sublist.map _)
    · intro holder hholder
      exact h.reading holder (List.mem_of_mem_filter hholder)
    · exact hword.trans (by rw [← hlength, Nat.add_sub_cancel])
    · exact Nat.lt_trans (by rw [← hlength]; exact Nat.lt_succ_self _) hfew

/-- A claim that a reader had under the same key goes when it is given another. -/
theorem keep_eq (h : state.Shared) (key : String) :
    state.keep key .reading ⟨state.claim.word + 1⟩ =
      { claim := ⟨(state.drop key).claim.word + 1⟩
        holders := (key, .reading) :: (state.drop key).holders } := by
  cases hfind : state.find? key with
  | none => rw [keep_of_absent hfind, drop_of_absent hfind]
  | some mode =>
    obtain rfl : mode = .reading := h.reading _ (mem_of_find? hfind)
    rw [keep_of_find? hfind, drop_of_find? hfind]
    unfold release
    simp

/-- A reader that is let in adds one to the count. -/
theorem keep (h : state.Shared) (key : String)
    (hfew : (state.keep key .reading ⟨state.claim.word + 1⟩).outstanding .reading < 2 ^ 31) :
    (state.keep key .reading ⟨state.claim.word + 1⟩).Shared := by
  rw [h.keep_eq] at hfew ⊢
  have hnot := key_notMem_drop state key
  replace h := h.drop key
  generalize state.drop key = rest at h hfew hnot
  have hreading : ∀ holder ∈ (key, Mode.reading) :: rest.holders, holder.2 = .reading := by
    intro holder hmem
    rcases List.mem_cons.mp hmem with rfl | hmem
    · rfl
    · exact h.reading holder hmem
  have hcount : rest.holders.length + 1 < 2 ^ 31 := by
    unfold outstanding at hfew
    rwa [List.countP_eq_length.mpr fun holder hmem => by simp [hreading holder hmem]] at hfew
  constructor
  · exact List.nodup_cons.mpr ⟨hnot, h.nodup⟩
  · exact hreading
  · show (rest.claim.word + 1).toNat = rest.holders.length + 1
    rw [UInt32.toNat_add, h.word]
    exact Nat.mod_eq_of_lt (by simp; omega)
  · exact hcount

/-- A writer is let in where nobody reads, and nobody has a claim beside it. -/
theorem keep_writing (h : state.Shared) (hfree : state.claim.word = 0) (key : String) :
    (state.keep key .writing ⟨writerBit⟩).Exclusive key := by
  have hnone := h.word_eq_zero_iff.mp hfree
  have hfind : state.find? key = none := by
    unfold find?
    rw [hnone]
    rfl
  rw [keep_of_absent hfind, hnone]
  exact ⟨rfl, rfl⟩

/-- A reader is let in. -/
theorem step_tryRead (h : state.Shared) (key : String) :
    step state (.tryRead key) = (.flag true, state.keep key .reading ⟨state.claim.word + 1⟩) := by
  unfold step tryRead
  dsimp only
  rw [h.isWriting_eq]
  rfl

/-- A writer is let in where nobody reads, and waits otherwise. -/
theorem step_tryWrite (h : state.Shared) (key : String) :
    step state (.tryWrite key) =
      if state.claim.word = 0 then (.flag true, state.keep key .writing ⟨writerBit⟩)
      else (.waits, state) := by
  unfold step tryWrite
  dsimp only
  rw [h.isWriting_eq]
  by_cases hfree : state.claim.word = 0
  · rw [if_pos hfree, if_pos hfree]
    rfl
  · rw [if_neg hfree, if_neg hfree]
    rfl

end Shared

namespace Exclusive

theorem isWriting_eq (h : state.Exclusive key) : state.claim.isWriting = true := by
  unfold isWriting
  rw [h.word]
  rfl

theorem outstanding_writing (h : state.Exclusive key) : state.outstanding .writing = 1 := by
  unfold outstanding
  rw [h.holders]
  rfl

theorem outstanding_reading (h : state.Exclusive key) : state.outstanding .reading = 0 := by
  unfold outstanding
  rw [h.holders]
  rfl

/-- The writer frees the word; nobody else has a claim to drop. -/
theorem drop (h : state.Exclusive key) (other : String) : (state.drop other).Sound := by
  have hfind : state.find? other = if other == key then some .writing else none := by
    unfold find?
    rw [h.holders, List.lookup_cons]
    cases other == key with
    | false => rfl
    | true => rfl
  by_cases heq : other == key
  · rw [if_pos heq] at hfind
    obtain rfl : other = key := by simpa using heq
    rw [drop_of_find? hfind, h.holders]
    refine .shared ?_
    simpa [release] using Shared.start
  · rw [if_neg heq] at hfind
    rw [drop_of_absent hfind]
    exact .exclusive key h

/-- Whoever tries beside the writer is turned away. -/
theorem step_tryRead (h : state.Exclusive key) (other : String) :
    step state (.tryRead other) = (.flag false, state) := by
  unfold step tryRead
  dsimp only
  rw [h.isWriting_eq]
  rfl

theorem step_tryWrite (h : state.Exclusive key) (other : String) :
    step state (.tryWrite other) = (.flag false, state) := by
  unfold step tryWrite
  dsimp only
  rw [h.isWriting_eq, h.word]
  rfl

theorem word_ne_zero (h : state.Exclusive key) : state.claim.word ≠ 0 := by
  rw [h.word]
  exact nofun

end Exclusive

namespace Sound

/-- What is out stays in order whatever any client does next, as long as the readers do not become too
many to be counted. -/
theorem step (h : state.Sound) {action : Action}
    (hfew : (SlotClaim.step state action).2.outstanding .reading < 2 ^ 31) :
    (SlotClaim.step state action).2.Sound := by
  cases h with
  | shared h =>
    cases action with
    | tryRead key =>
      rw [h.step_tryRead] at hfew ⊢
      exact .shared (h.keep key hfew)
    | tryWrite key =>
      rw [h.step_tryWrite]
      split
      · next hfree => exact .exclusive key (h.keep_writing hfree key)
      · exact .shared h
    | write key =>
      rw [step_write]
      split
      · next hfree => exact .exclusive key (h.keep_writing hfree key)
      · exact .shared h
    | drop key => exact .shared (h.drop key)
  | exclusive writer h =>
    cases action with
    | tryRead key =>
      rw [h.step_tryRead]
      exact .exclusive writer h
    | tryWrite key =>
      rw [h.step_tryWrite]
      exact .exclusive writer h
    | write key =>
      rw [step_write, if_neg h.word_ne_zero]
      exact .exclusive writer h
    | drop key => exact h.drop key

theorem run (h : state.Sound) {actions : List Action}
    (hfew : ∀ early, early <+: actions →
      (SlotClaim.run state early).outstanding .reading < 2 ^ 31) :
    (SlotClaim.run state actions).Sound := by
  induction actions generalizing state with
  | nil => exact h
  | cons action actions ih =>
    have hfirst := hfew [action] (List.cons_prefix_cons.mpr ⟨rfl, List.nil_prefix⟩)
    refine ih (h.step hfirst) ?_
    intro early hearly
    exact hfew (action :: early) (List.cons_prefix_cons.mpr ⟨rfl, hearly⟩)

end Sound
end

/-- Whatever any number of clients do in whatever order, the word is the writer bit alone exactly when
one claim to write is out, and otherwise counts the claims to read, as long as these are fewer than the
bit stands for. A writer has no other claim beside it, is let in only where none is out, and keeps
every reader away while it is there. When the last claim is dropped the word is as at first. -/
theorem word_tells_claims {actions : List Action} {state : Held}
    (hfew : ∀ early, early <+: actions → (SlotClaim.run {} early).outstanding .reading < 2 ^ 31)
    (hrun : SlotClaim.run {} actions = state) :
    (state.claim.word = writerBit ↔ state.outstanding .writing = 1) ∧
    (state.outstanding .writing ≠ 1 →
      state.claim.word.toNat = state.outstanding .reading) ∧
    (∀ holder ∈ state.holders, holder.2 = .writing → state.holders = [holder]) ∧
    (∀ key, ((step state (.tryWrite key)).1 = .flag true ↔ state.claim.word = 0) ∧
      ((step state (.write key)).1 = .done ↔ state.claim.word = 0) ∧
      ((step state (.tryRead key)).1 = .flag false ↔ state.outstanding .writing = 1)) ∧
    (state.claim.isWriting = true ↔ state.outstanding .writing = 1) ∧
    state.claim.readers.toNat = state.outstanding .reading ∧
    (state.claim.word = 0 ↔ state.holders = []) := by
  have hsound : state.Sound := hrun ▸ (Sound.shared Shared.start).run hfew
  rw [toNat_readers]
  cases hsound with
  | shared h =>
    have hzero := h.outstanding_writing
    have hcount := h.word.trans h.outstanding_reading.symm
    have hword : state.claim.word ≠ writerBit := by
      intro hword
      have hwriting := h.isWriting_eq
      unfold isWriting at hwriting
      rw [hword] at hwriting
      cases hwriting
    have hmod : state.claim.word.toNat % 2 ^ 31 = state.claim.word.toNat :=
      Nat.mod_eq_of_lt (by rw [h.word]; exact h.few)
    rw [hzero, h.isWriting_eq, hmod]
    refine ⟨iff_of_false hword nofun, fun _ => hcount, ?_, ?_, iff_of_false nofun nofun, hcount,
      h.word_eq_zero_iff⟩
    · intro holder hmem hwriting
      rw [h.reading holder hmem] at hwriting
      cases hwriting
    · intro key
      rw [h.step_tryRead, h.step_tryWrite, step_write]
      by_cases hfree : state.claim.word = 0
      · simp [hfree]
      · simp [hfree]
  | exclusive writer h =>
    have hone := h.outstanding_writing
    refine ⟨iff_of_true h.word hone, fun hne => absurd hone hne, ?_, ?_,
      iff_of_true h.isWriting_eq hone, ?_, iff_of_false h.word_ne_zero ?_⟩
    · intro holder hmem _
      rw [h.holders] at hmem ⊢
      rw [List.mem_singleton.mp hmem]
    · intro key
      rw [h.step_tryRead, h.step_tryWrite, step_write, if_neg h.word_ne_zero]
      exact ⟨iff_of_false nofun h.word_ne_zero, iff_of_false nofun h.word_ne_zero,
        iff_of_true rfl hone⟩
    · rw [h.outstanding_reading, h.word]
      rfl
    · rw [h.holders]
      exact nofun

/-- Two readers keep a writer waiting, and when they are gone it keeps a third one away. -/
def writerAfterReaders : List Action :=
  [.tryRead "a", .tryRead "b", .tryWrite "c", .drop "a", .drop "b", .tryWrite "c", .tryRead "a"]

theorem word_tells_claims_writerAfterReaders :
    ∃ state, (∀ early, early <+: writerAfterReaders →
        (SlotClaim.run {} early).outstanding .reading < 2 ^ 31) ∧
      SlotClaim.run {} writerAfterReaders = state ∧ state.outstanding .writing = 1 ∧
      state.claim.word = writerBit ∧ (step state (.tryRead "b")).1 = .flag false ∧
      state.holders = [("c", .writing)] := by
  have hfew : ∀ early, early <+: writerAfterReaders →
      (SlotClaim.run {} early).outstanding .reading < 2 ^ 31 := by
    intro early hearly
    have hall : ∀ early ∈ writerAfterReaders.inits,
        (SlotClaim.run {} early).outstanding .reading < 2 ^ 31 := by decide +kernel
    exact hall early ((List.mem_inits _ _).mpr hearly)
  obtain ⟨hword, -, honly, hanswers, -⟩ := word_tells_claims hfew rfl
  have hone : (SlotClaim.run {} writerAfterReaders).outstanding .writing = 1 := by decide +kernel
  exact ⟨_, hfew, rfl, hone, hword.mpr hone, (hanswers "b").2.2.mpr hone,
    honly ("c", .writing) (by decide +kernel) rfl⟩

end Held
end EventLog.SlotClaim
