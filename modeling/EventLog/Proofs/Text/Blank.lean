import EventLog.Text.Blank
import Mathlib.Data.List.Basic

/-! Trimming by what it leaves: the one part of a text that neither starts nor ends with white space and
has nothing but white space around it. -/
namespace EventLog

def AllBlank (cs : List Char) : Prop := ∀ c ∈ cs, isBlank c = true

instance (cs : List Char) : Decidable (AllBlank cs) :=
  List.decidableBAll _ cs

/-- The text is the body with white space around it, and the body has none at its ends. -/
structure Stripped (text body : List Char) : Prop where
  around : ∃ front back, text = front ++ body ++ back ∧ AllBlank front ∧ AllBlank back
  head : ∀ c, body.head? = some c → isBlank c = false
  last : ∀ c, body.getLast? = some c → isBlank c = false

section
variable {text body front back cs : List Char}

theorem isBlank_of_code {c : Char} (hlow : 0x21 ≤ c.toNat) (hhigh : c.toNat < 0x85) :
    isBlank c = false := by
  unfold isBlank
  simp
  omega

theorem AllBlank.append (hfront : AllBlank front) (hback : AllBlank back) :
    AllBlank (front ++ back) :=
  List.forall_mem_append.mpr ⟨hfront, hback⟩

theorem AllBlank.reverse (h : AllBlank cs) : AllBlank cs.reverse :=
  fun c hc => h c (List.mem_reverse.mp hc)

theorem allBlank_takeWhile (cs : List Char) : AllBlank (cs.takeWhile isBlank) :=
  fun c hc => List.all_eq_true.mp (List.all_takeWhile ..) c hc

theorem head?_dropWhile_isBlank (cs : List Char) :
    ∀ c, (cs.dropWhile isBlank).head? = some c → isBlank c = false := by
  intro c hc
  have hhead := List.head?_dropWhile_not isBlank cs
  rw [hc] at hhead
  simpa using hhead

theorem trimStart_append (hfront : AllBlank front)
    (hbody : ∀ c, body.head? = some c → isBlank c = false) : trimStart (front ++ body) = body := by
  unfold trimStart
  rw [List.dropWhile_append_of_pos hfront]
  cases body with
  | nil => rfl
  | cons c body => simp [hbody c rfl]

theorem trimEnd_append (hback : AllBlank back)
    (hbody : ∀ c, body.getLast? = some c → isBlank c = false) : trimEnd (body ++ back) = body := by
  have hreverse : trimStart (back.reverse ++ body.reverse) = body.reverse := by
    apply trimStart_append hback.reverse
    simpa [List.head?_reverse] using hbody
  unfold trimStart at hreverse
  unfold trimEnd
  rw [List.reverse_append, hreverse, List.reverse_reverse]

theorem trimStart_spec (cs : List Char) : ∃ front, cs = front ++ trimStart cs ∧ AllBlank front ∧
    ∀ c, (trimStart cs).head? = some c → isBlank c = false :=
  ⟨cs.takeWhile isBlank, List.takeWhile_append_dropWhile.symm, allBlank_takeWhile cs,
    head?_dropWhile_isBlank cs⟩

theorem trimEnd_spec (cs : List Char) : ∃ back, cs = trimEnd cs ++ back ∧ AllBlank back ∧
    ∀ c, (trimEnd cs).getLast? = some c → isBlank c = false := by
  obtain ⟨front, hsplit, hblank, hhead⟩ := trimStart_spec cs.reverse
  refine ⟨front.reverse, ?_, hblank.reverse, ?_⟩
  · have hcs := congrArg List.reverse hsplit
    rwa [List.reverse_reverse, List.reverse_append] at hcs
  · intro c hc
    unfold trimEnd at hc
    rw [List.getLast?_reverse] at hc
    exact hhead c hc

theorem stripped_trim (text : List Char) : Stripped text (trim text) := by
  obtain ⟨front, hfront, hblank, hhead⟩ := trimStart_spec text
  obtain ⟨back, hback, hblank', hlast⟩ := trimEnd_spec (trimStart text)
  refine ⟨⟨front, back, ?_, hblank, hblank'⟩, ?_, hlast⟩
  · unfold trim
    rw [List.append_assoc, ← hback, ← hfront]
  · intro c hc
    apply hhead
    rw [hback, List.head?_append]
    exact congrArg (·.or back.head?) hc

theorem Stripped.of_no_blank (h : ∀ c ∈ body, isBlank c = false) : Stripped body body :=
  ⟨⟨[], [], by simp, nofun, nofun⟩, fun c hc => h c (List.mem_of_head? hc),
    fun c hc => h c (List.mem_of_getLast? hc)⟩

theorem Stripped.again (h : Stripped text body) : Stripped body body :=
  ⟨⟨[], [], by simp, nofun, nofun⟩, h.head, h.last⟩

/-- Trimming finds the one body that a text has. -/
theorem stripped_iff : Stripped text body ↔ trim text = body := by
  constructor
  · rintro ⟨⟨front, back, rfl, hfront, hback⟩, hhead, hlast⟩
    unfold trim
    by_cases hbody : body = []
    · subst hbody
      have hall : trimStart (front ++ back ++ []) = [] :=
        trimStart_append (hfront.append hback) (by simp)
      rw [List.append_nil] at hall
      rw [List.append_nil, hall]
      rfl
    · rw [List.append_assoc, trimStart_append hfront, trimEnd_append hback hlast]
      obtain ⟨b, rest, rfl⟩ := List.exists_cons_of_ne_nil hbody
      exact hhead
  · rintro rfl
    exact stripped_trim text

end
end EventLog
