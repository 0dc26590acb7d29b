import EventLog.Proofs.Text.Utf8
import EventLog.Text.Fit

/-! The longest beginning of a text that fits a number of bytes, in terms of the bytes that the text is
written with. -/
namespace EventLog

namespace Utf8

theorem length_encodeChar (c : Char) : (encodeChar c).length = c.utf8Size := by
  rw [encodeChar_eq, String.length_utf8EncodeChar]

@[simp] theorem encodeChars_nil : encodeChars [] = [] := rfl

theorem length_encodeChars_cons (c : Char) (cs : List Char) :
    (encodeChars (c :: cs)).length = c.utf8Size + (encodeChars cs).length := by
  rw [encodeChars, List.flatMap_cons, List.length_append, length_encodeChar, ← encodeChars]

end Utf8

section
variable {room : Nat} {cs start : List Char}

theorem length_encodeChars_le (hstart : start <+: cs) :
    (Utf8.encodeChars start).length ≤ (Utf8.encodeChars cs).length := by
  obtain ⟨rest, rfl⟩ := hstart
  rw [Utf8.encodeChars_append, List.length_append]
  exact Nat.le_add_right _ _

theorem length_fit_le (room : Nat) (cs : List Char) :
    (Utf8.encodeChars (fit room cs)).length ≤ room := by
  induction cs generalizing room with
  | nil => exact Nat.zero_le room
  | cons c cs ih =>
    unfold fit
    split
    · have hrest := ih (room - c.utf8Size)
      rw [Utf8.length_encodeChars_cons]
      omega
    · exact Nat.zero_le room

/-- A beginning that fits is in the one that is kept. -/
theorem prefix_fit (hstart : start <+: cs) (hfits : (Utf8.encodeChars start).length ≤ room) :
    start <+: fit room cs := by
  induction start generalizing room cs with
  | nil => exact List.nil_prefix
  | cons c start ih =>
    obtain ⟨rest, rfl⟩ := hstart
    rw [Utf8.length_encodeChars_cons] at hfits
    rw [List.cons_append, fit, if_pos (by omega), List.cons_prefix_cons]
    exact ⟨rfl, ih (List.prefix_append start rest) (by omega)⟩

theorem fit_eq_self (hfits : (Utf8.encodeChars cs).length ≤ room) : fit room cs = cs :=
  (isPrefix_fit room cs).eq_of_length_le (prefix_fit (List.prefix_refl cs) hfits).length_le

end

/-- A text that is cut is a beginning of the text that fits, and no beginning that fits is longer. -/
theorem cut_spec (text : String) (room : Nat) :
    (cut text room).toList <+: text.toList ∧ (Utf8.encode (cut text room)).length ≤ room ∧
      ∀ start, start <+: text.toList → (Utf8.encodeChars start).length ≤ room →
        start <+: (cut text room).toList := by
  unfold Utf8.encode cut
  rw [String.toList_ofList]
  exact ⟨isPrefix_fit room _, length_fit_le room _, fun start => prefix_fit⟩

/-- What fits two rooms, one after the other, is what fits the smaller one. -/
theorem fit_fit (a b : Nat) (cs : List Char) : fit b (fit a cs) = fit (min a b) cs := by
  have htwice : fit b (fit a cs) <+: fit (min a b) cs := by
    have hfirst := (isPrefix_fit b (fit a cs)).trans (isPrefix_fit a cs)
    have hroom : (Utf8.encodeChars (fit b (fit a cs))).length ≤ min a b :=
      Nat.le_min.mpr ⟨Nat.le_trans (length_encodeChars_le (isPrefix_fit b _)) (length_fit_le a cs),
        length_fit_le b _⟩
    exact prefix_fit hfirst hroom
  have honce : fit (min a b) cs <+: fit b (fit a cs) := by
    have hroom := Nat.le_min.mp (length_fit_le (min a b) cs)
    exact prefix_fit (prefix_fit (isPrefix_fit (min a b) cs) hroom.1) hroom.2
  exact htwice.eq_of_length_le honce.length_le

theorem cut_cut_min (text : String) (a b : Nat) : cut (cut text a) b = cut text (min a b) := by
  unfold cut
  rw [String.toList_ofList, fit_fit]

/-- Cutting twice is cutting once. -/
theorem cut_cut (text : String) (room : Nat) : cut (cut text room) room = cut text room := by
  rw [cut_cut_min, Nat.min_self]

@[simp] theorem cut_empty (room : Nat) : cut "" room = "" := rfl

end EventLog
