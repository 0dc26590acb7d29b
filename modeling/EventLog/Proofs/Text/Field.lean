import EventLog.Proofs.Text.Cut
import EventLog.Text.Field
import Mathlib.Data.List.Induction

/-! What a text field gives back. A field that has been set holds the text cut to its size,
whatever it held before. -/
namespace EventLog.Field

variable {capacity : Nat} {field : Field capacity}

/-- An optional text as a field of the given size keeps it: cut, and absent when nothing is
left. -/
def kept (capacity : Nat) (text : Option String) : Option String :=
  (text.map fun text => cut text (capacity - 1)).filter fun text => text != ""

@[simp] theorem text_set (field : Field capacity) (text : String) :
    (field.set text).text = cut text (capacity - 1) := by
  simp [Field.text, set, maxLen]

@[simp] theorem isEmpty_set (field : Field capacity) (text : String) :
    (field.set text).isEmpty = (cut text (capacity - 1) == "") := by
  rw [Bool.eq_iff_iff]
  simp [isEmpty, set, maxLen]

/-- Nothing of the earlier content shows, neither a longer text nor a stale byte. -/
theorem nonEmpty?_assign (field : Field capacity) (text : Option String) :
    (field.assign text).nonEmpty? = kept capacity text := by
  cases text with
  | none => simp [assign, clear, nonEmpty?, isEmpty, kept]
  | some text =>
    by_cases h : cut text (capacity - 1) = ""
    · simp [assign, nonEmpty?, kept, Option.filter, h]
    · simp [assign, nonEmpty?, kept, Option.filter, h]

/-- The cells in front, as many as the field counts, are the written content; those behind it may be
left over from longer contents. -/
structure Holds (field : Field capacity) (content : String) : Prop where
  length_cells : field.cells.length = capacity
  len_le : field.len ≤ capacity - 1
  take_cells : field.cells.take field.len = Utf8.encode content

/-- A new field after texts have been assigned to it one after the other. -/
def ofTexts (capacity : Nat) (texts : List (Option String)) : Field capacity :=
  texts.foldl assign {}

/-- What is left of the last text, whatever came before it: nothing where it is absent. -/
def latest (capacity : Nat) (texts : List (Option String)) : String :=
  match texts.getLast? with
  | some (some text) => cut text (capacity - 1)
  | _ => ""

theorem length_cut_le (field : Field capacity) (text : String) :
    (Utf8.encode (cut text field.maxLen)).length ≤ capacity - 1 :=
  (cut_spec text field.maxLen).2.1

theorem holds_new (capacity : Nat) : ({} : Field capacity).Holds "" where
  length_cells := List.length_replicate
  len_le := Nat.zero_le _
  take_cells := rfl

namespace Holds

variable {content : String}

theorem copy_le (h : field.Holds content) (text : String) :
    (Utf8.encode (cut text field.maxLen)).length ≤ field.cells.length := by
  rw [h.length_cells]
  exact Nat.le_trans (length_cut_le field text) (Nat.sub_le capacity 1)

theorem set (h : field.Holds content) (text : String) :
    (field.set text).Holds (cut text (capacity - 1)) where
  length_cells := by
    unfold Field.set
    dsimp only
    rw [List.length_append, List.length_drop, Nat.add_sub_cancel' (h.copy_le text), h.length_cells]
  len_le := by
    unfold Field.set
    dsimp only
    exact length_cut_le field text
  take_cells := by
    unfold Field.set maxLen
    dsimp only
    rw [List.take_left]

theorem clear (h : field.Holds content) : field.clear.Holds "" where
  length_cells := h.length_cells
  len_le := Nat.zero_le _
  take_cells := rfl

theorem len_eq (h : field.Holds content) : field.len = (Utf8.encode content).length := by
  have hlen := h.len_le
  rw [← h.take_cells, List.length_take, h.length_cells]
  omega

theorem decode? (h : field.Holds content) :
    Utf8.decode? (field.cells.take field.len) = some content := by
  rw [h.take_cells, Utf8.decode?_encode]

theorem text_eq (h : field.Holds content) : field.text = content := by
  rw [Field.text, h.decode?, Option.getD_some]

theorem isEmpty_eq (h : field.Holds content) : field.isEmpty = (content == "") := by
  rw [Bool.eq_iff_iff, isEmpty, beq_iff_eq, beq_iff_eq, h.len_eq, List.length_eq_zero_iff,
    Utf8.encode_eq_nil]

theorem nonEmpty?_eq (h : field.Holds content) :
    field.nonEmpty? = if content = "" then none else some content := by
  unfold nonEmpty?
  rw [h.isEmpty_eq, h.text_eq]
  simp only [beq_iff_eq]

theorem isValidUTF8 (h : field.Holds content) :
    (field.cells.take field.len).toByteArray.IsValidUTF8 := by
  rw [h.take_cells]
  exact Utf8.isValidUTF8_encodeChars content.toList

end Holds

/-- Every text that is assigned replaces the content, and an absent one empties it. -/
theorem holds_ofTexts (capacity : Nat) (texts : List (Option String)) :
    (ofTexts capacity texts).Holds (latest capacity texts) := by
  induction texts using List.reverseRecOn with
  | nil => exact holds_new capacity
  | append_singleton texts text ih =>
    rw [ofTexts, List.foldl_append, ← ofTexts, latest, List.getLast?_concat]
    cases text with
    | none => exact ih.clear
    | some text => exact ih.set text

/-- After any assignments, a field of any size holds what is left of the last one and is in no way
different to its reader for what it held before: the bytes that count are written text of at most one
byte less than the field has, reading them never falls back on the empty text, and no later text is
copied beyond the last cell. -/
theorem content_follows_last (capacity : Nat) (texts : List (Option String)) :
    (ofTexts capacity texts).Holds (latest capacity texts) ∧
      ((ofTexts capacity texts).cells.take (ofTexts capacity texts).len).toByteArray.IsValidUTF8 ∧
      Utf8.decode? ((ofTexts capacity texts).cells.take (ofTexts capacity texts).len) =
        some (latest capacity texts) ∧
      (∀ text, (Utf8.encode (cut text (ofTexts capacity texts).maxLen)).length ≤
        (ofTexts capacity texts).cells.length) ∧
      (ofTexts capacity texts).text = latest capacity texts ∧
      (ofTexts capacity texts).len = (Utf8.encode (latest capacity texts)).length ∧
      (ofTexts capacity texts).isEmpty = (latest capacity texts == "") ∧
      (ofTexts capacity texts).nonEmpty? =
        if latest capacity texts = "" then none else some (latest capacity texts) := by
  have h := holds_ofTexts capacity texts
  exact ⟨h, h.isValidUTF8, h.decode?, h.copy_le, h.text_eq, h.len_eq, h.isEmpty_eq,
    h.nonEmpty?_eq⟩

/-- A field of three bytes has room for the first character of the last text only, and a byte of the
first text stays behind it. -/
example : (ofTexts 3 [some "abc", none, some "aé"]).cells = [0x61, 0x62, 0] := by decide +kernel

end EventLog.Field
