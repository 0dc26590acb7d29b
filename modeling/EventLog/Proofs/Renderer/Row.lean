import EventLog.Proofs.Text.Numeral
import EventLog.Renderer.HexDump
import Mathlib.Tactic.SplitIfs

/-! The columns of a row of a hex dump. A row is what comes of a row of blanks when the offset and then the
bytes are laid over it, and it is wide enough for all of them. -/
namespace EventLog.HexDump

def offsetText (offset : Nat) : List Char := '+' :: Numeral.padded 4 (Numeral.digits 16 offset)

/-- What stands at a column of a row before the offset and the blanks show through. -/
def cellAt (chunk : Bytes) (column : Nat) : Option Char :=
  if column < 8 then none
  else if column < 58 then
    chunk[(column - 8) / 3]?.bind fun b => (hexCell b)[(column - 8) % 3]?.join
  else chunk[column - 58]?.map textChar

/-- Characters laid over a row from a column on. -/
def overlay (row : List Char) (column : Nat) (text : List Char) : List Char :=
  row.take column ++ text ++ row.drop (column + text.length)

/-- The same, if the row is wide enough. -/
def overlay? (row : List Char) (column : Nat) (text : List Char) : Option (List Char) :=
  if column + text.length ≤ row.length then some (overlay row column text) else none

def byteText (b : UInt8) : List Char :=
  [Numeral.digitChar (b.toNat / 16), Numeral.digitChar (b.toNat % 16)]

/-- The bytes of a chunk laid over a row in turn, the first of them at the given place. -/
def fill? (row : List Char) (place : Nat) : Bytes → Option (List Char)
  | [] => some row
  | b :: chunk => do
    let row ← overlay? row (hexColumn + place * 3) (byteText b)
    let row ← overlay? row (textColumn + place) [textChar b]
    fill? row (place + 1) chunk

/-- A row put together by overwriting: blanks first, then the offset, then byte after byte. -/
def assemble? (offset : Nat) (chunk : Bytes) : Option (List Char) := do
  let row ← overlay? (List.replicate rowWidth ' ') 0 (offsetText offset)
  fill? row 0 chunk

section
variable {offset column place : Nat} {chunk : Bytes} {b : UInt8}

theorem length_flatMap_hexCell (chunk : Bytes) :
    (chunk.flatMap hexCell).length = 3 * chunk.length := by
  induction chunk with
  | nil => rfl
  | cons b chunk ih =>
    rw [List.flatMap_cons, List.length_append, ih, List.length_cons]
    show 3 + 3 * chunk.length = _
    omega

theorem getElem?_flatMap_hexCell (chunk : Bytes) (place : Nat) :
    (chunk.flatMap hexCell)[place]? =
      chunk[place / 3]?.bind fun b => (hexCell b)[place % 3]? := by
  induction chunk generalizing place with
  | nil => simp
  | cons b chunk ih =>
    rw [List.flatMap_cons]
    by_cases h : place < 3
    · rw [List.getElem?_append_left h, Nat.div_eq_of_lt h, Nat.mod_eq_of_lt h]
      rfl
    · obtain ⟨more, rfl⟩ := Nat.exists_eq_add_of_le' (Nat.le_of_not_lt h)
      rw [List.getElem?_append_right (Nat.le_add_left 3 more)]
      simp [hexCell, ih]

/-- The hexadecimal cells, the open ones at their end included. -/
theorem hexCells_getElem? (h : chunk.length ≤ 16) (hplace : place < 50) :
    (chunk.flatMap hexCell ++ List.replicate (3 * (16 - chunk.length) + 2) none)[place]? =
      some (chunk[place / 3]?.bind fun b => (hexCell b)[place % 3]?.join) := by
  rw [List.getElem?_append, length_flatMap_hexCell]
  split
  · next hfull =>
    have hbyte : place / 3 < chunk.length := by omega
    have hcell : place % 3 < (hexCell chunk[place / 3]).length := Nat.mod_lt _ (by decide)
    rw [getElem?_flatMap_hexCell, List.getElem?_eq_getElem hbyte, Option.bind_some,
      Option.bind_some, List.getElem?_eq_getElem hcell]
    rfl
  · next hopen =>
    rw [List.getElem?_replicate_of_lt (by omega), List.getElem?_eq_none (by omega)]
    rfl

theorem textCells_getElem? (h : chunk.length ≤ 16) (hplace : place < 16) :
    (chunk.map (fun b => some (textChar b)) ++ List.replicate (16 - chunk.length) none)[place]? =
      some (chunk[place]?.map textChar) := by
  rw [List.getElem?_append, List.length_map]
  split
  · next hfull =>
    rw [List.getElem?_map, List.getElem?_eq_getElem hfull]
    rfl
  · next hopen =>
    rw [List.getElem?_replicate_of_lt (by omega), List.getElem?_eq_none (by omega)]
    rfl

theorem length_cells (h : chunk.length ≤ 16) : (cells chunk).length = 74 := by
  unfold cells
  simp only [List.length_append, List.length_replicate, length_flatMap_hexCell,
    List.length_map, hexColumn, rowBytes]
  omega

theorem cells_getElem? (h : chunk.length ≤ 16) (hcolumn : column < 74) :
    (cells chunk)[column]? = some (cellAt chunk column) := by
  have hparts : cells chunk = List.replicate 8 none ++
      ((chunk.flatMap hexCell ++ List.replicate (3 * (16 - chunk.length) + 2) none) ++
        (chunk.map (fun b => some (textChar b)) ++ List.replicate (16 - chunk.length) none)) := by
    unfold cells hexColumn rowBytes
    simp only [List.append_assoc]
  have hlength : (chunk.flatMap hexCell ++
      List.replicate (3 * (16 - chunk.length) + 2) none).length = 50 := by
    rw [List.length_append, length_flatMap_hexCell, List.length_replicate]
    omega
  rw [hparts, List.getElem?_append, List.length_replicate, List.getElem?_append, hlength]
  unfold cellAt
  by_cases hlow : column < 8
  · rw [if_pos hlow, if_pos hlow, List.getElem?_replicate_of_lt hlow]
  rw [if_neg hlow, if_neg hlow]
  by_cases hhex : column < 58
  · rw [if_pos (by omega), if_pos hhex]
    exact hexCells_getElem? h (by omega)
  · rw [if_neg (by omega), if_neg hhex, Nat.sub_sub]
    exact textCells_getElem? h (by omega)

theorem length_offsetRow (offset : Nat) : (offsetRow offset).length = 74 := by
  unfold offsetRow
  simp only [List.length_take, List.length_append, List.length_replicate, rowWidth, textColumn,
    rowBytes]
  omega

theorem offsetRow_getElem? (hcolumn : column < 74) :
    (offsetRow offset)[column]? = some ((offsetText offset)[column]?.getD ' ') := by
  have hrow : offsetRow offset =
      (offsetText offset ++ List.replicate (74 - (offsetText offset).length) ' ').take 74 := rfl
  rw [hrow, List.getElem?_take_of_lt hcolumn, List.getElem?_append]
  split
  · next hoffset =>
    rw [List.getElem?_eq_getElem hoffset]
    rfl
  · next hblank =>
    rw [List.getElem?_replicate_of_lt (by omega), List.getElem?_eq_none (by omega)]
    rfl

theorem length_row (h : chunk.length ≤ 16) : (row offset chunk).length = 74 := by
  unfold row
  rw [List.length_zipWith, length_cells h, length_offsetRow]
  rfl

/-- A cell hides what the offset row has at its column. -/
theorem row_getElem? (h : chunk.length ≤ 16) (hcolumn : column < 74) :
    (row offset chunk)[column]? =
      some ((cellAt chunk column).getD ((offsetText offset)[column]?.getD ' ')) := by
  unfold row
  rw [List.getElem?_zipWith, cells_getElem? h hcolumn, offsetRow_getElem? hcolumn]

/-- The two digits of a byte. -/
theorem row_digits (h : chunk.length ≤ 16) {j : Nat} (hb : chunk[j]? = some b) :
    (row offset chunk)[8 + 3 * j]? = Numeral.lowerDigits[b.toNat / 16]? ∧
      (row offset chunk)[9 + 3 * j]? = Numeral.lowerDigits[b.toNat % 16]? := by
  obtain ⟨hj, -⟩ := List.getElem?_eq_some_iff.mp hb
  have hbyte := b.toNat_lt
  constructor
  · rw [row_getElem? h (by omega), Numeral.lowerDigits_eq (by omega)]
    unfold cellAt
    rw [if_neg (by omega), if_pos (by omega), show (8 + 3 * j - 8) / 3 = j by omega,
      show (8 + 3 * j - 8) % 3 = 0 by omega, hb]
    rfl
  · rw [row_getElem? h (by omega), Numeral.lowerDigits_eq (by omega)]
    unfold cellAt
    rw [if_neg (by omega), if_pos (by omega), show (9 + 3 * j - 8) / 3 = j by omega,
      show (9 + 3 * j - 8) % 3 = 1 by omega, hb]
    rfl

theorem row_text (h : chunk.length ≤ 16) {j : Nat} (hb : chunk[j]? = some b) :
    (row offset chunk)[58 + j]? = some (textChar b) := by
  obtain ⟨hj, -⟩ := List.getElem?_eq_some_iff.mp hb
  rw [row_getElem? h (by omega)]
  unfold cellAt
  rw [if_neg (by omega), if_neg (by omega), Nat.add_sub_cancel_left, hb]
  rfl

/-- Where there is no byte the offset and the blanks show through. -/
theorem row_missing (h : chunk.length ≤ 16) {j : Nat} (hj : chunk.length ≤ j) (hplace : j < 16)
    (hcolumn : column = 8 + 3 * j ∨ column = 9 + 3 * j ∨ column = 58 + j) :
    (row offset chunk)[column]? = some ((offsetText offset)[column]?.getD ' ') := by
  have hnone : chunk[j]? = none := List.getElem?_eq_none hj
  rw [row_getElem? h (by omega)]
  unfold cellAt
  rw [if_neg (by omega)]
  by_cases hhex : column < 58
  · rw [if_pos hhex, show (column - 8) / 3 = j by omega, hnone]
    rfl
  · rw [if_neg hhex, show column - 58 = j by omega, hnone]
    rfl

/-- An offset of at most seven digits stands before the cells. -/
theorem offsetText_prefix_row (h : chunk.length ≤ 16) (hoffset : (offsetText offset).length ≤ 8) :
    offsetText offset <+: row offset chunk := by
  rw [List.prefix_iff_getElem?]
  intro column hcolumn
  rw [row_getElem? h (by omega)]
  unfold cellAt
  rw [if_pos (by omega), List.getElem?_eq_getElem hcolumn]
  rfl

theorem length_overlay {under text : List Char} (h : column + text.length ≤ under.length) :
    (overlay under column text).length = under.length := by
  unfold overlay
  simp only [List.length_append, List.length_take, List.length_drop]
  omega

theorem overlay_getElem? {under text : List Char} (h : column + text.length ≤ under.length)
    (i : Nat) :
    (overlay under column text)[i]? =
      if column ≤ i ∧ i < column + text.length then text[i - column]? else under[i]? := by
  have htake : (under.take column ++ text).length = column + text.length := by
    rw [List.length_append, List.length_take]
    omega
  unfold overlay
  rw [List.getElem?_append, htake, List.getElem?_append, List.length_take,
    Nat.min_eq_left (by omega)]
  by_cases hbefore : i < column
  · rw [if_pos (by omega), if_pos hbefore, if_neg (by omega), List.getElem?_take_of_lt hbefore]
  by_cases hwithin : i < column + text.length
  · rw [if_pos hwithin, if_neg hbefore, if_pos ⟨by omega, hwithin⟩]
  · rw [if_neg hwithin, if_neg (by omega), List.getElem?_drop, Nat.add_sub_cancel' (by omega)]

theorem getElem?_concat_of_ne {done : Bytes} {j : Nat} (hj : j ≠ done.length) (b : UInt8) :
    (done ++ [b])[j]? = done[j]? := by
  rcases Nat.lt_or_gt_of_ne hj with hlt | hgt
  · exact List.getElem?_append_left hlt
  · rw [List.getElem?_eq_none (by simp; omega), List.getElem?_eq_none (by omega)]

/-- One more byte changes three columns. -/
theorem cellAt_concat {done : Bytes} (h : done.length < 16) (b : UInt8) (column : Nat) :
    cellAt (done ++ [b]) column =
      if column = 8 + 3 * done.length then some (Numeral.digitChar (b.toNat / 16))
      else if column = 9 + 3 * done.length then some (Numeral.digitChar (b.toNat % 16))
      else if column = 58 + done.length then some (textChar b)
      else cellAt done column := by
  unfold cellAt
  by_cases hlow : column < 8
  · rw [if_pos hlow, if_neg (by omega), if_neg (by omega), if_neg (by omega), if_pos hlow]
  rw [if_neg hlow, if_neg hlow]
  by_cases hhex : column < 58
  · rw [if_pos hhex, if_pos hhex]
    by_cases hplace : (column - 8) / 3 = done.length
    · rw [hplace, List.getElem?_concat_length, List.getElem?_eq_none (Nat.le_refl _)]
      obtain hfirst | hsecond | hgap : column = 8 + 3 * done.length ∨
          column = 9 + 3 * done.length ∨ column = 10 + 3 * done.length := by omega
      · rw [if_pos hfirst, show (column - 8) % 3 = 0 by omega]
        rfl
      · rw [if_neg (by omega), if_pos hsecond, show (column - 8) % 3 = 1 by omega]
        rfl
      · rw [if_neg (by omega), if_neg (by omega), if_neg (by omega),
          show (column - 8) % 3 = 2 by omega]
        rfl
    · rw [getElem?_concat_of_ne hplace, if_neg (by omega), if_neg (by omega), if_neg (by omega)]
  · rw [if_neg hhex, if_neg hhex, if_neg (by omega), if_neg (by omega)]
    by_cases hplace : column - 58 = done.length
    · rw [hplace, List.getElem?_concat_length, if_pos (by omega)]
      rfl
    · rw [getElem?_concat_of_ne hplace, if_neg (by omega)]

/-- A byte is laid over three columns of a row. -/
theorem overlay?_byte {under : List Char} (hunder : under.length = 74) (hplace : place < 16)
    (b : UInt8) :
    ∃ filled, ((overlay? under (hexColumn + place * 3) (byteText b)).bind fun under =>
        overlay? under (textColumn + place) [textChar b]) = some filled ∧ filled.length = 74 ∧
      ∀ column, filled[column]? =
        if column = 8 + 3 * place then some (Numeral.digitChar (b.toNat / 16))
        else if column = 9 + 3 * place then some (Numeral.digitChar (b.toNat % 16))
        else if column = 58 + place then some (textChar b)
        else under[column]? := by
  have htwo : (byteText b).length = 2 := rfl
  have hdigits : hexColumn + place * 3 + (byteText b).length ≤ under.length := by
    rw [hunder, htwo, hexColumn]
    omega
  have hmiddle := length_overlay hdigits
  have htext : textColumn + place + [textChar b].length ≤
      (overlay under (hexColumn + place * 3) (byteText b)).length := by
    rw [hmiddle, hunder, List.length_singleton, textColumn]
    omega
  refine ⟨overlay (overlay under (hexColumn + place * 3) (byteText b)) (textColumn + place)
    [textChar b], ?_, ?_, ?_⟩
  · unfold overlay?
    rw [if_pos hdigits, Option.bind_some, if_pos htext]
  · rw [length_overlay htext, hmiddle, hunder]
  · intro column
    rw [overlay_getElem? htext, overlay_getElem? hdigits, htwo, List.length_singleton, hexColumn,
      textColumn]
    by_cases hfirst : column = 8 + 3 * place
    · rw [if_neg (by omega), if_pos (by omega), if_pos hfirst,
        show column - (8 + place * 3) = 0 by omega]
      rfl
    by_cases hsecond : column = 9 + 3 * place
    · rw [if_neg (by omega), if_pos (by omega), if_neg hfirst, if_pos hsecond,
        show column - (8 + place * 3) = 1 by omega]
      rfl
    rw [if_neg hfirst, if_neg hsecond]
    by_cases htextual : column = 58 + place
    · rw [if_pos (by omega), if_pos htextual, htextual, Nat.sub_self]
      rfl
    · rw [if_neg (by omega), if_neg (by omega), if_neg htextual]

/-- Laying a byte over a row is having one byte more in it. -/
theorem overlay?_row {done : Bytes} (h : done.length < 16) (b : UInt8) :
    ((overlay? (row offset done) (hexColumn + done.length * 3) (byteText b)).bind fun under =>
      overlay? under (textColumn + done.length) [textChar b]) =
        some (row offset (done ++ [b])) := by
  have hmore : (done ++ [b]).length ≤ 16 := by
    rw [List.length_append, List.length_singleton]
    omega
  obtain ⟨filled, hfilled, hlength, hcolumns⟩ :=
    overlay?_byte (length_row (Nat.le_of_lt h) : (row offset done).length = 74) h b
  rw [hfilled, Option.some.injEq]
  apply List.ext_getElem?
  intro column
  by_cases hcolumn : column < 74
  · rw [hcolumns, row_getElem? hmore hcolumn, row_getElem? (Nat.le_of_lt h) hcolumn,
      cellAt_concat h]
    split_ifs <;> rfl
  · rw [List.getElem?_eq_none (by omega), List.getElem?_eq_none]
    rw [length_row hmore]
    omega

theorem fill?_cons (under : List Char) (place : Nat) (b : UInt8) (chunk : Bytes) :
    fill? under place (b :: chunk) =
      ((overlay? under (hexColumn + place * 3) (byteText b)).bind fun under =>
        overlay? under (textColumn + place) [textChar b]).bind fun under =>
          fill? under (place + 1) chunk :=
  Option.bind_assoc .. |>.symm

theorem fill?_row (done : Bytes) (h : (done ++ chunk).length ≤ 16) :
    fill? (row offset done) done.length chunk = some (row offset (done ++ chunk)) := by
  induction chunk generalizing done with
  | nil =>
    rw [List.append_nil]
    rfl
  | cons b chunk ih =>
    have hroom : done.length < 16 := by
      rw [List.length_append, List.length_cons] at h
      omega
    have hrest := ih (done ++ [b]) (by simpa using h)
    rw [List.append_assoc, List.length_append] at hrest
    rw [fill?_cons, overlay?_row hroom]
    exact hrest

/-- The offset is laid over a row of blanks. -/
theorem overlay?_offset (h : (offsetText offset).length ≤ 74) :
    overlay? (List.replicate rowWidth ' ') 0 (offsetText offset) = some (row offset []) := by
  have hwide : 0 + (offsetText offset).length ≤ (List.replicate rowWidth ' ').length := by
    rw [List.length_replicate, Nat.zero_add]
    exact h
  unfold overlay?
  rw [if_pos hwide, Option.some.injEq]
  apply List.ext_getElem?
  intro column
  rw [overlay_getElem? hwide]
  by_cases hcolumn : column < 74
  · have hcell : cellAt [] column = none := by
      unfold cellAt
      split_ifs <;> rfl
    rw [row_getElem? (Nat.zero_le _) hcolumn, hcell, Nat.zero_add, Nat.sub_zero]
    by_cases hwithin : column < (offsetText offset).length
    · rw [if_pos ⟨Nat.zero_le _, hwithin⟩, List.getElem?_eq_getElem hwithin]
      rfl
    · rw [if_neg (by omega), List.getElem?_replicate_of_lt (show column < rowWidth from hcolumn),
        List.getElem?_eq_none (by omega)]
      rfl
  · have hblank : ¬ column < (List.replicate rowWidth ' ').length := by
      rw [List.length_replicate]
      exact hcolumn
    rw [if_neg (by omega), List.getElem?_eq_none (by omega), List.getElem?_eq_none]
    rw [length_row (Nat.zero_le _)]
    omega

theorem length_offsetText_le {k : Nat} (hoffset : offset < 16 ^ (k + 4)) :
    (offsetText offset).length ≤ k + 5 := by
  have hdigits := Numeral.length_digits_le hoffset
  unfold offsetText Numeral.padded
  rw [List.length_cons, List.length_append, List.length_replicate]
  omega

/-- A row is wide enough for all that is laid over it, the offset included. -/
theorem assemble?_eq (hoffset : (offsetText offset).length ≤ 74) (h : chunk.length ≤ 16) :
    assemble? offset chunk = some (row offset chunk) := by
  unfold assemble?
  rw [overlay?_offset hoffset]
  exact fill?_row [] h

end
end EventLog.HexDump
