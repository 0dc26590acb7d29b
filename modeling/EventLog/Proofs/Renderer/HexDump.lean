import EventLog.Proofs.Renderer.Lines
import EventLog.Proofs.Renderer.Row

/-! What can be read from a hex dump. Every byte has its cells in the row of its offset, so that no two byte
strings have the same dump. -/
namespace EventLog

def Printable (c : Char) : Prop := 32 ≤ c.toNat ∧ c.toNat < 127

instance (c : Char) : Decidable (Printable c) := inferInstanceAs (Decidable (_ ∧ _))

namespace HexDump

section
variable {offset column n : Nat} {chunk : Bytes} {b : UInt8} {c : Char}

theorem printable_digitChar {d : Nat} (hd : d < 16) : Printable (Numeral.digitChar d) := by
  have hall : ∀ d < 16, Printable (Numeral.digitChar d) := by decide
  exact hall d hd

theorem printable_textChar (b : UInt8) : Printable (textChar b) := by
  unfold textChar
  split
  · next h =>
    have hcodes : ∀ code < 127, (Char.ofNat code).toNat = code := by decide
    unfold Printable
    rwa [hcodes _ h.2]
  · decide

theorem printable_digits {base : Nat} (hbase : base ≤ 16) (htwo : 2 ≤ base) :
    ∀ c ∈ Numeral.digits base n, Printable c := by
  intro c hc
  obtain ⟨d, hd⟩ := (Numeral.digits_digits hbase htwo n).isDigit_of_mem hc
  have hcode := (Numeral.isDigit_iff hbase).mp hd
  unfold Printable
  omega

theorem printable_offsetText (offset : Nat) : ∀ c ∈ offsetText offset, Printable c := by
  unfold offsetText Numeral.padded
  rw [List.forall_mem_cons, List.forall_mem_append]
  refine ⟨by decide, ?_, printable_digits (by decide) (by decide)⟩
  intro c hc
  rw [List.eq_of_mem_replicate hc]
  decide

theorem printable_cellAt (hc : cellAt chunk column = some c) : Printable c := by
  unfold cellAt at hc
  split_ifs at hc
  · obtain ⟨b, -, hcell⟩ := Option.bind_eq_some_iff.mp hc
    have hb := b.toNat_lt
    have hcells : ∀ cell ∈ hexCell b, ∀ c, cell = some c → Printable c := by
      unfold hexCell
      simp only [List.forall_mem_cons, Option.some.injEq, forall_eq', reduceCtorEq, false_implies,
        List.not_mem_nil, implies_true, and_true]
      exact ⟨printable_digitChar (by omega), printable_digitChar (by omega)⟩
    exact hcells _ (List.mem_of_getElem? (Option.join_eq_some_iff.mp hcell)) c rfl
  · obtain ⟨b, -, rfl⟩ := Option.map_eq_some_iff.mp hc
    exact printable_textChar b

theorem printable_row (h : chunk.length ≤ 16) : ∀ c ∈ row offset chunk, Printable c := by
  intro c hc
  obtain ⟨column, hc⟩ := List.mem_iff_getElem?.mp hc
  have hcolumn := (List.getElem?_eq_some_iff.mp hc).1
  rw [length_row h] at hcolumn
  rw [row_getElem? h hcolumn, Option.some.injEq] at hc
  subst hc
  cases hcell : cellAt chunk column with
  | some c => exact printable_cellAt hcell
  | none =>
    cases hoffset : (offsetText offset)[column]? with
    | some c => exact printable_offsetText offset c (List.mem_of_getElem? hoffset)
    | none =>
      show Printable ' '
      decide

theorem printable_rows (offset : Nat) (data : Bytes) :
    ∀ line ∈ rows offset data, ∀ c ∈ line.toList, Printable c := by
  fun_induction rows offset data with
  | case1 => nofun
  | case2 offset data hdata ih =>
    refine List.forall_mem_cons.mpr ⟨?_, ih⟩
    rw [String.toList_ofList]
    exact printable_row (List.length_take_le rowBytes data)

theorem printable_of_all {cs : List Char} (h : cs.all (fun c => decide (Printable c)) = true) :
    ∀ c ∈ cs, Printable c :=
  fun c hc => of_decide_eq_true (List.all_eq_true.mp h c hc)

theorem printable_heading (size : Nat) :
    ∀ line ∈ heading size, ∀ c ∈ line.toList, Printable c := by
  unfold heading
  simp only [List.forall_mem_cons, List.not_mem_nil, false_implies, implies_true, and_true,
    String.toList_append, List.forall_mem_append]
  refine ⟨⟨⟨printable_of_all ?_, ?_⟩, printable_of_all ?_⟩, printable_of_all ?_,
    printable_of_all ?_⟩
  case refine_2 =>
    unfold Numeral.decimal
    rw [String.toList_ofList]
    exact printable_digits (by decide) (by decide)
  all_goals decide +kernel

/-- All that a dump has but for its tabs and line ends can be printed. -/
theorem printable_dump (data : Bytes) :
    ∀ line ∈ (heading data.length ++ rows 0 data).map String.toList,
      ∀ c ∈ line, Printable c := by
  intro line hline
  obtain ⟨text, htext, rfl⟩ := List.mem_map.mp hline
  rcases List.mem_append.mp htext with hheading | hrows
  · exact printable_heading _ text hheading
  · exact printable_rows 0 data text hrows

theorem not_mem_of_printable {line : List Char} (h : ∀ c ∈ line, Printable c) : '\n' ∉ line :=
  fun hmem => absurd (h '\n' hmem) (by decide)

end

theorem length_rows (offset : Nat) (data : Bytes) :
    (rows offset data).length = (data.length + 15) / 16 := by
  fun_induction rows offset data with
  | case1 => rfl
  | case2 offset data hdata ih =>
    have hpos := List.length_pos_iff.mpr hdata
    rw [List.length_cons, ih, List.length_drop, rowBytes]
    omega

theorem rows_getElem? (offset : Nat) (data : Bytes) (r : Nat) (hr : 16 * r < data.length) :
    (rows offset data)[r]? =
      some (String.ofList (row (offset + 16 * r) ((data.drop (16 * r)).take 16))) := by
  fun_induction rows offset data generalizing r with
  | case1 => simp at hr
  | case2 offset data hdata ih =>
    cases r with
    | zero => rfl
    | succ r =>
      have hleft : 16 * r < (data.drop rowBytes).length := by
        rw [List.length_drop, rowBytes]
        omega
      rw [List.getElem?_cons_succ, ih r hleft, List.drop_drop, rowBytes,
        show offset + 16 + 16 * r = offset + 16 * (r + 1) by omega,
        show 16 + 16 * r = 16 * (r + 1) by omega]

/-- What row `r` of the dump of some bytes has at its columns. -/
structure Shows (data : Bytes) (r : Nat) (shown : List Char) : Prop where
  width : shown.length = 74
  byte : ∀ j < 16, ∀ b, data[16 * r + j]? = some b →
    shown[8 + 3 * j]? = Numeral.lowerDigits[b.toNat / 16]? ∧
    shown[9 + 3 * j]? = Numeral.lowerDigits[b.toNat % 16]? ∧
    shown[58 + j]? = some (if 32 ≤ b.toNat ∧ b.toNat < 127 then Char.ofNat b.toNat else '.')
  offset : 16 * r < 2 ^ 28 → ∃ digits, '+' :: digits <+: shown ∧
    digits = Numeral.padded 4 (Numeral.digits 16 (16 * r)) ∧ 4 ≤ digits.length ∧
    Numeral.Digits 16 digits (16 * r)
  missing : 16 * r < 2 ^ 28 → ∀ j < 16, data.length ≤ 16 * r + j →
    shown[8 + 3 * j]? = some ' ' ∧ shown[9 + 3 * j]? = some ' ' ∧ shown[58 + j]? = some ' '

section
variable {data other : Bytes} {r : Nat}

theorem shows_row (data : Bytes) (r : Nat) :
    Shows data r (row (16 * r) ((data.drop (16 * r)).take 16)) := by
  have hlength : ((data.drop (16 * r)).take 16).length = min 16 (data.length - 16 * r) := by
    rw [List.length_take, List.length_drop]
  have hsmall : ((data.drop (16 * r)).take 16).length ≤ 16 := by omega
  have hoffset (h : 16 * r < 2 ^ 28) : (offsetText (16 * r)).length ≤ 8 :=
    length_offsetText_le (k := 3) h
  refine ⟨length_row hsmall, ?_, ?_, ?_⟩
  · intro j hj b hb
    have hchunk : ((data.drop (16 * r)).take 16)[j]? = some b := by
      rw [List.getElem?_take_of_lt hj, List.getElem?_drop, hb]
    obtain ⟨hhigh, hlow⟩ := row_digits hsmall hchunk
    exact ⟨hhigh, hlow, row_text hsmall hchunk⟩
  · intro h
    refine ⟨_, offsetText_prefix_row hsmall (hoffset h), rfl, ?_,
      .padded (by decide) 4 (Numeral.digits_digits (by decide) (by decide) _)⟩
    unfold Numeral.padded
    rw [List.length_append, List.length_replicate]
    omega
  · intro h j hj hdata
    have hblank (column : Nat) (hcolumn : 8 ≤ column) :
        (offsetText (16 * r))[column]?.getD ' ' = ' ' := by
      have hshort := hoffset h
      rw [List.getElem?_eq_none (by omega)]
      rfl
    have hmissing (column : Nat)
        (hcolumn : column = 8 + 3 * j ∨ column = 9 + 3 * j ∨ column = 58 + j) :
        (row (16 * r) ((data.drop (16 * r)).take 16))[column]? = some ' ' := by
      rw [row_missing hsmall (by omega) hj hcolumn, hblank column (by omega)]
    exact ⟨hmissing _ (.inl rfl), hmissing _ (.inr (.inl rfl)), hmissing _ (.inr (.inr rfl))⟩

theorem lowerDigits_inj {d e : Nat} (hd : d < 16) (he : e < 16)
    (h : Numeral.lowerDigits[d]? = Numeral.lowerDigits[e]?) : d = e := by
  have hall : ∀ d < 16, ∀ e < 16,
      Numeral.lowerDigits[d]? = Numeral.lowerDigits[e]? → d = e := by decide
  exact hall d hd e he h

/-- Every byte can be read off its cell. -/
theorem eq_of_shows (hlength : data.length = other.length)
    (h : ∀ r, 16 * r < data.length → ∃ line, Shows data r line ∧ Shows other r line) :
    data = other := by
  apply List.ext_getElem hlength
  intro i hi hi'
  obtain ⟨line, hdata, hother⟩ := h (i / 16) (by omega)
  have hplace : 16 * (i / 16) + i % 16 = i := Nat.div_add_mod i 16
  have hmod : i % 16 < 16 := Nat.mod_lt i (by decide)
  obtain ⟨hhigh, hlow, -⟩ := hdata.byte (i % 16) hmod data[i]
    (by rw [hplace, List.getElem?_eq_getElem hi])
  obtain ⟨hhigh', hlow', -⟩ := hother.byte (i % 16) hmod other[i]
    (by rw [hplace, List.getElem?_eq_getElem hi'])
  have hbyte := data[i].toNat_lt
  have hbyte' := other[i].toNat_lt
  have hquotient := lowerDigits_inj (by omega) (by omega) (hhigh.symm.trans hhigh')
  have hremainder := lowerDigits_inj (by omega) (by omega) (hlow.symm.trans hlow')
  rw [← UInt8.toNat_inj]
  omega

theorem heading_inj {size more : Nat} (h : heading size = heading more) : size = more := by
  have hfirst := congrArg String.toList (List.cons.inj h).1
  simp only [String.toList_append, List.append_cancel_right_eq,
    List.append_cancel_left_eq] at hfirst
  unfold Numeral.decimal at hfirst
  rw [String.toList_ofList, String.toList_ofList] at hfirst
  exact (Numeral.digits_inj (by decide) (by decide)).mp hfirst

/-- No two byte strings have the same dump. -/
theorem eq_of_text_eq {uses later : Uses}
    (h : (Renderer.hexDump.render data).text uses = (Renderer.hexDump.render other).text later) :
    data = other := by
  rw [(Renderer.yields_hexDump data).text, (Renderer.yields_hexDump other).text,
    encodeChars_tabbed_inj
    (fun line hline => not_mem_of_printable (printable_dump data line hline))
    (fun line hline => not_mem_of_printable (printable_dump other line hline))] at h
  have hlines := List.map_injective_iff.mpr (fun _ _ => String.toList_inj.mp) h
  obtain ⟨hheading, hrows⟩ := List.append_inj hlines rfl
  have hlength := heading_inj hheading
  apply eq_of_shows hlength
  intro r hr
  refine ⟨_, shows_row data r, ?_⟩
  have hline := rows_getElem? 0 data r hr
  rw [hrows, rows_getElem? 0 other r (hlength ▸ hr), Option.some.injEq, String.ofList_inj] at hline
  rw [Nat.zero_add] at hline
  exact hline ▸ shows_row other r

end

/-- The dump of any bytes is a heading of three lines, which starts with their number, and a row for every
sixteen of them, each after a tab. A row is seventy-four characters wide. It shows each of its bytes in
two hexadecimal digits and, if it can be printed, as itself; it starts with its offset in at least four
digits, and it is blank where there is no byte, as long as the offset leaves the cells free. To put it
together by overwriting takes no column that is not there; the offset would need more than
seventy-three digits for that. What a dump is of can be told from it. -/
theorem dump_shows_bytes :
    (∃ ruler rule : List Char, '\n' ∉ ruler ∧ '\n' ∉ rule ∧ ∀ data uses,
      ((Renderer.hexDump.render data).run { uses }).1 = .ok () ∧
      ∃ rows : List (List Char),
        (Renderer.hexDump.render data).text uses = Utf8.encodeChars (tabbed
          (("Hexdump of " ++ Numeral.decimal data.length ++ " bytes:").toList ::
            ruler :: rule :: rows)) ∧
        rows.length = (data.length + 15) / 16 ∧
        ∀ r line, rows[r]? = some line → Shows data r line ∧
          (16 * r < 16 ^ 73 →
            assemble? (16 * r) ((data.drop (16 * r)).take 16) = some line)) ∧
    ∀ data other uses later,
      (Renderer.hexDump.render data).text uses = (Renderer.hexDump.render other).text later →
      data = other := by
  refine ⟨⟨_, _, ?_, ?_, fun data uses => ⟨?_,
    (rows 0 data).map String.toList, (Renderer.yields_hexDump data).text uses, ?_, ?_⟩⟩, ?_⟩
  · decide +kernel
  · decide +kernel
  · exact congrArg Prod.fst (Renderer.yields_hexDump data { uses } rfl)
  · rw [List.length_map, length_rows]
  · intro r line hline
    have hr : 16 * r < data.length := by
      have hlt := (List.getElem?_eq_some_iff.mp hline).1
      rw [List.length_map, length_rows] at hlt
      omega
    rw [List.getElem?_map, rows_getElem? 0 data r hr, Option.map_some, String.toList_ofList,
      Nat.zero_add, Option.some.injEq] at hline
    subst hline
    exact ⟨shows_row data r, fun hoffset =>
      assemble?_eq (length_offsetText_le (k := 69) hoffset) (List.length_take_le _ _)⟩
  · exact fun _ _ _ _ => eq_of_text_eq

/-- A full row and one byte more. -/
def overfull : Bytes := List.replicate 16 0x00 ++ [0x41]

theorem dump_shows_bytes_overfull :
    ∃ rows last, (∃ heading,
        (Renderer.hexDump.render overfull).text {} = Utf8.encodeChars (tabbed (heading ++ rows))) ∧
      rows.length = 2 ∧ rows[1]? = some last ∧ last.length = 74 ∧
      ['+', '0', '0', '1', '0'] <+: last ∧
      last[8]? = some '4' ∧ last[9]? = some '1' ∧ last[58]? = some 'A' ∧
      last[11]? = some ' ' ∧ last[59]? = some ' ' := by
  obtain ⟨⟨ruler, rule, -, -, hdump⟩, -⟩ := dump_shows_bytes
  obtain ⟨-, rows, htext, hrows, hshows⟩ := hdump overfull {}
  have hcount : rows.length = 2 := hrows
  have hlast : rows[1]? = some rows[1] := List.getElem?_eq_getElem (by omega)
  obtain ⟨hshown, -⟩ := hshows 1 _ hlast
  obtain ⟨hhigh, hlow, hchar⟩ := hshown.byte 0 (by decide) 0x41 rfl
  obtain ⟨hgap, -, hblank⟩ := hshown.missing (by decide) 1 (by decide) (by decide)
  obtain ⟨digits, hprefix, hdigits, -⟩ := hshown.offset (by decide)
  have hsixteen : Numeral.digits 16 16 = ['1', '0'] := by decide +kernel
  rw [Nat.mul_one, hsixteen] at hdigits
  subst hdigits
  exact ⟨rows, rows[1], ⟨[_, _, _], htext⟩, hcount, hlast, hshown.width, hprefix, hhigh, hlow, hchar,
    hgap, hblank⟩

end HexDump
end EventLog
