import EventLog.Text.Utf8
import Mathlib.Tactic.SplitIfs

/-! Reading written text. The bytes of a character are read as one unit, whatever follows them, so
text is read back as it was written. -/
namespace EventLog.Utf8

/-- A character is not a surrogate. -/
theorem char_bounds (c : Char) :
    c.toNat < 0xD800 ∨ (0xDFFF < c.toNat ∧ c.toNat < 0x110000) := c.valid

theorem toNat_ofNat {n : Nat} (h : n < 256) : (UInt8.ofNat n).toNat = n := by
  simp only [UInt8.toNat_ofNat']
  omega

theorem ofNat_le_ofNat {m n : Nat} (hm : m < 256) (hn : n < 256) :
    UInt8.ofNat m ≤ UInt8.ofNat n ↔ m ≤ n := by
  rw [UInt8.le_iff_toNat_le, toNat_ofNat hm, toNat_ofNat hn]

theorem lead?_ofNat {n : Nat} (h : n < 256) :
    lead? (UInt8.ofNat n) =
      if n < 0x80 then some { more := 0, bits := n }
      else if n < 0xC2 then none
      else if n < 0xE0 then some { more := 1, bits := n - 0xC0 }
      else if n = 0xE0 then some { more := 2, low := 0xA0, bits := 0 }
      else if n = 0xED then some { more := 2, high := 0x9F, bits := 0xD }
      else if n < 0xF0 then some { more := 2, bits := n - 0xE0 }
      else if n = 0xF0 then some { more := 3, low := 0x90, bits := 0 }
      else if n < 0xF4 then some { more := 3, bits := n - 0xF0 }
      else if n = 0xF4 then some { more := 3, high := 0x8F, bits := 4 }
      else none := by
  simp only [lead?, toNat_ofNat h]

theorem following_cons {more n low high : Nat} (rest : Bytes) (hn : n < 256)
    (hlow : low ≤ n) (hhigh : n ≤ high) (hbyte : high < 256) :
    following (more + 1) (UInt8.ofNat low) (UInt8.ofNat high) (UInt8.ofNat n :: rest) =
      UInt8.ofNat n :: following more 0x80 0xBF rest := by
  rw [following, if_pos]
  exact ⟨(ofNat_le_ofNat (by omega) hn).2 hlow, (ofNat_le_ofNat hn hbyte).2 hhigh⟩

theorem following_continuation (more n : Nat) (rest : Bytes) :
    following (more + 1) 0x80 0xBF (UInt8.ofNat (0x80 + n % 0x40) :: rest) =
      UInt8.ofNat (0x80 + n % 0x40) :: following more 0x80 0xBF rest :=
  @following_cons more _ 0x80 0xBF rest (by omega) (by omega) (by omega) (by omega)

/-- A continuation byte carries six bits. -/
theorem continuation_bits {n : Nat} : (UInt8.ofNat (0x80 + n % 0x40)).toNat % 0x40 = n % 0x40 := by
  rw [toNat_ofNat (by omega)]
  omega

/-- A leading byte and as many bytes as it promises are one unit. -/
theorem unit_append {b : UInt8} {lead : Lead} {tail : Bytes} (rest : Bytes)
    (hlead : lead? b = some lead) (hlen : tail.length = lead.more)
    (htail : following lead.more lead.low lead.high (tail ++ rest) = tail) :
    unit b (tail ++ rest) = (some (Char.ofNat (tail.foldl
      (fun n b => n * 0x40 + b.toNat % 0x40) lead.bits)), tail.length) := by
  simp only [unit, hlead, htail, hlen, ↓reduceIte]

/-- What the leading byte promises of the byte after it: the bits of the character put that byte
within the range, also where the range rules out overlong forms and surrogates. -/
theorem lead?_three {n : Nat} (hlow : 0x800 ≤ n) (hhigh : n < 0x10000)
    (hchar : n < 0xD800 ∨ 0xDFFF < n) :
    ∃ low high, lead? (UInt8.ofNat (0xE0 + n / 0x1000)) =
        some { more := 2, low := UInt8.ofNat low, high := UInt8.ofNat high, bits := n / 0x1000 } ∧
      low ≤ 0x80 + n / 0x40 % 0x40 ∧ 0x80 + n / 0x40 % 0x40 ≤ high ∧ high < 256 := by
  rw [lead?_ofNat (by omega)]
  by_cases h0 : n / 0x1000 = 0
  · exact ⟨0xA0, 0xBF, by simp [h0], by omega, by omega, by omega⟩
  by_cases hD : n / 0x1000 = 0xD
  · exact ⟨0x80, 0x9F, by simp [hD], by omega, by omega, by omega⟩
  refine ⟨0x80, 0xBF, ?_, by omega, by omega, by omega⟩
  rw [if_neg (by omega), if_neg (by omega), if_neg (by omega), if_neg (by omega),
    if_neg (by omega), if_pos (by omega)]
  simp

theorem lead?_four {n : Nat} (hlow : 0x10000 ≤ n) (hhigh : n < 0x110000) :
    ∃ low high, lead? (UInt8.ofNat (0xF0 + n / 0x40000)) =
        some { more := 3, low := UInt8.ofNat low, high := UInt8.ofNat high, bits := n / 0x40000 } ∧
      low ≤ 0x80 + n / 0x1000 % 0x40 ∧ 0x80 + n / 0x1000 % 0x40 ≤ high ∧ high < 256 := by
  rw [lead?_ofNat (by omega)]
  by_cases h0 : n / 0x40000 = 0
  · exact ⟨0x90, 0xBF, by simp [h0], by omega, by omega, by omega⟩
  by_cases h4 : n / 0x40000 = 4
  · exact ⟨0x80, 0x8F, by simp [h4], by omega, by omega, by omega⟩
  refine ⟨0x80, 0xBF, ?_, by omega, by omega, by omega⟩
  rw [if_neg (by omega), if_neg (by omega), if_neg (by omega), if_neg (by omega),
    if_neg (by omega), if_neg (by omega), if_neg (by omega), if_pos (by omega)]
  simp

/-- The bytes of a character are one unit, whatever follows them. -/
theorem unit_encodeChar (c : Char) (rest : Bytes) :
    ∃ b tail, encodeChar c = b :: tail ∧ unit b (tail ++ rest) = (some c, tail.length) := by
  have hc := char_bounds c
  simp only [encodeChar]
  by_cases h1 : c.toNat < 0x80
  · refine ⟨_, [], if_pos h1, ?_⟩
    have hlead : lead? (UInt8.ofNat c.toNat) = some { more := 0, bits := c.toNat } := by
      rw [lead?_ofNat (by omega), if_pos h1]
    rw [unit_append rest hlead rfl rfl]
    simp
  rw [if_neg h1]
  by_cases h2 : c.toNat < 0x800
  · refine ⟨_, _, if_pos h2, ?_⟩
    have hlead : lead? (UInt8.ofNat (0xC0 + c.toNat / 0x40)) =
        some { more := 1, bits := c.toNat / 0x40 } := by
      rw [lead?_ofNat (by omega), if_neg (by omega), if_neg (by omega), if_pos (by omega)]
      simp
    rw [unit_append rest hlead rfl (following_continuation 0 _ _)]
    simp only [List.foldl_cons, List.foldl_nil, continuation_bits]
    rw [show c.toNat / 0x40 * 0x40 + c.toNat % 0x40 = c.toNat by omega, Char.ofNat_toNat]
  rw [if_neg h2]
  by_cases h3 : c.toNat < 0x10000
  · obtain ⟨low, high, hlead, hlow, hhigh, hbyte⟩ := lead?_three (by omega) h3 (by omega)
    refine ⟨_, _, if_pos h3, ?_⟩
    rw [unit_append rest hlead rfl ?_]
    · simp only [List.foldl_cons, List.foldl_nil, continuation_bits]
      rw [show (c.toNat / 0x1000 * 0x40 + c.toNat / 0x40 % 0x40) * 0x40 + c.toNat % 0x40 = c.toNat
        by omega, Char.ofNat_toNat]
    · simp only [List.cons_append, List.nil_append]
      rw [following_cons _ (by omega) hlow hhigh hbyte, following_continuation]
      rfl
  rw [if_neg h3]
  obtain ⟨low, high, hlead, hlow, hhigh, hbyte⟩ := lead?_four (n := c.toNat) (by omega) (by omega)
  refine ⟨_, _, rfl, ?_⟩
  rw [unit_append rest hlead rfl ?_]
  · simp only [List.foldl_cons, List.foldl_nil, continuation_bits]
    rw [show ((c.toNat / 0x40000 * 0x40 + c.toNat / 0x1000 % 0x40) * 0x40 + c.toNat / 0x40 % 0x40) *
      0x40 + c.toNat % 0x40 = c.toNat by omega, Char.ofNat_toNat]
  · simp only [List.cons_append, List.nil_append]
    rw [following_cons _ (by omega) hlow hhigh hbyte, following_continuation,
      following_continuation]
    rfl

theorem units_encodeChar_append (c : Char) (rest : Bytes) :
    units (encodeChar c ++ rest) = some c :: units rest := by
  obtain ⟨b, tail, hc, hunit⟩ := unit_encodeChar c rest
  rw [hc, List.cons_append, units, hunit]
  simp

theorem units_encodeChars (cs : List Char) : units (encodeChars cs) = cs.map some := by
  induction cs with
  | nil => simp [encodeChars, units]
  | cons c cs ih =>
    rw [encodeChars, List.flatMap_cons, units_encodeChar_append, ← encodeChars, ih, List.map_cons]

theorem encodeChars_append (first second : List Char) :
    encodeChars (first ++ second) = encodeChars first ++ encodeChars second :=
  List.flatMap_append

theorem encodeChar_eq (c : Char) : encodeChar c = String.utf8EncodeChar c := by
  have hc := char_bounds c
  have hcode : c.val.toNat = c.toNat := rfl
  unfold encodeChar String.utf8EncodeChar
  simp only [hcode, ← Nat.lt_succ_iff, Nat.succ_eq_add_one, Nat.reduceAdd]
  split_ifs
  · rfl
  all_goals
    simp only [List.cons.injEq, and_true]
    repeat' constructor
  all_goals
    congr 1
    omega

theorem isValidUTF8_encodeChars (cs : List Char) : (encodeChars cs).toByteArray.IsValidUTF8 := by
  refine .intro cs ?_
  unfold encodeChars List.utf8Encode
  rw [funext encodeChar_eq]

/-- Nothing has to be replaced in written text. -/
theorem lossy_encodeChars (cs : List Char) : lossy (encodeChars cs) = String.ofList cs := by
  rw [lossy, units_encodeChars, List.map_map]
  simp [Function.comp_def]

/-- Written text is read back. -/
@[simp] theorem decode?_encode (text : String) : decode? (encode text) = some text := by
  have hsome (cs : List Char) : (cs.map some).mapM id = some cs := by
    induction cs with
    | nil => rfl
    | cons c cs ih => simp [ih]
  rw [decode?, encode, units_encodeChars, hsome]
  simp

@[simp] theorem encode_eq_nil {text : String} : encode text = [] ↔ text = "" := by
  constructor
  · intro h
    have hdecode := decode?_encode text
    rw [h] at hdecode
    simpa [decode?, units, eq_comm] using hdecode
  · rintro rfl
    rfl

end EventLog.Utf8
