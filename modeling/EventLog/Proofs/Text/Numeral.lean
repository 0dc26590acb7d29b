import EventLog.Text.Numeral
import Mathlib.Algebra.Ring.Nat
import Mathlib.Data.List.Induction

/-! Numerals and what is read of them. The grammar says which texts are numerals, and of which value; a
text is read exactly when it is one, and its value is within the bound. What is written is a numeral. -/
namespace EventLog.Numeral

def lowerDigits : List Char :=
  ['0', '1', '2', '3', '4', '5', '6', '7', '8', '9', 'a', 'b', 'c', 'd', 'e', 'f']

def upperDigits : List Char :=
  ['0', '1', '2', '3', '4', '5', '6', '7', '8', '9', 'A', 'B', 'C', 'D', 'E', 'F']

/-- The character is the digit `d` of a base up to sixteen; letters are of either case. -/
def IsDigit (base : Nat) (c : Char) (d : Nat) : Prop :=
  d < base ∧ (lowerDigits[d]? = some c ∨ upperDigits[d]? = some c)

/-- One digit or more, the first of them counting most. -/
inductive Digits (base : Nat) : List Char → Nat → Prop
  | one {c : Char} {d : Nat} (hc : IsDigit base c d) : Digits base [c] d
  | more {ds : List Char} {n : Nat} {c : Char} {d : Nat} (hds : Digits base ds n)
      (hc : IsDigit base c d) : Digits base (ds ++ [c]) (n * base + d)

/-- Digits, or digits after a plus sign. -/
inductive Spells (base : Nat) : List Char → Nat → Prop
  | bare {ds : List Char} {n : Nat} (hds : Digits base ds n) : Spells base ds n
  | signed {ds : List Char} {n : Nat} (hds : Digits base ds n) : Spells base ('+' :: ds) n

section
variable {base bound start n d : Nat} {c : Char} {cs ds : List Char}

theorem lowerDigits_eq (hd : d < 16) : lowerDigits[d]? = some (digitChar d) := by
  have hall : ∀ d < 16, lowerDigits[d]? = some (digitChar d) := by decide
  exact hall d hd

theorem isDigit_digitChar (hd : d < base) (hbase : base ≤ 16) : IsDigit base (digitChar d) d :=
  ⟨hd, .inl (lowerDigits_eq (by omega))⟩

/-- The places of a character in the rows of digits, by its code. -/
theorem isDigit_iff (hbase : base ≤ 16) :
    IsDigit base c d ↔ d < base ∧ (d < 10 ∧ c.toNat = 0x30 + d ∨
      10 ≤ d ∧ (c.toNat = 0x57 + d ∨ c.toNat = 0x37 + d)) := by
  have hlower : ∀ d < 16, lowerDigits[d]?.map Char.toNat =
      some (if d < 10 then 0x30 + d else 0x57 + d) := by decide
  have hupper : ∀ d < 16, upperDigits[d]?.map Char.toNat =
      some (if d < 10 then 0x30 + d else 0x37 + d) := by decide
  have hcode (row : List Char) (code : Nat) (hrow : row[d]?.map Char.toNat = some code) :
      row[d]? = some c ↔ c.toNat = code := by
    obtain ⟨c', hc', rfl⟩ := Option.map_eq_some_iff.mp hrow
    rw [hc', Option.some.injEq, ← Char.toNat_inj]
    exact eq_comm
  unfold IsDigit
  apply and_congr_right
  intro hd
  rw [hcode _ _ (hlower d (by omega)), hcode _ _ (hupper d (by omega))]
  split <;> omega

theorem digitValue?_eq_some_iff (hbase : base ≤ 16) :
    digitValue? base c = some d ↔ IsDigit base c d := by
  rw [isDigit_iff hbase]
  unfold digitValue?
  simp only [Option.filter_eq_some_iff, decide_eq_true_eq]
  split_ifs <;> simp <;> omega

theorem value?_concat (base start : Nat) (cs : List Char) (c : Char) :
    value? base start (cs ++ [c]) =
      (value? base start cs).bind fun n => (digitValue? base c).map (n * base + ·) := by
  induction cs generalizing start with
  | nil =>
    simp only [List.nil_append, value?, Option.bind_some]
    cases digitValue? base c <;> rfl
  | cons b cs ih =>
    simp only [List.cons_append, value?]
    cases digitValue? base b with
    | none => rfl
    | some d => exact ih _

/-- Reading from left to right finds the value of the digits. -/
theorem digits_iff (hbase : base ≤ 16) :
    Digits base cs n ↔ cs ≠ [] ∧ value? base 0 cs = some n := by
  constructor
  · intro h
    induction h with
    | one hc => simp [value?, (digitValue?_eq_some_iff hbase).mpr hc]
    | more _ hc ih =>
      simp [value?_concat, ih.2, (digitValue?_eq_some_iff hbase).mpr hc]
  · rintro ⟨hne, hvalue⟩
    induction cs using List.reverseRecOn generalizing n with
    | nil => exact absurd rfl hne
    | append_singleton cs c ih =>
      rw [value?_concat] at hvalue
      obtain ⟨m, hm, hlast⟩ := Option.bind_eq_some_iff.mp hvalue
      obtain ⟨d, hd, rfl⟩ := Option.map_eq_some_iff.mp hlast
      have hc := (digitValue?_eq_some_iff hbase).mp hd
      by_cases hcs : cs = []
      · subst hcs
        obtain rfl : 0 = m := Option.some.inj hm
        simpa using Digits.one hc
      · exact .more (ih hcs hm) hc

theorem Digits.ne_nil (h : Digits base ds n) : ds ≠ [] := by
  cases h <;> simp

theorem Digits.isDigit_of_mem (h : Digits base ds n) (hc : c ∈ ds) : ∃ d, IsDigit base c d := by
  induction h with
  | one hd =>
    obtain rfl := List.mem_singleton.mp hc
    exact ⟨_, hd⟩
  | more _ hd ih =>
    rcases List.mem_append.mp hc with hc | hc
    · exact ih hc
    · obtain rfl := List.mem_singleton.mp hc
      exact ⟨_, hd⟩

theorem ne_plus_of_isDigit (hbase : base ≤ 16) (hc : IsDigit base c d) : c ≠ '+' := by
  rintro rfl
  have hcode := ((isDigit_iff hbase).mp hc).2
  rw [show '+'.toNat = 0x2B from rfl] at hcode
  omega

/-- Digits do not start with a sign. -/
theorem Digits.withoutPlus_eq (hbase : base ≤ 16) (h : Digits base ds n) : withoutPlus ds = ds := by
  have hhead : ds.head? ≠ some '+' := by
    induction h with
    | one hc => simpa using ne_plus_of_isDigit hbase hc
    | more hds _ ih =>
      obtain ⟨b, rest, rfl⟩ := List.exists_cons_of_ne_nil ((digits_iff hbase).mp hds).1
      exact ih
  unfold withoutPlus
  split
  · exact absurd rfl hhead
  · rfl

/-- A text is read exactly if it is a numeral and its value is within the bound. -/
theorem read?_eq_some_iff (hbase : base ≤ 16) :
    read? base bound cs = some n ↔ Spells base cs n ∧ n < bound := by
  have hread : read? base bound cs = some n ↔ Digits base (withoutPlus cs) n ∧ n < bound := by
    rw [digits_iff hbase]
    unfold read?
    split
    · next hnil => simp [hnil]
    · next hne =>
      have hcs : withoutPlus cs ≠ [] := fun hnil => hne hnil
      simp [Option.filter_eq_some_iff, hcs]
  rw [hread]
  apply and_congr_left
  intro _
  constructor
  · intro h
    unfold withoutPlus at h
    split at h
    · exact .signed h
    · exact .bare h
  · intro h
    cases h with
    | bare hds => rwa [hds.withoutPlus_eq hbase]
    | signed hds => exact hds

/-- What is written in a base is read back. -/
theorem digits_digits (hbase : base ≤ 16) (htwo : 2 ≤ base) (n : Nat) :
    Digits base (digits base n) n := by
  fun_induction digits base n with
  | case1 n hsmall => exact .one (isDigit_digitChar (by omega) hbase)
  | case2 n hlarge ih =>
    have hlast := isDigit_digitChar (Nat.mod_lt n (show 0 < base by omega)) hbase
    have hvalue : n / base * base + n % base = n := Nat.div_add_mod' n base
    have hall := ih.more hlast
    rwa [hvalue] at hall

theorem Digits.zero_cons (hpos : 0 < base) (h : Digits base ds n) : Digits base ('0' :: ds) n := by
  have hzero : IsDigit base '0' 0 := ⟨hpos, .inl rfl⟩
  induction h with
  | one hc => simpa using Digits.more (.one hzero) hc
  | more _ hc ih => exact .more ih hc

/-- Zeros in front change nothing. -/
theorem Digits.padded (hpos : 0 < base) (width : Nat) (h : Digits base ds n) :
    Digits base (Numeral.padded width ds) n := by
  unfold Numeral.padded
  induction width - ds.length with
  | zero => exact h
  | succ k ih => exact ih.zero_cons hpos

theorem length_digits_le {k : Nat} (hn : n < base ^ (k + 1)) :
    (digits base n).length ≤ k + 1 := by
  induction k generalizing n with
  | zero =>
    unfold digits
    rw [dif_pos (.inl (by simpa using hn))]
    exact Nat.le_refl 1
  | succ k ih =>
    unfold digits
    split
    · exact Nat.le_add_left 1 (k + 1)
    · have hquotient := ih (n := n / base) (Nat.div_lt_of_lt_mul (by rwa [← Nat.pow_succ']))
      rw [List.length_append, List.length_singleton]
      omega

theorem digits_inj (hbase : base ≤ 16) (htwo : 2 ≤ base) {m : Nat} :
    digits base n = digits base m ↔ n = m := by
  constructor
  · intro h
    have hn := ((digits_iff hbase).mp (digits_digits hbase htwo n)).2
    have hm := ((digits_iff hbase).mp (digits_digits hbase htwo m)).2
    rw [h, hm] at hn
    exact (Option.some.inj hn).symm
  · rintro rfl
    rfl

end
end EventLog.Numeral
