import EventLog.Store.Table
import Mathlib.Data.List.Forall2
import Mathlib.Order.Basic

/-! What the operations of the table do to the ring that an id names. -/
namespace EventLog

/-- A map of which every step succeeds. -/
theorem mapM_eq_pure {m : Type → Type} [Monad m] [LawfulMonad m] {α β : Type} {f : α → m β}
    {g : α → β} {l : List α} (h : ∀ a ∈ l, f a = pure (g a)) : l.mapM f = pure (l.map g) := by
  induction l with
  | nil => rfl
  | cons a l ih =>
    rw [List.mapM_cons, h a List.mem_cons_self, ih fun b hb => h b (List.mem_cons_of_mem _ hb)]
    simp

theorem forall₂_of_mapM {α β : Type} {f : α → Option β} {l : List α} {l' : List β}
    (h : l.mapM f = some l') : List.Forall₂ (fun a b => f a = some b) l l' := by
  induction l generalizing l' with
  | nil =>
    obtain rfl : [] = l' := Option.some.inj h
    exact .nil
  | cons a l ih =>
    rw [List.mapM_cons, Option.bind_eq_bind, Option.bind_eq_some_iff] at h
    obtain ⟨b, hb, hrest⟩ := h
    rw [Option.bind_eq_bind, Option.bind_eq_some_iff] at hrest
    obtain ⟨bs, hbs, hl'⟩ := hrest
    obtain rfl : b :: bs = l' := Option.some.inj hl'
    exact .cons hb (ih hbs)

namespace Table

section
variable {table next : Table} {f : Ring → Ring} {id other : Nat} {ring found : Ring}

theorem lt_size (h : table.get? id = some ring) : id < table.size := by
  unfold get? at h
  cases hentry : table.entries[id]? with
  | none => simp [hentry] at h
  | some entry => exact (List.getElem?_eq_some_iff.mp hentry).1

theorem get?_eq_getElem (h : id < table.entries.length) :
    table.get? id = table.entries[id] := by
  unfold get?
  rw [List.getElem?_eq_getElem h]
  rfl

@[simp] theorem get?_empty (size id : Nat) : (empty size).get? id = none := by
  unfold get? empty
  rw [List.getElem?_replicate]
  split <;> rfl

theorem get?_put_of_lt (h : id < table.size) :
    (table.put id ring).get? other = if other = id then some ring else table.get? other := by
  unfold get? put
  rw [List.getElem?_set]
  by_cases heq : id = other
  · rw [if_pos heq, if_pos (show id < table.entries.length from h), if_pos heq.symm]
    rfl
  · rw [if_neg heq, if_neg (Ne.symm heq)]

theorem get?_put_ne (h : other ≠ id) : (table.put id ring).get? other = table.get? other := by
  unfold get? put
  rw [List.getElem?_set_ne h.symm]

/-- A ring that takes the place of another leaves the same entries in use. -/
theorem isSome_get?_put (h : table.get? id = some found) (other : Nat) :
    ((table.put id ring).get? other).isSome = (table.get? other).isSome := by
  rw [get?_put_of_lt (lt_size h)]
  split
  · next heq =>
    rw [heq, h]
    rfl
  · rfl

/-- What is in the table after a ring was put there. -/
theorem eq_of_get?_put (h : (table.put id ring).get? other = some found) :
    other = id ∧ found = ring ∨ other ≠ id ∧ table.get? other = some found := by
  by_cases heq : other = id
  · subst heq
    have hlt : other < table.size := by simpa [put, size] using lt_size h
    rw [get?_put_of_lt hlt, if_pos rfl] at h
    exact .inl ⟨rfl, (Option.some.inj h).symm⟩
  · rw [get?_put_ne heq] at h
    exact .inr ⟨heq, h⟩

@[simp] theorem get?_mapRings (f : Ring → Ring) (table : Table) (id : Nat) :
    (table.mapRings f).get? id = (table.get? id).map f := by
  unfold get? mapRings
  rw [List.getElem?_map]
  cases table.entries[id]? with
  | none => rfl
  | some entry => rfl

@[simp] theorem get?_mapAt (ids : List Nat) (f : Ring → Ring) (table : Table) (id : Nat) :
    (table.mapAt ids f).get? id =
      if id ∈ ids then (table.get? id).map f else table.get? id := by
  unfold get? mapAt
  rw [List.getElem?_map, List.getElem?_zipIdx]
  cases table.entries[id]? with
  | none => simp
  | some entry =>
    by_cases h : id ∈ ids
    · simp [h]
    · simp [h]

theorem get?_add (h : table.free? = some id) :
    (table.add id ring).get? other = if other = id then some ring else table.get? other := by
  have hlt : id < table.size := (List.findIdx?_eq_some_iff_getElem.mp h).1
  exact get?_put_of_lt hlt

@[simp] theorem get?_remove (table : Table) (id other : Nat) :
    (table.remove id).get? other = if other = id then none else table.get? other := by
  have hentries : (table.remove id).entries = table.entries.set id none := by
    unfold remove
    dsimp only
    split <;> rfl
  unfold get?
  rw [hentries, List.getElem?_set]
  by_cases heq : id = other
  · rw [if_pos heq, if_pos heq.symm]
    split <;> rfl
  · rw [if_neg heq, if_neg (Ne.symm heq)]

theorem mem_present : (id, ring) ∈ table.present ↔ table.get? id = some ring := by
  unfold present get?
  simp only [List.mem_filterMap, Prod.exists, List.mem_zipIdx_iff_getElem?, Option.map_eq_some_iff,
    Prod.mk.injEq, Option.join_eq_some_iff]
  constructor
  · rintro ⟨entry, index, hentry, kept, rfl, rfl, rfl⟩
    exact hentry
  · intro h
    exact ⟨some ring, id, h, ring, rfl, rfl, rfl⟩

theorem mem_ids (h : table.get? id = some ring) : id ∈ table.ids :=
  List.mem_map.mpr ⟨_, mem_present.mpr h, rfl⟩

theorem size_of_mapRings? {f? : Ring → Option Ring} (h : table.mapRings? f? = some next) :
    next.size = table.size := by
  unfold mapRings? at h
  obtain ⟨entries, hentries, rfl⟩ := Option.map_eq_some_iff.mp h
  exact (forall₂_of_mapM hentries).length_eq.symm

theorem default_of_mapRings? {f? : Ring → Option Ring} (h : table.mapRings? f? = some next) :
    next.default = table.default := by
  unfold mapRings? at h
  obtain ⟨entries, -, rfl⟩ := Option.map_eq_some_iff.mp h
  rfl

theorem rel_of_mapRings? {f? : Ring → Option Ring} (h : table.mapRings? f? = some next)
    (id : Nat) :
    Option.Rel (fun ring changed => f? ring = some changed) (table.get? id) (next.get? id) := by
  have hsize := size_of_mapRings? h
  unfold mapRings? at h
  obtain ⟨entries, hentries, rfl⟩ := Option.map_eq_some_iff.mp h
  by_cases hlt : id < table.entries.length
  · have hlt' : id < entries.length := hsize.trans_gt hlt
    have hentry := (forall₂_of_mapM hentries).get hlt hlt'
    have hget' : Table.get? { table with entries } id = entries[id] := get?_eq_getElem hlt'
    rw [get?_eq_getElem hlt, hget']
    simp only [List.get_eq_getElem] at hentry
    cases hold : table.entries[id] with
    | none =>
      rw [hold] at hentry
      rw [← Option.some.inj hentry]
      exact .none
    | some ring =>
      rw [hold] at hentry
      obtain ⟨changed, hring, heq⟩ := Option.map_eq_some_iff.mp hentry
      rw [← heq]
      exact .some hring
  · have hnone : table.get? id = none := by
      rw [get?, List.getElem?_eq_none (Nat.le_of_not_lt hlt)]
      rfl
    have hnone' : Table.get? { table with entries } id = none := by
      rw [get?, List.getElem?_eq_none (hsize.trans_le (Nat.le_of_not_lt hlt))]
      rfl
    rw [hnone, hnone']
    exact .none

theorem get?_of_mapRings? {f? : Ring → Option Ring} (h : table.mapRings? f? = some next)
    (hget : next.get? id = some ring) : ∃ old, table.get? id = some old ∧ f? old = some ring := by
  have hring := rel_of_mapRings? h id
  rw [hget] at hring
  generalize table.get? id = old at hring ⊢
  cases hring with
  | some hring => exact ⟨_, rfl, hring⟩

theorem mapAt_eq_mapRings {ids : List Nat}
    (h : ∀ id ring, table.get? id = some ring → id ∈ ids) :
    table.mapAt ids f = table.mapRings f := by
  unfold mapAt mapRings
  congr 1
  apply List.ext_getElem?
  intro id
  rw [List.getElem?_map, List.getElem?_map, List.getElem?_zipIdx]
  cases hentry : table.entries[id]? with
  | none => rfl
  | some entry =>
    cases entry with
    | none => simp
    | some ring =>
      have hmem : id ∈ ids := h id ring (by rw [get?, hentry]; rfl)
      simp [hmem]

theorem mapAt_nil (f : Ring → Ring) (table : Table) : table.mapAt [] f = table := by
  unfold mapAt
  congr 1
  apply List.ext_getElem?
  intro id
  rw [List.getElem?_map, List.getElem?_zipIdx]
  cases table.entries[id]? with
  | none => rfl
  | some entry => simp

end
end Table
end EventLog
