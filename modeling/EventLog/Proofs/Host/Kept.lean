import EventLog.Proofs.Host.Effect

/-! Rings that are kept outside the store. A ring that leaves the table goes on by itself, as it was
then, for everyone who keeps it, and nothing that is done to the store reaches it any more. -/
namespace EventLog

namespace Kept

/-- The ring under the key has left the table, and goes on by itself. -/
def Apart (kept : Kept) (key : String) (ring : Ring) : Prop :=
  ∃ index, kept.handles.lookup key = some (.detached index) ∧ kept.detached[index]? = some ring

section
variable {kept : Kept} {key : String} {id : Nat} {ring : Ring}

theorem lookup_keep (kept : Kept) (key : String) (id : Nat) :
    (kept.keep key id).handles.lookup key = some (.stored id) := by
  simp [keep]

theorem lookup_map (handles : List (String × Handle)) (key : String) (change : Handle → Handle) :
    (handles.map fun h => (h.1, change h.2)).lookup key = (handles.lookup key).map change := by
  induction handles with
  | nil => rfl
  | cons h handles ih =>
    rw [List.map_cons, List.lookup_cons, List.lookup_cons, ih]
    cases key == h.1 <;> rfl

theorem any_of_lookup {handle : Handle} (h : kept.handles.lookup key = some handle) :
    (kept.handles.any fun entry => entry.2 == handle) = true := by
  obtain ⟨before, after, heq, -⟩ := List.lookup_eq_some_iff.mp h
  simp [heq]

/-- The keys of the ring that leaves become keys of it by itself, the others stay what they are. -/
theorem lookup_detach (kept : Kept) (id : Nat) (ring : Ring) (key : String) :
    (kept.detach id ring).handles.lookup key = (kept.handles.lookup key).map fun handle =>
      if handle = .stored id then .detached kept.detached.length else handle := by
  unfold detach
  split
  · rw [← lookup_map]
    congr 1
    apply List.map_congr_left
    intro h _
    split <;> rfl
  · next hnone =>
    cases hlookup : kept.handles.lookup key with
    | none => rfl
    | some handle =>
      have hne : handle ≠ .stored id := by
        rintro rfl
        exact hnone (any_of_lookup hlookup)
      rw [Option.map_some, if_neg hne]

theorem apart_detach (h : kept.handles.lookup key = some (.stored id)) (ring : Ring) :
    (kept.detach id ring).Apart key ring := by
  refine ⟨kept.detached.length, ?_, ?_⟩
  · rw [lookup_detach, h, Option.map_some, if_pos rfl]
  · unfold detach
    rw [if_pos (any_of_lookup h)]
    exact List.getElem?_concat_length

theorem Apart.detach (h : kept.Apart key ring) (id : Nat) (another : Ring) :
    (kept.detach id another).Apart key ring := by
  obtain ⟨index, hlookup, hring⟩ := h
  refine ⟨index, ?_, ?_⟩
  · rw [lookup_detach, hlookup, Option.map_some, if_neg nofun]
  · unfold Kept.detach
    split
    · exact (List.getElem?_append_left (List.getElem?_eq_some_iff.mp hring).1).trans hring
    · exact hring

theorem Apart.leave (h : kept.Apart key ring) (new : Table) (entries : List (Nat × Ring)) :
    (entries.foldl (fun kept entry =>
      if (new.get? entry.1).isNone then kept.detach entry.1 entry.2 else kept) kept).Apart
        key ring := by
  induction entries generalizing kept with
  | nil => exact h
  | cons entry entries ih =>
    rw [List.foldl_cons]
    split
    · exact ih (h.detach _ _)
    · exact ih h

theorem Apart.follow (h : kept.Apart key ring) (old new : Table) :
    (kept.follow old new).Apart key ring :=
  h.leave new old.present

/-- A kept ring that leaves the table goes on as it was there. -/
theorem apart_follow (hlookup : kept.handles.lookup key = some (.stored id)) {old new : Table}
    (hold : old.get? id = some ring) (hnew : new.get? id = none) :
    (kept.follow old new).Apart key ring := by
  have hmem : (id, ring) ∈ old.present := Table.mem_present.mpr hold
  have hsame : ∀ entry ∈ old.present, entry.1 = id → entry.2 = ring := by
    rintro ⟨other, another⟩ hentry rfl
    exact Option.some.inj ((Table.mem_present.mp hentry).symm.trans hold)
  unfold Kept.follow
  generalize old.present = entries at hmem hsame
  -- Rings of other ids may leave before; the key stays with the id until its own ring does.
  induction entries generalizing kept with
  | nil => cases hmem
  | cons entry entries ih =>
    obtain ⟨other, another⟩ := entry
    rw [List.foldl_cons]
    by_cases heq : other = id
    · subst heq
      obtain rfl := hsame _ List.mem_cons_self rfl
      dsimp only
      rw [hnew]
      exact (apart_detach hlookup another).leave new entries
    · have hlater : (id, ring) ∈ entries :=
        (List.mem_cons.mp hmem).resolve_left fun h => heq (congrArg Prod.fst h).symm
      refine ih ?_ hlater fun entry hentry => hsame entry (List.mem_cons_of_mem _ hentry)
      split
      · rw [lookup_detach, hlookup, Option.map_some, if_neg]
        simpa using Ne.symm heq
      · exact hlookup

end
end Kept

namespace Host

section
variable {host : Host} {key : String} {id : Nat} {ring : Ring}

theorem kept?_of_apart (h : host.kept.Apart key ring) : host.kept? key = some ring := by
  obtain ⟨index, hlookup, hring⟩ := h
  unfold kept?
  rw [hlookup]
  exact hring

theorem hold_of_get? (hget : host.store.table.get? id = some ring) (key : String) :
    host.hold key id = (true, { host with kept := host.kept.keep key id }) := by
  unfold hold
  rw [hget]

/-- What is kept follows the rings that leave the table with an action. -/
theorem kept_perform (host : Host) (worker : Worker) (action : Action) :
    (host.perform worker action).host.kept =
      host.kept.follow host.store.table (host.storeAfter worker action).table := by
  have hsame : host.kept = host.kept.follow host.store.table host.store.table :=
    (host.kept.follow_eq_self fun _ _ hget => by rw [hget]; rfl).symm
  have hchanged {α : Type} (result : Except Fault α × Store) (answer : α → Answer)
      (notices : α → List Notice) : (host.changed worker result answer notices).host.kept =
        host.kept.follow host.store.table result.2.table := by
    obtain ⟨result, store⟩ := result
    cases result with
    | ok value => rfl
    | error fault => rfl
  have hseen {α : Type} (result : Except Fault α) (answer : α → Answer) :
      (host.seen worker result answer).host.kept =
        host.kept.follow host.store.table host.store.table := by
    cases result with
    | ok value => exact hsame
    | error fault => exact hsame
  cases action with
  | init _ _ | cleanup | create _ _ | delete _ | reset _ | resetAll | register _ | log _ _ _ =>
    exact hchanged _ _ _
  | snapshot _ | statuses => exact hseen _ _
  | lock full =>
    unfold perform storeAfter
    dsimp only
    split
    · next h =>
      rw [h]
      rfl
    · next h =>
      rw [h]
      rfl
  | unlock =>
    unfold perform storeAfter
    cases worker.guard with
    | some guard => rfl
    | none => exact hsame
  | leave =>
    unfold perform
    dsimp only
    split
    · exact hsame
    · exact hsame
  | session source room => rfl
  | _ => exact hsame

end
end Host
end EventLog
