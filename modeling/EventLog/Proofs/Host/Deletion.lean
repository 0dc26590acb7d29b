import EventLog.Proofs.Host.Crew

/-! The deletion of a buffer, taken apart. It takes a full lock, removes the buffer and gives the lock
back; other threads may act in between. -/
namespace EventLog

/-- What a thread does at one go: an action, or, under its full lock, the removal of a buffer. Moves do
not overlap, so an event is checked and written with no other move in between. -/
inductive Move where
  | act (action : Action)
  | remove (id : Nat)

/-- The store when the holder of this guard has removed a buffer. -/
def Store.removed (store : Store) (guard : Option Guard) (id : Nat) : Store :=
  if guard.any Guard.isFull && (store.table.get? id).isSome then
    { store with table := store.table.remove id }
  else store

theorem Store.Phase.removed {store : Store} {me : ThreadId} {guard : Option Guard}
    (h : store.Phase me guard) (owner : Option Guard) (id : Nat) :
    (store.removed owner id).Phase me guard := by
  unfold Store.removed
  split
  · exact h.remove id
  · exact h

namespace Crew

/-- A thread makes a move. -/
def move (crew : Crew) (turn : ThreadId × Move) : Crew :=
  match turn.2 with
  | .act action => crew.step (turn.1, action)
  | .remove id =>
    { crew with
      host := crew.host.withStore (crew.host.store.removed (crew.worker turn.1).guard id) }

def moves (crew : Crew) (turns : List (ThreadId × Move)) : Crew := turns.foldl move crew

/-- The moves that a deletion is made of. -/
def deletion (me : ThreadId) (id : Nat) : List (ThreadId × Move) :=
  [(me, .act (.lock true)), (me, .remove id), (me, .act .unlock)]

section
variable {crew : Crew}

theorem moves_append (crew : Crew) (early late : List (ThreadId × Move)) :
    crew.moves (early ++ late) = (crew.moves early).moves late := List.foldl_append

theorem moves_concat (crew : Crew) (turns : List (ThreadId × Move)) (turn : ThreadId × Move) :
    crew.moves (turns ++ [turn]) = (crew.moves turns).move turn := by
  rw [moves_append]
  rfl

theorem Sound.move (h : crew.Sound) (turn : ThreadId × Move) : (crew.move turn).Sound := by
  obtain ⟨me, act | id⟩ := turn
  · exact h.step (me, act)
  · obtain ⟨holder, hphase, hothers⟩ := h.phase
    exact ⟨h.id_worker, holder, hphase.removed _ id, hothers⟩

theorem Sound.moves (h : crew.Sound) (turns : List (ThreadId × Move)) :
    (crew.moves turns).Sound := by
  induction turns generalizing crew with
  | nil => exact h
  | cons turn turns ih => exact ih (h.move turn)

/-- A thread without a guard deletes a buffer by these moves, if nothing comes in between. -/
theorem step_delete {me : ThreadId} (hfree : (crew.worker me).guard = none) (id : Nat) :
    (crew.step (me, .delete id)).host.store = (crew.moves (deletion me id)).host.store ∧
      (crew.step (me, .delete id)).worker = (crew.moves (deletion me id)).worker := by
  have hworker : (crew.step (me, .delete id)).worker = crew.worker :=
    worker_step_eq (Host.worker_changed _ _ _ _ _)
  rw [hworker, store_step]
  unfold Host.storeAfter Store.delete Store.underLock
  dsimp only [deletion, moves, List.foldl_cons, List.foldl_nil, move, step, Host.perform]
  rcases Store.lockGlobal_cases crew.host.store (crew.worker me).id true with
    ⟨fault, herror⟩ | ⟨-, -, -, ⟨hsimple, -⟩ | ⟨-, table, -, hfull⟩⟩
  · -- The lock is refused, so there is no guard to remove the buffer under or to give back.
    rw [herror]
    dsimp only
    rw [Function.update_eq_self, hfree, Function.update_eq_self]
    exact ⟨rfl, rfl⟩
  · cases hsimple
  · rw [hfull]
    dsimp only
    rw [Function.update_self, Function.update_idem]
    refine ⟨?_, ?_⟩
    · unfold Host.withStore Store.removed Store.fullyLocked
      dsimp only
      cases table.get? id with
      | none => rfl
      | some ring => rfl
    · have hself : { crew.worker me with guard := none } = crew.worker me := by rw [← hfree]
      rw [hself, Function.update_eq_self]

end
end Crew
end EventLog
