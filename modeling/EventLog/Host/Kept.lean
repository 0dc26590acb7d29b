import EventLog.Store.Table

/-! Rings kept under keys by their users. A kept ring outlives its removal from the table: until then
it is the ring in the table, and afterwards it goes on by itself. -/
namespace EventLog

inductive Handle where
  | stored (id : Nat)
  | detached (index : Nat)
  deriving DecidableEq, Repr

structure Kept where
  handles : List (String × Handle) := []
  detached : List Ring := []

namespace Kept

def keep (kept : Kept) (key : String) (id : Nat) : Kept :=
  { kept with handles := (key, .stored id) :: kept.handles.filter fun h => h.1 != key }

/-- Takes over a ring that leaves the table, if anyone keeps it. All its keys stay keys of one ring. -/
def detach (kept : Kept) (id : Nat) (ring : Ring) : Kept :=
  if kept.handles.any fun h => h.2 == .stored id then
    { handles := kept.handles.map fun h =>
        if h.2 = .stored id then (h.1, .detached kept.detached.length) else h
      detached := kept.detached ++ [ring] }
  else kept

/-- Takes over every ring that is in the old table and not in the new one. -/
def follow (kept : Kept) (old new : Table) : Kept :=
  old.present.foldl
    (fun kept entry => if (new.get? entry.1).isNone then kept.detach entry.1 entry.2 else kept) kept

end Kept
end EventLog
