import EventLog.Output
import EventLog.Renderer.Backtrace
import EventLog.Renderer.HexDump

/-! Renderers turn the bytes of a payload into text. Two are built in, a function is known by its
name, and a shared renderer is an object that remembers how often it was used. -/
namespace EventLog

/-- How a renderer fails by itself. No lock of a store is taken while it draws. -/
inductive Drawing.Failure where
  | io (message : String)
  | panic
  deriving DecidableEq, Repr

def Drawing.Failure.halt : Failure → Halt
  | io message => .io message
  | panic => .panic

/-- What a renderer does with a payload: the pieces that it writes in turn, up to the first one that
is refused, and how it ends after the last. -/
structure Drawing where
  pieces : List Bytes
  halt : Option Drawing.Failure := none

def Drawing.play (drawing : Drawing) : Emit Unit := do
  drawing.pieces.forM Emit.put
  match drawing.halt with
  | none => return
  | some failure => throw failure.halt

def Drawing.ofLines (lines : List String) : Drawing := { pieces := lines.map Utf8.encode }

inductive Renderer where
  | hexDump
  | backtrace
  | function (name : String) (draw : Bytes → Drawing)
  /-- The drawing may depend on how often the object has been used, the present use included. -/
  | shared (key : Nat) (name : String) (draw : Nat → Bytes → Drawing)

namespace Renderer

/-- The name that a shared renderer has unless it gives one. -/
def defaultName : String := "custom"

def name : Renderer → String
  | hexDump => "hexdump"
  | backtrace => "backtrace"
  | function name _ => name
  | shared _ name _ => name

/-- Whether two renderers are the same one: functions by name, shared ones by object. -/
def same : Renderer → Renderer → Bool
  | hexDump, hexDump => true
  | backtrace, backtrace => true
  | function a _, function b _ => a == b
  | shared a _ _, shared b _ _ => a == b
  | _, _ => false

def inspect : Renderer → String
  | function name _ => "RendererRef::Function(" ++ name ++ ")"
  | shared _ name _ => "RendererRef::Shared(" ++ name ++ ")"
  | renderer => "RendererRef::" ++ renderer.name

def render (renderer : Renderer) (data : Bytes) : Emit Unit :=
  match renderer with
  | hexDump => (Drawing.ofLines (HexDump.lines data)).play
  | backtrace => (Drawing.ofLines (Backtrace.lines data)).play
  | function _ draw => (draw data).play
  | shared key _ draw => do (draw (← Emit.countUse key) data).play

end Renderer
end EventLog
