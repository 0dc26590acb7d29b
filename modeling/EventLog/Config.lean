import EventLog.Registry

/-! Fixed limits, and the sizes that a store is built with. -/
namespace EventLog

namespace Limits

/-- Sizes of the text fields of a slot, in bytes. -/
def threadCapacity : Nat := 32

def functionCapacity : Nat := 32

def messageCapacity : Nat := 256

/-- Longest command line of the console that is looked at, in bytes. -/
def commandLine : Nat := 256

def consolePort : Nat := 50005

/-- Spins of a writer on a buffer's lock before it drops its event. -/
def writerSpins : Nat := 0x4000

def version : String := "0.1.0"

end Limits

structure Config where
  maxBuffers : Nat := 5
  maxEvents : Nat := 128
  rendererCapacity : Nat := 64
  deriving DecidableEq, Repr

namespace Config

/-- Zero asks for the maximum, and so does anything above it. -/
def clamp (config : Config) (capacity : Nat) : Nat :=
  if capacity = 0 ∨ config.maxEvents < capacity then config.maxEvents else capacity

/-- The built-in renderers take two entries of the registry. -/
def validate (config : Config) : Except Error Unit :=
  if config.maxBuffers = 0 then
    .error (.invalidParameter "max_buffers" "Buffer table cannot be empty")
  else if config.maxEvents = 0 then
    .error (.invalidParameter "max_events" "Buffers must hold at least one event")
  else if config.rendererCapacity < Registry.builtins.length then
    .error (.invalidParameter "renderer_capacity" "Registry must fit the built-in renderers")
  else .ok ()

end Config
end EventLog
