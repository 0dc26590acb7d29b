import EventLog.Console.Address
import EventLog.Console.Session

/-! Where the console listens, and how it greets its peers. -/
namespace EventLog

structure Settings where
  address : Address := .loopback
  port : UInt16 := Limits.consolePort.toUInt16
  banner : String := Session.defaultBanner
  deriving DecidableEq, Repr

namespace Settings

def socketText (settings : Settings) : String := settings.address.socketText settings.port

def validate (settings : Settings) : Except Error Unit :=
  if settings.address.isMulticast then
    .error (.invalidParameter "address" "Console cannot bind a multicast address")
  else .ok ()

end Settings

/-- Serves one connection: the banner, then a session. -/
def Session.serve (session : Session) (banner : String) : Except Halt Unit × Session :=
  match (Session.emit (Emit.say banner)).run session with
  | (.ok (), session) => session.run
  | (.error halt, session) => (.error halt, session)

end EventLog
