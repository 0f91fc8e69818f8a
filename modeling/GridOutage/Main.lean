import GridOutage.CommandLine.Run
import GridOutage.Http
import Std.Async.DNS
import Std.Async.TCP
import Std.Async.Timer
import Std.Time.DateTime.Timestamp

/-!
# The program (ctg-cli)

The command line program: real files, a real network, and what a run comes to printed.
-/
namespace GridOutage.Program

open CommandLine (Surroundings)

/-! ## Files -/

/-- The result of an action, if it does not fail. -/
def attempt {α : Type} (action : IO α) : IO (Option α) := do
  try return some (← action) catch _ => return none

def kind? (path : String) : IO (Option FileKind) := attempt do
  let place ← IO.FS.realPath path
  return if ← place.isDir then .directory else .file

def names? (path : String) : IO (Option (List String)) := attempt do
  let place ← IO.FS.realPath path
  return (← place.readDir).toList.map (·.fileName)

def files : Files IO where
  kind? := kind?
  read? path := attempt (IO.FS.readFile path)
  names? := names?

/-! ## The network -/

open Std.Async in
/-- All bytes of a connection up to its end. -/
partial def receive (socket : TCP.Socket.Client) (done : List UInt8) : Async (List UInt8) := do
  match ← socket.recv? 65536 with
  | some bytes => receive socket (done ++ bytes.toList)
  | none => return done

open Std.Async in
/-- Sends the request at an address and reads what comes back. -/
def ask (address : Address) : Async (Option Answer) := do
  let places ← DNS.getAddrInfo address.host (toString address.tcp)
  let some place := places[0]? | return none
  let socket ← TCP.Socket.Client.mk
  socket.connect (match place with
    | .v4 a => .v4 ⟨a, address.tcp.toUInt16⟩
    | .v6 a => .v6 ⟨a, address.tcp.toUInt16⟩)
  socket.send (Http.requestText address).toUTF8
  return Http.answer? (← receive socket [])

open Std.Async in
/-- An exchange that gives up after some seconds. -/
def exchange (seconds : Nat) (address : Address) : IO (Option Answer) := do
  let late : Async (Option Answer) := do
    sleep (.ofNat (1000 * seconds))
    return none
  return (← attempt (Async.block (Async.race (ask address) late))).join

/-! ## Running -/

/-- A random identifier of version 4: the version stands in bits 76 to 79, and the two bits below
bit 64 are marked. -/
def fresh : IO Uuid := do
  let bytes ← IO.getRandomBytes 16
  let n := bytes.toList.foldl (fun n b => 256 * n + b.toNat) 0
  let (first, middle, last) := (n >>> 80, (n >>> 64) % 4096, n % (1 <<< 62))
  return .ofNat ((first <<< 80) + (4 <<< 76) + (middle <<< 64) + (2 <<< 62) + last)

def now : IO Instant := do
  let t ← Std.Time.Timestamp.now
  let nanos := t.toNanosecondsSinceUnixEpoch.val
  return ⟨nanos.fdiv 1000000000, (nanos.fmod 1000000000).toNat⟩

def surroundings : Surroundings IO := ⟨files, exchange, fresh, now⟩

end GridOutage.Program

def main (arguments : List String) : IO UInt32 := do
  let outcome ← GridOutage.CommandLine.run GridOutage.Program.surroundings arguments
  IO.print outcome.output
  return outcome.exit.toUInt32
