import Std.Async.DNS
import Std.Async.TCP
import Std.Internal.UV.System
import Std.Time.DateTime.Timestamp
import Stepwise.Command.Execute
import Stepwise.Http.Wire
import Stepwise.Record.Identity
import Stepwise.Run.Transcript

/-! # The program -/

namespace Stepwise

namespace Program

open Std.Async Std.Net

/-! ## Files -/

def readFile? (name : String) : IO (Option String) := do
  try
    return some (← IO.FS.readFile name)
  catch _ => return none

def readFiles (names : List String) : IO Files := do
  let texts ← names.filterMapM fun name => do
    return (← readFile? name).map fun text => (name, text)
  return fun name => texts.lookup name

/-! ## Requests -/

def socketAddress (port : UInt16) : IPAddr → SocketAddress
  | .v4 addr => .v4 ⟨addr, port⟩
  | .v6 addr => .v6 ⟨addr, port⟩

partial def receiveAll (socket : TCP.Socket.Client) (read : ByteArray) : Async ByteArray := do
  match ← socket.recv? 65536 with
  | some bytes => if bytes.isEmpty then return read else receiveAll socket (read ++ bytes)
  | none => return read

def call (o : Outgoing) : Async (Option Delivery) := do
  let host := o.url.host.toList.filter fun c => c != '[' && c != ']'
  let addresses ← DNS.getAddrInfo (String.ofList host) (toString o.url.portNumber)
  match addresses[0]? with
  | none => return none
  | some address =>
    let socket ← TCP.Socket.Client.mk
    socket.connect (socketAddress (UInt16.ofNat o.url.portNumber) address)
    socket.send (Http.requestText o).toUTF8
    let bytes ← receiveAll socket ByteArray.empty
    return Http.delivery? bytes.toList

def callOrNone (o : Outgoing) : IO (Option Delivery) := do
  try
    if o.url.scheme = "http" then (call o).block else return none
  catch _ => return none

/-- Waits for a task, but not longer than a number of milliseconds. -/
partial def waitFor {α : Type} (task : Task (Except IO.Error (Option α))) (left : Nat) :
    IO (Option α) := do
  if ← IO.hasFinished task then
    match task.get with
    | .ok x => return x
    | .error _ => return none
  else if left = 0 then return none
  else
    IO.sleep 1
    waitFor task (left - 1)

/-! ## Commands -/

/-- Makes a run again and again, each time with one more answer. -/
partial def continueRun (job : Command.Job) (executionId : String) (startedAt : Nat)
    (began : Nat) (known : List Answer) : IO (Run Transcript) := do
  let engine := job.engine Transcript.transport Transcript.now Transcript.elapsedNanos
  let transcript : Transcript := { startedAt, known }
  let run := engine.execute job.workflow (job.request executionId) {} transcript
  match run.outcome, run.world.open? with
  | .error _, _ | .ok _, none => return run
  | .ok _, some o =>
    let passed := ((← IO.monoNanosNow) - began) / 1000000
    IO.sleep (UInt32.ofNat (run.clock.now - passed))
    let before ← IO.monoNanosNow
    let task ← IO.asTask (callOrNone o)
    let delivery ← waitFor task job.settings.requestTimeoutMs.toNat
    let after ← IO.monoNanosNow
    let answer : Answer :=
      { delivery, waitMs := (after - before) / 1000000 + 1, endedAt := after - began }
    continueRun job executionId startedAt began (known ++ [answer])

def runJob (job : Command.Job) : IO Outcome := do
  let bytes ← IO.getRandomBytes 16
  let startedAt := (← Std.Time.Timestamp.now).toNanosecondsSinceUnixEpoch.val.toNat
  let began ← IO.monoNanosNow
  return Command.Job.outcome (← continueRun job (executionName bytes.toList) startedAt began [])

def carryOut (c : Command) : IO Outcome := do
  let files ← readFiles c.fileNames
  match c with
  | .validate file => return Command.check files file
  | .run options =>
    let vars ← Std.Internal.UV.System.osEnviron
    let settings := Command.loadSettings files vars.toList
    match Command.prepare files settings options with
    | .error f => return .failed f
    | .ok job => runJob job

def report (o : Outcome) : IO UInt32 := do
  if let some j := o.printed then IO.println j.pretty
  if let some line := o.complaint? then IO.eprintln line
  return o.exitCode

end Program

end Stepwise

def main (args : List String) : IO UInt32 := do
  match Stepwise.Command.ofArguments args with
  | .ok c => Stepwise.Program.report (← Stepwise.Program.carryOut c)
  | .error .help =>
    IO.println Stepwise.Command.helpText
    return 0
  | .error .usage =>
    IO.eprintln Stepwise.Command.helpText
    return 2
