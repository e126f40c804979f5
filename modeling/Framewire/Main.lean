/-
The program: reads its arguments and its configuration, and carries out its command with sockets of
the operating system.  What the commands do is decided by the modules that this one imports.
-/

import Framewire.CommandLine.Sending
import Framewire.Gateway
import Std.Async.Signal

set_option autoImplicit false

namespace Framewire.Console

open Std.Async

/-- What a path leads to on this computer: the content of a file, and whether there is anything. -/
def lookAt (path : String) : IO (Option Bytes × Bool) := do
  try
    let content ← IO.FS.readBinFile path
    return (some content.toList, true)
  catch
    | .inappropriateType _ code _ => return (none, code = 21)
    | .permissionDenied .. => return (none, true)
    | _ => return (none, false)

/-- The storage of this computer, as far as a configuration at a path can be in it. -/
def storageAround (path : String) : IO Storage := do
  let found ← (ConfigFile.places path).mapM fun place => return (place, ← lookAt place)
  return {
    read? := fun path => (found.lookup path).bind Prod.fst
    holds := fun path => ((found.lookup path).map Prod.snd).getD false }

/-- Prints a line at once. -/
def say (line : String) : IO Unit := do
  IO.println line
  (← IO.getStdout).flush

/-- Ends the program with a fault. -/
def fail (fault : Fault) : IO UInt32 := do
  IO.eprintln fault.report
  return UInt32.ofNat Program.failureCode

/-- Shows the notices that a world has and that were not shown; the result is how many it has. -/
def showNotices (verbose shown : Nat) (w : World) : IO Nat := do
  for notice in w.notices.reverse.drop shown do
    if Program.shows verbose notice then IO.eprintln notice.line
  return w.notices.length

/-- The milliseconds since a time. -/
def since (start : Nat) : IO Nat := do return (← IO.monoMsNow) - start

/-- A socket that listens where a configuration says, if it says where. -/
def listenFor (config : ServerConfig) :
    IO (Except SystemError (Option (TCP.Socket.Server × Endpoint))) := do
  match config.bindAddress with
  | .error _ => return .ok none
  | .ok address =>
    try return .ok (some (← Gateway.listen address))
    catch e => return .error (.ofSystem e)

/-- Serves until the program is interrupted. -/
def runServe (verbose : Nat) (config : ServerConfig) : IO UInt32 := do
  let start ← IO.monoMsNow
  let attempt ← listenFor config
  let network : Network := match attempt with
    | .error error => { host := { Host.unbounded with refusal := fun _ => some error } }
    | .ok none => { host := .unbounded }
    | .ok (some (_, got)) => { host := { Host.unbounded with port := fun _ => got.port } }
  match Program.beginServe { network } config, attempt with
  | .ok (id, world), .ok (some (outside, address)) =>
    say (Program.listeningLine address)
    let interrupt ← (← Signal.Waiter.mk .sigint false).wait
    let mut arriving ← outside.accept.toIO
    let mut gateway : Gateway := { world }
    let mut shown := 0
    while !(← IO.hasFinished interrupt) do
      if ← IO.hasFinished arriving then
        gateway ← gateway.arrive 0 (← arriving.block)
        arriving ← outside.accept.toIO
      gateway ← gateway.turn (← since start)
      shown ← showNotices verbose shown gateway.world
      IO.sleep 1
    let stopped := match gateway.world.node? id with
      | some node => gateway.world.stop id node.machine
      | none => gateway.world
    let _ ← { gateway with world := stopped }.turn (← since start)
    return 0
  | .error fault, _ => fail fault
  | _, _ => return UInt32.ofNat Program.failureCode

/-- Prints all replies that have come. -/
def printReplies (s : Sending) : IO Sending := do
  let mut s := s
  repeat
    match s.step .print with
    | none => break
    | some printed =>
      for reply in printed.printed.drop s.printed.length do say (Program.replyLine reply)
      s := printed
  return s

/-- Sends one message and prints what comes back. -/
def runSend (verbose : Nat) (config : ClientConfig) (request : SendRequest) : IO UInt32 := do
  match Program.message request with
  | .error fault => fail fault
  | .ok m =>
    let start ← IO.monoMsNow
    let network : Network := { host := .unbounded, silent := [m.remote] }
    match Sending.start { network } 0 config m request.waitMs.toNat with
    | .error fault => fail fault
    | .ok sending =>
      say (Program.sendingLine m)
      let outside ← TCP.Socket.Client.mk
      let mut dialing := some (← (outside.connect m.remote.toSystem).toIO)
      let mut listener : Option Nat := none
      let mut gateway : Gateway := { world := sending.scene.world }
      let mut s := sending
      let mut noted := 0
      repeat
        if let some task := dialing then
          if ← IO.hasFinished task then
            dialing := none
            try
              task.block
              let (met, number) := gateway.meet m.remote
              gateway := met
              listener := some number
            catch e => gateway := gateway.despair (.ofSystem e)
        gateway ← gateway.turn (← since start)
        if let some number := listener then
          if let some (standIn, network) := gateway.world.network.accept number then
            gateway ← (gateway.onNetwork fun _ => network).addBridge standIn outside
            gateway ← gateway.turn (← since start)
        noted ← showNotices verbose noted gateway.world
        s ← printReplies { s with scene := { s.scene with world := gateway.world } }
        match s.step .stop with
        | some stopped =>
          let _ ← { gateway with world := stopped.scene.world }.turn (← since start)
          break
        | none => IO.sleep 1
      return 0

/-- Carries out an invocation. -/
def carryOut (invocation : Invocation) : IO UInt32 := do
  let storage ← storageAround (Program.configPath invocation)
  match Program.configuration storage invocation with
  | .error fault => fail fault
  | .ok config =>
    match invocation.command with
    | .printConfig =>
      for line in config.lines do IO.println line
      return 0
    | .send request => runSend invocation.verbose config.client request
    | .serve => runServe invocation.verbose config.server

end Framewire.Console

open Framewire in
/-- The program with the given arguments. -/
def main (args : List String) : IO UInt32 := do
  match Invocation.parse args with
  | .ok invocation => Console.carryOut invocation
  | .error error =>
    for line in Program.usageLines error do IO.println line
    unless error = .displayVersion do
      for line in Program.usage do
        if error.isRequest then IO.println line else IO.eprintln line
    return UInt32.ofNat (Program.usageCode error)
