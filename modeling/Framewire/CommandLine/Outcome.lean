/-
**What a run of the program comes to.**

A run ends with a code and has printed lines; one that fails ends with a report.  The commands that
end by themselves are run here to their end, in a world in which a responder may be listening.  The
command `serve` does not end by itself: here it is begun, and what ends it comes from outside.

Main definitions:

* `Outcome.failed`, `Outcome.idle` — what runs come to that do nothing;
* `Program.prepare` — the configuration and the command of a run;
* `Program.send`, `Program.serve` — the commands that need a network;
* `Program.runBy`, `Program.run` — a run in a world.
-/

import Framewire.CommandLine.Sending

set_option autoImplicit false

namespace Framewire

namespace Outcome

/-- A run that failed. -/
def failed (fault : Fault) : Outcome :=
  { code := Program.failureCode, report := some fault.report }

/-- A run whose arguments asked for nothing to be done. -/
def idle (error : UsageError) : Outcome :=
  { code := Program.usageCode error, printed := Program.usageLines error }

end Outcome

namespace Program

/-- The configuration and the command of a run; or its outcome, if it comes to nothing before. -/
def prepare (storage : Storage) (args : List String) : Except Outcome (ConnectorConfig × Command) :=
  match Invocation.parse args with
  | .error error => .error (.idle error)
  | .ok invocation =>
    match configuration storage invocation with
    | .error fault => .error (.failed fault)
    | .ok config => .ok (config, invocation.command)

/-- Sends a message and waits for replies, as a schedule says, so many times at most. -/
def send (state : World × Responder) (config : ClientConfig) (request : SendRequest)
    (schedule : Sending.Schedule) (times : Nat) : Outcome × World × Responder :=
  match message request with
  | .error fault => (.failed fault, state)
  | .ok m =>
    match Sending.start state.1 state.2.listener config m request.waitMs.toNat with
    | .error fault => (.failed fault, state)
    | .ok s =>
      let s := s.follow schedule times
      (s.outcome m, s.scene.world, { state.2 with received := state.2.received ++ s.scene.got })

/-- Begins to serve: the server's number and endpoint, and the world in which it runs. -/
def serve (w : World) (config : ServerConfig) : Except Outcome (Nat × Endpoint × World) :=
  match beginServe w config with
  | .error fault => .error (.failed fault)
  | .ok (id, w) =>
    .ok (id, ((w.node? id).map (·.machine.localAddress)).getD .unbound, w)

/-- A run in a world with a responder.  A message is sent as a schedule says, so many times at
most. -/
def runBy (schedule : Sending.Schedule) (times : Nat) (storage : Storage) (state : World × Responder)
    (args : List String) : Outcome × World × Responder :=
  match prepare storage args with
  | .error outcome => (outcome, state)
  | .ok (config, .printConfig) => ({ printed := config.lines }, state)
  | .ok (config, .send request) => send state config.client request schedule times
  | .ok (config, .serve) =>
    match serve state.1 config.server with
    | .error outcome => (outcome, state)
    | .ok (_, address, w) => ({ printed := [listeningLine address] }, w, state.2)

/-- A run in a world with a responder, in which everything happens as soon as it can. -/
def run (storage : Storage) (state : World × Responder) (args : List String) :
    Outcome × World × Responder :=
  runBy (Sending.prompt state.2) World.patience storage state args

end Program

end Framewire
