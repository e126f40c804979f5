/-
**What the commands do.**

A command first gets its configuration: from the file that the arguments name, or from `conf.toml`
where the program runs; without that file the defaults count.  `print-config` prints the
configuration.  `send` writes one frame to its destination and prints what comes back.  `serve`
runs a server that sends every message back.

What can be told without a network is told here: the configuration, the frame, and the lines that
are printed.  The connectors are set up in a world; who runs that world decides when a command has
waited long enough.

Main definitions:

* `Program.configuration` — the configuration of an invocation;
* `ConnectorConfig.lines` — a configuration as it is printed;
* `Program.frame`, `Program.beginSend`, `Program.replyLine` — the command `send`;
* `Program.beginServe` — the command `serve`;
* `Fault.inspected` — a fault as it is reported when the program ends with it.
-/

import Framewire.CommandLine.Arguments
import Framewire.Config.Load
import Framewire.Hex
import Framewire.World

set_option autoImplicit false

namespace Framewire

/-! ### Reports -/

/-- An error of the system as it is reported. -/
def SystemError.inspected (e : SystemError) : String :=
  match e.number? with
  | some number =>
    "Os \x7b code: " ++ toString number ++ ", kind: " ++ e.name ++ ", message: "
      ++ Text.quoted e.description ++ " \x7d"
  | none => "Custom \x7b kind: Other, error: " ++ Text.quoted e.description ++ " \x7d"

/-- What is wrong with a configuration file, as it is reported. -/
def ConfigFault.inspected (cause : ConfigFault) : String :=
  match cause.text? with
  | some text => cause.kind ++ "(" ++ Text.quoted text ++ ")"
  | none => cause.kind

/-- A fault as it is reported. -/
def Fault.inspected : Fault → String
  | .illegalState text => "IllegalStateError(" ++ Text.quoted text ++ ")"
  | .invalidValue text => "InvalidValue(" ++ Text.quoted text ++ ")"
  | .detailedIo text => "DetailedIoError(" ++ Text.quoted text ++ ")"
  | .io error => "IoError(" ++ error.inspected ++ ")"
  | .connectTimeout destination => "ConnectTimeout(" ++ Text.quoted destination ++ ")"
  | .channelSend text => "ChannelSendError(" ++ Text.quoted text ++ ")"
  | .config cause => "ConfigFileError(" ++ cause.inspected ++ ")"
  | .incomplete => "Incomplete"

/-- The line that the program ends with when it fails. -/
def Fault.report (f : Fault) : String := "Error: " ++ f.inspected

/-! ### Configurations in print -/

/-- A field in print. -/
def ConnectorConfig.field (name value : String) : String :=
  "        " ++ name ++ ": " ++ value ++ ","

/-- A number in print. -/
def ConnectorConfig.number (name : String) (n : UInt64) : String := field name (toString n.toNat)

/-- A configuration in print, line by line. -/
def ConnectorConfig.lines (c : ConnectorConfig) : List String :=
  [ "ConnectorConfig \x7b",
    "    server: ServerConfig \x7b",
    field "ip" (Text.quoted c.server.ip),
    field "port" (toString c.server.port.toNat),
    number "idle_timeout_ms" c.server.idleTimeoutMs,
    number "worker_threads" c.server.workerThreads,
    number "sink_channel_capacity" c.server.sinkChannelCapacity,
    number "shutdown_grace_ms" c.server.shutdownGraceMs,
    "    \x7d,",
    "    client: ClientConfig \x7b",
    number "worker_threads" c.client.workerThreads,
    number "connect_timeout_ms" c.client.connectTimeoutMs,
    number "idle_timeout_ms" c.client.idleTimeoutMs,
    number "sink_channel_capacity" c.client.sinkChannelCapacity,
    number "shutdown_grace_ms" c.client.shutdownGraceMs,
    "    \x7d,",
    "\x7d" ]

namespace Program

/-- The line about the program's version. -/
def versionLine : String := "tcp-connector 0.1.0"

/-- The code with which the program ends when it fails. -/
def failureCode : Nat := 1

/-- The code with which the program ends when its arguments ask for nothing. -/
def usageCode (e : UsageError) : Nat := if e.isRequest then 0 else 2

/-- How the program is called. -/
def usage : List String :=
  [ "usage: tcp-connector [-c FILE] [--log-dir DIR] [-v]... COMMAND",
    "  serve                          send every message back",
    "  send --to ADDRESS [--code N] [--token HEX] [--wait-ms N] PAYLOAD",
    "                                 send one frame and print what comes back",
    "  print-config                   print the configuration" ]

/-- Whether a notice is shown when details were asked for so many times. -/
def shows (verbose : Nat) (n : Notice) : Bool := n.isWarning || 2 ≤ verbose

/-- What is printed when the arguments ask for nothing to be done; help is not told here. -/
def usageLines : UsageError → List String
  | .displayVersion => [versionLine]
  | _ => []

/-- The configuration file of an invocation. -/
def configPath (i : Invocation) : String := i.conf.getD "./conf.toml"

/-- The configuration of an invocation. -/
def configuration (storage : Storage) (i : Invocation) : Except Fault ConnectorConfig :=
  let path := configPath i
  if storage.holds path then ConnectorConfig.load storage path else .ok {}

/-! ### Sending -/

/-- The frame of a request. -/
def frame (request : SendRequest) : Except Fault Bytes := do
  let token ← Hex.decode request.token
  Frame.encode request.code token request.payload.toUTF8.toList

/-- The message of a request. -/
def message (request : SendRequest) : Except Fault Message :=
  (frame request).map fun payload => ⟨payload, request.destination⟩

/-- The line that is printed before a message is sent. -/
def sendingLine (m : Message) : String :=
  "sending " ++ toString m.size ++ " bytes to " ++ m.remote.text

/-- The line that is printed about a message that came back. -/
def replyLine (m : Message) : String :=
  "reply from " ++ m.remote.text ++ ": " ++ Hex.listing m.payload

/-- A world with another connector, which has its sink and is started. -/
def startConnector (w : World) (machine : Machine) (receiver : Receiver) :
    Except Fault (Nat × World) := do
  let id := w.nodes.length
  let (given, w) := (w.add machine).setReceiver id receiver machine
  given
  let machine := ((w.node? id).map (·.machine)).getD machine
  let (started, w) := w.start id machine
  started
  return (id, w)

/-- Begins to send: the client's number, and the world in which the message is on its way. -/
def beginSend (w : World) (config : ClientConfig) (m : Message) : Except Fault (Nat × World) := do
  let machine := Machine.client (Client.new config)
  let (id, w) ← startConnector w machine {}
  let machine := ((w.node? id).map (·.machine)).getD machine
  let (sent, w) := w.send id m machine
  sent
  return (id, w)

/-! ### Serving -/

/-- Begins to serve: the server's number, and the world in which it runs. -/
def beginServe (w : World) (config : ServerConfig) : Except Fault (Nat × World) :=
  startConnector w (.server (Server.new config)) { echoes := true }

/-- The line that is printed when a server runs. -/
def listeningLine (address : Endpoint) : String := "listening on " ++ address.text

end Program

end Framewire
