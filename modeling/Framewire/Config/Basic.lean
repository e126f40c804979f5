/-
**Configurations of a server and a client.**

A configuration is a record of numbers and, for a server, the text of the address to listen on.
Times are in milliseconds; an idle timeout of zero means that connections are never idle, and zero
workers mean one for each processor.  A configuration is valid when a connector can be started
from it; the first violated condition is reported.

Main definitions:

* `ServerConfig`, `ClientConfig`, `ConnectorConfig` — the records, with their defaults;
* `ServerConfig.bindAddress` — the endpoint to listen on;
* `ConfigIssue` — what a configuration can violate;
* `ServerConfig.validate`, `ClientConfig.validate`, `ConnectorConfig.validate` — the first violated
  condition.
-/

import Framewire.Address.Parser
import Framewire.Fault

set_option autoImplicit false

namespace Framewire

/-! ### Violated conditions -/

/-- A condition that a configuration violates. -/
inductive ConfigIssue where
  | serverIp (text : String)
  | serverSinkCapacity
  | clientConnectTimeout
  | clientSinkCapacity
deriving DecidableEq, Repr

namespace ConfigIssue

/-- What a violated condition says. -/
def message : ConfigIssue → String
  | serverIp text => "server.ip: " ++ text
  | serverSinkCapacity => "server.sink_channel_capacity must be greater than 0"
  | clientConnectTimeout => "client.connect_timeout_ms must be greater than 0"
  | clientSinkCapacity => "client.sink_channel_capacity must be greater than 0"

/-- A violated condition as a fault. -/
def fault (issue : ConfigIssue) : Fault := .invalidValue issue.message

end ConfigIssue

/-! ### The records -/

/-- The configuration of a server. -/
structure ServerConfig where
  ip : String := "0.0.0.0"
  port : UInt16 := 5683
  idleTimeoutMs : UInt64 := 100000
  workerThreads : UInt64 := 1
  sinkChannelCapacity : UInt64 := 1024
  shutdownGraceMs : UInt64 := 1000
deriving DecidableEq, Inhabited, Repr

/-- The configuration of a client. -/
structure ClientConfig where
  workerThreads : UInt64 := 1
  connectTimeoutMs : UInt64 := 10000
  idleTimeoutMs : UInt64 := 100000
  sinkChannelCapacity : UInt64 := 1024
  shutdownGraceMs : UInt64 := 1000
deriving DecidableEq, Inhabited, Repr

/-- The configuration of a server and a client. -/
structure ConnectorConfig where
  server : ServerConfig := {}
  client : ClientConfig := {}
deriving DecidableEq, Inhabited, Repr

/-- A timeout in milliseconds; zero turns it off. -/
def timeoutOfMs (ms : UInt64) : Option Nat :=
  if ms = 0 then none else some ms.toNat

/-- A number of workers; zero leaves it to the number of processors. -/
def workersOf (threads : UInt64) : Option Nat :=
  if threads = 0 then none else some threads.toNat

namespace ServerConfig

/-- A server on the loopback address and a port that the system chooses. -/
def ephemeral (idleTimeoutMs : UInt64) : ServerConfig :=
  { ip := "127.0.0.1", port := 0, idleTimeoutMs }

/-- The endpoint to listen on. -/
def bindAddress (c : ServerConfig) : Except ConfigIssue Endpoint :=
  match Ip.parse? c.ip with
  | some ip => .ok (.ofIp c.port ip)
  | none => .error (.serverIp c.ip)

/-- The time without activity after which a connection is closed. -/
def idleTimeout (c : ServerConfig) : Option Nat := timeoutOfMs c.idleTimeoutMs

/-- The number of workers, if it does not follow the processors. -/
def workers (c : ServerConfig) : Option Nat := workersOf c.workerThreads

/-- The time that a stop leaves to the connections. -/
def shutdownGrace (c : ServerConfig) : Nat := c.shutdownGraceMs.toNat

/-- The first condition that the configuration violates. -/
def validate (c : ServerConfig) : Except ConfigIssue Unit := do
  let _ ← c.bindAddress
  if c.sinkChannelCapacity = 0 then
    .error .serverSinkCapacity

end ServerConfig

namespace ClientConfig

/-- The time that dialing may take. -/
def connectTimeout (c : ClientConfig) : Nat := c.connectTimeoutMs.toNat

/-- The time without activity after which a connection is closed. -/
def idleTimeout (c : ClientConfig) : Option Nat := timeoutOfMs c.idleTimeoutMs

/-- The number of workers, if it does not follow the processors. -/
def workers (c : ClientConfig) : Option Nat := workersOf c.workerThreads

/-- The time that a stop leaves to the connections. -/
def shutdownGrace (c : ClientConfig) : Nat := c.shutdownGraceMs.toNat

/-- The first condition that the configuration violates. -/
def validate (c : ClientConfig) : Except ConfigIssue Unit :=
  if c.connectTimeoutMs = 0 then .error .clientConnectTimeout
  else if c.sinkChannelCapacity = 0 then .error .clientSinkCapacity
  else .ok ()

end ClientConfig

/-- The first condition that the configuration violates, the server's before the client's. -/
def ConnectorConfig.validate (c : ConnectorConfig) : Except ConfigIssue Unit := do
  c.server.validate
  c.client.validate

end Framewire
