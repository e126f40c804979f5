/-
**What can go wrong.**

A fault says which kind of thing failed, and carries what its message needs.  Messages are built
in one place, `Fault.message`, from the kind's lead-in and the text of the cause; the parts of the
library that can fail have types of causes of their own, which turn into faults.

Main definitions:

* `SystemError` — what the operating system reports about sockets, with its texts;
* `ConfigFault` — why a configuration could not be read;
* `Fault` — the faults, `Fault.kind` the name of a fault's kind, `Fault.message` its message.
-/

set_option autoImplicit false

namespace Framewire

/-! ### Errors of the system -/

/-- An error that the operating system reports for a socket, or one that a caller words. -/
inductive SystemError where
  | brokenPipe
  | addressInUse
  | addressNotAvailable
  | networkUnreachable
  | connectionReset
  | connectionRefused
  | worded (text : String)
deriving DecidableEq, Repr

namespace SystemError

/-- The system's own description of an error. -/
def description : SystemError → String
  | brokenPipe => "Broken pipe"
  | addressInUse => "Address already in use"
  | addressNotAvailable => "Cannot assign requested address"
  | networkUnreachable => "Network is unreachable"
  | connectionReset => "Connection reset by peer"
  | connectionRefused => "Connection refused"
  | worded text => text

/-- The system's number of an error; a worded error has none. -/
def number? : SystemError → Option Nat
  | brokenPipe => some 32
  | addressInUse => some 98
  | addressNotAvailable => some 99
  | networkUnreachable => some 101
  | connectionReset => some 104
  | connectionRefused => some 111
  | worded _ => none

/-- The name of an error. -/
def name : SystemError → String
  | brokenPipe => "BrokenPipe"
  | addressInUse => "AddrInUse"
  | addressNotAvailable => "AddrNotAvailable"
  | networkUnreachable => "NetworkUnreachable"
  | connectionReset => "ConnectionReset"
  | connectionRefused => "ConnectionRefused"
  | worded _ => "Other"

/-- The errors that have a number. -/
def numbered : List SystemError :=
  [brokenPipe, addressInUse, addressNotAvailable, networkUnreachable, connectionReset,
    connectionRefused]

/-- The error of a number; one that is not known is worded. -/
def ofNumber (number : Nat) (text : String) : SystemError :=
  (numbered.find? fun e => e.number? = some number).getD (worded text)

/-- The text of an error: its description, with its number if it has one. -/
def text (e : SystemError) : String :=
  match e.number? with
  | some number => e.description ++ " (os error " ++ toString number ++ ")"
  | none => e.description

end SystemError

/-! ### Faults -/

/-- Why a configuration could not be read. -/
inductive ConfigFault where
  /-- a value is not of the kind that its key wants -/
  | type (text : String)
  /-- a value is not of the kind that its place wants, whatever the key -/
  | message (text : String)
  /-- the file cannot be found or read -/
  | foreign (text : String)
  /-- the file does not follow the syntax of its format -/
  | unreadable
deriving DecidableEq, Repr

namespace ConfigFault

/-- The name of the kind of fault. -/
def kind : ConfigFault → String
  | type _ => "Type"
  | message _ => "Message"
  | foreign _ => "Foreign"
  | unreadable => "FileParse"

/-- What is told about a fault; nothing about a file that does not follow its syntax. -/
def text? : ConfigFault → Option String
  | type text => some text
  | message text => some text
  | foreign text => some text
  | unreadable => none

end ConfigFault

/-- What went wrong. -/
inductive Fault where
  | illegalState (text : String)
  | invalidValue (text : String)
  | detailedIo (text : String)
  | io (error : SystemError)
  | connectTimeout (destination : String)
  | channelSend (text : String)
  | config (cause : ConfigFault)
  | incomplete
deriving DecidableEq, Repr

namespace Fault

/-- The name of a fault's kind. -/
def kind : Fault → String
  | illegalState _ => "IllegalStateError"
  | invalidValue _ => "InvalidValue"
  | detailedIo _ => "DetailedIoError"
  | io _ => "IoError"
  | connectTimeout _ => "ConnectTimeout"
  | channelSend _ => "ChannelSendError"
  | config _ => "ConfigFileError"
  | incomplete => "Incomplete"

/-- The message of a fault. -/
def message : Fault → String
  | illegalState text => "illegal state: " ++ text
  | invalidValue text => "invalid value: " ++ text
  | detailedIo text => "I/O error: " ++ text
  | io error => "io error: " ++ error.text
  | connectTimeout destination => "connect to " ++ destination ++ " timed out"
  | channelSend text => "channel send error: " ++ text
  | config cause => "config file error: " ++ cause.text?.getD "the file does not follow its syntax"
  | incomplete => "incomplete frame"

/-- The fault of the named kind with the given text, if there is such a kind. -/
def ofKind? (kind text : String) : Option Fault :=
  match kind with
  | "IllegalStateError" => some (illegalState text)
  | "InvalidValue" => some (invalidValue text)
  | "DetailedIoError" => some (detailedIo text)
  | "IoError" => some (io (.worded text))
  | "ConnectTimeout" => some (connectTimeout text)
  | "ChannelSendError" => some (channelSend text)
  | "ConfigFileError" => some (config (.message text))
  | "Incomplete" => some incomplete
  | _ => none

end Fault

end Framewire
