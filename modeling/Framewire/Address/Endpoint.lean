/-
**Endpoints: where a connection begins or ends.**

An endpoint is an internet address with a port; an IPv6 endpoint also has a scope number, which
names the interface of a link-local address.  Endpoints are compared as values: two are equal when
family, address, port and scope are.

Main definitions:

* `Endpoint` — the type;
* `Endpoint.text` — `address:port`, an IPv6 address in brackets with its scope if that is not zero;
* `Endpoint.unbound` — the endpoint of what is bound nowhere.
-/

import Framewire.Address.Ip

set_option autoImplicit false

namespace Framewire

/-- One end of a connection. -/
inductive Endpoint where
  | v4 (ip : Ipv4) (port : UInt16)
  | v6 (ip : Ipv6) (port : UInt16) (scope : UInt32)
deriving DecidableEq, Repr

namespace Endpoint

/-- The endpoint of what is bound nowhere: any IPv4 interface, port 0. -/
def unbound : Endpoint := .v4 Ipv4.unspecified 0

instance : Inhabited Endpoint := ⟨unbound⟩

/-- The endpoint of an address and a port, without a scope. -/
def ofIp (port : UInt16) : Ip → Endpoint
  | .v4 ip => .v4 ip port
  | .v6 ip => .v6 ip port 0

/-- The address of an endpoint. -/
def ip : Endpoint → Ip
  | .v4 ip _ => .v4 ip
  | .v6 ip _ _ => .v6 ip

/-- The port of an endpoint. -/
def port : Endpoint → UInt16
  | .v4 _ port => port
  | .v6 _ port _ => port

/-- The same address at another port. -/
def withPort (port : UInt16) : Endpoint → Endpoint
  | .v4 ip _ => .v4 ip port
  | .v6 ip _ scope => .v6 ip port scope

/-- The canonical text of an endpoint. -/
def text : Endpoint → String
  | .v4 ip port => ip.text ++ ":" ++ toString port.toNat
  | .v6 ip port scope =>
    let scopeText := if scope = 0 then "" else "%" ++ toString scope.toNat
    "[" ++ ip.text ++ scopeText ++ "]:" ++ toString port.toNat

@[simp] theorem port_ofIp (port : UInt16) (ip : Ip) : (ofIp port ip).port = port := by
  cases ip <;> rfl

@[simp] theorem ip_ofIp (port : UInt16) (ip : Ip) : (ofIp port ip).ip = ip := by
  cases ip <;> rfl

@[simp] theorem port_withPort (port : UInt16) (e : Endpoint) : (e.withPort port).port = port := by
  cases e <;> rfl

@[simp] theorem ip_withPort (port : UInt16) (e : Endpoint) : (e.withPort port).ip = e.ip := by
  cases e <;> rfl

end Endpoint

end Framewire
