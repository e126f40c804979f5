/-
**A configuration that is loaded can be started from.**

A configuration is judged when it is loaded, long before anything is started from it.  A connector
that is started asks for some of the same things again, each in its own place: an address to listen
on, and room in the queue to the sink.  Whatever it asks for was asked for before; so what is left
that can go wrong is that the system does not let a server listen at its address.

Main definitions:

* `ConnectorConfig.issues`, `ConnectorConfig.violates` — the conditions in the order in which they
  are judged, and whether one is violated;
* `ConnectorConfig.firstIssue?` — the first one that is violated.

Main results:

* `ConnectorConfig.firstIssue?_eq_none_iff` — the four conditions;
* `ConnectorConfig.load_of_read` — the first issue decides what is loaded from what can be read;
* `Server.start_of_new`, `Client.start_of_new` — what becomes of a first start;
* `loaded_configuration_starts` — **connectors can be started from what was loaded**, and what is
  not loaded violates a condition, the first of which is reported.
-/

import Framewire.Config.Load
import Framewire.Proofs.ConnectorLife

set_option autoImplicit false

namespace Framewire

/-! ### Conditions -/

namespace ServerConfig

variable {c : ServerConfig} {address : Endpoint}

theorem bindAddress_eq (c : ServerConfig) : c.bindAddress =
    (Ip.parse? c.ip).elim (.error (.serverIp c.ip)) fun ip => .ok (.ofIp c.port ip) := by
  delta bindAddress
  cases Ip.parse? c.ip <;> rfl

theorem bindAddress_eq_ok_iff :
    c.bindAddress = .ok address ↔
      ∃ ip, Ip.parse? c.ip = some ip ∧ Endpoint.ofIp c.port ip = address := by
  rw [bindAddress_eq]
  cases Ip.parse? c.ip <;> simp

/-- The address of a server has the port that is configured. -/
theorem port_bindAddress (h : c.bindAddress = .ok address) : address.port = c.port := by
  obtain ⟨ip, -, rfl⟩ := bindAddress_eq_ok_iff.1 h
  exact Endpoint.port_ofIp c.port ip

end ServerConfig

namespace ConnectorConfig

/-- What the configuration can violate, in the order in which it is judged. -/
def issues (c : ConnectorConfig) : List ConfigIssue :=
  [.serverIp c.server.ip, .serverSinkCapacity, .clientConnectTimeout, .clientSinkCapacity]

/-- Whether the configuration violates a condition. -/
def violates (c : ConnectorConfig) : ConfigIssue → Bool
  | .serverIp text => (Ip.parse? text).isNone
  | .serverSinkCapacity => c.server.sinkChannelCapacity = 0
  | .clientConnectTimeout => c.client.connectTimeoutMs = 0
  | .clientSinkCapacity => c.client.sinkChannelCapacity = 0

/-- The first condition that the configuration violates. -/
def firstIssue? (c : ConnectorConfig) : Option ConfigIssue := c.issues.find? c.violates

variable {c : ConnectorConfig}

/-- **The four conditions**: the text of the server's address is one, there is room in the queues to
the sinks, and dialing has some time. -/
theorem firstIssue?_eq_none_iff :
    c.firstIssue? = none ↔
      (∃ address, c.server.bindAddress = .ok address) ∧ c.server.sinkChannelCapacity ≠ 0 ∧
        c.client.connectTimeoutMs ≠ 0 ∧ c.client.sinkChannelCapacity ≠ 0 := by
  have haddress : (Ip.parse? c.server.ip).isNone = false ↔
      ∃ address, c.server.bindAddress = .ok address := by
    rw [ServerConfig.bindAddress_eq]
    cases Ip.parse? c.server.ip <;> simp
  simp [firstIssue?, issues, violates, haddress]

/-- What is judged is the first issue. -/
theorem validate_eq (c : ConnectorConfig) : c.validate = c.firstIssue?.elim (.ok ()) .error := by
  have hjudged : c.server.validate = c.server.bindAddress.bind fun _ =>
      if c.server.sinkChannelCapacity = 0 then .error .serverSinkCapacity else .ok () := by
    delta ServerConfig.validate
    cases c.server.bindAddress <;> rfl
  have hvalidate : c.validate = c.server.validate.bind fun _ => c.client.validate := rfl
  rw [hvalidate, hjudged, ServerConfig.bindAddress_eq, firstIssue?, issues]
  simp only [ClientConfig.validate]
  -- one case for each condition that may be the first to be violated
  cases hip : Ip.parse? c.server.ip with
  | none => simp [violates, hip, Except.bind]
  | some ip =>
      by_cases hserver : c.server.sinkChannelCapacity = 0
      · simp [violates, hip, hserver, Except.bind]
      by_cases htimeout : c.client.connectTimeoutMs = 0
      · simp [violates, hip, hserver, htimeout, Except.bind]
      by_cases hclient : c.client.sinkChannelCapacity = 0 <;>
        simp [violates, hip, hserver, htimeout, hclient, Except.bind]

variable {storage : Storage} {path : String}

/-- **The first issue decides what is loaded** where a configuration can be read. -/
theorem load_of_read (h : read storage path = .ok c) :
    load storage path = c.firstIssue?.elim (.ok c) fun issue => .error issue.fault := by
  have hload : load storage path =
      (c.validate.mapError ConfigIssue.fault).bind fun _ => .ok c := by
    rw [load, h]
    rfl
  rw [hload, validate_eq]
  cases c.firstIssue? <;> rfl

/-- What is loaded was read, and has no issues. -/
theorem load_eq_ok_iff :
    load storage path = .ok c ↔ read storage path = .ok c ∧ c.firstIssue? = none := by
  cases hread : read storage path with
  | error fault =>
      have hload : load storage path = .error (.config fault) := by
        rw [load, hread]
        rfl
      rw [hload]
      exact ⟨nofun, nofun⟩
  | ok c' =>
      rw [load_of_read hread, Except.ok.injEq]
      constructor
      · intro hload
        cases hissue : c'.firstIssue? with
        | some issue => simp [hissue] at hload
        | none =>
            obtain rfl : c' = c := by simpa [hissue] using hload
            exact ⟨rfl, hissue⟩
      · rintro ⟨rfl, hissue⟩
        rw [hissue, Option.elim_none]

theorem read_eq_ok_of_toOption (h : (read storage path).toOption = some c) :
    read storage path = .ok c := by
  cases hread : read storage path <;> simp_all [Except.toOption]

/-- A path that is not text leads to nothing. -/
theorem loadBytes_eq_ok_iff {path : Bytes} : loadBytes storage path = .ok c ↔
    ∃ text, Utf8.decode? path = some text ∧ load storage text = .ok c := by
  rw [loadBytes]
  cases Utf8.decode? path <;> simp

end ConnectorConfig

/-! ### Starting -/

theorem SinkQueue.start_of_ne_zero (name : String) {capacity : UInt64} (h : capacity ≠ 0) :
    SinkQueue.start name capacity.toNat = .ok { capacity := capacity.toNat } := by
  rw [start_eq, if_neg h]

variable {receiver : Receiver}

/-- **A server that has just got its sink listens when it is started**, unless the system does not
let it. -/
theorem Server.start_of_new {config : ServerConfig} {address : Endpoint}
    (haddress : config.bindAddress = .ok address) (hcapacity : config.sinkChannelCapacity ≠ 0)
    {s : Server} (hs : (new config).setReceiver receiver = .ok s) (n : Network) :
    (∃ error, n.listen address = .error error ∧ s.start n =
      ([.bindFailed (bindText address error)], .error (.illegalState (bindText address error)))) ∨
    ∃ listener n' s', n.listen address = .ok (listener, n') ∧ s.start n = ([], .ok (s', n')) ∧
      s'.isRunning = true ∧ s'.localAddress = n'.listenAddress listener := by
  obtain rfl : { config, life := { sink := some receiver } } = s := Except.ok.inj hs
  cases hlisten : n.listen address with
  | error error =>
      have hacquire : acquire config n = ([.bindFailed (bindText address error)],
          .error (.illegalState (bindText address error))) := by
        delta acquire
        simp only [haddress, hlisten]
      exact .inl ⟨error, rfl, by simp only [start, Lifecycle.startObstacle?, hacquire]; rfl⟩
  | ok result =>
      obtain ⟨listener, n'⟩ := result
      let round : Round := ⟨n'.listenAddress listener, listener,
        { queue := { capacity := config.sinkChannelCapacity.toNat } }⟩
      have hacquire : acquire config n = ([], .ok (round, n')) := by
        delta acquire
        simp only [haddress, hlisten, SinkQueue.start_of_ne_zero name hcapacity]
        rfl
      refine .inr ⟨listener, n',
        { config, life := { sink := some receiver, running := some round } }, rfl, ?_, rfl, rfl⟩
      simp only [start, Lifecycle.startObstacle?, hacquire]
      rfl

/-- **A client that has just got its sink starts.** -/
theorem Client.start_of_new {config : ClientConfig}
    (hcapacity : config.sinkChannelCapacity ≠ 0) {c : Client}
    (hc : (new config).setReceiver receiver = .ok c) :
    ∃ c', c.start = .ok c' ∧ c'.isRunning = true := by
  obtain rfl : { config, life := { sink := some receiver } } = c := Except.ok.inj hc
  let round : Round := .new config { capacity := config.sinkChannelCapacity.toNat }
  have hacquire : acquire config = .ok round := by
    rw [acquire, SinkQueue.start_of_ne_zero name hcapacity]
    rfl
  refine ⟨{ config, life := { sink := some receiver, running := some round } }, ?_, rfl⟩
  rw [start, hacquire]
  rfl

/-! ### Main result -/

/-- **A configuration that was loaded can be started from.**

* Its server has an address to listen at, with the port that is configured, and the numbers that may
  not be zero are not.  A new server with a sink listens at the address when it is started, unless
  the system does not let it; a new client with a sink starts.
* Of what can be read, exactly that is loaded in which these four conditions hold; otherwise the
  first one that is violated is reported. -/
theorem loaded_configuration_starts (storage : Storage) (path : Bytes) :
    (∀ c, ConnectorConfig.loadBytes storage path = .ok c →
      (∃ address, c.server.bindAddress = .ok address ∧ address.port = c.server.port ∧
        ∀ receiver n, ∃ s, (Server.new c.server).setReceiver receiver = .ok s ∧
          ((∃ error, n.listen address = .error error ∧
              s.start n = ([.bindFailed (Server.bindText address error)],
                .error (.illegalState (Server.bindText address error)))) ∨
            ∃ listener n' s', n.listen address = .ok (listener, n') ∧
              s.start n = ([], .ok (s', n')) ∧ s'.isRunning = true ∧
              s'.localAddress = n'.listenAddress listener)) ∧
      c.server.sinkChannelCapacity ≠ 0 ∧ c.client.connectTimeoutMs ≠ 0 ∧
      c.client.sinkChannelCapacity ≠ 0 ∧
      ∀ receiver, ∃ client client', (Client.new c.client).setReceiver receiver = .ok client ∧
        client.start = .ok client' ∧ client'.isRunning = true) ∧
    ∀ text c, Utf8.decode? path = some text → ConnectorConfig.read storage text = .ok c →
      (ConnectorConfig.loadBytes storage path = .ok c ↔
        (∃ address, c.server.bindAddress = .ok address) ∧ c.server.sinkChannelCapacity ≠ 0 ∧
          c.client.connectTimeoutMs ≠ 0 ∧ c.client.sinkChannelCapacity ≠ 0) ∧
      (ConnectorConfig.loadBytes storage path ≠ .ok c →
        ∃ issue, c.firstIssue? = some issue ∧
          ConnectorConfig.loadBytes storage path = .error (.invalidValue issue.message)) := by
  refine ⟨fun c hload => ?_, fun text c htext hread => ?_⟩
  · obtain ⟨text, -, hload⟩ := ConnectorConfig.loadBytes_eq_ok_iff.1 hload
    obtain ⟨-, hissue⟩ := ConnectorConfig.load_eq_ok_iff.1 hload
    obtain ⟨⟨address, haddress⟩, hserver, htimeout, hclient⟩ :=
      ConnectorConfig.firstIssue?_eq_none_iff.1 hissue
    refine ⟨⟨address, haddress, ServerConfig.port_bindAddress haddress, fun receiver n => ?_⟩,
      hserver, htimeout, hclient, fun receiver => ?_⟩
    · exact ⟨_, rfl, Server.start_of_new haddress hserver rfl n⟩
    · have hset : (Client.new c.client).setReceiver receiver =
          .ok { config := c.client, life := { sink := some receiver } } := rfl
      obtain ⟨client', hstart, hrunning⟩ := Client.start_of_new hclient hset
      exact ⟨_, client', rfl, hstart, hrunning⟩
  · have hbytes : ConnectorConfig.loadBytes storage path =
        c.firstIssue?.elim (.ok c) fun issue => .error issue.fault := by
      rw [ConnectorConfig.loadBytes, htext]
      exact ConnectorConfig.load_of_read hread
    have hloaded : ConnectorConfig.loadBytes storage path = .ok c ↔ c.firstIssue? = none := by
      rw [hbytes]
      cases c.firstIssue? <;> simp
    refine ⟨hloaded.trans ConnectorConfig.firstIssue?_eq_none_iff, fun hload => ?_⟩
    obtain ⟨issue, hissue⟩ := Option.ne_none_iff_exists'.1 (mt hloaded.2 hload)
    refine ⟨issue, hissue, ?_⟩
    rw [hbytes, hissue]
    rfl

/-- Of two files one has a port of its own, and a server that is started from it listens where it is
let; the other one violates two conditions, of which the one that is judged first is reported. -/
theorem loaded_configuration_starts_of_two_files :
    let write (text : String) : Bytes := text.toList.map fun c => UInt8.ofNat c.toNat
    let good := write "[server]\nip = \"127.0.0.1\"\nport = 7\n"
    let bad := write "[client]\nconnect_timeout_ms = 0\n[server]\nip = \"localhost\"\n"
    let storage : Storage :=
      { read? := fun path =>
          if path = "good.toml" then some good else if path = "bad.toml" then some bad else none
        holds := fun path => path = "good.toml" ∨ path = "bad.toml" }
    let config : ConnectorConfig := { server := { ip := "127.0.0.1", port := 7 } }
    let network : Network := { host := { refusal := fun _ => none, obstacle := none } }
    ConnectorConfig.loadBytes storage (write "good.toml") = .ok config ∧
      config.server.bindAddress = .ok (.v4 .loopback 7) ∧
      (∃ s s' n', (Server.new config.server).setReceiver {} = .ok s ∧
        s.start network = ([], .ok (s', n')) ∧ s'.isRunning = true) ∧
      ConnectorConfig.loadBytes storage (write "bad.toml") =
        .error (.invalidValue "server.ip: localhost") := by
  intro write good bad storage config network
  have haddress : config.server.bindAddress = .ok (.v4 .loopback 7) :=
    ServerConfig.bindAddress_eq_ok_iff.2 ⟨.v4 .loopback, by decide, rfl⟩
  obtain ⟨hgood, hjudged⟩ := loaded_configuration_starts storage (write "good.toml")
  have hread : ConnectorConfig.read storage "good.toml" = .ok config :=
    ConnectorConfig.read_eq_ok_of_toOption (by decide +kernel)
  have hload : ConnectorConfig.loadBytes storage (write "good.toml") = .ok config :=
    (hjudged "good.toml" config (by decide +kernel) hread).1.2
      ⟨⟨_, haddress⟩, by decide, by decide, by decide⟩
  refine ⟨hload, haddress, ?_, ?_⟩
  · obtain ⟨⟨address, haddress', -, hstart⟩, -⟩ := hgood config hload
    obtain rfl : address = .v4 .loopback 7 := Except.ok.inj (haddress'.symm.trans haddress)
    have hlisten : network.listen (.v4 .loopback 7) = .ok (network.addListener (.v4 .loopback 7)) :=
      rfl
    obtain ⟨s, hs, ⟨error, herror, -⟩ | ⟨_, n', s', -, hstarted, hrunning, -⟩⟩ := hstart {} network
    · rw [hlisten] at herror
      cases herror
    · exact ⟨s, s', n', hs, hstarted, hrunning⟩
  · obtain ⟨-, hjudged⟩ := loaded_configuration_starts storage (write "bad.toml")
    let violating : ConnectorConfig :=
      { server := { ip := "localhost" }, client := { connectTimeoutMs := 0 } }
    have hread : ConnectorConfig.read storage "bad.toml" = .ok violating :=
      ConnectorConfig.read_eq_ok_of_toOption (by decide +kernel)
    obtain ⟨hiff, hreported⟩ := hjudged "bad.toml" violating (by decide +kernel) hread
    have hissue : violating.firstIssue? = some (.serverIp "localhost") := by decide
    have hload : ConnectorConfig.loadBytes storage (write "bad.toml") ≠ .ok violating := by
      intro hload
      exact absurd rfl (hiff.1 hload).2.2.1
    obtain ⟨issue, hissue', hload⟩ := hreported hload
    obtain rfl := Option.some.inj (hissue.symm.trans hissue')
    exact hload

end Framewire
