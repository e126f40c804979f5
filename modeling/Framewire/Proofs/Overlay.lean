/-
**A configuration file is laid over the defaults.**

A file may set any of the eleven settings of a server and a client, in any order and in any letter
case, beside whatever else it has.  What it sets is what the configuration has, and everything else
keeps its default; settings of one name in the two parts do not touch each other.  So a file that
sets one thing more, or one thing differently, changes this one thing.

Main definitions:

* `Setting` — the eleven settings, each with its part of a file and its name;
* `ConnectorConfig.get` — **the value of a setting** in a configuration;
* `Overlay` — values for some of the settings, each in the range of its setting;
* `Overlay.ofConfig` — the values that some settings have in a configuration;
* `Overlay.WrittenIn` — a document sets these values and no others;
* `Overlay.document` — one such document;
* `Storage.Documents` — a path leads to a file with a document.

Main results:

* `ConnectorConfig.ext_get` — a configuration is its eleven values;
* `Decode.exists_read` — a field that is set has its value, one that is not has its default;
* `Overlay.writtenIn_document` — every overlay can be written;
* `Overlay.exists_ofValue` — what becomes of a document;
* `loading_overlays_defaults` — **a file is laid over the defaults**.
-/

import Framewire.Proofs.KeyPlaces
import Framewire.Proofs.Startable
import Mathlib

set_option autoImplicit false

namespace Framewire

/-! ### Settings -/

/-- A setting of a server or a client. -/
inductive Setting where
  | serverIp
  | serverPort
  | serverIdleTimeout
  | serverWorkers
  | serverSinkCapacity
  | serverShutdownGrace
  | clientWorkers
  | clientConnectTimeout
  | clientIdleTimeout
  | clientSinkCapacity
  | clientShutdownGrace
deriving DecidableEq, Repr

namespace Setting

/-- The part of a file that has the setting. -/
def part : Setting → String
  | serverIp | serverPort | serverIdleTimeout | serverWorkers | serverSinkCapacity
  | serverShutdownGrace => "server"
  | clientWorkers | clientConnectTimeout | clientIdleTimeout | clientSinkCapacity
  | clientShutdownGrace => "client"

/-- The name of the setting in its part. -/
def name : Setting → String
  | serverIp => "ip"
  | serverPort => "port"
  | serverIdleTimeout | clientIdleTimeout => "idle_timeout_ms"
  | serverWorkers | clientWorkers => "worker_threads"
  | serverSinkCapacity | clientSinkCapacity => "sink_channel_capacity"
  | serverShutdownGrace | clientShutdownGrace => "shutdown_grace_ms"
  | clientConnectTimeout => "connect_timeout_ms"

/-- The values that a setting may be given: a text for the address, a number of 16 bits for the
port, and numbers of 64 bits for all others. -/
def Admits : Setting → Value → Prop
  | serverIp, v => ∃ s, v = .text s
  | serverPort, v => ∃ n : UInt16, v = .integer n.toNat
  | _, v => ∃ n : UInt64, v = .integer n.toNat

theorem isTable_of_admits {setting : Setting} {v : Value} (h : setting.Admits v) :
    v.isTable = false := by
  cases setting <;> obtain ⟨x, rfl⟩ := h <;> rfl

theorem plain_part (setting : Setting) :
    '.' ∉ setting.part.toList ∧ '[' ∉ setting.part.toList := by
  cases setting <;> decide

/-- The settings. -/
def all : List Setting :=
  [serverIp, serverPort, serverIdleTimeout, serverWorkers, serverSinkCapacity, serverShutdownGrace,
    clientWorkers, clientConnectTimeout, clientIdleTimeout, clientSinkCapacity, clientShutdownGrace]

theorem filter_all (setting : Setting) : all.filter (· = setting) = [setting] := by
  cases setting <;> rfl

theorem part_eq (setting : Setting) : setting.part = "server" ∨ setting.part = "client" := by
  cases setting <;> simp [part]

/-- The keys of a setting are in lower case. -/
theorem lowerKey_part (setting : Setting) : lowerKey setting.part = setting.part := by
  cases setting <;> decide +kernel

theorem lowerKey_name (setting : Setting) : lowerKey setting.name = setting.name := by
  cases setting <;> decide +kernel

/-- **A setting is its part and its name.** -/
theorem eq_of_part_of_name {setting setting' : Setting} (hpart : setting.part = setting'.part)
    (hname : setting.name = setting'.name) : setting = setting' := by
  revert hpart hname
  cases setting <;> cases setting' <;> decide

end Setting

/-- The value of a setting. -/
def ConnectorConfig.get (c : ConnectorConfig) : Setting → Value
  | .serverIp => .text c.server.ip
  | .serverPort => .integer c.server.port.toNat
  | .serverIdleTimeout => .integer c.server.idleTimeoutMs.toNat
  | .serverWorkers => .integer c.server.workerThreads.toNat
  | .serverSinkCapacity => .integer c.server.sinkChannelCapacity.toNat
  | .serverShutdownGrace => .integer c.server.shutdownGraceMs.toNat
  | .clientWorkers => .integer c.client.workerThreads.toNat
  | .clientConnectTimeout => .integer c.client.connectTimeoutMs.toNat
  | .clientIdleTimeout => .integer c.client.idleTimeoutMs.toNat
  | .clientSinkCapacity => .integer c.client.sinkChannelCapacity.toNat
  | .clientShutdownGrace => .integer c.client.shutdownGraceMs.toNat

/-- What a configuration has can be given. -/
theorem ConnectorConfig.admits_get (c : ConnectorConfig) (setting : Setting) :
    setting.Admits (c.get setting) := by
  cases setting <;> exact ⟨_, rfl⟩

/-- **A configuration is its eleven values.** -/
theorem ConnectorConfig.ext_get {c c' : ConnectorConfig}
    (h : ∀ setting, c.get setting = c'.get setting) : c = c' := by
  have hnumber : ∀ {n m : UInt64}, Value.integer n.toNat = Value.integer m.toNat → n = m :=
    fun h => UInt64.toNat_inj.1 (Int.ofNat.inj (Value.integer.inj h))
  have hip : c.server.ip = c'.server.ip := Value.text.inj (h .serverIp)
  have hport : c.server.port = c'.server.port :=
    UInt16.toNat_inj.1 (Int.ofNat.inj (Value.integer.inj (h .serverPort)))
  obtain ⟨server, client⟩ := c
  obtain ⟨server', client'⟩ := c'
  obtain ⟨ip, port, idle, workers, capacity, grace⟩ := server
  obtain ⟨ip', port', idle', workers', capacity', grace'⟩ := server'
  obtain rfl : ip = ip' := hip
  obtain rfl : port = port' := hport
  obtain rfl : idle = idle' := hnumber (h .serverIdleTimeout)
  obtain rfl : workers = workers' := hnumber (h .serverWorkers)
  obtain rfl : capacity = capacity' := hnumber (h .serverSinkCapacity)
  obtain rfl : grace = grace' := hnumber (h .serverShutdownGrace)
  obtain ⟨workers', timeout, idle', capacity', grace'⟩ := client
  obtain ⟨workers'', timeout', idle'', capacity'', grace''⟩ := client'
  obtain rfl : workers' = workers'' := hnumber (h .clientWorkers)
  obtain rfl : timeout = timeout' := hnumber (h .clientConnectTimeout)
  obtain rfl : idle' = idle'' := hnumber (h .clientIdleTimeout)
  obtain rfl : capacity' = capacity'' := hnumber (h .clientSinkCapacity)
  obtain rfl : grace' = grace'' := hnumber (h .clientShutdownGrace)
  rfl

/-! ### Fields -/

namespace Decode

variable {α : Type} {view : α → Value} {decode : Value → Except Mismatch α}
  {entries : Entries Value} {name : String}

theorem natural_of_toNat (n : UInt64) : natural (.integer n.toNat) = .ok n := by
  rw [natural, if_pos (Int.natCast_nonneg _), Int.toNat_natCast, UInt64.ofNat_toNat]

theorem portNumber_of_toNat (n : UInt16) : portNumber (.integer n.toNat) = .ok n := by
  have hbound : ¬65535 < n.toUInt64 := by
    rw [UInt64.lt_iff_toNat_lt, UInt16.toNat_toUInt64]
    exact Nat.not_lt.2 (Nat.le_of_lt_succ n.toNat_lt)
  have hnatural : natural (.integer n.toNat) = .ok n.toUInt64 := by
    rw [← UInt16.toNat_toUInt64]
    exact natural_of_toNat n.toUInt64
  rw [portNumber, hnatural]
  change (if 65535 < n.toUInt64 then _ else Except.ok n.toUInt64.toUInt16) = _
  rw [if_neg hbound, UInt16.toUInt16_toUInt64]

/-- **A field that is set has its value, and one that is not has its default**, whatever the values
of the field are. -/
theorem exists_read (hdecode : ∀ a, decode (view a) = .ok a)
    (hview : ∀ v, entries.lookup? name = some v → ∃ a, v = view a)
    (part : String) (position : Nat) (absent : α) :
    ∃ a, (Fields.named entries).read part name position decode absent = .ok a ∧
      view a = (entries.lookup? name).getD (view absent) := by
  have hget : (Fields.named entries).get? part name position =
      (entries.lookup? name).map fun v => (part ++ "." ++ name, v) := rfl
  cases hv : entries.lookup? name with
  | none =>
      rw [hv, Option.map_none] at hget
      exact ⟨absent, by rw [Fields.read, hget], rfl⟩
  | some v =>
      obtain ⟨a, rfl⟩ := hview v hv
      rw [hv, Option.map_some] at hget
      refine ⟨a, ?_, rfl⟩
      rw [Fields.read, hget]
      change (decode (view a)).mapError _ = _
      rw [hdecode]
      rfl

end Decode

/-! ### Overlays -/

/-- Values for some of the settings. -/
structure Overlay where
  value? : Setting → Option Value
  admitted : ∀ setting v, value? setting = some v → setting.Admits v

namespace Overlay

/-- The value that a setting has where the overlay lies over the defaults. -/
def get (o : Overlay) (setting : Setting) : Value :=
  (o.value? setting).getD (ConnectorConfig.get {} setting)

/-- The overlay that gives some settings the values that they have in a configuration. -/
def ofConfig (c : ConnectorConfig) (given : List Setting) : Overlay where
  value? setting := if setting ∈ given then some (c.get setting) else none
  admitted setting v hv := by
    obtain ⟨-, rfl⟩ : setting ∈ given ∧ c.get setting = v := by simpa using hv
    exact c.admits_get setting

/-- A document sets the values of the overlay, each once and in the part where it belongs, and no
others.  It may spell the keys in any letter case, and have them and the parts in any order.  What
else is in a part has another key; what else is at the top, where a key with points or brackets is a
path, leads past every setting. -/
structure WrittenIn (o : Overlay) (entries : Entries Value) : Prop where
  leads : ∀ entry ∈ entries, ∀ setting : Setting,
    lowerKey entry.1 = setting.part ∧ entry.2.isTable = true ∨
      (KeyPath.ofKey entry.1).passes setting.part setting.name = true
  written : ∀ setting : Setting,
    entries.written setting.part setting.name = (o.value? setting).toList

variable {o : Overlay} {entries : Entries Value}

/-! ### Writing an overlay -/

/-- What an overlay writes into a part. -/
def partEntries (o : Overlay) (part : String) : Entries Value :=
  Setting.all.filterMap fun setting =>
    if setting.part = part then (o.value? setting).map (Prod.mk setting.name) else none

/-- A document that sets the values of the overlay. -/
def document (o : Overlay) : Entries Value :=
  [("server", .table (o.partEntries "server")), ("client", .table (o.partEntries "client"))]

theorem spelled_partEntries (setting : Setting) :
    Entries.spelled (o.partEntries setting.part) setting.name = (o.value? setting).toList := by
  have hspelled : Entries.spelled (o.partEntries setting.part) setting.name =
      Setting.all.filterMap fun setting' =>
        if setting' = setting then o.value? setting' else none := by
    rw [Entries.spelled, partEntries, List.filterMap_filterMap]
    congr 1
    funext setting'
    by_cases hpart : setting'.part = setting.part
    · rw [if_pos hpart]
      have hsame : lowerKey setting'.name = setting.name ↔ setting' = setting := by
        rw [Setting.lowerKey_name]
        exact ⟨Setting.eq_of_part_of_name hpart, congrArg _⟩
      cases o.value? setting' <;> simp [hsame]
    · rw [if_neg hpart, if_neg (mt (congrArg Setting.part) hpart), Option.bind_none]
  have hfilter : Setting.all.filterMap (fun setting' =>
      if setting' = setting then o.value? setting' else none) =
        (Setting.all.filter (· = setting)).filterMap o.value? := by
    rw [List.filterMap_filter]
    simp only [decide_eq_true_eq]
  rw [hspelled, hfilter, Setting.filter_all, List.filterMap_cons, List.filterMap_nil]
  cases o.value? setting <;> rfl

/-- **Every overlay can be written.** -/
theorem writtenIn_document (o : Overlay) : o.WrittenIn o.document := by
  have hserver : lowerKey "server" = "server" := Setting.lowerKey_part .serverIp
  have hclient : lowerKey "client" = "client" := Setting.lowerKey_part .clientWorkers
  refine ⟨fun entry hentry setting => ?_, fun setting => ?_⟩
  · obtain ⟨of, entries, rfl⟩ : ∃ (of : Setting) (entries : Entries Value),
        entry = (of.part, .table entries) := by
      simp only [document, List.mem_cons, List.not_mem_nil, or_false] at hentry
      rcases hentry with rfl | rfl
      · exact ⟨.serverIp, _, rfl⟩
      · exact ⟨.clientWorkers, _, rfl⟩
    by_cases hpart : of.part = setting.part
    · exact .inl ⟨(Setting.lowerKey_part of).trans hpart, rfl⟩
    · right
      rw [KeyPath.ofKey_of_plain of.plain_part.1 of.plain_part.2]
      simp [KeyPath.passes, Setting.lowerKey_part, hpart]
  · rw [← spelled_partEntries]
    rcases setting.part_eq with hpart | hpart <;>
      simp [Entries.written, document, Entries.spelled, hserver, hclient, hpart, Value.entries]

/-! ### From a document to a configuration -/

/-- What is put in the place of a setting is its value. -/
theorem WrittenIn.at?_normalize (h : o.WrittenIn entries) (setting : Setting) :
    (Value.table entries).normalize.at? setting.part setting.name = o.value? setting ∧
      (Value.table entries).normalize.Tabular setting.part := by
  have hflat : ∀ v ∈ entries.written setting.part setting.name, v.isTable = false := by
    intro v hv
    rw [h.written, Option.mem_toList] at hv
    exact Setting.isTable_of_admits (o.admitted setting v hv)
  obtain ⟨hat, htabular⟩ := Value.at?_normalize setting.plain_part
    (fun entry hentry => h.leads entry hentry setting) hflat
  refine ⟨?_, htabular⟩
  rw [hat, h.written]
  cases o.value? setting <;> rfl

/-- A field of a part that has a number has the value of its setting. -/
theorem exists_number (setting : Setting)
    (hsetting : ∀ v, setting.Admits v → ∃ n : UInt64, v = .integer n.toNat)
    (hentries : entries.lookup? setting.name = o.value? setting) (position : Nat)
    (absent : UInt64) :
    ∃ n : UInt64, (Decode.Fields.named entries).read setting.part setting.name position
        Decode.natural absent = .ok n ∧
      Value.integer n.toNat = (o.value? setting).getD (.integer absent.toNat) := by
  rw [← hentries]
  refine Decode.exists_read Decode.natural_of_toNat (fun v hv => ?_) setting.part position absent
  exact hsetting v (o.admitted setting v (hentries ▸ hv))

/-- **The server that a part writes** has the values of the overlay. -/
theorem exists_server (hentries : ∀ setting : Setting, setting.part = "server" →
      entries.lookup? setting.name = o.value? setting) :
    ∃ s, ServerConfig.ofFields (.named entries) = .ok s ∧
      ∀ client setting, setting.part = "server" →
        ConnectorConfig.get ⟨s, client⟩ setting = o.get setting := by
  have haddress := hentries .serverIp rfl
  have hentrance := hentries .serverPort rfl
  have hwords : ∀ s, Decode.words (.text s) = .ok s := fun _ => rfl
  obtain ⟨ip, hip, hip'⟩ := Decode.exists_read hwords
    (fun v hv => o.admitted .serverIp v (haddress ▸ hv)) "server" 0 "0.0.0.0"
  obtain ⟨port, hport, hport'⟩ := Decode.exists_read Decode.portNumber_of_toNat
    (fun v hv => o.admitted .serverPort v (hentrance ▸ hv)) "server" 1 5683
  obtain ⟨idle, hidle, hidle'⟩ := exists_number .serverIdleTimeout (fun _ h => h)
    (hentries .serverIdleTimeout rfl) 2 100000
  obtain ⟨workers, hworkers, hworkers'⟩ := exists_number .serverWorkers (fun _ h => h)
    (hentries .serverWorkers rfl) 3 1
  obtain ⟨capacity, hcapacity, hcapacity'⟩ := exists_number .serverSinkCapacity (fun _ h => h)
    (hentries .serverSinkCapacity rfl) 4 1024
  obtain ⟨grace, hgrace, hgrace'⟩ := exists_number .serverShutdownGrace (fun _ h => h)
    (hentries .serverShutdownGrace rfl) 5 1000
  refine ⟨⟨ip, port, idle, workers, capacity, grace⟩, ?_, fun client setting hpart => ?_⟩
  · simp only [Setting.part, Setting.name] at hip hport hidle hworkers hcapacity hgrace
    simp only [ServerConfig.ofFields, hip, hport, hidle, hworkers, hcapacity, hgrace, bind,
      Except.bind, pure, Except.pure]
  · cases setting with
    | serverIp => rwa [haddress] at hip'
    | serverPort => rwa [hentrance] at hport'
    | serverIdleTimeout => exact hidle'
    | serverWorkers => exact hworkers'
    | serverSinkCapacity => exact hcapacity'
    | serverShutdownGrace => exact hgrace'
    | _ => exact absurd hpart (by decide)

/-- **The client that a part writes** has the values of the overlay. -/
theorem exists_client (hentries : ∀ setting : Setting, setting.part = "client" →
      entries.lookup? setting.name = o.value? setting) :
    ∃ c, ClientConfig.ofFields (.named entries) = .ok c ∧
      ∀ server setting, setting.part = "client" →
        ConnectorConfig.get ⟨server, c⟩ setting = o.get setting := by
  obtain ⟨workers, hworkers, hworkers'⟩ := exists_number .clientWorkers (fun _ h => h)
    (hentries .clientWorkers rfl) 0 1
  obtain ⟨timeout, htimeout, htimeout'⟩ := exists_number .clientConnectTimeout (fun _ h => h)
    (hentries .clientConnectTimeout rfl) 1 10000
  obtain ⟨idle, hidle, hidle'⟩ := exists_number .clientIdleTimeout (fun _ h => h)
    (hentries .clientIdleTimeout rfl) 2 100000
  obtain ⟨capacity, hcapacity, hcapacity'⟩ := exists_number .clientSinkCapacity (fun _ h => h)
    (hentries .clientSinkCapacity rfl) 3 1024
  obtain ⟨grace, hgrace, hgrace'⟩ := exists_number .clientShutdownGrace (fun _ h => h)
    (hentries .clientShutdownGrace rfl) 4 1000
  refine ⟨⟨workers, timeout, idle, capacity, grace⟩, ?_, fun server setting hpart => ?_⟩
  · simp only [Setting.part, Setting.name] at hworkers htimeout hidle hcapacity hgrace
    simp only [ClientConfig.ofFields, hworkers, htimeout, hidle, hcapacity, hgrace, bind,
      Except.bind, pure, Except.pure]
  · cases setting with
    | clientWorkers => exact hworkers'
    | clientConnectTimeout => exact htimeout'
    | clientIdleTimeout => exact hidle'
    | clientSinkCapacity => exact hcapacity'
    | clientShutdownGrace => exact hgrace'
    | _ => exact absurd hpart (by decide)

end Overlay

/-- The entries of a part of a document. -/
def Value.partOf (root : Value) (part : String) : Entries Value :=
  (root.entries.lookup? part).elim [] Value.entries

theorem Value.at?_eq (root : Value) (part name : String) :
    root.at? part name = (root.partOf part).lookup? name := by
  rw [at?, partOf]
  cases root.entries.lookup? part <;> rfl

/-- A part that is a table is read from its entries, and one that is not there gives the defaults,
which are what no entries give. -/
theorem Value.read_of_tabular {α : Type} {root : Value} {part : String} (h : root.Tabular part)
    (kind : String) (decode : Decode.Fields → Except ConfigFault α) {absent a : α}
    (habsent : decode (.named []) = .ok absent)
    (hdecode : decode (.named (root.partOf part)) = .ok a) :
    (root.entries.lookup? part).elim (.ok absent)
      (fun v => Decode.fieldsOf kind v >>= decode) = .ok a := by
  cases hv : root.entries.lookup? part with
  | none =>
      rw [partOf, hv, Option.elim_none] at hdecode
      rw [Option.elim_none, ← habsent, hdecode]
  | some v =>
      obtain ⟨entries, rfl⟩ := isTable_iff.1 (h v hv)
      rw [partOf, hv, Option.elim_some] at hdecode
      rw [Option.elim_some]
      exact hdecode

/-- Where the parts are tables, the configuration is read from their entries. -/
theorem ConnectorConfig.ofEntries_of_tabular {root : Value} {server : ServerConfig}
    {client : ClientConfig} (hserver : root.Tabular "server") (hclient : root.Tabular "client")
    (hs : ServerConfig.ofFields (.named (root.partOf "server")) = .ok server)
    (hc : ClientConfig.ofFields (.named (root.partOf "client")) = .ok client) :
    ofEntries root.entries = .ok ⟨server, client⟩ := by
  have hofEntries : ofEntries root.entries =
      ((root.entries.lookup? "server").elim (.ok {})
        fun v => Decode.fieldsOf "ServerConfig" v >>= ServerConfig.ofFields).bind fun server =>
      ((root.entries.lookup? "client").elim (.ok {})
        fun v => Decode.fieldsOf "ClientConfig" v >>= ClientConfig.ofFields).bind fun client =>
      .ok ⟨server, client⟩ := by
    delta ofEntries
    cases root.entries.lookup? "server" <;> cases root.entries.lookup? "client" <;> rfl
  rw [hofEntries, Value.read_of_tabular hserver "ServerConfig" ServerConfig.ofFields rfl hs,
    Value.read_of_tabular hclient "ClientConfig" ClientConfig.ofFields rfl hc]
  rfl

namespace Overlay

variable {o : Overlay} {entries : Entries Value}

/-- **What becomes of a document** that sets the values of an overlay: a configuration that has
them, and the defaults for all else. -/
theorem exists_ofValue (h : o.WrittenIn entries) :
    ∃ c, ConnectorConfig.ofValue (.table entries) = .ok c ∧
      ∀ setting, c.get setting = o.get setting := by
  have hlookup : ∀ setting : Setting,
      ((Value.table entries).normalize.partOf setting.part).lookup? setting.name =
        o.value? setting := by
    intro setting
    rw [← Value.at?_eq]
    exact (h.at?_normalize setting).1
  obtain ⟨s, hs, hserver⟩ := exists_server (o := o) fun setting hpart => hpart ▸ hlookup setting
  obtain ⟨c, hc, hclient⟩ := exists_client (o := o) fun setting hpart => hpart ▸ hlookup setting
  refine ⟨⟨s, c⟩, ConnectorConfig.ofEntries_of_tabular (h.at?_normalize .serverIp).2
    (h.at?_normalize .clientWorkers).2 hs hc, fun setting => ?_⟩
  rcases setting.part_eq with hpart | hpart
  · exact hserver c setting hpart
  · exact hclient s setting hpart

end Overlay

/-! ### From a path to a configuration -/

/-- A path leads to a file whose document is a table with the given entries.  They are what the
format makes of the text: a number that does not fit 64 signed bits is read as a float there. -/
def Storage.Documents (storage : Storage) (path : Bytes) (entries : Entries Value) : Prop :=
  ∃ text file, Utf8.decode? path = some text ∧ ConfigFile.find storage text = .ok file ∧
    file.document = .ok (.table entries)

/-- A path to a file of a known format, in which a text writes a table. -/
theorem Storage.documents_of_read {storage : Storage} {path content : Bytes} {text : String}
    {format : Format} {entries : Entries Value} (place : String)
    (hpath : Utf8.decode? path = some place)
    (hread : storage.read? place = some content)
    (hformat : (FilePath.extension? place).bind Format.ofExtension? = some format)
    (hcontent : Utf8.decode? content = some text)
    (htext : format.document? text = some (.table entries)) : storage.Documents path entries := by
  refine ⟨place, ⟨format, content⟩, hpath, ?_, ?_⟩
  · simp only [ConfigFile.find, hread, hformat]
  · simp only [ConfigFile.document, hcontent, htext]

/-- Where a path leads to a document, the configuration of the document is judged, and loaded if it
is valid. -/
theorem Storage.Documents.loadBytes_eq {storage : Storage} {path : Bytes}
    {entries : Entries Value} (h : storage.Documents path entries) {c : ConnectorConfig}
    (hc : ConnectorConfig.ofValue (.table entries) = .ok c) :
    ConnectorConfig.loadBytes storage path =
      (c.validate.mapError ConfigIssue.fault).bind fun _ => .ok c := by
  obtain ⟨text, file, htext, hfile, hdocument⟩ := h
  have hread : ConnectorConfig.read storage text = .ok c := by
    rw [ConnectorConfig.read, hfile, ← hc]
    change (file.document.bind ConnectorConfig.ofValue) = _
    rw [hdocument]
    rfl
  rw [ConnectorConfig.loadBytes, htext]
  change ConnectorConfig.load storage text = _
  rw [ConnectorConfig.load, hread]
  rfl

/-- A configuration is valid when it has no issues. -/
theorem ConnectorConfig.validate_eq_ok_iff {c : ConnectorConfig} :
    c.validate = .ok () ↔ c.firstIssue? = none := by
  rw [validate_eq]
  cases c.firstIssue? <;> simp

namespace Overlay

variable {o : Overlay} {storage : Storage} {path : Bytes} {entries : Entries Value}
  {c : ConnectorConfig}

/-- **What is loaded** from a document that sets the values of an overlay: the configuration that
has them, if it is valid. -/
theorem loadBytes_eq (hdocument : storage.Documents path entries) (hwritten : o.WrittenIn entries)
    (hget : ∀ setting, c.get setting = o.get setting) :
    ConnectorConfig.loadBytes storage path =
      (c.validate.mapError ConfigIssue.fault).bind fun _ => .ok c := by
  obtain ⟨c', hc', hget'⟩ := exists_ofValue hwritten
  obtain rfl : c' = c :=
    ConnectorConfig.ext_get fun setting => (hget' setting).trans (hget setting).symm
  exact hdocument.loadBytes_eq hc'

/-- What is loaded from such a document has the values of the overlay. -/
theorem get_of_loadBytes (hdocument : storage.Documents path entries)
    (hwritten : o.WrittenIn entries) (hload : ConnectorConfig.loadBytes storage path = .ok c)
    (setting : Setting) : c.get setting = o.get setting := by
  obtain ⟨c', -, hget⟩ := exists_ofValue hwritten
  rw [loadBytes_eq hdocument hwritten hget] at hload
  cases hvalid : c'.validate with
  | error issue =>
      rw [hvalid] at hload
      cases hload
  | ok u =>
      rw [hvalid] at hload
      obtain rfl := Except.ok.inj hload
      exact hget setting

end Overlay

/-! ### Main result -/

/-- **A file is laid over the defaults.**  A path leads to a document that sets the values of an
overlay, in any order and any letter case, beside anything that leads past the settings.

* There is exactly one configuration with the values of the overlay and the defaults for all else.
* It is what is loaded if it is valid; otherwise what it violates is reported.
* Whatever another document sets, what is loaded from the two has the same value for every setting
  that both set alike or both leave alone. -/
theorem loading_overlays_defaults {storage : Storage} {path : Bytes} {entries : Entries Value}
    {o : Overlay} (hdocument : storage.Documents path entries) (hwritten : o.WrittenIn entries) :
    (∃! c : ConnectorConfig, ∀ setting, c.get setting = o.get setting) ∧
    (∀ c : ConnectorConfig, (∀ setting, c.get setting = o.get setting) →
      (c.validate = .ok () → ConnectorConfig.loadBytes storage path = .ok c) ∧
      ∀ issue, c.validate = .error issue →
        ConnectorConfig.loadBytes storage path = .error issue.fault) ∧
    ∀ storage' path' entries' (o' : Overlay) c c', storage'.Documents path' entries' →
      o'.WrittenIn entries' → ConnectorConfig.loadBytes storage path = .ok c →
      ConnectorConfig.loadBytes storage' path' = .ok c' →
        ∀ setting, o'.value? setting = o.value? setting → c'.get setting = c.get setting := by
  refine ⟨?_, fun c hget => ⟨fun hvalid => ?_, fun issue hissue => ?_⟩, ?_⟩
  · obtain ⟨c, -, hget⟩ := Overlay.exists_ofValue hwritten
    refine ⟨c, hget, fun c' hget' => ?_⟩
    exact ConnectorConfig.ext_get fun setting => (hget' setting).trans (hget setting).symm
  · rw [Overlay.loadBytes_eq hdocument hwritten hget, hvalid]
    rfl
  · rw [Overlay.loadBytes_eq hdocument hwritten hget, hissue]
    rfl
  · intro storage' path' entries' o' c c' hdocument' hwritten' hload hload' setting hsame
    calc c'.get setting = o'.get setting :=
          Overlay.get_of_loadBytes hdocument' hwritten' hload' setting
      _ = o.get setting := by rw [Overlay.get, Overlay.get, hsame]
      _ = c.get setting := (Overlay.get_of_loadBytes hdocument hwritten hload setting).symm

set_option maxRecDepth 4096 in
/-- Of two files one spells its keys in mixed letter case, and has a key that belongs to no setting.
The other one, in the other format, sets one thing more: this changes the one thing, and not the
setting of the same name in the other part. -/
theorem loading_overlays_defaults_of_two_files :
    let write (text : String) : Bytes := text.toList.map fun c => UInt8.ofNat c.toNat
    let mixed := "[CLIENT]\nport = 1\n[Server]\nPORT = 9\n"
    let plain := "\x7b\"server\":\x7b\"port\":9,\"idle_timeout_ms\":5\x7d,\"client\":\x7b\x7d\x7d"
    let storage : Storage :=
      { read? := fun path =>
          if path = "mixed.toml" then some (write mixed)
          else if path = "plain.json" then some (write plain) else none
        holds := fun path => path = "mixed.toml" ∨ path = "plain.json" }
    let c : ConnectorConfig := { server := { port := 9 } }
    let c' : ConnectorConfig := { server := { port := 9, idleTimeoutMs := 5 } }
    ConnectorConfig.loadBytes storage (write "mixed.toml") = .ok c ∧
      ConnectorConfig.loadBytes storage (write "plain.json") = .ok c' ∧
      ∀ setting, setting ≠ .serverIdleTimeout → c'.get setting = c.get setting := by
  intro write mixed plain storage c c'
  let entries : Entries Value :=
    [("CLIENT", .table [("port", .integer 1)]), ("Server", .table [("PORT", .integer 9)])]
  let mixedly : Overlay := .ofConfig c [.serverPort]
  let plainly : Overlay := .ofConfig c' [.serverPort, .serverIdleTimeout]
  have hdocument : storage.Documents (write "mixed.toml") entries := by
    have hcontent : Utf8.decode? (write mixed) = some mixed := by decide +kernel
    have hentries : Format.toml.document? mixed = some (.table entries) := by cbv
    exact Storage.documents_of_read "mixed.toml" (by decide +kernel) (by simp [storage])
      (by decide +kernel) hcontent hentries
  have hdocument' : storage.Documents (write "plain.json") plainly.document := by
    have hcontent : Utf8.decode? (write plain) = some plain := by decide +kernel
    have hentries : Format.json.document? plain = some (.table
        [("server", .table [("port", .integer 9), ("idle_timeout_ms", .integer 5)]),
          ("client", .table [])]) := by
      cbv
    exact Storage.documents_of_read "plain.json" (by decide +kernel) (by simp [storage])
      (by decide +kernel) hcontent hentries
  have hkeys : lowerKey "CLIENT" = "client" ∧ lowerKey "Server" = "server" ∧
      lowerKey "PORT" = "port" ∧ lowerKey "port" = "port" := by
    decide +kernel
  have hwritten : mixedly.WrittenIn entries := by
    refine ⟨fun entry hentry setting => ?_, fun setting => ?_⟩
    · simp only [entries, List.mem_cons, List.not_mem_nil, or_false] at hentry
      rcases hentry with rfl | rfl <;> cases setting <;> decide +kernel
    · cases setting <;> simp [Entries.written, Entries.spelled, entries, mixedly,
        Overlay.ofConfig, Setting.part, Setting.name, Value.entries, c, ConnectorConfig.get, hkeys]
  obtain ⟨-, hload, hframe⟩ := loading_overlays_defaults hdocument hwritten
  obtain ⟨-, hload', -⟩ := loading_overlays_defaults hdocument' plainly.writtenIn_document
  have hget : ∀ setting, c.get setting = mixedly.get setting := fun setting => by
    cases setting <;> rfl
  have hget' : ∀ setting, c'.get setting = plainly.get setting := fun setting => by
    cases setting <;> rfl
  have hvalid : c.validate = .ok () := ConnectorConfig.validate_eq_ok_iff.2 (by decide +kernel)
  have hvalid' : c'.validate = .ok () := ConnectorConfig.validate_eq_ok_iff.2 (by decide +kernel)
  have hc : ConnectorConfig.loadBytes storage (write "mixed.toml") = .ok c :=
    (hload c hget).1 hvalid
  have hc' : ConnectorConfig.loadBytes storage (write "plain.json") = .ok c' :=
    (hload' c' hget').1 hvalid'
  refine ⟨hc, hc', fun setting hsetting => ?_⟩
  refine hframe storage _ _ plainly c c' hdocument' plainly.writtenIn_document hc hc' setting ?_
  cases setting with
  | serverIdleTimeout => exact absurd rfl hsetting
  | _ => rfl

end Framewire
