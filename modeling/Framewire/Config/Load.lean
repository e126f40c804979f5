/-
**Loading a configuration.**

A path that leads to a file has to have the extension of a known format.  Any other path gets the
extensions of the formats added, one after the other, until it leads to a file.  The file is text
in its format; the configuration in it has to be valid.

Two formats are known here, TOML and JSON.  The formats YAML, INI, RON and JSON5 are left out: a file
with one of their extensions counts as one of no known format, and their extensions are not tried.

Main definitions:

* `Format` — the known formats;
* `ConfigFile.find` — the file of a path and its format;
* `ConnectorConfig.load` — the configuration that a path leads to;
* `ConnectorConfig.loadBytes` — the same for a path that may not be text.
-/

import Framewire.Config.Decode
import Framewire.Config.Storage
import Framewire.Document.Json
import Framewire.Document.Toml
import Framewire.Text.Utf8

set_option autoImplicit false

namespace Framewire

/-- A format of configuration files.  YAML, INI, RON and JSON5 are left out. -/
inductive Format where
  | toml
  | json
deriving DecidableEq, Repr

namespace Format

/-- The formats, in the order in which their extensions are tried. -/
def all : List Format := [toml, json]

/-- The extension of a format. -/
def extension : Format → String
  | toml => "toml"
  | json => "json"

/-- The format of an extension. -/
def ofExtension? (extension : String) : Option Format :=
  all.find? fun format => format.extension = extension

/-- The document that a text writes in a format: a table. -/
def document? (format : Format) (text : String) : Option Value :=
  match format with
  | toml => Toml.parse? text
  | json =>
    match Json.parse? text with
    | some (.table entries) => some (.table entries)
    | _ => none

end Format

/-- The content of a configuration file, and its format. -/
structure ConfigFile where
  format : Format
  content : Bytes

namespace ConfigFile

/-- The paths at which the file of a path is looked for, in that order. -/
def places (path : String) : List String :=
  path :: Format.all.filterMap fun format => FilePath.withExtension? path format.extension

/-- The file of a path. -/
def find (storage : Storage) (path : String) : Except ConfigFault ConfigFile :=
  match storage.read? path with
  | some content =>
    match (FilePath.extension? path).bind Format.ofExtension? with
    | some format => .ok ⟨format, content⟩
    | none =>
      .error (.foreign
        ("configuration file \"" ++ path ++ "\" is not of a registered file format"))
  | none =>
    let found := Format.all.findSome? fun format => do
      let path ← FilePath.withExtension? path format.extension
      let content ← storage.read? path
      return ⟨format, content⟩
    match found with
    | some file => .ok file
    | none => .error (.foreign ("configuration file \"" ++ path ++ "\" not found"))

/-- The document in a file. -/
def document (file : ConfigFile) : Except ConfigFault Value :=
  match Utf8.decode? file.content with
  | none => .error (.foreign "stream did not contain valid UTF-8")
  | some text =>
    match file.format.document? text with
    | some document => .ok document
    | none => .error .unreadable

end ConfigFile

namespace ConnectorConfig

/-- The configuration that a path leads to, not yet judged. -/
def read (storage : Storage) (path : String) : Except ConfigFault ConnectorConfig := do
  let file ← ConfigFile.find storage path
  let document ← file.document
  ofValue document

/-- The configuration that a path leads to. -/
def load (storage : Storage) (path : String) : Except Fault ConnectorConfig := do
  let config ← (read storage path).mapError .config
  config.validate.mapError ConfigIssue.fault
  return config

/-- The configuration that a path leads to, if the path is text. -/
def loadBytes (storage : Storage) (path : Bytes) : Except Fault ConnectorConfig :=
  match Utf8.decode? path with
  | some path => load storage path
  | none => .error (.invalidValue ("config file path: " ++ Utf8.decodeLossy path))

end ConnectorConfig

end Framewire
