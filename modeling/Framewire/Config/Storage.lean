/-
**Files and their names.**

Reading a configuration asks two things of the place where files are kept: what a path leads to,
and what is in a file.  Here is also what a path says by itself: its last name, the extension of
that name, and the path with another extension added.

Main definitions:

* `Storage` — where files are kept;
* `Folder.storage` — the storage that is one folder with the given files, at a given path;
* `FilePath.extension?`, `FilePath.withExtension?` — extensions.
-/

import Framewire.Message

set_option autoImplicit false

namespace Framewire

/-! ### Paths -/

namespace FilePath

/-- A path, backwards, without the slashes and the names `.` at its end. -/
def trimBackwards : (path : List Char) → List Char
  | '/' :: rest => trimBackwards rest
  | '.' :: '/' :: rest => trimBackwards rest
  | path => path

/-- A path without the slashes and the names `.` at its end. -/
def trimmed (path : String) : List Char := (trimBackwards path.toList.reverse).reverse

/-- The last name of a path, unless the path ends in a step to itself or upwards. -/
def name? (path : String) : Option (List Char) :=
  let name := ((trimmed path).reverse.takeWhile (· ≠ '/')).reverse
  if name = [] ∨ name = ['.'] ∨ name = ['.', '.'] then none else some name

/-- What stands behind the last point of the last name; a point in front of the name does not
count. -/
def extension? (path : String) : Option String := do
  let name ← name? path
  let backwards := name.reverse
  let extension := backwards.takeWhile (· ≠ '.')
  if extension.length + 1 < backwards.length then some (String.ofList extension.reverse) else none

/-- The path with an extension added to its last name, if it has one. -/
def withExtension? (path extension : String) : Option String :=
  (name? path).map fun _ => String.ofList (trimmed path) ++ "." ++ extension

end FilePath

/-! ### Storages -/

/-- Where files are kept. -/
structure Storage where
  /-- the content of the file that a path leads to; nothing for folders and for no file -/
  read? : String → Option Bytes
  /-- whether a path leads to a file or a folder -/
  holds : String → Bool

/-- A folder: the path by which it is known, and its files under their names, in which slashes
separate the names of folders inside it. -/
structure Folder where
  path : String
  files : List (String × Bytes)

namespace Folder

/-- The names of a path, the empty name for each slash at a side of which there is none. -/
def names (path : List Char) : List String := (String.ofList path).splitOn "/"

/-- Whether the names lead to a folder inside the folder. -/
def isFolder (f : Folder) (place : List String) : Bool :=
  place.isEmpty ∨ f.files.any fun (name, _) =>
    let names := names name.toList
    place.length < names.length ∧ names.take place.length = place

/-- The file to which names lead. -/
def file? (f : Folder) (place : List String) : Option Bytes :=
  (f.files.find? fun (name, _) => names name.toList = place).map Prod.snd

/-- The place to which names lead from another place, which has to be a folder for each further
name; nothing outside the folder. -/
def walk (f : Folder) (place : List String) : (names : List String) → Option (List String)
  | [] => some place
  | name :: rest =>
    if f.isFolder place = false then none
    else if name = "" ∨ name = "." then f.walk place rest
    else if name = ".." then
      if place.isEmpty then none else f.walk place.dropLast rest
    else f.walk (place ++ [name]) rest

/-- The place to which a path leads. -/
def locate? (f : Folder) (path : String) : Option (List String) :=
  let root := f.path.toList
  let characters := path.toList
  if characters.take root.length = root then
    match characters.drop root.length with
    | [] => some []
    | '/' :: rest => f.walk [] (names rest)
    | _ => none
  else none

/-- The place to which a path leads when the folder is the one that relative paths start from. -/
def locateInside? (f : Folder) (path : String) : Option (List String) :=
  match f.locate? path with
  | some place => some place
  | none => if path.toList.head? = some '/' then none else f.walk [] (names path.toList)

/-- A folder as a storage; `inside` tells whether relative paths start from it. -/
def storage (f : Folder) (inside : Bool) : Storage :=
  let locate := if inside then f.locateInside? else f.locate?
  { read? := fun path => (locate path).bind f.file?
    holds := fun path =>
      (locate path).any fun place => f.isFolder place || (f.file? place).isSome }

end Folder

end Framewire
