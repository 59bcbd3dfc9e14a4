/-
A store of files under a root directory, with a working directory and the two
devices a run may be pointed at.

Paths are resolved name by name: what a path passes through has to be a
directory, and only its last name may be missing.  A name is text in full characters,
so there are no names with half a surrogate pair in them, and there are no links: a
file has one name, and all of it is at one location.
-/
import ScriptPress.Text.Quoted
import ScriptPress.Stream

namespace ScriptPress

/-! ## Paths -/

/-- A path as written: the names in it, from the root or from the working
directory.  A path that ends in a slash can only mean a directory. -/
structure Path where
  absolute : Bool
  names : List String
  directory : Bool
  deriving DecidableEq, Repr

namespace Path

def parts : List Char → List (List Char)
  | [] => [[]]
  | '/' :: rest => [] :: parts rest
  | c :: rest =>
    match parts rest with
    | [] => [[c]]
    | part :: others => (c :: part) :: others

/-- Slashes in a row count as one. -/
def ofString (text : String) : Path :=
  let parts := parts text.toList
  { absolute := parts.head? == some [] && 1 < parts.length
    names := (parts.filter (!·.isEmpty)).map String.ofList
    directory := parts.getLast? == some [] }

end Path

/-! ## Entries -/

/-- Where an entry is: the names that lead to it from the root. -/
abbrev Location := List String

/-- Where a name leads from a directory.  One point means the directory itself
and two the one above; the root is above itself. -/
def Location.follow (here : Location) (name : String) : Location :=
  if name = "." then here
  else if name = ".." then here.dropLast
  else here ++ [name]

inductive Device where
  /-- Takes everything and holds nothing. -/
  | null
  /-- Takes nothing, and reading it has no end. -/
  | full
  deriving DecidableEq, Repr

inductive Node where
  | directory
  | file (content : Bytes)
  | device (device : Device)
  deriving DecidableEq, Repr

inductive OpenError where
  | noEntry
  | notDirectory
  | isDirectory
  | nameTooLong
  /-- Reading would have no end, so nothing is read. -/
  | endless
  /-- The path has a NUL in it, so it cannot even be asked for. -/
  | nullInPath
  deriving DecidableEq, Repr

namespace OpenError

/-- The text for a path, as the operating system words it. -/
def message (path : String) : OpenError → String
  | noEntry => s!"[Errno 2] No such file or directory: {Text.quote path}"
  | notDirectory => s!"[Errno 20] Not a directory: {Text.quote path}"
  | isDirectory => s!"[Errno 21] Is a directory: {Text.quote path}"
  | nameTooLong => s!"[Errno 36] File name too long: {Text.quote path}"
  | endless => s!"Endless input: {Text.quote path}"
  | nullInPath => "embedded null byte"

end OpenError

structure Store where
  entries : List (Location × Node)
  home : Location
  deriving Repr

namespace Store

/-- A store with an empty working directory, among those for what is kept a short
time. -/
def empty : Store where
  entries :=
    [([], .directory), (["dev"], .directory), (["dev", "null"], .device .null),
      (["dev", "full"], .device .full), (["tmp"], .directory), (["tmp", "home"], .directory)]
  home := ["tmp", "home"]

def get? (s : Store) (location : Location) : Option Node := s.entries.lookup location

def set (s : Store) (location : Location) (node : Node) : Store :=
  if (s.get? location).isSome then
    { s with entries := s.entries.map fun e => if e.1 == location then (location, node) else e }
  else { s with entries := s.entries ++ [(location, node)] }

def makeDirectories (s : Store) (start : Location) : List String → Store
  | [] => s
  | name :: rest =>
    let here := Location.follow start name
    let s := if (s.get? here).isSome then s else s.set here .directory
    s.makeDirectories here rest

/-- Make a directory in the working directory, with those above it. -/
def addDirectory (s : Store) (path : String) : Store :=
  s.makeDirectories s.home (Path.ofString path).names

/-- Put a file in the working directory, with the directories above it. -/
def addFile (s : Store) (path : String) (content : Bytes) : Store :=
  let names := (Path.ofString path).names
  (s.makeDirectories s.home names.dropLast).set (names.foldl Location.follow s.home)
    (.file content)

/-- All below the working directory, by path: the content of a file, and none
for a directory, whose path gets a slash. -/
def listing (s : Store) : List (String × Option Bytes) :=
  let found := s.entries.filterMap fun (location, node) =>
    if s.home.isPrefixOf location && location != s.home then
      let path := "/".intercalate (location.drop s.home.length)
      match node with
      | .directory => some (path ++ "/", none)
      | .file content => some (path, some content)
      | .device _ => none
    else none
  found.mergeSort fun a b => !(b.1 < a.1)

/-! ## Resolving and opening -/

def nameLimit : Nat := 255

def pathLimit : Nat := 4096

def requireDirectory (s : Store) (here : Location) : Except OpenError Unit :=
  match s.get? here with
  | none => .error .noEntry
  | some .directory => .ok ()
  | some _ => .error .notDirectory

def enter (s : Store) (here : Location) (name : String) : Except OpenError Location := do
  s.requireDirectory here
  if nameLimit < name.utf8ByteSize then throw .nameTooLong
  else return Location.follow here name

/-- The location a path leads to.  All it passes through is there, but the
location itself may have no entry. -/
def locate (s : Store) (path : Path) : Except OpenError Location :=
  path.names.foldlM s.enter (if path.absolute then [] else s.home)

/-- The path in a text, if the text can be a path at all. -/
def pathOf (text : String) : Except OpenError Path :=
  if text.toList.contains '\x00' then .error .nullInPath
  else if text.isEmpty then .error .noEntry
  else if pathLimit ≤ text.utf8ByteSize then .error .nameTooLong
  else .ok (Path.ofString text)

/-- Open a file or device for reading.  A device without an end is refused, as no run
that reads it would come to a result. -/
def openInput (s : Store) (text : String) : Except OpenError Location := do
  let path ← pathOf text
  let location ← s.locate path
  match s.get? location with
  | none => throw .noEntry
  | some .directory => throw .isDirectory
  | some node =>
    if path.directory then throw .notDirectory
    else if node = .device .full then throw .endless
    else return location

/-- Open a file or device for writing.  A file is made if there is none, and
emptied if there is one.  A path that can only mean a directory is refused before
its last name is looked at. -/
def openOutput (s : Store) (text : String) : Except OpenError (Location × Store) := do
  let path ← pathOf text
  if path.directory then
    let above ← s.locate { path with names := path.names.dropLast }
    s.requireDirectory above
    throw .isDirectory
  else
    let location ← s.locate path
    match s.get? location with
    | some .directory => throw .isDirectory
    | some (.device _) => return (location, s)
    | _ => return (location, s.set location (.file []))

/-- What reading an open file gives.  The device that can be opened holds nothing. -/
def content (s : Store) (location : Location) : Bytes :=
  match s.get? location with
  | some (.file content) => content
  | _ => []

/-- Leave `content` in an open file.  Devices keep nothing. -/
def save (s : Store) (location : Location) (content : Bytes) : Store :=
  match s.get? location with
  | some (.device _) => s
  | _ => s.set location (.file content)

end Store
end ScriptPress
