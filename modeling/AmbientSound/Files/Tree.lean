import AmbientSound.Files.Fault
import AmbientSound.Files.PathText
/-!
A tree of files in memory. Entries are kept by their names from the top down. Paths without a slash
in front start at the home directory. It and the directory above it are below the top and have no
names that a path could spell.
-/
namespace AmbientSound

inductive FileEntry where
  | text (content : String)
  | bytes
  /-- A file that is always without content, whatever is written to it. -/
  | void
  | directory
  deriving DecidableEq, Repr

/-- The entries, the latest first. -/
structure FileTree where
  entries : List (List String × FileEntry)
  deriving DecidableEq, Repr

namespace FileTree

def home : List String := ["", ""]

def nameLimit : Nat := 255

def pathLimit : Nat := 4095

def topDirectories : List String :=
  ["bin", "dev", "etc", "home", "lib", "media", "mnt", "opt", "proc", "root", "run", "sbin", "srv",
    "sys", "tmp", "usr", "var"]

def bare : FileTree :=
  ⟨(home, .directory) :: (home.dropLast, .directory) :: (["dev", "null"], .void) ::
    topDirectories.map fun name => ([name], .directory)⟩

def find? (t : FileTree) : List String → Option FileEntry
  | [] => some .directory
  | names => t.entries.lookup names

def put (t : FileTree) (names : List String) (e : FileEntry) : FileTree :=
  ⟨(names, e) :: t.entries⟩

def toward (here : List String) (name : String) : List String :=
  if name = ".." then here.dropLast
  else if name = "." then here
  else here ++ [name]

def look (t : FileTree) (place : List String) : Except FileFault FileEntry :=
  if place.any fun name => nameLimit < name.utf8ByteSize then .error .nameTooLong
  else
    match t.find? place with
    | some e => .ok e
    | none => .error .missing

def descend (t : FileTree) (here : List String) (name : String) : Except FileFault (List String) :=
  match t.look (toward here name) with
  | .ok .directory => .ok (toward here name)
  | .ok _ => .error .notDirectory
  | .error fault => .error fault

def locate (t : FileTree) (here : List String) : List String → Except FileFault (List String)
  | [] => .ok here
  | [name] => .ok (toward here name)
  | name :: rest => do
    let here ← t.descend here name
    t.locate here rest

def resolve (t : FileTree) (path : String) : Except FileFault (List String) :=
  if path.isEmpty then .error .missing
  else if path.toList.contains '\x00' then .error .unspellable
  else if pathLimit < path.utf8ByteSize then .error .nameTooLong
  else t.locate (if PathText.startsAtTop path then [] else home) (PathText.steps path)

def read (t : FileTree) (path : String) : Except FileFault String := do
  match ← t.look (← t.resolve path) with
  | .directory => throw .isDirectory
  | .text content => if PathText.endsInSlash path then throw .notDirectory else return content
  | .void => if PathText.endsInSlash path then throw .notDirectory else return ""
  | .bytes => throw (if PathText.endsInSlash path then .notDirectory else .notText)

def write (t : FileTree) (path content : String) : Except FileFault FileTree := do
  let place ← t.resolve path
  if PathText.endsInSlash path then throw .isDirectory
  match t.look place with
  | .ok .directory => throw .isDirectory
  | .ok .void => return t
  | .ok _ | .error .missing => return t.put place (.text content)
  | .error fault => throw fault

/-- Makes the directories that names lead through, from a place on. A file in the way is said to
exist if it has the last name or stands behind a directory that was made. -/
def makeDirectories (t : FileTree) (made : Bool) (here : List String) :
    List String → Except FileFault FileTree
  | [] => .ok t
  | name :: rest =>
    match t.descend here name with
    | .ok next => t.makeDirectories made next rest
    | .error .missing =>
      let place := toward here name
      (t.put place .directory).makeDirectories true place rest
    | .error .notDirectory => .error (if made || rest.isEmpty then .exists else .notDirectory)
    | .error fault => .error fault

def makeDirectory (t : FileTree) (path : String) : Except FileFault FileTree :=
  if path.toList.contains '\x00' then .error .unspellable
  else if pathLimit < path.utf8ByteSize then .error .nameTooLong
  else
    let start := if PathText.startsAtTop path then [] else home
    t.makeDirectories false start (PathText.steps path)

def makeRoom (t : FileTree) (path : String) : Except FileFault FileTree :=
  t.makeDirectory (PathText.above path)

def ofLists (directories : List String) (files : List (String × FileEntry)) : FileTree :=
  let withDirectories :=
    directories.foldl (fun t d => (t.makeDirectory d).toOption.getD t) bare
  files.foldl (fun t f =>
    let t := (t.makeRoom f.1).toOption.getD t
    match t.resolve f.1 with
    | .ok place => t.put place f.2
    | .error _ => t) withDirectories

end FileTree

end AmbientSound
