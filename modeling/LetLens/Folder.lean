import LetLens.Text.Utf8

/-! What stands at a path, and what the system answers when it is read. A folder holds entries under
the names of the folders that lead to them. A path is walked name by name; every name but the last
must be one of a folder. What lies outside of the folder is not known, other than that there are
folders above it and that the system has an empty device. -/

namespace LetLens

/-- An error of the system: its number and what it says. -/
structure OsError where
  code : Nat
  message : String
deriving DecidableEq

namespace OsError

def isFolder : OsError := ⟨21, "Is a directory"⟩

/-- The kinds of the errors in which opening and reading can end. -/
def kinds : List (Nat × String) :=
  [(1, "PermissionDenied"), (2, "NotFound"), (4, "Interrupted"), (11, "WouldBlock"),
   (12, "OutOfMemory"), (13, "PermissionDenied"), (16, "ResourceBusy"), (20, "NotADirectory"),
   (21, "IsADirectory"), (22, "InvalidInput"), (26, "ExecutableFileBusy"),
   (36, "InvalidFilename"), (40, "FilesystemLoop"), (110, "TimedOut"),
   (116, "StaleNetworkFileHandle")]

def kind (e : OsError) : String := (kinds.lookup e.code).getD "Uncategorized"

end OsError

/-- What stands at a path. The content of a locked file is there, but the system does not give it. A
device is whatever is neither a file nor a folder, with what the system answers when it is read. -/
inductive Entry
  | missing
  | folder
  | file (content : Bytes)
  | locked (content : Bytes) (e : OsError)
  | device (answer : Except OsError Bytes)

/-- What the system answers when an entry is read, if there is anything. -/
def Entry.read? : Entry → Option (Except OsError Bytes)
  | missing => none
  | folder => some (.error .isFolder)
  | file content => some (.ok content)
  | locked _ e => some (.error e)
  | device answer => some answer

/-- Entries by the names that lead to them. -/
abbrev Entries := List (List String × Entry)

/-- What stands under `names`; whatever leads to an entry is a folder. -/
def Entries.find (entries : Entries) (names : List String) : Entry :=
  match entries.lookup names with
  | some entry => entry
  | none =>
    if names.isEmpty || entries.any fun (path, _) => names.isPrefixOf path then .folder
    else .missing

structure Folder where
  entries : Entries

namespace Folder

/-- Cuts a path at its slashes, into its first name and the others. -/
def cutNames : List Char → List Char × List (List Char)
  | [] => ([], [])
  | c :: cs =>
    let (name, names) := cutNames cs
    if c = '/' then ([], name :: names) else (c :: name, names)

def splitPath (path : String) : List String :=
  let (name, names) := cutNames path.toList
  (name :: names).map String.ofList

def ofFiles (files : List (String × Bytes)) : Folder :=
  ⟨files.map fun (path, content) =>
    ((splitPath path).filter fun name => name ≠ "" && name ≠ ".", .file content)⟩

/-- A place on a walk: in the folder, above it, or below the root of the system. -/
inductive Place
  | within (names : List String)
  | above
  | rooted (names : List String)

namespace Place

/-- Above the root there is the root again. -/
def parent : Place → Place
  | within [] => above
  | within names => within names.dropLast
  | above => above
  | rooted names => rooted names.dropLast

def child? (name : String) : Place → Option Place
  | within names => some (within (names ++ [name]))
  | above => none
  | rooted names => some (rooted (names ++ [name]))

end Place

/-- What is known of the system outside of the folder. -/
def system : Entries := [(["dev", "null"], .device (.ok []))]

def entryAt (f : Folder) : Place → Entry
  | .within names => f.entries.find names
  | .above => .folder
  | .rooted names => system.find names

/-- Goes on from a place to the one called `name` in it. -/
def walk (f : Folder) (place : Place) (name : String) : Option Place :=
  match f.entryAt place with
  | .folder =>
    if name = "" || name = "." then some place
    else if name = ".." then some place.parent
    else place.child? name
  | _ => none

/-- What stands at a path; an empty path leads nowhere. -/
def find (f : Folder) (path : String) : Entry :=
  if path.isEmpty then .missing
  else
    let start := if path.startsWith "/" then Place.rooted [] else .within []
    match (splitPath path).foldlM f.walk start with
    | some place => f.entryAt place
    | none => .missing

end Folder

end LetLens
