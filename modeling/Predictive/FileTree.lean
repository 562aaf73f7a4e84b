import Predictive.FileTree.Path
import Predictive.Table
import Predictive.Text.Quoted

/-!
# Files and folders

A run reads and writes files by paths. Here all files and folders are a value, so that what a run
does to them is a function. A path starts at the root or in the working folder, and the folder above
the root is the root itself. A file has one location and holds what was put into it last: there are
no links and no devices. Main statements: a file that is put under a location is found there, and
the other files stay as they are (`content?_put_self`, `content?_put_of_ne`).
-/

namespace Predictive

open Text

/-- The content of a file. -/
abbrev Bytes := List UInt8

/-- The names on the way from the root to a file or a folder. -/
abbrev Location := List String

/-- What a permission is for. -/
inductive Access where
  /-- Looking up names in a folder. -/
  | search
  /-- Reading a file. -/
  | read
  /-- Writing a file, or making one in a folder. -/
  | write
  deriving DecidableEq, Repr

/-- Files, and folders with files in them or without. -/
structure FileTree where
  files : List (Location × Bytes)
  folders : List Location
  /-- The folder in which relative paths start. -/
  workingFolder : Location
  /-- The permissions that are lacking. -/
  denied : List (Access × Location)
  deriving DecidableEq

/-- Why a path cannot be used. -/
inductive FileFault where
  | notFound
  | denied
  | occupied
  | notFolder
  | isFolder
  | nameTooLong
  /-- The path holds the null character. -/
  | nullCharacter
  deriving DecidableEq, Repr

/-- A path that cannot be used, and why. -/
structure FileError where
  fault : FileFault
  path : String
  deriving DecidableEq, Repr

/-- The error in words; a path with the null character is not shown. -/
def FileError.message (e : FileError) : String :=
  match e.fault with
  | .notFound => "[Errno 2] No such file or directory: " ++ quoted e.path
  | .denied => "[Errno 13] Permission denied: " ++ quoted e.path
  | .occupied => "[Errno 17] File exists: " ++ quoted e.path
  | .notFolder => "[Errno 20] Not a directory: " ++ quoted e.path
  | .isFolder => "[Errno 21] Is a directory: " ++ quoted e.path
  | .nameTooLong => "[Errno 36] File name too long: " ++ quoted e.path
  | .nullCharacter => "embedded null byte"

/-- What a path leads to. -/
inductive Place where
  | folder (location : Location)
  | file (location : Location) (content : Bytes)
  /-- Nothing yet, but a file may be made here. -/
  | vacant (location : Location)

namespace FileTree

/-- The content of the file at a location. -/
def content? (t : FileTree) (l : Location) : Option Bytes := Table.get? l t.files

/-- Whether a location is a folder. Every location above a file or a folder is one, and so is the
root. -/
def hasFolder (t : FileTree) (l : Location) : Bool :=
  (t.workingFolder :: t.folders).any l.isPrefixOf ||
    t.files.any fun file => l.isPrefixOf file.1 && l ≠ file.1

/-- Whether a permission is lacking at a location. -/
def denies (t : FileTree) (access : Access) (l : Location) : Bool := t.denied.contains (access, l)

/-- The tree with a file of this content at a location. -/
def put (t : FileTree) (l : Location) (content : Bytes) : FileTree :=
  { t with files := Table.put l content t.files }

/-- What is at a location. -/
def placeAt (t : FileTree) (l : Location) : Place :=
  match t.content? l with
  | some content => .file l content
  | none => if t.hasFolder l then .folder l else .vacant l

/-- Where a single step leads from a folder. -/
def step (t : FileTree) (here : Location) (name : String) : Except FileFault Place :=
  -- Slashes on their own look nothing up, but a dot does.
  if name = "" then .ok (.folder here)
  else if t.denies .search here then .error .denied
  else if name = "." then .ok (.folder here)
  -- From the root this leads nowhere else.
  else if name = ".." then .ok (.folder here.dropLast)
  else if Path.maxStepSize < name.utf8ByteSize then .error .nameTooLong
  else .ok (t.placeAt (here ++ [name]))

/-- Where steps lead from a folder. No step leads on from a file, not even one that leads nowhere. -/
def walk (t : FileTree) : Location → List String → Except FileFault Place
  | here, [] => .ok (.folder here)
  | here, name :: rest =>
    match t.step here name with
    | .error fault => .error fault
    | .ok (.folder there) => t.walk there rest
    | .ok (.file l content) => if rest = [] then .ok (.file l content) else .error .notFolder
    | .ok (.vacant l) => if rest = [] then .ok (.vacant l) else .error .notFound

/-- The folder that a path starts from. -/
def origin (t : FileTree) (path : String) : Location :=
  if Path.isAbsolute path then [] else t.workingFolder

/-- What is wrong with a path whatever the files are. -/
def pathFault? (path : String) : Option FileFault :=
  if path.toList.contains '\x00' then some .nullCharacter
  else if Path.maxSize < path.utf8ByteSize then some .nameTooLong
  else none

/-- Where a path leads. -/
def locate (t : FileTree) (path : String) : Except FileFault Place :=
  match pathFault? path with
  | some fault => .error fault
  | none => t.walk (t.origin path) (Path.steps path)

/-- The content of the file that a path leads to. -/
def read (t : FileTree) (path : String) : Except FileError Bytes :=
  match t.locate path with
  | .error fault => .error ⟨fault, path⟩
  | .ok (.folder l) => .error ⟨if t.denies .read l then .denied else .isFolder, path⟩
  | .ok (.vacant _) => .error ⟨.notFound, path⟩
  | .ok (.file l content) => if t.denies .read l then .error ⟨.denied, path⟩ else .ok content

/-- The location of the file that is written at a place. -/
def target (t : FileTree) : Place → Except FileFault Location
  | .folder _ => .error .isFolder
  | .file l _ => if t.denies .write l then .error .denied else .ok l
  -- It takes a permission for the folder to make a file in it.
  | .vacant l => if t.denies .write l.dropLast then .error .denied else .ok l

/-- The location of the file that is written by a path. -/
def destination (t : FileTree) (path : String) : Except FileFault Location := do
  t.target (← t.locate path)

/-- The tree with this content in the file that a path leads to, which is made if need be. -/
def write (t : FileTree) (path : String) (content : Bytes) : Except FileError FileTree :=
  match t.destination path with
  | .error fault => .error ⟨fault, path⟩
  | .ok l => .ok (t.put l content)

/-- Where a path leads at which a file is to be made. A name with slashes after it could only be a
folder's, whatever is there, so no file is made under it. -/
def locateNew (t : FileTree) (path : String) : Except FileFault Place :=
  match pathFault? path, Path.parentOfNamed? path with
  | some fault, _ => .error fault
  | none, some (parent, true) => do
    -- The last name is not looked up, but its folder has to allow looking up.
    let _ ← t.walk (t.origin path) (parent ++ ["."])
    .error .isFolder
  | none, _ => t.walk (t.origin path) (Path.steps path)

/-- The location of the new file that is made by a path; nothing may be there before. -/
def newDestination (t : FileTree) (path : String) : Except FileFault Location := do
  match ← t.locateNew path with
  | .vacant l => t.target (.vacant l)
  | _ => .error .occupied

/-- The tree with a new file of this content where a path leads. -/
def create (t : FileTree) (path : String) (content : Bytes) : Except FileError FileTree :=
  match t.newDestination path with
  | .error fault => .error ⟨fault, path⟩
  | .ok l => .ok (t.put l content)

theorem content?_put_self (t : FileTree) (l : Location) (content : Bytes) :
    (t.put l content).content? l = some content :=
  Table.get?_put_self l content t.files

theorem content?_put_of_ne (t : FileTree) {l m : Location} (h : m ≠ l) (content : Bytes) :
    (t.put l content).content? m = t.content? m :=
  Table.get?_put_of_ne h content t.files

end FileTree

end Predictive
