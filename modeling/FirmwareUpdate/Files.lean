import FirmwareUpdate.Text.Table
import FirmwareUpdate.Text.Utf8

/-! A file system as a finite map from locations to nodes, and the resolution of a path in it. A
location lists its names from the innermost to the outermost, so that its parent is its tail. -/

namespace FirmwareUpdate

inductive Node
  | file (content : ByteArray)
  /-- Nothing behind a directory that may not be searched can be read. -/
  | directory (searchable : Bool)

abbrev Location := List String

structure Files where
  /-- Where relative paths start; it and all above it are directories that may be searched. -/
  home : Location
  entries : List (Location × Node)

namespace Files

inductive Error
  | missing
  | denied
  | notDirectory
  | isDirectory
  | nameTooLong
  | nulInName

def Error.message : Error → String
  | .missing => "No such file or directory (os error 2)"
  | .denied => "Permission denied (os error 13)"
  | .notDirectory => "Not a directory (os error 20)"
  | .isDirectory => "Is a directory (os error 21)"
  | .nameTooLong => "File name too long (os error 36)"
  | .nulInName => "file name contained an unexpected NUL byte"

def empty : Files := ⟨[""], []⟩

def node? (fs : Files) (l : Location) : Option Node :=
  if l.isSuffixOf fs.home then some (.directory true) else fs.entries.lookup l

def set (fs : Files) (l : Location) (n : Node) : Files :=
  { fs with entries := (l, n) :: fs.entries.filter (·.1 != l) }

def erase (fs : Files) (l : Location) : Files :=
  { fs with entries := fs.entries.filter (·.1 != l) }

def greatestName : Nat := 255

def greatestPath : Nat := 4095

/-- Follows the parts of a path from a node; whatever a part is, only a directory leads on. All above
a directory that is searched may be searched. -/
def walk (fs : Files) (l : Location) (n : Node) : List (List Char) → Except Error (Location × Node)
  | [] => .ok (l, n)
  | s :: ss =>
      match n with
      | .file _ => .error .notDirectory
      | .directory searchable =>
          if s = [] then walk fs l n ss
          else if !searchable then .error .denied
          else if s = ['.'] then walk fs l n ss
          else if s = ['.', '.'] then walk fs l.tail (.directory true) ss
          else if greatestName < Text.octets s then .error .nameTooLong
          else
            match fs.node? (String.ofList s :: l) with
            | none => .error .missing
            | some n => walk fs (String.ofList s :: l) n ss

def start (fs : Files) : List (List Char) → Location × List (List Char)
  | [] :: s :: ss => ([], s :: ss)
  | ss => (fs.home, ss)

def resolve (fs : Files) (path : String) : Except Error (Location × Node) :=
  let cs := path.toList
  if '\x00' ∈ cs then .error .nulInName
  else if cs.isEmpty then .error .missing
  else if greatestPath < Text.octets cs then .error .nameTooLong
  else
    let (l, ss) := fs.start (Text.parts '/' cs)
    fs.walk l (.directory true) ss

def fileName? (path : String) : Option String :=
  match ((Text.parts '/' path.toList).filter fun (s : List Char) => s ≠ [] ∧ s ≠ ['.']).getLast? with
  | none => none
  | some s => if s = ['.', '.'] then none else some (String.ofList s)

def read (fs : Files) (path : String) : Except Error ByteArray :=
  match fs.resolve path with
  | .error e => .error e
  | .ok (_, .directory _) => .error .isDirectory
  | .ok (_, .file content) => .ok content

inductive Change
  | write (path : String) (content : ByteArray)
  | makeDirectory (path : String)
  | remove (path : String)
  | close (path : String)

def place? (fs : Files) (path : String) : Option Location :=
  let (l, ss) := fs.start (Text.parts '/' path.toList)
  match ss.getLast?, fs.walk l (.directory true) ss.dropLast with
  | some s, .ok (l, .directory true) =>
      if s = [] ∨ s = ['.'] ∨ s = ['.', '.'] then none else some (String.ofList s :: l)
  | _, _ => none

def makeDirectories (fs : Files) (l : Location) : List (List Char) → Files
  | [] => fs
  | s :: ss =>
      if s = [] ∨ s = ['.'] then fs.makeDirectories l ss
      else if s = ['.', '.'] then fs.makeDirectories l.tail ss
      else
        let l := String.ofList s :: l
        match fs.node? l with
        | none => (fs.set l (.directory true)).makeDirectories l ss
        | some (.directory true) => fs.makeDirectories l ss
        | some _ => fs

def apply (fs : Files) : Change → Files
  | .write path content =>
      match fs.place? path with
      | none => fs
      | some l =>
          match fs.node? l with
          | some (.directory _) => fs
          | _ => fs.set l (.file content)
  | .makeDirectory path =>
      let (l, ss) := fs.start (Text.parts '/' path.toList)
      fs.makeDirectories l ss
  | .remove path =>
      match fs.resolve path with
      | .ok (l, .file _) => fs.erase l
      | _ => fs
  | .close path =>
      match fs.resolve path with
      | .ok (l, .directory _) => fs.set l (.directory false)
      | _ => fs

def applyAll (fs : Files) (changes : List Change) : Files :=
  changes.foldl apply fs

end Files

end FirmwareUpdate
