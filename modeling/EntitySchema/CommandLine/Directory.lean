import EntitySchema.CommandLine.Path
import EntitySchema.OrderedMap

/-!
# CommandLine/Directory — the files that a command works on

A command reads files, asks whether one is there, and writes one; `Files` is that much of a file
system, in any monad.  `Directory` is a file system of its own.  A file is a list of bytes, which is
a text or is not, under a key: its path from the root.  A folder is there if it leads to the working
directory, if it holds something, or if it is listed.  A path is walked name by name, from the root
or from the working directory, and may go up again by `..`; a path, and each name in it, may only be
so long.  The system may refuse the reading or the writing of any file.  There are no links.
-/

namespace EntitySchema

/-- Why a file is not read or written. -/
inductive FileError
  | notFound
  | notAFolder
  | isAFolder
  | nameTooLong
  /-- The bytes of the file are no text. -/
  | notText
  /-- A refusal of the system, in its words. -/
  | other (message : String)
  deriving DecidableEq, Repr

/-- The error in words. -/
def FileError.message : FileError → String
  | notFound => "No such file or directory (os error 2)"
  | notAFolder => "Not a directory (os error 20)"
  | isAFolder => "Is a directory (os error 21)"
  | nameTooLong => "File name too long (os error 36)"
  | notText => "stream did not contain valid UTF-8"
  | other m => m

/-- The bytes of a file as a text. -/
def decodeFile (bytes : ByteArray) : Except FileError String :=
  match String.fromUTF8? bytes with
  | some text => .ok text
  | none => .error .notText

/-- Access to files. -/
structure Files (m : Type → Type) where
  read : String → m (Except FileError String)
  /-- Is a file or folder there? -/
  present : String → m Bool
  write : String → String → m (Except FileError Unit)

/-- What is done to a file. -/
inductive Use
  | reading
  | writing
  deriving DecidableEq, Repr

/-- Files and folders, with a working directory. -/
structure Directory where
  /-- The names on the way from the root to the working directory. -/
  home : List String
  /-- The contents of the files under their paths from the root, parts joined by single slashes. -/
  files : OrderedMap ByteArray
  /-- The names on the way to further folders, which may be empty. -/
  folders : List (List String) := []
  /-- What the system has against a use of the file under a key. -/
  refusal : Use → String → Option String := fun _ _ => none
  /-- A name holds no slash. -/
  home_names : ∀ n ∈ home, Path.IsName n := by decide

namespace Directory

/-- What a path leads to. -/
inductive Place
  | file (key : String) (content : ByteArray)
  | folder
  /-- Nothing, in a folder that is there. -/
  | vacant (key : String)
  /-- Nothing, and no folder to hold it. -/
  | nowhere
  /-- The path goes on behind a file. -/
  | throughFile
  /-- Nothing, and a name that is too long. -/
  | unnameable

/-- The key of the file with the given parts. -/
def key (parts : List String) : String := "/".intercalate parts

/-- Is there a folder with the given parts? -/
def hasFolder (d : Directory) (parts : List String) : Bool :=
  parts.isPrefixOf d.home || d.folders.any (parts.isPrefixOf ·) ||
    d.files.keys.any fun k =>
      let ps := Path.parts k
      parts.isPrefixOf ps && parts.length < ps.length

/-- Does a part leave the folder as it is? -/
def isDot (part : String) : Bool := part = "" || part = "."

/-- The greatest number of bytes in a name. -/
def maxNameBytes : Nat := 255

/-- The greatest number of bytes in a path. -/
def maxPathBytes : Nat := 4095

/-- Where parts lead to, from a folder with the parts `here`; the root has none and is above
itself. -/
def walk (d : Directory) (here : List String) : List String → Place
  | [] => .folder
  | p :: rest =>
    if isDot p then d.walk here rest
    else if p = ".." then d.walk here.dropLast rest
    else if maxNameBytes < p.utf8ByteSize then .unnameable
    else
      let next := here ++ [p]
      if d.hasFolder next then d.walk next rest
      else
        match d.files.get? (key next) with
        | some content => if rest.isEmpty then .file (key next) content else .throughFile
        | none => if rest.isEmpty then .vacant (key next) else .nowhere

/-- Where `parts` of a path lead to. -/
def locate (d : Directory) (path : String) (parts : List String) : Place :=
  if maxPathBytes < path.utf8ByteSize then .unnameable
  else d.walk (if Path.isAbsolute path then [] else d.home) parts

/-- Where a path leads to. -/
def place (d : Directory) (path : String) : Place :=
  if path = "" then .nowhere else d.locate path (Path.parts path)

/-- Passes unless the system refuses to have the file under a key used. -/
def permit (d : Directory) (use : Use) (key : String) : Except FileError Unit :=
  match d.refusal use key with
  | some m => .error (.other m)
  | none => .ok ()

/-- Reads a file. -/
def read (d : Directory) (path : String) : Except FileError String :=
  match d.place path with
  | .file k content => do
    d.permit .reading k
    decodeFile content
  | .folder => .error .isAFolder
  | .throughFile => .error .notAFolder
  | .vacant _ => .error .notFound
  | .nowhere => .error .notFound
  | .unnameable => .error .nameTooLong

/-- Is a file or folder there? -/
def present (d : Directory) (path : String) : Bool :=
  match d.place path with
  | .file _ _ => true
  | .folder => true
  | _ => false

/-- The key under which a path would be written.  In front of a slash only a folder can stand, whether it
is there or not, if there is a folder to hold it. -/
def writableKey (d : Directory) (path : String) : Except FileError String :=
  if Path.endsInSlash path then
    match d.locate path (Path.folderParts path) with
    | .folder => .error .isAFolder
    | .file _ _ => .error .notAFolder
    | .throughFile => .error .notAFolder
    | .vacant _ => .error .notFound
    | .nowhere => .error .notFound
    | .unnameable => .error .nameTooLong
  else
    match d.place path with
    | .file k _ => (d.permit .writing k).map fun _ => k
    | .vacant k => (d.permit .writing k).map fun _ => k
    | .folder => .error .isAFolder
    | .throughFile => .error .notAFolder
    | .nowhere => .error .notFound
    | .unnameable => .error .nameTooLong

/-- The directory with a content under a key. -/
def insert (d : Directory) (key : String) (content : ByteArray) : Directory :=
  { d with files := d.files.insert key content }

/-- Writes a text; the folder that holds the file must be there. -/
def write (d : Directory) (path text : String) : Except FileError Directory :=
  (d.writableKey path).map fun k => d.insert k text.toUTF8

/-- A directory as access to files. -/
def access : Files (StateM Directory) where
  read path := do return (← get).read path
  present path := do return (← get).present path
  write path text := do
    match (← get).write path text with
    | .ok d => set d; return .ok ()
    | .error e => return .error e

end Directory

end EntitySchema
