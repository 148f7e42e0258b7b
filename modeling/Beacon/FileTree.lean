/-!
# A tree of files

A file tree is what a program sees of a file system: directories, files with bytes in them, and
three devices that stand for the odd files that a system offers. Nothing in the tree changes but
what is written, placed or removed: no file makes or removes a directory when it is written. An
entry of the tree says what a path leads to; the contents are kept apart from the entries, so that a
file that was opened can still be used after its entry is gone.

- `FileTree.walk` follows a path from a directory and says why it does not get there.
- `FileTree.write` replaces or creates a file, `FileTree.openAt` gives a handle, and a handle reads
  and writes at the beginning of its file.
-/

namespace Beacon

inductive SystemFault where
  | notPermitted
  | notFound
  | badDescriptor
  | permissionDenied
  | alreadyExists
  | notDirectory
  | isDirectory
  | invalidArgument
  | noSpace
  | illegalSeek
  | nameTooLong
deriving DecidableEq

namespace SystemFault

def number : SystemFault → Nat
  | notPermitted => 1
  | notFound => 2
  | badDescriptor => 9
  | permissionDenied => 13
  | alreadyExists => 17
  | notDirectory => 20
  | isDirectory => 21
  | invalidArgument => 22
  | noSpace => 28
  | illegalSeek => 29
  | nameTooLong => 36

def symbol : SystemFault → String
  | notPermitted => "EPERM"
  | notFound => "ENOENT"
  | badDescriptor => "EBADF"
  | permissionDenied => "EACCES"
  | alreadyExists => "EEXIST"
  | notDirectory => "ENOTDIR"
  | isDirectory => "EISDIR"
  | invalidArgument => "EINVAL"
  | noSpace => "ENOSPC"
  | illegalSeek => "ESPIPE"
  | nameTooLong => "ENAMETOOLONG"

def words : SystemFault → String
  | notPermitted => "Operation not permitted"
  | notFound => "No such file or directory"
  | badDescriptor => "Bad file descriptor"
  | permissionDenied => "Permission denied"
  | alreadyExists => "File exists"
  | notDirectory => "Not a directory"
  | isDirectory => "Is a directory"
  | invalidArgument => "Invalid argument"
  | noSpace => "No space left on device"
  | illegalSeek => "Illegal seek"
  | nameTooLong => "File name too long"

def all : List SystemFault :=
  [notPermitted, notFound, badDescriptor, permissionDenied, alreadyExists, notDirectory,
    isDirectory, invalidArgument, noSpace, illegalSeek, nameTooLong]

def ofNumber? (number : Nat) : Option SystemFault := all.find? (·.number == number)

@[simp] theorem ofNumber?_number (fault : SystemFault) : ofNumber? fault.number = some fault := by
  cases fault <;> rfl

/-- The fault in words, with its number. -/
def message (fault : SystemFault) : String := s!"{fault.words} (os error {fault.number})"

/-- The symbol of the fault, and the fault in words. -/
def symbolic (fault : SystemFault) : String := s!"{fault.symbol}: {fault.words}"

end SystemFault

/-- A place in a tree: the names on the way from the root. -/
abbrev Path := List String

namespace FileTree

inductive Device where
  /-- Takes no byte. -/
  | full
  /-- Takes every byte and keeps none. -/
  | null
  /-- Can be watched for exceptional news, reads as a dash, and cannot be opened for writing. -/
  | pollable
deriving DecidableEq

inductive Content where
  | bytes (bytes : List UInt8)
  | device (device : Device)
deriving DecidableEq

/-- What an entry leads to: a directory, or a file by its number. -/
inductive Node where
  | directory
  | file (id : Nat)
deriving DecidableEq

def Content.beginning : Content → List UInt8
  | .bytes held => held
  | .device .full => [0x00]
  | .device .null => []
  | .device .pollable => [0x2D]

end FileTree

/-- A tree of files. Without an entry for the root there is nothing at all. -/
structure FileTree where
  entries : List (Path × FileTree.Node)
  /-- The contents of the files, by number. -/
  contents : List FileTree.Content
deriving DecidableEq

namespace FileTree

/-- A tree that is only its root. -/
def empty : FileTree := ⟨[([], .directory)], []⟩

/-- A tree that has not even a root. -/
def missing : FileTree := ⟨[], []⟩

def find? (tree : FileTree) (path : Path) : Option Node := tree.entries.lookup path

def content (tree : FileTree) (id : Nat) : Content := tree.contents.getD id (.bytes [])

/-! ## Looking up -/

/-- The longest name of an entry, in bytes. -/
def longestName : Nat := 255

/-- The longest text of a path, in bytes. -/
def longestPath : Nat := 4095

/-- Follows names from a place. The empty name and `.` stay where they are, and `..` goes up; but
every name needs a directory to start from. -/
def walk (tree : FileTree) (here : Path) : List String → Except SystemFault Node
  | [] =>
    match tree.find? here with
    | some node => .ok node
    | none => .error .notFound
  | name :: rest =>
    match tree.find? here with
    | none => .error .notFound
    | some (.file _) => .error .notDirectory
    | some .directory =>
      if name = "" || name = "." then tree.walk here rest
      else if name = ".." then tree.walk here.dropLast rest
      else if longestName < name.utf8ByteSize then .error .nameTooLong
      else tree.walk (here ++ [name]) rest

def namesOf (text : List Char) : List String :=
  (text.splitOn '/').map String.ofList

/-- What the text of a path leads to. It starts at the root if it begins with a slash, and else at
the working directory. A text that is too long leads nowhere, whatever it names. -/
def resolve (tree : FileTree) (working : Path) (text : String) : Except SystemFault Node :=
  let names := namesOf text.toList
  if longestPath < text.utf8ByteSize then .error .nameTooLong
  else if text.toList.head? = some '/' then tree.walk [] names
  else tree.walk working names

/-- Why nothing can be read at the text of a path. -/
inductive ReadFault where
  /-- The text holds the character that ends a text for the system. -/
  | interiorNul
  | system (fault : SystemFault)
deriving DecidableEq

/-- Why nothing can be read, in words. -/
def ReadFault.message : ReadFault → String
  | .interiorNul => "file name contained an unexpected NUL byte"
  | .system fault => fault.message

/-- All that can be read at the text of a path. -/
def read (tree : FileTree) (working : Path) (text : String) : Except ReadFault (List UInt8) :=
  if text.toList.contains '\x00' then .error .interiorNul
  else
    match tree.resolve working text with
    | .error fault => .error (.system fault)
    | .ok .directory => .error (.system .isDirectory)
    | .ok (.file id) => .ok (tree.content id).beginning

/-! ## Changing -/

def setContent (tree : FileTree) (id : Nat) (content : Content) : FileTree :=
  { tree with contents := tree.contents.set id content }

def setEntry (tree : FileTree) (path : Path) (node : Node) : FileTree :=
  { tree with entries := (path, node) :: tree.entries.filter (·.1 != path) }

def create (tree : FileTree) (path : Path) (content : Content) : FileTree :=
  { tree.setEntry path (.file tree.contents.length) with contents := tree.contents ++ [content] }

/-- Writes a file anew, which creates it where there is none. Its directory has to be there. -/
def write (tree : FileTree) (path : Path) (bytes : List UInt8) :
    Except SystemFault Unit × FileTree :=
  match tree.walk [] path.dropLast with
  | .error fault => (.error fault, tree)
  | .ok (.file _) => (.error .notDirectory, tree)
  | .ok .directory =>
    match tree.find? path with
    | none => (.ok (), tree.create path (.bytes bytes))
    | some .directory => (.error .isDirectory, tree)
    | some (.file id) =>
      match tree.content id with
      | .bytes _ => (.ok (), tree.setContent id (.bytes bytes))
      | .device .full => (.error .noSpace, tree)
      | .device .null => (.ok (), tree)
      | .device .pollable => (.error .permissionDenied, tree)

/-- Makes a directory, and those on the way to it. What is there already stays. -/
def makeDirectory (tree : FileTree) (path : Path) : FileTree :=
  (List.range (path.length + 1)).foldl (fun tree depth =>
    let above := path.take depth
    if (tree.find? above).isSome then tree else tree.setEntry above .directory) tree

/-- Puts a file at a path, with the directories on the way. Bytes are written to what is there,
and a device takes its place. -/
def place (tree : FileTree) (path : Path) (content : Content) : FileTree :=
  let tree := tree.makeDirectory path.dropLast
  match content with
  | .bytes bytes => (tree.write path bytes).2
  | .device _ => tree.create path content

/-- Removes the entry at a path and all that is below it. -/
def remove (tree : FileTree) (path : Path) : FileTree :=
  { tree with entries := tree.entries.filter fun (p, _) => !path.isPrefixOf p }

/-! ## Handles -/

structure Handle where
  node : Node
  writable : Bool
deriving DecidableEq

/-- Opens what is at a path. A directory cannot be opened for writing, nor can a file that can be
watched. -/
def openAt (tree : FileTree) (path : Path) (writable : Bool) : Except SystemFault Handle :=
  match tree.walk [] path with
  | .error fault => .error fault
  | .ok .directory => if writable then .error .isDirectory else .ok ⟨.directory, false⟩
  | .ok (.file id) =>
    if writable && tree.content id == .device .pollable then .error .permissionDenied
    else .ok ⟨.file id, writable⟩

/-- The first byte behind a handle, if there is one. -/
def readFirst (tree : FileTree) (handle : Handle) : Except SystemFault (Option UInt8) :=
  match handle.node with
  | .directory => .error .isDirectory
  | .file id => .ok (tree.content id).beginning.head?

/-- Whether what is behind a handle can be watched for exceptional news. -/
def isPollable (tree : FileTree) (handle : Handle) : Bool :=
  match handle.node with
  | .directory => false
  | .file id => tree.content id == .device .pollable

/-- Writes the first byte behind a handle; the others stay. A file that can be watched has no place
to write at, however it was opened. -/
def writeFirst (tree : FileTree) (handle : Handle) (byte : UInt8) :
    Except SystemFault Unit × FileTree :=
  if tree.isPollable handle then (.error .illegalSeek, tree)
  else if !handle.writable then (.error .badDescriptor, tree)
  else
    match handle.node with
    | .directory => (.error .isDirectory, tree)
    | .file id =>
      match tree.content id with
      | .bytes bytes => (.ok (), tree.setContent id (.bytes (byte :: bytes.drop 1)))
      | .device .full => (.error .noSpace, tree)
      | .device _ => (.ok (), tree)

/-- The directories and the files with bytes below the root, by path. A directory has no bytes. -/
def listing (tree : FileTree) : List (Path × Option (List UInt8)) :=
  tree.entries.filterMap fun (path, node) =>
    match path, node with
    | [], _ => none
    | path, .directory => some (path, none)
    | path, .file id =>
      match tree.content id with
      | .bytes bytes => some (path, some bytes)
      | .device _ => none

end FileTree

end Beacon
