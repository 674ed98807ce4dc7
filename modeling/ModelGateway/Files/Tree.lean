import ModelGateway.Http.Path
import ModelGateway.Time.Instant

namespace ModelGateway

structure File where
  content : Bytes
  modified : Instant
  deriving DecidableEq, Repr

inductive FileNode where
  | file (file : File)
  | directory (modified : Instant)
  deriving DecidableEq, Repr

inductive LookupFault where
  | missing
  | throughFile
  deriving DecidableEq, Repr

def LookupFault.message : LookupFault → Bytes
  | .missing => "no such file or directory"
  | .throughFile => "not a directory"

structure FileTree where
  files : List (List Bytes × File) := []
  -- Directories, those that hold files not included.
  directories : List (List Bytes) := []
  modified : Instant

namespace FileTree

def file? (t : FileTree) (names : List Bytes) : Option File :=
  t.files.lookup names

private def isDirectory (t : FileTree) (names : List Bytes) : Bool :=
  names.isEmpty || t.files.any (fun (path, _) => names.isPrefixOf path) ||
    t.directories.any (fun path => names.isPrefixOf path)

def find (t : FileTree) (names : List Bytes) : Except LookupFault FileNode :=
  match t.file? names with
  | some file => .ok (.file file)
  | none =>
      if t.isDirectory names then .ok (.directory t.modified)
      else if (List.range names.length).any fun n =>
          (t.file? (names.take n)).isSome then
        .error .throughFile
      else .error .missing

/-- What is found at a path in a directory of the tree; two dots never lead out
of the directory. -/
def findIn (t : FileTree) (directory path : Bytes) :
    Except LookupFault FileNode :=
  t.find (Path.names directory ++ Path.names (0x2f :: path))

end FileTree

end ModelGateway
