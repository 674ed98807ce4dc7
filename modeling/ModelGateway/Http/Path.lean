import ModelGateway.Text.Bytes

namespace ModelGateway.Path

/-- Enters a name, given the names above it, last first. Two dots lead back up;
above the root there is only the root. -/
def enter (rooted : Bool) (above : List Bytes) (name : Bytes) : List Bytes :=
  if name.isEmpty || name == utf8 "." then above
  else if name == utf8 ".." then
    match above with
    | [] => if rooted then [] else [name]
    | last :: rest => if last == utf8 ".." then name :: above else rest
  else name :: above

def names (path : Bytes) : List Bytes :=
  ((Bytes.splitOn 0x2f path).foldl
    (enter (Bytes.startsWith "/" path)) []).reverse

def clean (path : Bytes) : Bytes :=
  let inner := Bytes.join "/" (names path)
  if Bytes.startsWith "/" path then 0x2f :: inner
  else if inner.isEmpty then "."
  else inner

def isSlash (b : UInt8) : Bool := b == 0x2f

def base (path : Bytes) : Bytes :=
  if path.isEmpty then "."
  else
    let kept := Bytes.dropEndWhile isSlash path
    if kept.isEmpty then "/"
    else
      match Bytes.cutLast? 0x2f kept with
      | some (_, name) => name
      | none => kept

def join (directory name : Bytes) : Bytes :=
  if directory.isEmpty then clean name
  else clean (directory ++ utf8 "/" ++ name)

def extension (name : Bytes) : Bytes :=
  match Bytes.cutLast? 0x2e name with
  | some (_, rest) => 0x2e :: rest
  | none => []

/-- Whether two dots stand between slashes of either kind. -/
def climbs (path : Bytes) : Bool :=
  (Bytes.splitOn 0x2f path).any fun part =>
    (Bytes.splitOn 0x5c part).contains (utf8 "..")

end ModelGateway.Path
