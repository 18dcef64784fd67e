/-!
# Paths

A path is a text; slashes part its names. Two spellings that differ in repeated slashes, in a slash at
the end, or in single dots after the first name have the same parts, and are the same path. Double
dots are kept: what they lead to depends on the links on the way.

Names whose bytes are no text are left out. A checkpoint would hold such a path with replacement
characters for the bytes that form none, and so lose it.
-/

namespace LogFollow.FilePath

/-- The pieces of a text between slashes; `piece` holds the characters so far of the current piece,
the last one first. -/
def piecesFrom (piece : List Char) : List Char → List String
  | [] => [String.ofList piece.reverse]
  | c :: rest =>
    if c = '/' then String.ofList piece.reverse :: piecesFrom [] rest else piecesFrom (c :: piece) rest

/-- The pieces of a path between slashes. -/
def pieces (path : String) : List String := piecesFrom [] path.toList

def isAbsolute (path : String) : Bool := path.toList.head? == some '/'

def endsWithSlash (path : String) : Bool := path.toList.getLast? == some '/'

/-- The parts of a path: a slash for the root, and its names. A single dot is a part only at the
front. -/
def parts (path : String) : List String :=
  let names := (pieces path).filter (· ≠ "")
  if isAbsolute path then "/" :: names.filter (· ≠ ".")
  else
    match names with
    | "." :: rest => "." :: rest.filter (· ≠ ".")
    | _ => names.filter (· ≠ ".")

/-- Whether two texts spell the same path. -/
def same (p q : String) : Bool := parts p == parts q

/-- The name of the file that a path leads to, if its last part is a name. -/
def fileName? (path : String) : Option String :=
  ((parts path).getLast?).filter fun name => name ≠ "/" && name ≠ "." && name ≠ ".."

def join (directory name : String) : String :=
  if isAbsolute name || directory.isEmpty then name
  else if endsWithSlash directory then directory ++ name
  else directory ++ "/" ++ name

def ofParts : List String → String
  | "/" :: names => "/" ++ "/".intercalate names
  | names => "/".intercalate names

/-- The paths of the directories that hold a path, the nearest first. -/
def above (path : String) : List String :=
  let all := parts path
  (((List.range all.length).drop 1).map fun n => ofParts (all.take n)).reverse

/-- The parts of a path, seen from the directory with the given names. -/
def absolute (home : List String) (path : String) : List String :=
  match parts path with
  | "/" :: names => names
  | "." :: names => home ++ names
  | names => home ++ names

end LogFollow.FilePath
