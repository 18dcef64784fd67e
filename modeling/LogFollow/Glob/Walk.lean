import LogFollow.FileSystem
import LogFollow.Glob.Pattern

/-!
# Finding the paths that a glob matches

A glob is taken apart at its slashes. Its components are matched one after another against the names
in the file system, from the home directory or the root on. The paths come depth first, and the names
in a directory in order.
-/

namespace LogFollow.Glob

/-- What the walk still has to look at: a path, and the components that it has not been matched
against. Without components the path is a match. -/
structure Pending where
  path : String
  components : Option (List Pattern)

namespace Walk

def isHome (path : String) : Bool := FilePath.parts path == ["."]

/-- The path of a name in a directory. Names in the home directory stand alone. -/
def child (path name : String) : String := if isHome path then name else FilePath.join path name

def dots : List String := [".", ".."]

/-- Whether a component may match one of the dots: it begins with a dot itself. -/
def mayMatchDots (p : Pattern) : Bool :=
  match p.tokens with
  | .char '.' :: _ => true
  | _ => false

/-- What there is to look at below a path. A component that stands for itself needs no directory to be
listed, and leads on to the next component. -/
def below (fs : FileSystem) (path : String) : List Pattern → List Pending
  | [] => []
  | p :: rest =>
    let add := fun next =>
      if rest.isEmpty then [{ path := next, components := none }] else below fs next rest
    if p.isLiteral then
      let next := child path p.text
      if dots.contains p.text then if fs.isDirectory path then add next else []
      else if fs.present next then add next else []
    else if fs.isDirectory path then
      let special := if mayMatchDots p then dots.reverse.filter p.isMatch else []
      (special.flatMap fun name => add (FilePath.join path name)) ++
        (fs.names path).map fun name => { path := child path name, components := some (p :: rest) }
    else []

/-- The matches among what there is to look at. The fuel bounds the length of a path. -/
def visit (fs : FileSystem) (directoriesOnly : Bool) : (fuel : Nat) → Pending → List String
  | 0, _ => []
  | fuel + 1, { path, components } =>
    let here := fun (p : Pattern) (rest : List Pattern) =>
      if ((FilePath.fileName? path).map p.isMatch).getD false then
        if rest.isEmpty then if !directoriesOnly || fs.isDirectory path then [path] else []
        else (below fs path rest).flatMap (visit fs directoriesOnly fuel)
      else []
    match components with
    | none => if !directoriesOnly || fs.isDirectory path then [path] else []
    | some [] => []
    | some (p :: rest) =>
      if p.isRecursive then
        let rest := rest.dropWhile Pattern.isRecursive
        let deeper :=
          if fs.isDirectory path then
            (below fs path (p :: rest)).flatMap (visit fs directoriesOnly fuel)
          else []
        match rest with
        | [] => if fs.isDirectory path then path :: deeper else []
        | q :: rest => here q rest ++ deeper
      else here p rest

def start (glob : String) : String × List Char :=
  if FilePath.isAbsolute glob then ("/", glob.toList.drop 1) else (".", glob.toList)

/-- The components of a glob; a slash at its end parts nothing. -/
def componentTexts (chars : List Char) : List String :=
  let pieces := FilePath.piecesFrom [] chars
  if pieces.getLast? = some "" && pieces.length > 1 then pieces.dropLast else pieces

end Walk

/-- The paths that a glob matches. A glob whose components are no patterns on their own matches
nothing. -/
def paths (fs : FileSystem) (glob : String) : List String :=
  let (top, chars) := Walk.start glob
  match (Walk.componentTexts chars).mapM Pattern.parse with
  | .error _ => []
  | .ok components =>
    (Walk.below fs top components).flatMap
      (Walk.visit fs (FilePath.endsWithSlash glob) FileSystem.pathLimit)

end LogFollow.Glob
