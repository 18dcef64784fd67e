import LogFollow.Compile
import LogFollow.Glob.Walk

/-!
# Finding the files to follow

The files to follow are those that an include glob matches and no exclude glob does. They are listed
in the order of the globs, and one file is listed once, under the first of its spellings.
-/

namespace LogFollow

structure Finder where
  included : List String
  excluded : List Glob.Pattern

namespace Finder

def new (includes excludes : List String) : Except Error Finder := do
  if includes.isEmpty then throw (.config .emptyInclude)
  for glob in includes do
    let _ ← Glob.Pattern.ofText .including glob
  let excluded ← excludes.mapM (Glob.Pattern.ofText .excluding)
  pure { included := includes, excluded }

/-- Whether an exclude glob matches a path as it is spelled. -/
def excludes (f : Finder) (path : String) : Bool := f.excluded.any (·.isMatch path)

/-- Whether a path that an include glob matches is to be followed. -/
def wants (f : Finder) (fs : FileSystem) (path : String) : Bool :=
  !fs.isDirectory path && !f.excludes path

/-- Keeps the first spelling of each path. -/
def firstSpellings (home : Place) (seen : List Place) : List String → List String
  | [] => []
  | path :: rest =>
    let place := FilePath.absolute home path
    if seen.contains place then firstSpellings home seen rest
    else path :: firstSpellings home (place :: seen) rest

def find (f : Finder) (fs : FileSystem) : List String :=
  firstSpellings fs.home [] ((f.included.flatMap (Glob.paths fs)).filter (f.wants fs))

end Finder

end LogFollow
