/-!
# Errors of the file system

The ways in which an operation on the file system fails, with the text and the number of each.
-/

namespace LogFollow

inductive IoError
  | notFound
  | busy
  | alreadyExists
  | notDirectory
  | isDirectory
  | invalid
  | nameTooLong
  | notEmpty
  | tooManyLinks
  /-- A path holds a character that no path may hold. -/
  | nulInPath
  | other (text : String)
deriving DecidableEq, Repr

namespace IoError

/-- The text of an error that the system reports with a number. -/
def numbered (text : String) (number : Nat) : String := s!"{text} (os error {number})"

def message : IoError → String
  | notFound => numbered "No such file or directory" 2
  | busy => numbered "Device or resource busy" 16
  | alreadyExists => numbered "File exists" 17
  | notDirectory => numbered "Not a directory" 20
  | isDirectory => numbered "Is a directory" 21
  | invalid => numbered "Invalid argument" 22
  | nameTooLong => numbered "File name too long" 36
  | notEmpty => numbered "Directory not empty" 39
  | tooManyLinks => numbered "Too many levels of symbolic links" 40
  | nulInPath => "file name contained an unexpected NUL byte"
  | other text => text

end IoError

end LogFollow
