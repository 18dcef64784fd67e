/-!
# The words of a command line

As long as options may come, a word with two dashes in front is an option, which may have a value
behind an equals sign, and a word with one dash is a row of letters. Two dashes alone end the options.
All other words, a single dash among them, stand for themselves.
-/

namespace LogFollow.CommandLine

/-- What a word on a command line is, as long as options may come. -/
inductive Word
  /-- The two dashes that end the options. -/
  | terminator
  | option (name : String) (value : Option String)
  /-- A row of letters. -/
  | letters (first : Char)
  | plain (text : String)
deriving DecidableEq, Repr

namespace Word

/-- The option that is named by the characters up to an equals sign, with the value behind it. -/
def ofOption (characters : List Char) : Word :=
  let name := String.ofList (characters.takeWhile (· ≠ '='))
  match characters.dropWhile (· ≠ '=') with
  | [] => .option name none
  | _ :: value => .option name (some (String.ofList value))

def ofText (text : String) : Word :=
  match text.toList with
  | ['-', '-'] => .terminator
  | '-' :: '-' :: characters => ofOption characters
  | '-' :: letter :: _ => .letters letter
  | _ => .plain text

end Word

end LogFollow.CommandLine
