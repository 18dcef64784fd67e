import LogFollow.Encoding
import LogFollow.Error
import LogFollow.Header

/-!
# Compiling what is configured

Encodings, patterns and globs are configured as texts. Here each text is made into the rule that it
stands for, or refused with the error that says why.
-/

namespace LogFollow

/-- The encoding with a configured name. -/
def Encoding.named (name : String) : Except Error Encoding :=
  match Encoding.lookup? name with
  | some encoding => .ok encoding
  | none => .error (.unsupportedEncoding name)

namespace Framing

/-- The matcher of a pattern for the boundaries of entries. The pattern is matched against bytes, and
its anchors match at line breaks. -/
def matcher (pattern : String) : Except Error Matcher :=
  match Pattern.Regex.compile ⟨false, true⟩ false pattern with
  | .ok r => .ok (.ofRegex r)
  | .error refusal => .error (.regex .multiline refusal)

def ofStartPattern (pattern : String) : Except Error Framing := (matcher pattern).map .entryStart

def ofEndPattern (pattern : String) : Except Error Framing := (matcher pattern).map .entryEnd

end Framing

def HeaderRule.ofPattern (pattern : String) : Except Error HeaderRule :=
  match HeaderRule.compile pattern with
  | .ok rule => .ok rule
  | .error (.pattern refusal) => .error (.regex .header refusal)
  | .error (.groups names) => .error (.config (.headerGroups names))

def Glob.Pattern.ofText (role : GlobRole) (text : String) : Except Error Glob.Pattern :=
  match Glob.Pattern.parse text with
  | .ok pattern => .ok pattern
  | .error fault => .error (.invalidGlob role text fault)

end LogFollow
