/-!
# Glob patterns

A glob pattern describes paths: `?` stands for any character, `*` for any text, a class in brackets
for one of its characters, and `**`, as a whole component, for any number of components. A pattern
without special characters stands for itself.
-/

namespace LogFollow.Glob

inductive Fault
  /-- More than two asterisks in a row. -/
  | wildcards
  /-- Two asterisks that are not a component of their own. -/
  | recursive
  /-- A bracket that opens no class. -/
  | range
deriving DecidableEq, Repr

/-- What is wrong with a glob pattern, and the index of the character near which it is. -/
structure PatternError where
  place : Nat
  fault : Fault
deriving DecidableEq, Repr

def Fault.message : Fault → String
  | wildcards => "wildcards are either regular \x60*\x60 or recursive \x60**\x60"
  | recursive => "recursive wildcards must form a single path component"
  | range => "invalid range pattern"

def PatternError.message (e : PatternError) : String :=
  s!"Pattern syntax error near position {e.place}: {e.fault.message}"

structure Range where
  low : Char
  high : Char
deriving DecidableEq, Repr

inductive Token
  | char (c : Char)
  | anyChar
  | anyText
  | anyComponents
  | within (ranges : List Range)
  | except (ranges : List Range)
deriving DecidableEq, Repr

structure Pattern where
  text : String
  tokens : List Token
deriving DecidableEq, Repr

namespace Pattern

/-- The ranges of a class. A hyphen between two characters makes a range of them. -/
def ranges : List Char → List Range
  | [] => []
  | low :: '-' :: high :: rest => ⟨low, high⟩ :: ranges rest
  | c :: rest => ⟨c, c⟩ :: ranges rest

/-- The content of a class and what follows its closing bracket. The first character of the content
may be a closing bracket itself. -/
def splitClass : List Char → Option (List Char × List Char)
  | [] => none
  | first :: rest =>
    match rest.span (· != ']') with
    | (_, []) => none
    | (content, _ :: after) => some (first :: content, after)

def parseClass : List Char → Option (Token × List Char)
  | '!' :: rest => (splitClass rest).map fun (content, after) => (.except (ranges content), after)
  | rest => (splitClass rest).map fun (content, after) => (.within (ranges content), after)

/-- Whether a `**` that begins at index `i` after `before` is a component of its own as far as the
character before it goes. -/
def startsComponent (i : Nat) (before : Option Char) : Bool := i == 0 || before == some '/'

/-- Adds the token for whole components, unless it stands there already behind another token. -/
def pushComponents (done : List Token) : List Token :=
  match done with
  | .anyComponents :: _ :: _ => done
  | _ => .anyComponents :: done

/-- The tokens of the characters from index `i` on; `before` is the character before them and `done`
holds the tokens so far, the last one first. The fuel is a bound on the number of characters. -/
def parseFrom : (fuel : Nat) → (i : Nat) → (before : Option Char) → (done : List Token) →
    List Char → Except PatternError (List Token)
  | 0, _, _, done, _ => .ok done.reverse
  | fuel + 1, i, before, done, chars =>
    match chars with
    | [] => .ok done.reverse
    | '?' :: rest => parseFrom fuel (i + 1) (some '?') (.anyChar :: done) rest
    | '*' :: '*' :: '*' :: _ => .error ⟨i + 2, .wildcards⟩
    | '*' :: '*' :: rest =>
      if !startsComponent i before then .error ⟨i - 1, .recursive⟩
      else
        match rest with
        | [] => parseFrom fuel (i + 2) (some '*') (pushComponents done) []
        | '/' :: rest => parseFrom fuel (i + 3) (some '/') (pushComponents done) rest
        | _ => .error ⟨i + 2, .recursive⟩
    | '*' :: rest => parseFrom fuel (i + 1) (some '*') (.anyText :: done) rest
    | '[' :: rest =>
      match parseClass rest with
      | none => .error ⟨i, .range⟩
      | some (token, after) =>
        parseFrom fuel (i + (chars.length - after.length)) (some ']') (token :: done) after
    | c :: rest => parseFrom fuel (i + 1) (some c) (.char c :: done) rest

def parse (text : String) : Except PatternError Pattern :=
  (parseFrom (text.length + 1) 0 none [] text.toList).map fun tokens => { text, tokens }

/-- Whether a component of a path is matched by the pattern as a whole component sequence. -/
def isRecursive (p : Pattern) : Bool := p.tokens.contains .anyComponents

def isLiteral (p : Pattern) : Bool :=
  p.tokens.all fun
    | .char _ => true
    | _ => false

def inRanges (c : Char) (rs : List Range) : Bool := rs.any fun r => r.low ≤ c && c ≤ r.high

/-! Tokens are matched from the last one back. At each token there is a row that tells, for every tail
of the text, the text itself first and the empty tail last, whether the tokens from there on match the
whole tail. -/

/-- The row before a token that stands for one character, from the row behind it. -/
def rowOfOne (test : Char → Bool) : List Char → List Bool → List Bool
  | c :: cs, _ :: row => (test c && row.headD false) :: rowOfOne test cs row
  | _, _ => [false]

def rowOfText (row : List Bool) : List Bool :=
  row.foldr (fun here after => (here || after.headD false) :: after) []

/-- For every tail, whether what follows whole components matches from behind one of the slashes in the
tail on, or at the end of it. -/
def behindSlash : List Char → List Bool → List Bool
  | c :: cs, _ :: row =>
    let after := behindSlash cs row
    ((c == '/' && row.headD false) || after.headD false) :: after
  | _, row => row

def rowOf (cs : List Char) (row : List Bool) : Token → List Bool
  | .char d => rowOfOne (· == d) cs row
  | .anyChar => rowOfOne (fun _ => true) cs row
  | .within rs => rowOfOne (inRanges · rs) cs row
  | .except rs => rowOfOne (!inRanges · rs) cs row
  | .anyText => rowOfText row
  | .anyComponents => List.zipWith (· || ·) row (behindSlash cs row)

/-- The row behind the last token: only the empty tail is left. -/
def lastRow (cs : List Char) : List Bool := cs.map (fun _ => false) ++ [true]

def matchTokens (tokens : List Token) (cs : List Char) : Bool :=
  (tokens.foldr (fun token row => rowOf cs row token) (lastRow cs)).headD false

def isMatch (p : Pattern) (text : String) : Bool := matchTokens p.tokens text.toList

end Pattern

end LogFollow.Glob
