import LogFollow.Bytes

/-!
# Decoders as automata

A character decoder reads one byte at a time. Each byte may complete some characters, and leaves the
decoder in a state that holds the bytes of an unfinished sequence. At the end of the input the
decoder says what becomes of an unfinished sequence. A malformed sequence becomes U+FFFD and the
byte that broke it is looked at afresh, so no later character is lost.
-/

namespace LogFollow.Text

/-- What stands for a malformed sequence. -/
def replacement : Char := '\uFFFD'

/-- The character of a code point; a number that is none stands for a malformed sequence. -/
def charOfCode (n : Nat) : Char :=
  if n.isValidChar then Char.ofNat n else replacement

/-- A decoder with states in `σ`. -/
structure Automaton (σ : Type) where
  start : σ
  /-- The characters that a byte completes, and the state after it. -/
  step : σ → UInt8 → List Char × σ
  /-- The characters that the end of the input completes. -/
  flush : σ → List Char

namespace Automaton

variable {σ : Type}

/-- Reads `bytes` from state `s`; `done` holds the characters so far, last one first. -/
def runFrom (a : Automaton σ) (s : σ) (done : List Char) : Bytes → List Char
  | [] => done.reverse ++ a.flush s
  | b :: rest =>
    let (out, s') := a.step s b
    a.runFrom s' (out.reverse ++ done) rest

def run (a : Automaton σ) (bytes : Bytes) : List Char := a.runFrom a.start [] bytes

end Automaton

end LogFollow.Text
