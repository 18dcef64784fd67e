import LogFollow.Text.MultiByte.Index
import LogFollow.Text.Table.JisX0208

/-!
# ISO-2022-JP

Escape sequences switch between ASCII, JIS-Roman, half-width katakana and two-byte JIS X 0208. An
escape sequence that is not one of these is malformed, and what followed the escape is read as text
of the set in force; so is an escape sequence that follows another with no character between.
-/

namespace LogFollow.Text.MultiByte.Iso2022Jp

/-- The character set in force. -/
inductive Mode
  | ascii
  | roman
  | katakana
  | kanji
deriving DecidableEq, Repr

/-- What is open: nothing, the first byte of a two-byte character, or an escape sequence of which
one or two bytes have been read. -/
inductive Open
  | nothing
  | lead (b : UInt8)
  | escape
  | escapeWith (b : UInt8)
deriving DecidableEq, Repr

/-- The state of the decoder. `switched` tells that a set was selected and no character read since. -/
structure State where
  mode : Mode := .ascii
  pending : Open := .nothing
  switched : Bool := false
deriving DecidableEq, Repr

/-- What a byte stands for in a set of single bytes. -/
def single (mode : Mode) (b : UInt8) : Char :=
  match mode with
  | .katakana => if within 0x21 0x5F b then charOfCode (0xFF61 + (b.toNat - 0x21)) else replacement
  | .roman =>
    if b = 0x5C then '\u00A5' else if b = 0x7E then '\u203E'
    else if isAscii b && b != 0x0E && b != 0x0F then Text.MultiByte.ascii b else replacement
  | _ => if isAscii b && b != 0x0E && b != 0x0F then Text.MultiByte.ascii b else replacement

/-- A byte outside an escape sequence. -/
def stepText (s : State) (b : UInt8) : List Char × State :=
  match s.pending with
  | .lead lead =>
    if b = 0x1B then ([replacement], { s with pending := .escape })
    else if within 0x21 0x7E b then
      let pointer := (lead.toNat - 0x21) * 94 + (b.toNat - 0x21)
      ([(lookup Table.jisX0208 0 pointer).getD replacement], { s with pending := .nothing })
    else ([replacement], { s with pending := .nothing })
  | _ =>
    if b = 0x1B then ([], { s with pending := .escape })
    else
      match s.mode with
      | .kanji =>
        if within 0x21 0x7E b then ([], { s with pending := .lead b, switched := false })
        else ([replacement], { s with pending := .nothing, switched := false })
      | mode => ([single mode b], { s with pending := .nothing, switched := false })

/-- The set that an escape sequence selects. -/
def selected (first second : UInt8) : Option Mode :=
  if first = 0x28 && second = 0x42 then some .ascii
  else if first = 0x28 && second = 0x4A then some .roman
  else if first = 0x28 && second = 0x49 then some .katakana
  else if first = 0x24 && (second = 0x40 || second = 0x42) then some .kanji
  else none

/-- The state after a malformed escape sequence. -/
def afterEscape (s : State) : State := { s with pending := .nothing, switched := false }

def automaton : Automaton State where
  start := {}
  step s b :=
    match s.pending with
    | .escape =>
      if b = 0x24 || b = 0x28 then ([], { s with pending := .escapeWith b })
      else
        let (out, s') := stepText (afterEscape s) b
        (replacement :: out, s')
    | .escapeWith first =>
      match selected first b with
      | some mode =>
        (if s.switched then [replacement] else [], { mode, pending := .nothing, switched := true })
      | none =>
        let (out₁, s₁) := stepText (afterEscape s) first
        let (out₂, s₂) := stepText s₁ b
        (replacement :: (out₁ ++ out₂), s₂)
    | _ => stepText s b
  flush s :=
    match s.pending with
    | .nothing => []
    | .lead _ | .escape => [replacement]
    | .escapeWith first =>
      let (out, s') := stepText (afterEscape s) first
      replacement :: (out ++ (if s'.pending = .nothing then [] else [replacement]))

end LogFollow.Text.MultiByte.Iso2022Jp
