import LogFollow.Pattern.Parser
import LogFollow.Proofs.Text.Utf8

/-!
# Patterns that spell a text

A character that is no operator stands for itself in a pattern, and a backslash takes the meaning from
one that is. A pattern of such characters spells a text; it is read as the literal of the bytes of the
text.
-/
namespace LogFollow

theorem Bytes.ofString_ne_nil {s : String} (h : s ≠ "") : ofString s ≠ [] := by
  have hpos : 0 < s.toList.length := List.length_pos_iff.mpr (by simpa using h)
  have hle := Text.Utf8.length_le_length_flatMap s.toList
  rw [ofString_eq]
  exact List.length_pos_iff.mp (by omega)

namespace Pattern

/-- The characters that mean something else than themselves in a pattern. -/
def operators : List Char := ['(', ')', '|', '[', '?', '*', '+', '{', '\\', '.', '^', '$']

/-- The letters that stand for control characters behind a backslash. -/
def controls : List (Char × Char) :=
  [('a', '\x07'), ('f', '\x0C'), ('t', '\t'), ('n', '\n'), ('r', '\r'), ('v', '\x0B')]

/-- The characters of a pattern spell those of a text, one after another. -/
inductive Spells : (pattern text : List Char) → Prop
  | nil : Spells [] []
  | plain {c : Char} {pattern text : List Char} : c ∉ operators → Spells pattern text →
      Spells (c :: pattern) (c :: text)
  | escaped {c : Char} {pattern text : List Char} : Parser.isEscapable c → Spells pattern text →
      Spells ('\\' :: c :: pattern) (c :: text)
  | control {letter c : Char} {pattern text : List Char} : (letter, c) ∈ controls →
      Spells pattern text → Spells ('\\' :: letter :: pattern) (c :: text)

namespace Expr

/-- The literal of a character. -/
def ofChar (c : Char) : Expr := .literal (String.utf8EncodeChar c)

theorem oneScalar_singleton (c : Char) : oneScalar (CodeSet.singleton c.toNat) = ofChar c := by
  simp [oneScalar, only?, CodeSet.singleton, ofChar]

/-- Literals side by side are one literal. -/
theorem foldr_absorb_ofChar (c : Char) (text : List Char) :
    ((c :: text).map ofChar).foldr absorb [] =
      [.literal ((c :: text).flatMap String.utf8EncodeChar)] := by
  induction text generalizing c with
  | nil => simp [ofChar, absorb, put]
  | cons d text ih =>
    rw [List.map_cons, List.foldr_cons, ih d, List.flatMap_cons]
    rfl

theorem sequence_ofChar {text : List Char} (h : text ≠ []) :
    sequence (text.map ofChar) = .literal (text.flatMap String.utf8EncodeChar) := by
  obtain ⟨c, text, rfl⟩ := List.exists_cons_of_ne_nil h
  rw [sequence, foldr_absorb_ofChar]

end Expr

namespace Parser

/-- The flags under which a character stands for itself, and for nothing else. -/
structure Plain (f : Flags) : Prop where
  unicode : f.unicode = true
  ignoreCase : f.ignoreCase = false
  verbose : f.verbose = false

variable {f : Flags} {o : Options} {s : State} {pattern text rest : List Char} {c : Char}

theorem skip_of_not_verbose (h : f.verbose = false) (text : List Char) : skip f text = text := by
  cases text with
  | nil => rfl
  | cons c rest => simp [skip, h]

theorem charExpr_eq (h : Plain f) (hex : Bool) :
    charExpr o f c hex = some (Expr.ofChar c) := by
  rw [charExpr, if_pos h.unicode, h.ignoreCase]
  exact congrArg some (Expr.oneScalar_singleton c)

theorem escape_of_isEscapable (h : isEscapable c) :
    escape f (c :: rest) = some (.char c false, rest) := by
  simp only [escape]
  split
  case h_24 => rw [if_pos h]
  all_goals exact absurd h (by decide)

theorem escape_of_mem_controls {letter : Char} (h : (letter, c) ∈ controls) :
    escape f (letter :: rest) = some (.char c false, rest) := by
  simp only [controls, List.mem_cons, List.not_mem_nil, or_false, Prod.mk.injEq] at h
  rcases h with ⟨rfl, rfl⟩ | ⟨rfl, rfl⟩ | ⟨rfl, rfl⟩ | ⟨rfl, rfl⟩ | ⟨rfl, rfl⟩ | ⟨rfl, rfl⟩ <;> rfl

theorem step_plain (h : Plain s.flags) (hc : c ∉ operators) :
    step o s (c :: rest) = some (s.push (Expr.ofChar c) 0, rest) := by
  unfold step
  split
  case h_14 heq =>
    obtain ⟨rfl, rfl⟩ := List.cons.inj heq
    simp only [charExpr_eq h, Option.map_some]
  all_goals simp_all [operators]

theorem step_escape (h : Plain s.flags) {text : List Char}
    (he : escape s.flags text = some (.char c false, rest)) :
    step o s ('\\' :: text) = some (s.push (Expr.ofChar c) 0, rest) := by
  simp only [step, he, atomExpr, charExpr_eq h, Option.map_some]

/-- The part that a character is. -/
def partOf (c : Char) : Part := { expr := Expr.ofChar c }

/-- The state of the reader behind the characters of a text. -/
def State.behind (s : State) (text : List Char) : State :=
  { s with parts := (text.map partOf).reverse ++ s.parts }

theorem State.behind_nil (s : State) : s.behind [] = s := rfl

theorem State.behind_cons (s : State) (c : Char) (text : List Char) :
    s.behind (c :: text) = (s.push (Expr.ofChar c) 0).behind text := by
  simp [behind, push, partOf]

theorem loop_step {s' : State} (hv : s.flags.verbose = false)
    (h : step o s (c :: text) = some (s', rest)) (fuel : Nat) :
    loop o (fuel + 1) s (c :: text) = loop o fuel s' rest := by
  simp only [loop, skip_of_not_verbose hv, h]

/-- The reader adds the characters that a pattern spells to the sequence. -/
theorem loop_spells (h : Spells pattern text) (more : Nat) (hs : Plain s.flags) :
    loop o (pattern.length + more) s pattern = some (s.behind text) := by
  have hv := hs.verbose
  -- there is fuel for each character of the pattern, and a backslash leaves its own unused
  induction h generalizing more s with
  | nil => cases more <;> simp [loop, skip, State.behind_nil]
  | @plain c pattern text hc _ ih =>
    rw [List.length_cons, Nat.add_right_comm, loop_step hv (step_plain hs hc), State.behind_cons]
    exact ih more hs hv
  | @escaped c pattern text hc _ ih =>
    rw [List.length_cons, Nat.add_right_comm,
      loop_step hv (step_escape hs (escape_of_isEscapable hc)), State.behind_cons, List.length_cons,
      Nat.add_assoc]
    exact ih (1 + more) hs hv
  | @control letter c pattern text hc _ ih =>
    rw [List.length_cons, Nat.add_right_comm,
      loop_step hv (step_escape hs (escape_of_mem_controls hc)), State.behind_cons, List.length_cons,
      Nat.add_assoc]
    exact ih (1 + more) hs hv

/-- Parts that are not nested are nested in one sequence at most. -/
theorem depthOf_le_one {parts : List Part} (h : ∀ p ∈ parts, p.depth = 0) : depthOf parts ≤ 1 := by
  have hfold : parts.foldl (fun d p => max d p.depth) 0 = 0 := by
    induction parts with
    | nil => rfl
    | cons p parts ih =>
      rw [List.foldl_cons, h p List.mem_cons_self]
      exact ih fun q hq => h q (List.mem_cons_of_mem p hq)
  rw [depthOf, hfold]
  split <;> omega

/-- All that was read is the text. -/
theorem choice_behind (f : Flags) (hne : text ≠ []) :
    (State.behind { flags := f } text).choice.expr =
        .literal (text.flatMap String.utf8EncodeChar) ∧
      (State.behind { flags := f } text).choice.depth ≤ 1 := by
  have hparts : ∀ p ∈ (text.map partOf).reverse ++ [], p.depth = 0 := by
    simp [partOf]
  refine ⟨?_, ?_⟩
  · rw [← Expr.sequence_ofChar hne]
    simp [State.choice, State.sequence, State.behind, Expr.choice, partOf, Function.comp_def]
  · simpa [State.choice, State.sequence, State.behind, depthOf] using depthOf_le_one hparts

end Parser

/-- **A pattern that spells a text is read as the literal of its bytes.** -/
theorem parse_spells {pattern text : String} (h : Spells pattern.toList text.toList)
    (hne : text ≠ "") (o : Options) :
    parse o pattern = some ⟨.literal (Bytes.ofString text), []⟩ := by
  have hloop := Parser.loop_spells (o := o)
    (s := { flags := { multiLine := o.multiLine } }) h 0 ⟨rfl, rfl, rfl⟩
  obtain ⟨hexpr, hdepth⟩ := @Parser.choice_behind text.toList { multiLine := o.multiLine }
    (by simpa using hne)
  rw [Nat.add_zero] at hloop
  have hlimit := Nat.le_trans hdepth (by decide : 1 ≤ nestLimit)
  rw [parse, hloop, Bytes.ofString_eq, ← hexpr]
  simpa [Parser.State.behind, Parsed.of] using hlimit

end Pattern

end LogFollow
