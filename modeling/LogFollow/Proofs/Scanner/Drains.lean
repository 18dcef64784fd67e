import LogFollow.Proofs.Scanner.Pull

/-!
# What a scanner gives

A scanner is called for items until it has none left. What it still has to give is an outlook: items with
the places behind them, failures of its source, and the bytes that are at hand in the end.
-/
namespace LogFollow

/-- What a scanner has still to give: its items with the places behind them, the failures of its
source, the bytes it will leave, and the place where it will end. -/
structure Outlook where
  items : List (Scanned × Nat)
  failures : List IoError
  left : Option Bytes
  stop : Nat

namespace Outlook

/-- The outlook before an item that is then taken. -/
def withItem (o : Outlook) (item : Scanned) (place : Nat) : Outlook :=
  { o with items := (item, place) :: o.items }

/-- The outlook before a failure. -/
def withFailure (o : Outlook) (cause : IoError) : Outlook :=
  { o with failures := cause :: o.failures }

end Outlook

namespace Scanner

/-- The bytes that are not used up. -/
def pending (s : Scanner) : Bytes := s.window ++ s.source.stream

theorem pending_consume (s : Scanner) {n : Nat} (h : n ≤ s.window.length) :
    (s.consume n).pending = s.pending.drop n := by
  rw [pending, pending, List.drop_append_of_le_length h]
  rfl

/-- Calls for items until there are none: the items with the places behind them, the failures in
between, and the scanner in the end. -/
inductive Drains : Scanner → List (Scanned × Nat) → List IoError → Scanner → Prop
  | exhausted {s t : Scanner} : s.next = (.exhausted, t) → Drains s [] [] t
  | found {s t u : Scanner} {item : Scanned} {items : List (Scanned × Nat)}
      {failures : List IoError} : s.next = (.found item, t) → Drains t items failures u →
      Drains s ((item, t.position) :: items) failures u
  | failed {s t u : Scanner} {cause : IoError} {items : List (Scanned × Nat)}
      {failures : List IoError} : s.next = (.failed cause, t) → Drains t items failures u →
      Drains s items (cause :: failures) u

/-- The calls for items have one result. -/
theorem Drains.unique {s t u : Scanner} {items items' : List (Scanned × Nat)}
    {failures failures' : List IoError} (h : Drains s items failures t)
    (h' : Drains s items' failures' u) : items' = items ∧ failures' = failures ∧ u = t := by
  induction h generalizing items' failures' with
  | exhausted hn =>
    cases h' with
    | exhausted hn' => exact ⟨rfl, rfl, (congrArg Prod.snd (hn'.symm.trans hn))⟩
    | found hn' => cases hn'.symm.trans hn
    | failed hn' => cases hn'.symm.trans hn
  | found hn _ ih =>
    cases h' with
    | exhausted hn' => cases hn'.symm.trans hn
    | found hn' hd' =>
      cases hn'.symm.trans hn
      obtain ⟨rfl, rfl, rfl⟩ := ih hd'
      exact ⟨rfl, rfl, rfl⟩
    | failed hn' => cases hn'.symm.trans hn
  | failed hn _ ih =>
    cases h' with
    | exhausted hn' => cases hn'.symm.trans hn
    | found hn' => cases hn'.symm.trans hn
    | failed hn' hd' =>
      cases hn'.symm.trans hn
      obtain ⟨rfl, rfl, rfl⟩ := ih hd'
      exact ⟨rfl, rfl, rfl⟩

end Scanner

end LogFollow
