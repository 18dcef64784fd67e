import LogFollow.Config.Overrides
import Mathlib.Tactic.Common

/-!
# What overrides replace

Overrides stand above a configuration. A field that they give is theirs in the result, and every other field is
that of the configuration. Lists count as given when they have an element, the two patterns for entries are one
field, and a flag can only be switched on. This fixes the result.
-/
namespace LogFollow

namespace Overrides

variable {α : Type}

/-- A field is the given value, if there is one, and else what it was. -/
structure Replaced (given : Option α) (old new : α) : Prop where
  taken : ∀ a, given = some a → new = a
  kept : given = none → new = old

/-- A list is the given one, if that has an element, and else what it was. -/
structure ListReplaced (given old new : List α) : Prop where
  taken : given ≠ [] → new = given
  kept : given = [] → new = old

/-- The patterns for entries are the given ones, if there is one, and else what they were. -/
structure PatternsReplaced (given : Multiline) (old new : Option Multiline) : Prop where
  taken : given.startPattern ≠ none ∨ given.endPattern ≠ none → new = some given
  kept : given.startPattern = none ∧ given.endPattern = none → new = old

/-- A flag is set if it was or is switched on. -/
def Switched (given old new : Bool) : Prop := new = true ↔ old = true ∨ given = true

/-- The new configuration is the old one with what the overrides give. -/
structure Above (o : Overrides) (old new : Config) : Prop where
  id : Replaced o.id old.id new.id
  included : ListReplaced o.included old.included new.included
  excluded : ListReplaced o.excluded old.excluded new.excluded
  pollInterval : Replaced o.pollInterval old.pollInterval new.pollInterval
  startAt : Replaced o.startAt old.startAt new.startAt
  fingerprintSize : Replaced o.fingerprintSize old.fingerprintSize new.fingerprintSize
  maxLogSize : Replaced o.maxLogSize old.maxLogSize new.maxLogSize
  maxConcurrentFiles : Replaced o.maxConcurrentFiles old.maxConcurrentFiles new.maxConcurrentFiles
  encoding : Replaced o.encoding old.encoding new.encoding
  multiline : PatternsReplaced o.multiline old.multiline new.multiline
  includeFileName : new.includeFileName = old.includeFileName
  includeFilePath : Switched o.includeFilePath old.includeFilePath new.includeFilePath
  includeFileNameResolved :
    Switched o.includeFileNameResolved old.includeFileNameResolved new.includeFileNameResolved
  includeFilePathResolved :
    Switched o.includeFilePathResolved old.includeFilePathResolved new.includeFilePathResolved
  attributeRegex : Replaced (o.attributeRegex.map some) old.attributeRegex new.attributeRegex
  deleteAfterRead : Switched o.deleteAfterRead old.deleteAfterRead new.deleteAfterRead

/-! ## Fields -/

theorem replaced_getD (given : Option α) (old : α) : Replaced given old (given.getD old) := by
  constructor <;> simp +contextual

theorem listReplaced_replaceList (given old : List α) :
    ListReplaced given old (replaceList given old) := by
  constructor <;> simp +contextual [replaceList]

theorem switched_or (given old : Bool) : Switched given old (old || given) := by
  simp [Switched]

theorem patternsReplaced_ite (given : Multiline) (old : Option Multiline) :
    PatternsReplaced given old (if given = {} then old else some given) := by
  obtain ⟨startPattern, endPattern⟩ := given
  constructor
  · rintro (h | h) <;> simp_all
  · rintro ⟨rfl, rfl⟩
    rfl

theorem replaced_orElse (given old : Option α) :
    Replaced (given.map some) old (given <|> old) := by
  cases given <;> constructor <;> simp

theorem Replaced.unique {given : Option α} {old new other : α} (h : Replaced given old new)
    (h' : Replaced given old other) : new = other := by
  cases given with
  | none => rw [h.kept rfl, h'.kept rfl]
  | some a => rw [h.taken a rfl, h'.taken a rfl]

theorem ListReplaced.unique {given old new other : List α} (h : ListReplaced given old new)
    (h' : ListReplaced given old other) : new = other := by
  by_cases hg : given = []
  · rw [h.kept hg, h'.kept hg]
  · rw [h.taken hg, h'.taken hg]

theorem PatternsReplaced.unique {given : Multiline} {old new other : Option Multiline}
    (h : PatternsReplaced given old new) (h' : PatternsReplaced given old other) : new = other := by
  by_cases hg : given.startPattern = none ∧ given.endPattern = none
  · rw [h.kept hg, h'.kept hg]
  · have hset : given.startPattern ≠ none ∨ given.endPattern ≠ none := by
      rwa [not_and_or] at hg
    rw [h.taken hset, h'.taken hset]

theorem Switched.unique {given old new other : Bool} (h : Switched given old new)
    (h' : Switched given old other) : new = other :=
  Bool.eq_iff_iff.mpr (h.trans h'.symm)

/-! ## Configurations -/

theorem above_apply (o : Overrides) (old : Config) : o.Above old (o.apply old) where
  id := replaced_getD ..
  included := listReplaced_replaceList ..
  excluded := listReplaced_replaceList ..
  pollInterval := replaced_getD ..
  startAt := replaced_getD ..
  fingerprintSize := replaced_getD ..
  maxLogSize := replaced_getD ..
  maxConcurrentFiles := replaced_getD ..
  encoding := replaced_getD ..
  multiline := patternsReplaced_ite ..
  includeFileName := rfl
  includeFilePath := switched_or ..
  includeFileNameResolved := switched_or ..
  includeFilePathResolved := switched_or ..
  attributeRegex := replaced_orElse ..
  deleteAfterRead := switched_or ..

theorem Above.unique {o : Overrides} {old new other : Config} (h : o.Above old new)
    (h' : o.Above old other) : new = other := by
  cases new
  cases other
  simp only [Config.mk.injEq]
  exact ⟨h.id.unique h'.id, h.included.unique h'.included, h.excluded.unique h'.excluded,
    h.pollInterval.unique h'.pollInterval, h.startAt.unique h'.startAt,
    h.fingerprintSize.unique h'.fingerprintSize, h.maxLogSize.unique h'.maxLogSize,
    h.maxConcurrentFiles.unique h'.maxConcurrentFiles, h.encoding.unique h'.encoding,
    h.multiline.unique h'.multiline, h.includeFileName.trans h'.includeFileName.symm,
    h.includeFilePath.unique h'.includeFilePath,
    h.includeFileNameResolved.unique h'.includeFileNameResolved,
    h.includeFilePathResolved.unique h'.includeFilePathResolved,
    h.attributeRegex.unique h'.attributeRegex, h.deleteAfterRead.unique h'.deleteAfterRead⟩

/-- Overrides replace just the fields that they give. -/
theorem above_iff {o : Overrides} {old new : Config} : o.Above old new ↔ new = o.apply old := by
  constructor
  · intro h
    exact h.unique (above_apply o old)
  · rintro rfl
    exact above_apply o old

end Overrides

end LogFollow
