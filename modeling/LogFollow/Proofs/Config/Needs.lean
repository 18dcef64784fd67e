import LogFollow.Proofs.Config.Settings
import LogFollow.Proofs.Finder.Listing
import LogFollow.Proofs.Rules

/-!
# What a configuration needs

A configuration has to meet a list of needs before anything runs. `Config.build` goes through them in one fixed
order, and refuses a configuration with the error of the first need that it does not meet. Each step of it checks
a part of the list, and steps one after another check their parts one after another.
-/
namespace LogFollow

/-! ## The needs of a run -/

/-- What a configuration needs to run. -/
inductive Need
  | id
  | pollInterval
  | fingerprintSize
  | maxLogSize
  | maxConcurrentFiles
  /-- Files that are read from their end on are not deleted. -/
  | unreadKept
  | included
  | includedValid
  | excludedValid
  | encoding
  /-- Entries do not have both a pattern for their first line and one for their last. -/
  | onePattern
  | entryPattern
  | headerPattern
  | headerGroups
deriving DecidableEq

namespace Need

/-- All needs, in the order in which they are checked. -/
def all : List Need :=
  [id, pollInterval, fingerprintSize, maxLogSize, maxConcurrentFiles, unreadKept, included,
    includedValid, excludedValid, encoding, onePattern, entryPattern, headerPattern, headerGroups]

theorem mem_all (need : Need) : need ∈ all := by
  cases need <;> decide

/-- What a pattern for the boundaries of entries is compiled to. -/
def compileEntry (pattern : String) : Except Pattern.Refusal Pattern.Regex :=
  Pattern.Regex.compile ⟨false, true⟩ false pattern

/-- What a pattern for header lines is compiled to. -/
def compileHeader (pattern : String) : Except Pattern.Refusal Pattern.Regex :=
  Pattern.Regex.compile ⟨true, false⟩ true pattern

/-- The pattern for the boundaries of entries is one of those that are set. -/
def Bounds (c : Config) (pattern : String) : Prop :=
  ∃ m, c.multiline = some m ∧ (m.startPattern = some pattern ∨ m.endPattern = some pattern)

/-- A configuration meets a need. -/
def Met (c : Config) : Need → Prop
  | id => c.id ≠ ""
  | pollInterval => c.pollInterval.nanoseconds ≠ 0
  | fingerprintSize => 16 ≤ c.fingerprintSize
  | maxLogSize => 0 < c.maxLogSize
  | maxConcurrentFiles => 0 < c.maxConcurrentFiles
  | unreadKept => ¬ (c.deleteAfterRead = true ∧ c.startAt = .atEnd)
  | included => c.included ≠ []
  | includedValid => ∀ glob ∈ c.included, Glob.Valid glob
  | excludedValid => ∀ glob ∈ c.excluded, Glob.Valid glob
  | encoding => ∃ e, Encoding.lookup? c.encoding = some e
  | onePattern => ∀ m, c.multiline = some m → m.startPattern = none ∨ m.endPattern = none
  | entryPattern => ∀ pattern, Bounds c pattern → ∃ r, compileEntry pattern = .ok r
  | headerPattern => ∀ pattern, c.attributeRegex = some pattern → ∃ r, compileHeader pattern = .ok r
  | headerGroups => ∀ pattern r, c.attributeRegex = some pattern → compileHeader pattern = .ok r →
      r.groupNames.Perm ["key", "value"]

/-- The glob is the first of a list that is no pattern, and why it is none. -/
def FirstInvalid (globs : List String) (glob : String) (fault : Glob.PatternError) : Prop :=
  ∃ front rest, globs = front ++ glob :: rest ∧ (∀ g ∈ front, Glob.Valid g) ∧
    Glob.Pattern.parse glob = .error fault

/-- The error with which a configuration is refused that does not meet a need. -/
inductive Refuses (c : Config) : Need → Error → Prop
  | id : Refuses c .id (.config .emptyId)
  | pollInterval : Refuses c .pollInterval (.config .zeroPollInterval)
  | fingerprintSize : Refuses c .fingerprintSize (.config (.smallFingerprint c.fingerprintSize))
  | maxLogSize : Refuses c .maxLogSize (.config .zeroMaxLogSize)
  | maxConcurrentFiles : Refuses c .maxConcurrentFiles (.config .zeroMaxConcurrentFiles)
  | unreadKept : Refuses c .unreadKept (.config .deleteFromEnd)
  | included : Refuses c .included (.config .emptyInclude)
  | includedValid {glob : String} {fault : Glob.PatternError} : FirstInvalid c.included glob fault →
      Refuses c .includedValid (.invalidGlob .including glob fault)
  | excludedValid {glob : String} {fault : Glob.PatternError} : FirstInvalid c.excluded glob fault →
      Refuses c .excludedValid (.invalidGlob .excluding glob fault)
  | encoding : Refuses c .encoding (.unsupportedEncoding c.encoding)
  | onePattern : Refuses c .onePattern (.config .twoPatterns)
  | entryPattern {pattern : String} {refusal : Pattern.Refusal} : Bounds c pattern →
      compileEntry pattern = .error refusal → Refuses c .entryPattern (.regex .multiline refusal)
  | headerPattern {pattern : String} {refusal : Pattern.Refusal} : c.attributeRegex = some pattern →
      compileHeader pattern = .error refusal → Refuses c .headerPattern (.regex .header refusal)
  | headerGroups {pattern : String} {r : Pattern.Regex} : c.attributeRegex = some pattern →
      compileHeader pattern = .ok r →
      Refuses c .headerGroups (.config (.headerGroups r.groupNames.mergeSort))

end Need

open Need

/-- The error is that of the first of the needs that the configuration does not meet. -/
def FirstUnmet (c : Config) (needs : List Need) (e : Error) : Prop :=
  ∃ front need rest, needs = front ++ need :: rest ∧ (∀ n ∈ front, n.Met c) ∧ ¬ need.Met c ∧
    need.Refuses c e

/-- A step gives a value if the needs are met, and else fails as the first that is not. -/
inductive Checks {α : Type} (c : Config) (needs : List Need) : Except Error α → Prop
  | met (a : α) : (∀ need ∈ needs, need.Met c) → Checks c needs (.ok a)
  | unmet {e : Error} : FirstUnmet c needs e → Checks c needs (.error e)

namespace Checks

variable {α β : Type} {c : Config} {needs more : List Need} {need : Need} {e : Error}

/-- Steps one after another check their needs one after another. -/
theorem bind {x : Except Error α} {f : α → Except Error β} (hx : Checks c needs x)
    (hf : ∀ a, x = .ok a → Checks c more (f a)) : Checks c (needs ++ more) (x >>= f) := by
  cases hx with
  | unmet hfirst =>
    obtain ⟨front, need, rest, rfl, hmet⟩ := hfirst
    exact .unmet ⟨front, need, rest ++ more, by simp, hmet⟩
  | met a hall =>
    have hrest := hf a rfl
    show Checks c (needs ++ more) (f a)
    generalize f a = y at hrest ⊢
    cases hrest with
    | met b hmore => exact .met b (List.forall_mem_append.mpr ⟨hall, hmore⟩)
    | unmet hfirst =>
      obtain ⟨front, need, rest, rfl, hmet, hunmet⟩ := hfirst
      refine .unmet ⟨needs ++ front, need, rest, by simp, ?_, hunmet⟩
      exact List.forall_mem_append.mpr ⟨hall, hmet⟩

/-- What is made of the last value needs nothing more. -/
theorem last {x : Except Error α} (hx : Checks c needs x) (f : α → β) :
    Checks c needs (x >>= fun a => pure (f a)) := by
  cases hx with
  | met a hall => exact .met (f a) hall
  | unmet hfirst => exact .unmet hfirst

theorem fails (hunmet : ¬ need.Met c) (hrefuses : need.Refuses c e) :
    Checks c (need :: needs) (.error e : Except Error α) :=
  .unmet ⟨[], need, needs, rfl, by simp, hunmet, hrefuses⟩

theorem cons (hmet : need.Met c) {x : Except Error α} (hx : Checks c needs x) :
    Checks c (need :: needs) x := by
  cases hx with
  | met a hall => exact .met a (List.forall_mem_cons.mpr ⟨hmet, hall⟩)
  | unmet hfirst =>
    obtain ⟨front, first, rest, rfl, hfront, hfirst⟩ := hfirst
    exact .unmet ⟨need :: front, first, rest, rfl, List.forall_mem_cons.mpr ⟨hmet, hfront⟩, hfirst⟩

theorem done (a : α) : Checks c [] (.ok a : Except Error α) := .met a (by simp)

/-- A condition that is looked at first. -/
theorem guard {condition : Prop} [Decidable condition] (hmet : need.Met c ↔ ¬ condition)
    (hrefuses : need.Refuses c e) {x : Except Error α} (hx : Checks c needs x) :
    Checks c (need :: needs) (if condition then .error e else x) := by
  split
  · next h => exact fails (fun hm => hmet.mp hm h) hrefuses
  · next h => exact cons (hmet.mpr h) hx

end Checks

/-! ## The steps of building -/

variable {c : Config}

theorem mapError_check (c : Config) : c.check.mapError Error.config =
    if c.id.isEmpty then .error (.config .emptyId)
    else if c.pollInterval.isZero then .error (.config .zeroPollInterval)
    else if c.fingerprintSize < minFingerprintSize then
      .error (.config (.smallFingerprint c.fingerprintSize))
    else if c.maxLogSize = 0 then .error (.config .zeroMaxLogSize)
    else if c.maxConcurrentFiles = 0 then .error (.config .zeroMaxConcurrentFiles)
    else if c.deleteAfterRead ∧ c.startAt = .atEnd then .error (.config .deleteFromEnd)
    else .ok () := by
  unfold Config.check
  split_ifs <;> rfl

theorem checks_check (c : Config) :
    Checks c [.id, .pollInterval, .fingerprintSize, .maxLogSize, .maxConcurrentFiles, .unreadKept]
      (c.check.mapError Error.config) := by
  rw [mapError_check]
  apply Checks.guard (by simp [Met]) .id
  apply Checks.guard (by simp [Met, Duration.isZero]) .pollInterval
  apply Checks.guard (by simp [Met, minFingerprintSize]) .fingerprintSize
  apply Checks.guard (by simp [Met, Nat.pos_iff_ne_zero]) .maxLogSize
  apply Checks.guard (by simp [Met, Nat.pos_iff_ne_zero]) .maxConcurrentFiles
  exact Checks.guard Iff.rfl .unreadKept (.done ())

/-! ### Globs -/

theorem Need.FirstInvalid.not_valid {globs : List String} {glob : String} {fault : Glob.PatternError}
    (h : FirstInvalid globs glob fault) : ¬ ∀ g ∈ globs, Glob.Valid g := by
  obtain ⟨front, rest, rfl, -, hfault⟩ := h
  intro hall
  obtain ⟨pattern, hpattern⟩ := hall glob (by simp)
  rw [hfault] at hpattern
  cases hpattern

/-- The patterns that globs are parsed to. -/
abbrev Parsed : List String → List Glob.Pattern → Prop :=
  List.Forall₂ fun glob pattern => Glob.Pattern.parse glob = .ok pattern

theorem valid_of_parsed {globs : List String} {patterns : List Glob.Pattern}
    (h : Parsed globs patterns) : ∀ glob ∈ globs, Glob.Valid glob := by
  induction h with
  | nil => simp
  | cons hparse _ ih => exact List.forall_mem_cons.mpr ⟨⟨_, hparse⟩, ih⟩

theorem mapM_ofText (role : GlobRole) (globs : List String) :
    match globs.mapM (Glob.Pattern.ofText role) with
    | .ok patterns => Parsed globs patterns
    | .error e => ∃ glob fault, FirstInvalid globs glob fault ∧ e = .invalidGlob role glob fault := by
  induction globs with
  | nil => exact .nil
  | cons glob rest ih =>
    rw [List.mapM_cons]
    cases hparse : Glob.Pattern.parse glob with
    | error fault =>
      have hfirst : Glob.Pattern.ofText role glob = .error (.invalidGlob role glob fault) := by
        rw [Glob.Pattern.ofText, hparse]
      rw [hfirst]
      exact ⟨glob, fault, ⟨[], rest, rfl, by simp, hparse⟩, rfl⟩
    | ok pattern =>
      rw [Glob.Pattern.ofText_of_parse hparse]
      cases hrest : rest.mapM (Glob.Pattern.ofText role) with
      | ok patterns =>
        rw [hrest] at ih
        exact .cons hparse ih
      | error e =>
        rw [hrest] at ih
        obtain ⟨other, fault, ⟨front, behind, rfl, hfront, hfault⟩, rfl⟩ := ih
        refine ⟨other, fault, ⟨glob :: front, behind, rfl, ?_, hfault⟩, rfl⟩
        exact List.forall_mem_cons.mpr ⟨⟨pattern, hparse⟩, hfront⟩

theorem checks_mapM {role : GlobRole} {globs : List String} {need : Need}
    (hmet : need.Met c ↔ ∀ glob ∈ globs, Glob.Valid glob)
    (hrefuses : ∀ {glob fault}, FirstInvalid globs glob fault →
      need.Refuses c (.invalidGlob role glob fault)) :
    Checks c [need] (globs.mapM (Glob.Pattern.ofText role)) := by
  have h := mapM_ofText role globs
  cases hm : globs.mapM (Glob.Pattern.ofText role) with
  | ok patterns =>
    rw [hm] at h
    exact Checks.cons (hmet.mpr (valid_of_parsed h)) (.done patterns)
  | error e =>
    rw [hm] at h
    obtain ⟨glob, fault, hfirst, rfl⟩ := h
    exact Checks.fails (fun hm => hfirst.not_valid (hmet.mp hm)) (hrefuses hfirst)

/-- Looking at globs one after another is like making a list of their patterns. -/
theorem forIn_ofText (role : GlobRole) (globs : List String) :
    (forIn globs PUnit.unit fun glob _ => do
      let _ ← Glob.Pattern.ofText role glob
      pure (ForInStep.yield PUnit.unit) : Except Error PUnit) =
      globs.mapM (Glob.Pattern.ofText role) >>= fun _ => pure PUnit.unit := by
  induction globs with
  | nil => rfl
  | cons glob rest ih =>
    rw [List.forIn_cons, List.mapM_cons]
    cases Glob.Pattern.ofText role glob with
    | error e => rfl
    | ok pattern =>
      refine Eq.trans ih ?_
      cases rest.mapM (Glob.Pattern.ofText role) <;> rfl

theorem new_eq (includes excludes : List String) : Finder.new includes excludes =
    if includes.isEmpty then .error (.config .emptyInclude)
    else includes.mapM (Glob.Pattern.ofText .including) >>= fun _ =>
      excludes.mapM (Glob.Pattern.ofText .excluding) >>= fun excluded =>
      pure { included := includes, excluded } := by
  unfold Finder.new
  split_ifs
  · rfl
  · show (forIn includes PUnit.unit _ >>= fun _ => _) = _
    rw [forIn_ofText]
    cases includes.mapM (Glob.Pattern.ofText .including) <;> rfl

theorem checks_finder (c : Config) :
    Checks c [.included, .includedValid, .excludedValid] (Finder.new c.included c.excluded) := by
  have hincluded : Checks c [.includedValid]
      (c.included.mapM (Glob.Pattern.ofText .including)) := checks_mapM Iff.rfl .includedValid
  have hexcluded : Checks c [.excludedValid]
      (c.excluded.mapM (Glob.Pattern.ofText .excluding)) := checks_mapM Iff.rfl .excludedValid
  rw [new_eq]
  apply Checks.guard (by simp [Met]) .included
  exact hincluded.bind fun _ _ => hexcluded.last _

/-! ### Encoding and patterns -/

theorem checks_encoding (c : Config) : Checks c [.encoding] (Encoding.named c.encoding) := by
  unfold Encoding.named
  split
  · next e he =>
    have hmet : Need.encoding.Met c := ⟨e, he⟩
    exact Checks.cons hmet (.done e)
  · next hnone => exact Checks.fails (by simp [Met, hnone]) .encoding

/-- A pattern that is the only one for the boundaries of entries. -/
theorem checks_boundary {m : Multiline} {pattern : String} (hm : c.multiline = some m)
    (hone : m.startPattern = none ∨ m.endPattern = none)
    (hset : m.startPattern = some pattern ∨ m.endPattern = some pattern) (entries : Matcher → Framing) :
    Checks c [.onePattern, .entryPattern] ((Framing.matcher pattern).map entries) := by
  have hbounds : Bounds c pattern := ⟨m, hm, hset⟩
  have hmet : Need.onePattern.Met c := by
    rintro m' hm'
    obtain rfl := Option.some.inj (hm.symm.trans hm')
    exact hone
  have honly : ∀ other, Bounds c other → other = pattern := by
    rintro other ⟨m', hm', hother⟩
    obtain rfl := Option.some.inj (hm.symm.trans hm')
    rcases hone with hnone | hnone <;> simp_all
  apply Checks.cons hmet
  cases hr : compileEntry pattern with
  | ok r =>
    have hmatcher : Framing.matcher pattern = .ok (.ofRegex r) := by
      rw [Framing.matcher, show Pattern.Regex.compile ⟨false, true⟩ false pattern = .ok r from hr]
    rw [hmatcher]
    have hpattern : Need.entryPattern.Met c := by
      intro other hother
      obtain rfl := honly other hother
      exact ⟨r, hr⟩
    exact Checks.cons hpattern (.done _)
  | error refusal =>
    have hmatcher : Framing.matcher pattern = .error (.regex .multiline refusal) := by
      rw [Framing.matcher, show Pattern.Regex.compile ⟨false, true⟩ false pattern = .error refusal from hr]
    rw [hmatcher]
    apply Checks.fails _ (.entryPattern hbounds hr)
    intro hall
    obtain ⟨r, hr'⟩ := hall pattern hbounds
    rw [hr] at hr'
    cases hr'

/-- Without a pattern there is nothing to be met. -/
theorem checks_lines (hnone : ∀ m, c.multiline = some m → m.startPattern = none ∧ m.endPattern = none)
    (rule : Framing) : Checks c [.onePattern, .entryPattern] (.ok rule : Except Error Framing) := by
  have hmet : Need.onePattern.Met c := fun m hm => .inl (hnone m hm).1
  refine Checks.cons hmet (Checks.cons ?_ (.done rule))
  rintro pattern ⟨m, hm, hset⟩
  simp [hnone m hm] at hset

theorem checks_framing (c : Config) (e : Encoding) :
    Checks c [.onePattern, .entryPattern] (c.framing e) := by
  unfold Config.framing
  split
  · next hnone => exact checks_lines (by simp [hnone]) e.lines
  · next startPattern endPattern hm =>
    split
    · apply Checks.fails _ .onePattern
      intro hone
      simpa using hone _ hm
    · exact checks_boundary hm (.inr rfl) (.inl rfl) .entryStart
    · exact checks_boundary hm (.inl rfl) (.inr rfl) .entryEnd
    · exact checks_lines (by simp [hm]) e.lines

/-- The names of the groups are compared in order. -/
theorem mergeSort_eq_groupNames_iff (names : List String) :
    names.mergeSort = HeaderRule.groupNames ↔ names.Perm ["key", "value"] := by
  have hperm : names.mergeSort.Perm names := names.mergeSort_perm _
  constructor
  · intro h
    exact hperm.symm.trans (.of_eq h)
  · intro h
    have hle : "key" ≤ "value" := by decide +kernel
    have hsorted : HeaderRule.groupNames.Pairwise fun a b => decide (a ≤ b) = true := by
      simp [HeaderRule.groupNames, hle]
    refine (hperm.trans h).eq_of_pairwise ?_ (FileSystem.pairwise_mergeSort_le names) hsorted
    intro a b _ _ hab hba
    exact String.le_antisymm (of_decide_eq_true hab) (of_decide_eq_true hba)

theorem checks_header (c : Config) : Checks c [.headerPattern, .headerGroups] c.header := by
  unfold Config.header
  split
  · next hnone =>
    have hpattern : Need.headerPattern.Met c := by simp [Met, hnone]
    have hgroups : Need.headerGroups.Met c := by simp [Met, hnone]
    exact Checks.cons hpattern (Checks.cons hgroups (.done _))
  · next pattern hset =>
    have honly : ∀ other, c.attributeRegex = some other → other = pattern :=
      fun other hother => Option.some.inj (hother.symm.trans hset)
    unfold HeaderRule.ofPattern HeaderRule.compile
    cases hr : compileHeader pattern with
    | error refusal =>
      rw [show Pattern.Regex.compile ⟨true, false⟩ true pattern = .error refusal from hr]
      refine Checks.fails (fun hall => ?_) (.headerPattern hset hr)
      obtain ⟨r, hr'⟩ := hall pattern hset
      rw [hr] at hr'
      cases hr'
    | ok r =>
      rw [show Pattern.Regex.compile ⟨true, false⟩ true pattern = .ok r from hr]
      have hpattern : Need.headerPattern.Met c := by
        intro other hother
        obtain rfl := honly other hother
        exact ⟨r, hr⟩
      have hgroups : Need.headerGroups.Met c ↔ r.groupNames.mergeSort = HeaderRule.groupNames := by
        rw [mergeSort_eq_groupNames_iff]
        constructor
        · intro h
          exact h pattern r hset hr
        · rintro h other r' hother hr'
          obtain rfl := honly other hother
          obtain rfl := Except.ok.inj (hr.symm.trans hr')
          exact h
      apply Checks.cons hpattern
      by_cases hnames : r.groupNames.mergeSort = HeaderRule.groupNames
      · simp only [hnames, if_true]
        exact Checks.cons (hgroups.mpr hnames) (.done _)
      · simp only [hnames, if_false]
        exact Checks.fails (fun h => hnames (hgroups.mp h)) (.headerGroups hset hr)

/-- Building checks all needs, in their order. -/
theorem checks_build (c : Config) : Checks c Need.all c.build := by
  have hparts : Need.all =
      [Need.id, Need.pollInterval, Need.fingerprintSize, Need.maxLogSize, Need.maxConcurrentFiles,
        Need.unreadKept] ++
      ([Need.included, Need.includedValid, Need.excludedValid] ++ ([Need.encoding] ++
      ([Need.onePattern, Need.entryPattern] ++ [Need.headerPattern, Need.headerGroups]))) := rfl
  rw [hparts]
  apply Checks.bind (checks_check c)
  intro _ _
  apply Checks.bind (checks_finder c)
  intro finder _
  apply Checks.bind (checks_encoding c)
  intro encoding _
  apply Checks.bind (checks_framing c encoding)
  intro framing _
  exact Checks.last (checks_header c) _

/-- A configuration gets settings just if it meets all needs. -/
theorem build_eq_ok_iff (c : Config) : (∃ s, c.build = .ok s) ↔ ∀ need : Need, need.Met c := by
  have hchecks := checks_build c
  constructor
  · rintro ⟨s, hs⟩ need
    rw [hs] at hchecks
    cases hchecks with
    | met _ hall => exact hall need need.mem_all
  · intro hall
    cases hb : c.build with
    | ok s => exact ⟨s, rfl⟩
    | error e =>
      rw [hb] at hchecks
      cases hchecks with
      | unmet hfirst =>
        obtain ⟨-, need, -, -, -, hunmet, -⟩ := hfirst
        exact absurd (hall need) hunmet

theorem firstUnmet_of_build {e : Error} (h : c.build = .error e) : FirstUnmet c Need.all e := by
  have hchecks := checks_build c
  rw [h] at hchecks
  cases hchecks with
  | unmet hfirst => exact hfirst

end LogFollow
