import LogFollow.CommandLine.Arguments
import LogFollow.Proofs.Config.Needs
import LogFollow.Proofs.Config.Overrides

/-!
# Configurations that run

The configuration of the program is that of a file, or the one of defaults, with what the arguments give above
it. If it meets all needs it gets settings, and the settings are those that it asks for and have everything that
a run relies on.
-/
namespace LogFollow

open Need

variable {c : Config}

/-- The framing rule that a configuration asks for, in an encoding: its lines, where no pattern is set, and else
the entries of the pattern that is. -/
inductive FramedBy (c : Config) (e : Encoding) : Framing → Prop
  | lines : (∀ pattern, ¬ Bounds c pattern) → FramedBy c e e.lines
  | entryStart {pattern : String} {r : Pattern.Regex} : c.multiline = some ⟨some pattern, none⟩ →
      compileEntry pattern = .ok r → FramedBy c e (.entryStart (.ofRegex r))
  | entryEnd {pattern : String} {r : Pattern.Regex} : c.multiline = some ⟨none, some pattern⟩ →
      compileEntry pattern = .ok r → FramedBy c e (.entryEnd (.ofRegex r))

/-- The header rule that a configuration asks for. -/
inductive HeadedBy (c : Config) : Option HeaderRule → Prop
  | none : c.attributeRegex = none → HeadedBy c none
  | some {pattern : String} {r : Pattern.Regex} : c.attributeRegex = some pattern →
      compileHeader pattern = .ok r → HeadedBy c (some (.ofRegex r))

/-- The settings are those of the configuration, and have what a run relies on: there is something to wait for
between polls, each file has a fingerprint, entries have room, some file can be read, a newline is a code unit,
and the matches of a pattern lie in the bytes that are searched. -/
structure Ready (c : Config) (s : Settings) : Prop where
  id : s.id = c.id ∧ s.id ≠ ""
  pollInterval : s.pollInterval = c.pollInterval ∧ 0 < s.pollInterval.nanoseconds
  startAt : s.startAt = c.startAt
  fingerprintSize : s.fingerprintSize = c.fingerprintSize ∧ 16 ≤ s.fingerprintSize
  maxLogSize : s.maxLogSize = c.maxLogSize ∧ 0 < s.maxLogSize
  maxConcurrentFiles : s.maxConcurrentFiles = c.maxConcurrentFiles ∧ 0 < s.maxConcurrentFiles
  deleteAfterRead : s.deleteAfterRead = c.deleteAfterRead ∧
    (s.deleteAfterRead = true → s.startAt = .beginning)
  fileAttributes : s.fileAttributes =
    ⟨c.includeFileName, c.includeFilePath, c.includeFileNameResolved, c.includeFilePathResolved⟩
  included : s.finder.included = c.included ∧ s.finder.included ≠ [] ∧
    ∀ glob ∈ s.finder.included, Glob.Valid glob
  excluded : Parsed c.excluded s.finder.excluded
  encoding : Encoding.lookup? c.encoding = some s.encoding
  framing : FramedBy c s.encoding s.framing
  newline : ∀ nl cr width, s.framing = .newline nl cr width →
    0 < width ∧ nl.length = width ∧ cr.length = width ∧ nl ≠ cr
  lawful : ∀ m, s.framing = .entryStart m ∨ s.framing = .entryEnd m → m.Lawful
  header : HeadedBy c s.header

/-- Where the finder of a configuration has its globs from. -/
theorem finder_of_new {includes excludes : List String} {finder : Finder}
    (h : Finder.new includes excludes = .ok finder) :
    finder.included = includes ∧ Parsed excludes finder.excluded := by
  rw [new_eq] at h
  split at h
  · cases h
  · obtain ⟨_, -, h⟩ := bind_ok_iff.mp h
    obtain ⟨excluded, hexcluded, h⟩ := bind_ok_iff.mp h
    have hparsed := mapM_ofText .excluding excludes
    rw [hexcluded] at hparsed
    cases h
    exact ⟨rfl, hparsed⟩

theorem lookup?_of_named {name : String} {e : Encoding} (h : Encoding.named name = .ok e) :
    Encoding.lookup? name = some e := by
  unfold Encoding.named at h
  split at h
  · next found hfound => rw [hfound, Except.ok.inj h]
  · cases h

/-- The compiled pattern behind a rule for entries. -/
theorem exists_of_map_matcher {pattern : String} {entries : Matcher → Framing} {rule : Framing}
    (h : (Framing.matcher pattern).map entries = .ok rule) :
    ∃ r, compileEntry pattern = .ok r ∧ rule = entries (.ofRegex r) := by
  unfold Framing.matcher at h
  split at h
  · next r hr => exact ⟨r, hr, (Except.ok.inj h).symm⟩
  · cases h

theorem framedBy_of_framing {e : Encoding} {rule : Framing} (h : c.framing e = .ok rule) :
    FramedBy c e rule := by
  unfold Config.framing at h
  split at h
  · next hnone =>
    obtain rfl := Except.ok.inj h
    exact .lines (by simp [Bounds, hnone])
  · next startPattern endPattern hm =>
    split at h
    · cases h
    · obtain ⟨r, hr, rfl⟩ := exists_of_map_matcher h
      exact .entryStart hm hr
    · obtain ⟨r, hr, rfl⟩ := exists_of_map_matcher h
      exact .entryEnd hm hr
    · obtain rfl := Except.ok.inj h
      exact .lines (by simp [Bounds, hm])

theorem headedBy_of_header {header : Option HeaderRule} (h : c.header = .ok header) :
    HeadedBy c header := by
  unfold Config.header at h
  split at h
  · next hnone =>
    obtain rfl := Except.ok.inj h
    exact .none hnone
  · next pattern hset =>
    unfold HeaderRule.ofPattern HeaderRule.compile at h
    cases hr : compileHeader pattern with
    | error refusal =>
      rw [show Pattern.Regex.compile ⟨true, false⟩ true pattern = .error refusal from hr] at h
      cases h
    | ok r =>
      rw [show Pattern.Regex.compile ⟨true, false⟩ true pattern = .ok r from hr] at h
      by_cases hnames : r.groupNames.mergeSort = HeaderRule.groupNames
      · simp only [hnames, if_true] at h
        obtain rfl := Except.ok.inj h
        exact .some hset hr
      · simp only [hnames, if_false] at h
        cases h

theorem FramedBy.newline {e : Encoding} {rule : Framing} (h : FramedBy c e rule) {nl cr : Bytes}
    {width : Nat} (hrule : rule = .newline nl cr width) :
    0 < width ∧ nl.length = width ∧ cr.length = width ∧ nl ≠ cr := by
  cases h with
  | entryStart => cases hrule
  | entryEnd => cases hrule
  | lines =>
    cases hrule
    refine ⟨e.codeUnit_pos, e.length_ascii _, e.length_ascii _, ?_⟩
    unfold Encoding.ascii
    split <;> decide

theorem FramedBy.lawful {e : Encoding} {rule : Framing} (h : FramedBy c e rule) {m : Matcher}
    (hrule : rule = .entryStart m ∨ rule = .entryEnd m) : m.Lawful := by
  cases h with
  | lines => rcases hrule with hrule | hrule <;> cases hrule
  | entryStart =>
    rcases hrule with hrule | hrule
    · cases hrule
      apply Matcher.lawful_ofRegex
    · cases hrule
  | entryEnd =>
    rcases hrule with hrule | hrule
    · cases hrule
    · cases hrule
      apply Matcher.lawful_ofRegex

theorem ready_of_build {s : Settings} (h : c.build = .ok s) : Ready c s := by
  have hmet : ∀ need : Need, need.Met c := (build_eq_ok_iff c).mp ⟨s, h⟩
  unfold Config.build at h
  obtain ⟨_, -, h⟩ := bind_ok_iff.mp h
  obtain ⟨finder, hfinder, h⟩ := bind_ok_iff.mp h
  obtain ⟨encoding, hencoding, h⟩ := bind_ok_iff.mp h
  obtain ⟨framing, hframing, h⟩ := bind_ok_iff.mp h
  obtain ⟨header, hheader, h⟩ := bind_ok_iff.mp h
  obtain ⟨hincluded, hexcluded⟩ := finder_of_new hfinder
  have hframed := framedBy_of_framing hframing
  cases h
  exact {
    id := ⟨rfl, hmet .id⟩
    pollInterval := ⟨rfl, Nat.pos_of_ne_zero (hmet .pollInterval)⟩
    startAt := rfl
    fingerprintSize := ⟨rfl, hmet .fingerprintSize⟩
    maxLogSize := ⟨rfl, hmet .maxLogSize⟩
    maxConcurrentFiles := ⟨rfl, hmet .maxConcurrentFiles⟩
    deleteAfterRead := by
      refine ⟨rfl, fun hdelete => ?_⟩
      have hkept : ¬ (c.deleteAfterRead = true ∧ c.startAt = .atEnd) := hmet .unreadKept
      show c.startAt = .beginning
      cases hstart : c.startAt with
      | beginning => rfl
      | atEnd => exact absurd ⟨hdelete, hstart⟩ hkept
    fileAttributes := rfl
    included := by
      show finder.included = c.included ∧ finder.included ≠ [] ∧ ∀ glob ∈ finder.included, Glob.Valid glob
      rw [hincluded]
      exact ⟨rfl, hmet .included, hmet .includedValid⟩
    excluded := hexcluded
    encoding := lookup?_of_named hencoding
    framing := hframed
    newline := fun nl cr width => hframed.newline
    lawful := fun m => hframed.lawful
    header := headedBy_of_header hheader }

/-- **A layered configuration is accepted just if it can run.** The configuration of the program is that of the
file, or the one of defaults without a file, with just the fields replaced that the arguments give. Any
configuration gets settings just if it meets all needs, and is otherwise refused with the error of the first
need, in their order, that it does not meet. Settings have all that a run relies on. -/
theorem Arguments.config_runs_iff (a : Arguments) (fs : FileSystem) :
    a.baseConfig fs = (match a.configPath with
      | none => .ok { included := [] }
      | some path => Config.ofFile fs path) ∧
    (∀ c, a.config fs = .ok c ↔ ∃ base, a.baseConfig fs = .ok base ∧ a.overrides.Above base c) ∧
    ∀ c : Config, ((∃ s, c.build = .ok s) ↔ ∀ need : Need, need.Met c) ∧
      (∀ e, c.build = .error e → FirstUnmet c Need.all e) ∧
      ∀ s, c.build = .ok s → Ready c s := by
  refine ⟨?_, fun c => ?_, fun c => ⟨build_eq_ok_iff c, fun _ => firstUnmet_of_build,
    fun _ => ready_of_build⟩⟩
  · unfold Arguments.baseConfig
    cases a.configPath <;> rfl
  · unfold Arguments.config
    simp only [Overrides.above_iff]
    cases a.baseConfig fs with
    | error fault => simp [Except.map]
    | ok base => simp [Except.map, eq_comm]

/-- Files to be deleted are not read from their end on: with another start the configuration gets settings. -/
theorem Arguments.config_runs_iff_deleting :
    let base : Config := { included := ["*.log"], deleteAfterRead := true }
    let arguments : Arguments := { overrides := { included := ["*.log"], deleteAfterRead := true } }
    arguments.config FileSystem.empty = .ok base ∧
      FirstUnmet base Need.all (.config .deleteFromEnd) ∧
      ∃ s, { base with startAt := .beginning }.build = .ok s ∧
        Ready { base with startAt := .beginning } s := by
  intro base arguments
  obtain ⟨hbase, hconfig, hruns⟩ := arguments.config_runs_iff FileSystem.empty
  refine ⟨?_, ?_, ?_⟩
  · exact (hconfig base).mpr ⟨_, hbase, Overrides.above_apply arguments.overrides _⟩
  · exact (hruns base).2.1 _ rfl
  · obtain ⟨hok, -, hready⟩ := hruns { base with startAt := .beginning }
    obtain ⟨s, hs⟩ := hok.mpr fun need => by
      cases need
      case includedValid => simpa [Met, base] using ⟨_, rfl⟩
      case encoding => exact ⟨.charset .utf8, by decide +kernel⟩
      all_goals simp [Met, Bounds, base, Duration.ofMilliseconds]
    exact ⟨s, hs, hready s hs⟩

end LogFollow
