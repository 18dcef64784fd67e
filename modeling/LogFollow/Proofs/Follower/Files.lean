import LogFollow.Finder
import LogFollow.Proofs.FileSystem
import LogFollow.Proofs.Reader.File
import Mathlib.Logic.Function.Basic
import Mathlib.Logic.Relation

/-!
# Files and their history

A path is not a file: files are renamed, copied and replaced while they are followed. Here a file has an
identity of its own, which nothing in the file system shows. `Change` says what may happen to files
between two polls, `Evolves` what all such changes have in common, and `Shows` that a file system is in
the state that the history has come to.
-/
namespace LogFollow

/-- Which file stands at each path, and the content of each file that there ever was. A file that
stands at no path any more keeps the content that it had. -/
structure Files (ι : Type) where
  owner : String → Option ι
  content : ι → Option Bytes

namespace Files

variable {ι : Type}

/-- There are no files yet. -/
def nothing : Files ι := ⟨fun _ => none, fun _ => none⟩

/-- A file stands at one path at most, and has a content. -/
structure Valid (files : Files ι) : Prop where
  injective : ∀ p q id, files.owner p = some id → files.owner q = some id → p = q
  known : ∀ p id, files.owner p = some id → files.content id ≠ none

theorem Valid.exists_content {files : Files ι} (h : files.Valid) {path : String} {id : ι}
    (ho : files.owner path = some id) : ∃ bytes, files.content id = some bytes :=
  Option.ne_none_iff_exists'.mp (h.known path id ho)

theorem valid_nothing : (nothing : Files ι).Valid where
  injective _ _ _ h := nomatch h
  known _ _ h := nomatch h

variable [DecidableEq ι]

/-- What may happen to files. -/
inductive Change (files : Files ι) : Files ι → Prop
  /-- A new file is made at a path where none stands. -/
  | create (path : String) (id : ι) (bytes : Bytes) : files.owner path = none →
      files.content id = none →
      Change files ⟨Function.update files.owner path (some id),
        Function.update files.content id (some bytes)⟩
  /-- A file grows. -/
  | append (path : String) (id : ι) (bytes more : Bytes) : files.owner path = some id →
      files.content id = some bytes →
      Change files { files with content := Function.update files.content id (some (bytes ++ more)) }
  /-- A file is moved to another path. A file that stands there is lost. -/
  | rename (source target : String) (id : ι) : files.owner source = some id →
      source ≠ target →
      Change files { files with
        owner := Function.update (Function.update files.owner source none) target (some id) }
  /-- A file is copied to a path where none stands, and the original gets a new content. The copy goes
  on as the file that it was copied from; the original is a new file. -/
  | copyTruncate (source target : String) (id fresh : ι) (bytes : Bytes) :
      files.owner source = some id → files.owner target = none → files.content fresh = none →
      Change files ⟨Function.update (Function.update files.owner target (some id)) source
        (some fresh), Function.update files.content fresh (some bytes)⟩
  /-- A file is removed. -/
  | remove (path : String) : Change files { files with
      owner := Function.update files.owner path none }

/-- Any number of changes. -/
abbrev Changes : Files ι → Files ι → Prop := Relation.ReflTransGen Change

/-- No content loses anything but gets more behind it, if anything. -/
def Grows (before after : ι → Option Bytes) : Prop :=
  ∀ id bytes, before id = some bytes → ∃ more, after id = some (bytes ++ more)

omit [DecidableEq ι] in
theorem grows_refl (content : ι → Option Bytes) : Grows content content :=
  fun id bytes h => ⟨[], by rw [h, List.append_nil]⟩

omit [DecidableEq ι] in
theorem Grows.trans {content content' content'' : ι → Option Bytes} (h : Grows content content')
    (h' : Grows content' content'') : Grows content content'' := by
  intro id bytes hb
  obtain ⟨more, hm⟩ := h id bytes hb
  obtain ⟨more', hm'⟩ := h' id _ hm
  exact ⟨more ++ more', by rw [hm', List.append_assoc]⟩

omit [DecidableEq ι] in
/-- A file that there is not, there was not before. -/
theorem Grows.eq_none {content content' : ι → Option Bytes} (h : Grows content content') {id : ι}
    (hn : content' id = none) : content id = none := by
  cases hc : content id with
  | none => rfl
  | some bytes =>
    obtain ⟨more, hm⟩ := h id bytes hc
    rw [hn] at hm
    cases hm

theorem grows_update {content : ι → Option Bytes} {id : ι} {bytes : Bytes}
    (h : ∀ old, content id = some old → ∃ more, bytes = old ++ more) :
    Grows content (Function.update content id (some bytes)) := by
  intro id' old hold
  rw [Function.update_apply]
  split
  · next he =>
    obtain ⟨more, rfl⟩ := h old (he ▸ hold)
    exact ⟨more, rfl⟩
  · exact ⟨[], by rw [hold, List.append_nil]⟩

omit [DecidableEq ι] in
/-- What changes have in common: a file that there is grows, if anything, and one that has no path gets
none. -/
structure Evolves (before after : Files ι) : Prop where
  valid : after.Valid
  grows : Grows before.content after.content
  fresh : ∀ p id, after.owner p = some id →
    (∃ q, before.owner q = some id) ∨ before.content id = none

theorem Change.evolves {before after : Files ι} (h : Change before after) (hv : before.Valid) :
    Evolves before after := by
  obtain ⟨hinj, hknown⟩ := hv
  cases h with
  | create path id bytes hp hid =>
    refine ⟨⟨?_, ?_⟩, grows_update fun old hold => ?_, ?_⟩
    · grind [Function.update_apply]
    · grind [Function.update_apply]
    · rw [hid] at hold
      cases hold
    · grind [Function.update_apply]
  | append path id bytes more hp hid =>
    refine ⟨⟨hinj, ?_⟩, grows_update fun old hold => ⟨more, ?_⟩, fun p id h => .inl ⟨p, h⟩⟩
    · grind [Function.update_apply]
    · rw [hid] at hold
      rw [Option.some.inj hold]
  | rename source target id hs hne =>
    refine ⟨⟨?_, ?_⟩, grows_refl _, ?_⟩
    · grind [Function.update_apply]
    · grind [Function.update_apply]
    · grind [Function.update_apply]
  | copyTruncate source target id fresh bytes hs ht hf =>
    refine ⟨⟨?_, ?_⟩, grows_update fun old hold => ?_, ?_⟩
    · grind [Function.update_apply]
    · grind [Function.update_apply]
    · rw [hf] at hold
      cases hold
    · grind [Function.update_apply]
  | remove path =>
    refine ⟨⟨?_, ?_⟩, grows_refl _, ?_⟩
    · grind [Function.update_apply]
    · grind [Function.update_apply]
    · grind [Function.update_apply]

theorem Changes.evolves {before after : Files ι} (h : Changes before after) (hv : before.Valid) :
    Evolves before after := by
  induction h with
  | refl => exact ⟨hv, grows_refl _, fun p id hp => .inl ⟨p, hp⟩⟩
  | tail _ hc ih =>
    have hnext := hc.evolves ih.valid
    refine ⟨hnext.valid, ih.grows.trans hnext.grows, fun p id hp => ?_⟩
    rcases hnext.fresh p id hp with ⟨q, hq⟩ | hn
    · exact ih.fresh q id hq
    · exact .inr (ih.grows.eq_none hn)

omit [DecidableEq ι] in
/-- The file system is in the state that a history has come to: the paths that are found are those of
the files, a file can be opened at its path and has its content, and no file is left at a path that
there was one at before. -/
structure Shows (finder : Finder) (fs : FileSystem) (before files : Files ι) : Prop where
  found : ∀ path, path ∈ finder.find fs ↔ ∃ id, files.owner path = some id
  opens : ∀ path id bytes, files.owner path = some id → files.content id = some bytes →
    fs.openPath path = .ok (.file bytes)
  gone : ∀ path id, before.owner path = some id → files.owner path = none →
    ∀ bytes, fs.openPath path ≠ .ok (.file bytes)

omit [DecidableEq ι] in
/-- What is found is a file, which can be opened. -/
theorem Shows.of_mem_find {finder : Finder} {fs : FileSystem} {before files : Files ι}
    (h : Shows finder fs before files) (hv : files.Valid) {path : String}
    (hp : path ∈ finder.find fs) : ∃ id bytes, files.owner path = some id ∧
      files.content id = some bytes ∧ fs.openPath path = .ok (.file bytes) := by
  obtain ⟨id, ho⟩ := (h.found path).mp hp
  obtain ⟨bytes, hc⟩ := hv.exists_content ho
  exact ⟨id, bytes, ho, hc, h.opens path id bytes ho hc⟩

omit [DecidableEq ι] in
/-- Each file ends with a newline, and none of its lines is longer than `m` bytes. -/
def Fit (files : Files ι) (m : Nat) : Prop :=
  ∀ path id bytes, files.owner path = some id → files.content id = some bytes →
    Lines.Fits m bytes

end Files

/-! ## Two log files -/

/-- The log files in the home directory are wanted. -/
def Finder.logs : Finder := ⟨["*.log"], []⟩

/-- The home directory holds nodes under these names, and nothing else. -/
def FileSystem.ofHome (entries : List (String × Node)) : FileSystem where
  home := ["work"]
  nodes := (["work"], .directory) :: entries.map fun entry => (["work", entry.1], entry.2)

/-- The home directory holds two log files. -/
def FileSystem.twoLogs (a b : Bytes) : FileSystem where
  home := ["work"]
  nodes := [(["work"], .directory), (["work", "a.log"], .file a), (["work", "b.log"], .file b)]

namespace FileSystem

theorem resolve_twoLogs (a b : Bytes) :
    (twoLogs a b).resolve true "a.log" = .ok (["work", "a.log"], .file a) ∧
      (twoLogs a b).resolve true "b.log" = .ok (["work", "b.log"], .file b) :=
  ⟨resolve_name isName_logs.1 rfl rfl true, resolve_name isName_logs.2 rfl rfl true⟩

theorem openPath_twoLogs (a b : Bytes) :
    (twoLogs a b).openPath "a.log" = .ok (.file a) ∧
      (twoLogs a b).openPath "b.log" = .ok (.file b) := by
  obtain ⟨ha, hb⟩ := resolve_twoLogs a b
  rw [openPath, openPath, ha, hb]
  exact ⟨rfl, rfl⟩

end FileSystem

namespace Glob

/-- What the component `*.log` stands for. -/
def Pattern.logs : Pattern := ⟨"*.log", [.anyText, .char '.', .char 'l', .char 'o', .char 'g']⟩

theorem Walk.visit_logs (fs : FileSystem) (name : String)
    (hn : FilePath.fileName? name = some name) (hm : Pattern.logs.isMatch name = true) :
    visit fs false FileSystem.pathLimit ⟨name, some [.logs]⟩ = [name] := by
  change (if ((FilePath.fileName? name).map Pattern.logs.isMatch).getD false then [name]
    else []) = _
  rw [hn, Option.map_some, Option.getD_some, hm]
  rfl

/-- A name in the home directory that is the name of a log file. -/
structure IsLog (name : String) : Prop where
  fileName : FilePath.fileName? name = some name
  isMatch : Pattern.logs.isMatch name = true
  child : Walk.child "." name = name

theorem isLog_logs : IsLog "a.log" ∧ IsLog "b.log" := by
  constructor
  · exact ⟨by decide +kernel, by decide +kernel, by decide +kernel⟩
  · exact ⟨by decide +kernel, by decide +kernel, by decide +kernel⟩

theorem paths_ofHome (entries : List (String × Node))
    (hsorted : (entries.map Prod.fst).Pairwise fun a b => decide (a ≤ b) = true)
    (hlogs : ∀ entry ∈ entries, IsLog entry.1) :
    paths (.ofHome entries) "*.log" = entries.map Prod.fst := by
  have hstart : Walk.start "*.log" = (".", "*.log".toList) := by decide +kernel
  have hslash : FilePath.endsWithSlash "*.log" = false := by decide +kernel
  have hparse : (Walk.componentTexts "*.log".toList).mapM Pattern.parse = .ok [.logs] := by rfl
  have hbelow : Walk.below (.ofHome entries) "." [.logs] =
      entries.map fun entry => ⟨entry.1, some [.logs]⟩ := by
    have hdot : (FileSystem.ofHome entries).resolve true "." = .ok (["work"], .directory) :=
      FileSystem.resolve_dot rfl
    have hdir : (FileSystem.ofHome entries).isDirectory "." = true := by
      rw [FileSystem.isDirectory, hdot]
    have hnames : (FileSystem.ofHome entries).names "." = entries.map Prod.fst := by
      have hlist : (FileSystem.ofHome entries).nodes.filterMap (fun entry =>
          if entry.1.dropLast = ["work"] then entry.1.getLast? else none) = entries.map Prod.fst := by
        show ((["work"], Node.directory) :: entries.map fun entry =>
          (["work", entry.1], entry.2)).filterMap _ = _
        rw [List.filterMap_cons_none (by decide), List.filterMap_map]
        exact congrFun List.filterMap_eq_map entries
      rw [FileSystem.names, hdot]
      simp only [hlist]
      exact List.mergeSort_of_pairwise hsorted
    change (if (FileSystem.ofHome entries).isDirectory "." then
      ((FileSystem.ofHome entries).names ".").map fun name =>
        (⟨Walk.child "." name, some [.logs]⟩ : Pending)
      else []) = _
    rw [hdir, hnames, if_pos rfl, List.map_map]
    apply List.map_congr_left
    intro entry hentry
    simp only [Function.comp, (hlogs entry hentry).child]
  rw [paths, hstart]
  simp only [hparse]
  rw [hbelow, hslash, List.flatMap_map, List.map_eq_flatMap]
  apply List.flatMap_congr
  intro entry hentry
  exact Walk.visit_logs _ _ (hlogs entry hentry).fileName (hlogs entry hentry).isMatch

theorem paths_twoLogs (a b : Bytes) : paths (.twoLogs a b) "*.log" = ["a.log", "b.log"] := by
  apply paths_ofHome [("a.log", .file a), ("b.log", .file b)]
  · exact (by decide : ["a.log", "b.log"].Pairwise fun a b => decide (a ≤ b) = true)
  · simp [isLog_logs]

end Glob

theorem Finder.find_twoLogs (a b : Bytes) :
    logs.find (.twoLogs a b) = ["a.log", "b.log"] := by
  have hwants : logs.wants (.twoLogs a b) "a.log" = true ∧
      logs.wants (.twoLogs a b) "b.log" = true := by
    obtain ⟨ha, hb⟩ := FileSystem.resolve_twoLogs a b
    rw [wants, wants, FileSystem.isDirectory, FileSystem.isDirectory, ha, hb]
    exact ⟨rfl, rfl⟩
  have hfirst : firstSpellings ["work"] [] ["a.log", "b.log"] = ["a.log", "b.log"] := by
    decide +kernel
  rw [find]
  change firstSpellings ["work"] [] ((Glob.paths (.twoLogs a b) "*.log" ++ []).filter _) = _
  rw [Glob.paths_twoLogs, List.append_nil, List.filter_cons_of_pos hwants.1,
    List.filter_cons_of_pos hwants.2]
  exact hfirst

theorem Files.shows_twoLogs {ι : Type} {before files : Files ι} {a b : Bytes} {i j : ι}
    (howner : ∀ path id, files.owner path = some id ↔
      path = "a.log" ∧ id = i ∨ path = "b.log" ∧ id = j)
    (ha : files.content i = some a) (hb : files.content j = some b)
    (hbefore : ∀ path id, before.owner path = some id → path = "a.log" ∨ path = "b.log") :
    Shows .logs (.twoLogs a b) before files := by
  refine ⟨fun path => ?_, fun path id bytes ho hc => ?_, fun path id ho hn => ?_⟩
  · rw [Finder.find_twoLogs]
    simp only [howner, List.mem_cons, List.not_mem_nil, or_false]
    grind
  · obtain ⟨hra, hrb⟩ := FileSystem.resolve_twoLogs a b
    rcases (howner path id).mp ho with ⟨rfl, rfl⟩ | ⟨rfl, rfl⟩
    · rw [hc] at ha
      rw [FileSystem.openPath, hra, Option.some.inj ha]
      rfl
    · rw [hc] at hb
      rw [FileSystem.openPath, hrb, Option.some.inj hb]
      rfl
  · exfalso
    rcases hbefore path id ho with rfl | rfl
    · rw [(howner _ i).mpr (.inl ⟨rfl, rfl⟩)] at hn
      cases hn
    · rw [(howner _ j).mpr (.inr ⟨rfl, rfl⟩)] at hn
      cases hn

theorem Files.fit_twoLogs {ι : Type} {files : Files ι} {a b : Bytes} {i j : ι} {m : Nat}
    (howner : ∀ path id, files.owner path = some id ↔
      path = "a.log" ∧ id = i ∨ path = "b.log" ∧ id = j)
    (ha : files.content i = some a) (hb : files.content j = some b) (hfa : Lines.Fits m a)
    (hfb : Lines.Fits m b) : files.Fit m := by
  intro path id bytes ho hc
  rcases (howner path id).mp ho with ⟨-, rfl⟩ | ⟨-, rfl⟩
  · rw [hc] at ha
    rwa [Option.some.inj ha]
  · rw [hc] at hb
    rwa [Option.some.inj hb]

end LogFollow
