import LogFollow.Proofs.Finder

/-!
# Which files a finder lists

The include globs enumerate paths, one glob after another. Those are listed that are wanted: they are no
directories, and no exclude glob matches them as they are spelled. Of the wanted spellings of one path only
the first is listed. Since what is not wanted takes no place, a path is listed under its next spelling when
its first one is excluded.
-/
namespace LogFollow

namespace Glob

/-- The text of a glob is a pattern. -/
def Valid (glob : String) : Prop := ∃ pattern, Pattern.parse glob = .ok pattern

/-- Whether the pattern of a glob matches the whole of a path, as it is spelled. -/
def covers (glob path : String) : Bool :=
  match Pattern.parse glob with
  | .ok pattern => pattern.isMatch path
  | .error _ => false

/-- A glob that is a single name stands for itself. -/
theorem paths_of_literal {fs : FileSystem} {glob top : String} {chars : List Char} {p : Pattern}
    (hstart : Walk.start glob = (top, chars))
    (hparse : (Walk.componentTexts chars).mapM Pattern.parse = .ok [p])
    (hliteral : p.isLiteral = true) (hdots : p.text ∉ Walk.dots)
    (hchild : Walk.child top p.text = glob) (hslash : FilePath.endsWithSlash glob = false)
    (hpresent : fs.present glob = true) : paths fs glob = [glob] := by
  have hbelow : Walk.below fs top [p] = [⟨glob, none⟩] := by
    simp [Walk.below, hliteral, hdots, hchild, hpresent]
  rw [paths, hstart]
  simp only [hparse, hbelow, hslash, List.flatMap_singleton]
  rfl

theorem Pattern.ofText_of_parse {role : GlobRole} {glob : String} {pattern : Pattern}
    (h : Pattern.parse glob = .ok pattern) : Pattern.ofText role glob = .ok pattern := by
  rw [ofText, h]

end Glob

namespace Finder

open FilePath (absolute)

/-! ## What is to be listed -/

/-- The paths that the globs enumerate, in order, however often. -/
def enumeration (fs : FileSystem) (includes : List String) : List String :=
  includes.flatMap (Glob.paths fs)

/-- A path is no directory and is not excluded. -/
def Wanted (fs : FileSystem) (excludes : List String) (path : String) : Prop :=
  fs.isDirectory path = false ∧ ∀ glob ∈ excludes, Glob.covers glob path = false

instance (fs : FileSystem) (excludes : List String) : DecidablePred (Wanted fs excludes) :=
  fun path => inferInstanceAs
    (Decidable (fs.isDirectory path = false ∧ ∀ glob ∈ excludes, Glob.covers glob path = false))

/-- An entry is a path and its index among the paths. It is the first of its kind if its path is wanted,
and no wanted path before it has the same absolute form. -/
def IsFirst (home : Place) (wanted : String → Prop) (paths : List String) (entry : String × Nat) :
    Prop :=
  wanted entry.1 ∧
    ∀ other ∈ paths.take entry.2, wanted other → absolute home other ≠ absolute home entry.1

instance (home : Place) (wanted : String → Prop) [DecidablePred wanted] (paths : List String) :
    DecidablePred (IsFirst home wanted paths) :=
  fun entry => inferInstanceAs (Decidable (wanted entry.1 ∧
    ∀ other ∈ paths.take entry.2, wanted other → absolute home other ≠ absolute home entry.1))

/-- The first entries, in order. -/
def firsts (home : Place) (wanted : String → Prop) [DecidablePred wanted] (paths : List String) :
    List String :=
  (paths.zipIdx.filter (IsFirst home wanted paths)).map Prod.fst

/-! ## The first spellings -/

variable {home : Place} {seen : List Place} {paths : List String}

/-- What is listed of further paths depends on those before only through what was seen of them. -/
theorem firstSpellings_append (home : Place) (seen : List Place) (front back : List String) :
    ∃ seen', (∀ place, place ∈ seen' ↔ place ∈ seen ∨ place ∈ front.map (absolute home)) ∧
      firstSpellings home seen (front ++ back) =
        firstSpellings home seen front ++ firstSpellings home seen' back := by
  induction front generalizing seen with
  | nil => exact ⟨seen, fun place => (or_iff_left List.not_mem_nil).symm, rfl⟩
  | cons path rest ih =>
    rw [List.cons_append, firstSpellings_cons, firstSpellings_cons]
    by_cases hseen : absolute home path ∈ seen
    · rw [if_pos (List.contains_iff_mem.mpr hseen), if_pos (List.contains_iff_mem.mpr hseen)]
      obtain ⟨seen', hmem, hrest⟩ := ih seen
      refine ⟨seen', fun place => ?_, hrest⟩
      have hknown : place ∈ seen ∨ place = absolute home path ↔ place ∈ seen :=
        or_iff_left_of_imp fun he => he ▸ hseen
      rw [hmem, List.map_cons, List.mem_cons, ← or_assoc, hknown]
    · rw [if_neg (mt List.contains_iff_mem.mp hseen), if_neg (mt List.contains_iff_mem.mp hseen)]
      obtain ⟨seen', hmem, hrest⟩ := ih (absolute home path :: seen)
      refine ⟨seen', fun place => ?_, ?_⟩
      · rw [hmem, List.map_cons, List.mem_cons, List.mem_cons, or_assoc, or_left_comm]
      · rw [hrest, List.cons_append]

theorem firstSpellings_eq_nil (h : ∀ path ∈ paths, absolute home path ∈ seen) :
    firstSpellings home seen paths = [] := by
  induction paths with
  | nil => rfl
  | cons path rest ih =>
    obtain ⟨hpath, hrest⟩ := List.forall_mem_cons.mp h
    rw [firstSpellings_cons, if_pos (List.contains_iff_mem.mpr hpath), ih hrest]

theorem firstSpellings_sublist (home : Place) (seen : List Place) (paths : List String) :
    (firstSpellings home seen paths).Sublist paths := by
  induction paths generalizing seen with
  | nil => exact .slnil
  | cons path rest ih =>
    rw [firstSpellings_cons]
    split
    · exact (ih seen).cons path
    · exact (ih _).cons_cons path

/-- Each path is listed in some spelling, unless it was seen before. -/
theorem exists_firstSpelling {path : String} (h : path ∈ paths) (hseen : absolute home path ∉ seen) :
    ∃ listed ∈ firstSpellings home seen paths, absolute home listed = absolute home path := by
  induction paths generalizing seen with
  | nil => cases h
  | cons other rest ih =>
    rw [firstSpellings_cons]
    by_cases hother : absolute home other ∈ seen
    · rw [if_pos (List.contains_iff_mem.mpr hother)]
      refine ih ((List.mem_cons.mp h).resolve_left ?_) hseen
      rintro rfl
      exact hseen hother
    · rw [if_neg (mt List.contains_iff_mem.mp hother)]
      by_cases hsame : absolute home other = absolute home path
      · exact ⟨other, List.mem_cons_self, hsame⟩
      · have hrest : path ∈ rest := (List.mem_cons.mp h).resolve_left fun he => hsame (he ▸ rfl)
        have hunseen : absolute home path ∉ absolute home other :: seen := by
          rw [List.mem_cons, not_or]
          exact ⟨fun he => hsame he.symm, hseen⟩
        obtain ⟨listed, hlisted, habsolute⟩ := ih hrest hunseen
        exact ⟨listed, List.mem_cons_of_mem other hlisted, habsolute⟩

/-- A path behind others is first just if it is wanted and none of them that is wanted is the same. -/
theorem firsts_concat (home : Place) (wanted : String → Prop) [DecidablePred wanted]
    (paths : List String) (path : String) :
    firsts home wanted (paths ++ [path]) = firsts home wanted paths ++
      if IsFirst home wanted paths (path, paths.length) then [path] else [] := by
  have htake : ∀ i ≤ paths.length, (paths ++ [path]).take i = paths.take i :=
    fun i hi => List.take_append_of_le_length hi
  have hfront : paths.zipIdx.filter (IsFirst home wanted (paths ++ [path])) =
      paths.zipIdx.filter (IsFirst home wanted paths) := by
    refine List.filter_congr fun entry hentry => ?_
    have hlt := List.snd_lt_of_mem_zipIdx hentry
    refine decide_eq_decide.mpr ?_
    rw [IsFirst, IsFirst, htake entry.2 (by omega)]
  have hlast : IsFirst home wanted (paths ++ [path]) (path, paths.length) ↔
      IsFirst home wanted paths (path, paths.length) := by
    rw [IsFirst, IsFirst, htake _ (Nat.le_refl _)]
  rw [firsts, List.zipIdx_append, List.filter_append, List.map_append, hfront, firsts, Nat.zero_add,
    List.zipIdx_singleton]
  refine congrArg _ ?_
  by_cases hfirst : IsFirst home wanted paths (path, paths.length)
  · simp [hlast.mpr hfirst, hfirst]
  · simp [mt hlast.mp hfirst, hfirst]

/-- **Listing the first spellings of the wanted paths is listing the first entries.** -/
theorem firstSpellings_eq_firsts (home : Place) (wanted : String → Prop) [DecidablePred wanted]
    (paths : List String) :
    firstSpellings home [] (paths.filter wanted) = firsts home wanted paths := by
  induction paths using List.reverseRecOn with
  | nil => rfl
  | append_singleton paths path ih =>
    obtain ⟨seen, hseen, happend⟩ := firstSpellings_append home [] (paths.filter wanted)
      ([path].filter wanted)
    rw [List.filter_append, happend, ih, firsts_concat]
    refine congrArg _ ?_
    have hnew : absolute home path ∉ seen ↔
        ∀ other ∈ paths, wanted other → absolute home other ≠ absolute home path := by
      rw [hseen, or_iff_right List.not_mem_nil, List.mem_map]
      simp only [List.mem_filter, decide_eq_true_eq, not_exists, not_and, and_imp]
    have hfirst : IsFirst home wanted paths (path, paths.length) ↔
        wanted path ∧ absolute home path ∉ seen := by
      rw [IsFirst, List.take_length, hnew]
    by_cases hwanted : wanted path
    · have hlast : [path].filter (wanted ·) = [path] := by simp [hwanted]
      rw [hlast, firstSpellings_cons]
      by_cases hknown : absolute home path ∈ seen
      · rw [if_pos (List.contains_iff_mem.mpr hknown), if_neg fun h => (hfirst.mp h).2 hknown]
        rfl
      · rw [if_neg (mt List.contains_iff_mem.mp hknown), if_pos (hfirst.mpr ⟨hwanted, hknown⟩)]
        rfl
    · have hlast : [path].filter (wanted ·) = [] := by simp [hwanted]
      rw [hlast, if_neg fun h => hwanted (hfirst.mp h).1]
      rfl

/-! ## What follows for the first entries -/

section

variable {wanted stricter : String → Prop} [DecidablePred wanted] [DecidablePred stricter]

theorem mem_of_mem_firsts {path : String} (h : path ∈ firsts home wanted paths) :
    path ∈ paths ∧ wanted path := by
  rw [← firstSpellings_eq_firsts] at h
  have hmem := (firstSpellings_sublist home [] _).subset h
  rwa [List.mem_filter, decide_eq_true_eq] at hmem

/-- Each wanted path is listed in some spelling. -/
theorem exists_first {path : String} (h : path ∈ paths) (hwanted : wanted path) :
    ∃ listed ∈ firsts home wanted paths, absolute home listed = absolute home path := by
  rw [← firstSpellings_eq_firsts]
  exact exists_firstSpelling (List.mem_filter.mpr ⟨h, decide_eq_true hwanted⟩) List.not_mem_nil

theorem firsts_prefix (home : Place) (wanted : String → Prop) [DecidablePred wanted]
    (front back : List String) : firsts home wanted front <+: firsts home wanted (front ++ back) := by
  rw [← firstSpellings_eq_firsts, ← firstSpellings_eq_firsts, List.filter_append]
  obtain ⟨seen, -, happend⟩ := firstSpellings_append home [] (front.filter wanted) (back.filter wanted)
  rw [happend]
  exact List.prefix_append _ _

/-- Paths that were there before add nothing. -/
theorem firsts_append_of_subset {front back : List String} (h : back ⊆ front) :
    firsts home wanted (front ++ back) = firsts home wanted front := by
  rw [← firstSpellings_eq_firsts, ← firstSpellings_eq_firsts, List.filter_append]
  obtain ⟨seen, hseen, happend⟩ :=
    firstSpellings_append home [] (front.filter wanted) (back.filter wanted)
  have hnone : firstSpellings home seen (back.filter wanted) = [] := by
    refine firstSpellings_eq_nil fun path hpath => (hseen _).mpr (.inr (List.mem_map_of_mem ?_))
    obtain ⟨hback, hwanted⟩ := List.mem_filter.mp hpath
    exact List.mem_filter.mpr ⟨h hback, hwanted⟩
  rw [happend, hnone, List.append_nil]

end

/-! ## The finder of valid globs -/

theorem mapM_ofText_of_valid {globs : List String} (h : ∀ glob ∈ globs, Glob.Valid glob)
    (role : GlobRole) :
    ∃ patterns, globs.mapM (Glob.Pattern.ofText role) = .ok patterns ∧
      ∀ path, patterns.any (·.isMatch path) = globs.any (Glob.covers · path) := by
  induction globs with
  | nil => exact ⟨[], rfl, fun _ => rfl⟩
  | cons glob rest ih =>
    obtain ⟨⟨pattern, hparse⟩, hrest⟩ := List.forall_mem_cons.mp h
    obtain ⟨patterns, hpatterns, hmatch⟩ := ih hrest
    refine ⟨pattern :: patterns, ?_, fun path => ?_⟩
    · rw [List.mapM_cons, Glob.Pattern.ofText_of_parse hparse, hpatterns]
      rfl
    · rw [List.any_cons, List.any_cons, hmatch, Glob.covers, hparse]

theorem forIn_ofText_of_valid {globs : List String} (h : ∀ glob ∈ globs, Glob.Valid glob)
    (role : GlobRole) :
    (forIn globs PUnit.unit fun glob _ => do
      let _ ← Glob.Pattern.ofText role glob
      pure (ForInStep.yield PUnit.unit) : Except Error PUnit) = .ok PUnit.unit := by
  induction globs with
  | nil => rfl
  | cons glob rest ih =>
    obtain ⟨⟨pattern, hparse⟩, hrest⟩ := List.forall_mem_cons.mp h
    rw [List.forIn_cons, Glob.Pattern.ofText_of_parse hparse]
    exact ih hrest

/-- Valid globs make a finder, which finds the first entries of what they enumerate. -/
theorem new_of_valid {includes excludes : List String} (hne : includes ≠ [])
    (hi : ∀ glob ∈ includes, Glob.Valid glob) (he : ∀ glob ∈ excludes, Glob.Valid glob) :
    ∃ f, new includes excludes = .ok f ∧
      ∀ fs, f.find fs = firsts fs.home (Wanted fs excludes) (enumeration fs includes) := by
  obtain ⟨patterns, hpatterns, hmatch⟩ := mapM_ofText_of_valid he .excluding
  have hempty : includes.isEmpty = false := by simpa using hne
  refine ⟨⟨includes, patterns⟩, ?_, fun fs => ?_⟩
  · unfold new
    simp only [hempty, hpatterns, forIn_ofText_of_valid hi, Bool.false_eq_true, if_false]
    rfl
  · have hwants : wants ⟨includes, patterns⟩ fs = fun path => decide (Wanted fs excludes path) := by
      funext path
      rw [wants, Finder.excludes, hmatch, Bool.eq_iff_iff, decide_eq_true_eq, Wanted]
      simp
    rw [find, hwants, ← firstSpellings_eq_firsts]
    rfl

/-- **A finder lists the wanted files, each once, in order.** From valid globs there is a finder. Of the paths
that the include globs enumerate it lists those that are wanted and have no wanted path of the same absolute
form before them, in the order of the enumeration. Further include globs leave this as a beginning of what is
listed, and a copy of one changes nothing. With more exclude globs nothing is listed that was not listed
before, up to the spelling, and a path stays listed just if one of its spellings is still wanted. -/
theorem find_lists_firsts {includes excludes : List String} (hne : includes ≠ [])
    (hi : ∀ glob ∈ includes, Glob.Valid glob) (he : ∀ glob ∈ excludes, Glob.Valid glob)
    (fs : FileSystem) :
    ∃ f, new includes excludes = .ok f ∧
      f.find fs = firsts fs.home (Wanted fs excludes) (enumeration fs includes) ∧
      (∀ more, (∀ glob ∈ more, Glob.Valid glob) →
        ∃ g, new (includes ++ more) excludes = .ok g ∧ f.find fs <+: g.find fs) ∧
      (∀ glob ∈ includes,
        ∃ g, new (includes ++ [glob]) excludes = .ok g ∧ g.find fs = f.find fs) ∧
      (∀ stricter, (∀ glob ∈ stricter, Glob.Valid glob) → excludes ⊆ stricter →
        ∃ g, new includes stricter = .ok g ∧
          (∀ path ∈ g.find fs, ∃ listed ∈ f.find fs,
            absolute fs.home listed = absolute fs.home path) ∧
          (∀ path ∈ f.find fs,
            (∃ listed ∈ g.find fs, absolute fs.home listed = absolute fs.home path) ↔
              ∃ spelling ∈ enumeration fs includes, Wanted fs stricter spelling ∧
                absolute fs.home spelling = absolute fs.home path)) := by
  obtain ⟨f, hf, hfind⟩ := new_of_valid hne hi he
  refine ⟨f, hf, hfind fs, fun more hmore => ?_, fun glob hglob => ?_, fun stricter hs hsub => ?_⟩
  · have hall : ∀ glob ∈ includes ++ more, Glob.Valid glob :=
      List.forall_mem_append.mpr ⟨hi, hmore⟩
    obtain ⟨g, hg, hlists⟩ := new_of_valid (List.append_ne_nil_of_left_ne_nil hne more) hall he
    refine ⟨g, hg, ?_⟩
    rw [hfind, hlists, enumeration, enumeration, List.flatMap_append]
    exact firsts_prefix _ _ _ _
  · have hall : ∀ other ∈ includes ++ [glob], Glob.Valid other :=
      List.forall_mem_append.mpr ⟨hi, List.forall_mem_singleton.mpr (hi glob hglob)⟩
    obtain ⟨g, hg, hlists⟩ := new_of_valid (List.append_ne_nil_of_left_ne_nil hne [glob]) hall he
    refine ⟨g, hg, ?_⟩
    rw [hfind, hlists, enumeration, enumeration, List.flatMap_append, List.flatMap_singleton]
    exact firsts_append_of_subset fun path hpath => List.mem_flatMap.mpr ⟨glob, hglob, hpath⟩
  · obtain ⟨g, hg, hlists⟩ := new_of_valid hne hi hs
    have hweaker {path : String} (h : Wanted fs stricter path) : Wanted fs excludes path :=
      ⟨h.1, fun glob hglob => h.2 glob (hsub hglob)⟩
    refine ⟨g, hg, fun path hpath => ?_, fun path _ => ⟨?_, ?_⟩⟩
    · rw [hlists] at hpath
      obtain ⟨hmem, hwanted⟩ := mem_of_mem_firsts hpath
      rw [hfind]
      exact exists_first hmem (hweaker hwanted)
    · rintro ⟨listed, hlisted, hsame⟩
      rw [hlists] at hlisted
      obtain ⟨hmem, hwanted⟩ := mem_of_mem_firsts hlisted
      exact ⟨listed, hmem, hwanted, hsame⟩
    · rintro ⟨spelling, hmem, hwanted, hsame⟩
      rw [hlists]
      obtain ⟨listed, hlisted, habsolute⟩ :
          ∃ listed ∈ firsts fs.home (Wanted fs stricter) (enumeration fs includes),
            absolute fs.home listed = absolute fs.home spelling := exists_first hmem hwanted
      exact ⟨listed, hlisted, habsolute.trans hsame⟩

/-- The home directory is the root, and holds two log files. -/
def rootLogs : FileSystem := ⟨[], [(["a.log"], .file []), (["b.log"], .file [])]⟩

/-- Two names, and the first of them once more from the root on. -/
def spelledTwice : List String := ["a.log", "b.log", "/a.log"]

theorem resolve_rootLogs (follow : Bool) :
    rootLogs.resolve follow "a.log" = .ok (["a.log"], .file []) ∧
      rootLogs.resolve follow "b.log" = .ok (["b.log"], .file []) ∧
      rootLogs.resolve follow "/a.log" = .ok (["a.log"], .file []) := by
  have ha : rootLogs.resolve follow "a.log" = .ok (["a.log"], .file []) :=
    FileSystem.resolve_name FileSystem.isName_logs.1 rfl rfl follow
  refine ⟨ha, FileSystem.resolve_name FileSystem.isName_logs.2 rfl rfl follow, ?_⟩
  have hcheck : FileSystem.checkPath "/a.log" = FileSystem.checkPath "a.log" := by rfl
  have hsteps : FileSystem.steps "/a.log" = FileSystem.steps "a.log" := by decide +kernel
  have horigin : FileSystem.origin rootLogs.home "/a.log" =
      FileSystem.origin rootLogs.home "a.log" := by decide +kernel
  rw [← ha, FileSystem.resolve, FileSystem.resolve, FileSystem.find, FileSystem.find, hcheck, hsteps,
    horigin]

theorem enumeration_rootLogs : enumeration rootLogs spelledTwice = spelledTwice := by
  have hpresent : ∀ path ∈ spelledTwice, rootLogs.present path = true := by
    obtain ⟨ha, hb, hroot⟩ := resolve_rootLogs false
    simp [spelledTwice, FileSystem.present, ha, hb, hroot, Except.isOk, Except.toBool]
  obtain ⟨ha, hb, hroot⟩ : Glob.paths rootLogs "a.log" = ["a.log"] ∧
      Glob.paths rootLogs "b.log" = ["b.log"] ∧ Glob.paths rootLogs "/a.log" = ["/a.log"] := by
    refine ⟨?_, ?_, ?_⟩
    all_goals
      exact Glob.paths_of_literal rfl rfl (by decide +kernel) (by decide +kernel) (by decide +kernel)
        (by decide +kernel) (hpresent _ (by simp [spelledTwice]))
  rw [enumeration, spelledTwice]
  simp only [List.flatMap_cons, List.flatMap_nil, ha, hb, hroot]
  rfl

theorem isDirectory_rootLogs : ∀ path ∈ spelledTwice, rootLogs.isDirectory path = false := by
  obtain ⟨ha, hb, hroot⟩ := resolve_rootLogs true
  simp [spelledTwice, FileSystem.isDirectory, ha, hb, hroot]

/-- The first file is listed as it is spelled first, and as it is spelled next when this is excluded. -/
theorem find_lists_rootLogs :
    spelledTwice ≠ [] ∧ (∀ glob ∈ spelledTwice, Glob.Valid glob) ∧
      (∃ f, new spelledTwice [] = .ok f ∧ f.find rootLogs = ["a.log", "b.log"]) ∧
      ∃ f, new spelledTwice ["a.log"] = .ok f ∧ f.find rootLogs = ["b.log", "/a.log"] := by
  have hvalid : ∀ glob ∈ spelledTwice, Glob.Valid glob := by
    simp only [spelledTwice, List.forall_mem_cons]
    exact ⟨⟨_, rfl⟩, ⟨_, rfl⟩, ⟨_, rfl⟩, fun _ h => absurd h List.not_mem_nil⟩
  have hne : spelledTwice ≠ [] := List.cons_ne_nil _ _
  have hfind (excludes : List String) (he : ∀ glob ∈ excludes, Glob.Valid glob) :
      ∃ f, new spelledTwice excludes = .ok f ∧ f.find rootLogs = firstSpellings [] []
        (spelledTwice.filter fun path => ∀ glob ∈ excludes, Glob.covers glob path = false) := by
    obtain ⟨f, hf, hlists, -⟩ := find_lists_firsts hne hvalid he rootLogs
    refine ⟨f, hf, ?_⟩
    rw [hlists, enumeration_rootLogs, ← firstSpellings_eq_firsts]
    refine congrArg _ (List.filter_congr fun path hpath => decide_eq_decide.mpr ?_)
    exact and_iff_right (isDirectory_rootLogs path hpath)
  refine ⟨hne, hvalid, ?_, ?_⟩
  · obtain ⟨f, hf, hlists⟩ := hfind [] fun _ h => absurd h List.not_mem_nil
    exact ⟨f, hf, hlists.trans (by decide +kernel)⟩
  · obtain ⟨f, hf, hlists⟩ := hfind ["a.log"] (List.forall_mem_singleton.mpr ⟨_, rfl⟩)
    exact ⟨f, hf, hlists.trans (by decide +kernel)⟩

end Finder

end LogFollow
