import LogFollow.Finder
import LogFollow.Proofs.Glob.Walk

/-!
# What is found when a file is gone

A finder finds what it found before, but for the file that is gone. Of several spellings of one path the
first is found; all of them lead to one place, so that all of them are gone with the file.
-/
namespace LogFollow

namespace FilePath

/-- The absolute path has the names of the path behind those of the home directory. -/
theorem absolute_eq (home : Place) (path : String) :
    absolute home path = FileSystem.origin home path ++ names path := by
  rw [FileSystem.origin]
  rcases parts_eq path with ⟨ha, hp⟩ | ⟨ha, hp | hp⟩
  · rw [absolute, hp, ha]
    rfl
  · rw [absolute, hp, ha]
    split
    · next rest hnames =>
      exact absurd (hnames ▸ List.mem_cons_self) (slash_notMem_names path)
    · next rest hnames =>
      have hdot : "." ∈ names path := hnames ▸ List.mem_cons_self
      exact absurd (List.mem_filter.mp hdot).2 (by decide)
    · rfl
  · rw [absolute, hp, ha]
    rfl

end FilePath

namespace FileSystem

variable {fs fs' : FileSystem} {place : Place}

/-- What leads on from a directory leads there from the root. -/
theorem Leads.of_root (ht : fs.Tree) {directory : Place} (hd : fs.node? directory = some .directory)
    {names : List String} (h : Leads fs directory names place) :
    Leads fs [] (directory ++ names) place := by
  induction directory using List.reverseRecOn generalizing names with
  | nil => exact h
  | append_singleton front last ih =>
    have hfront : fs.node? front = some .directory := by
      have hparent := ht.parent _ _ hd
      rwa [List.dropLast_concat] at hparent
    have hn := ht.names _ (mem_nodes (List.concat_ne_nil last front) hd) last List.getLast?_concat
    rw [List.append_assoc]
    exact ih hfront (.down hn.dot hn.up hd (by simp) h)

theorem Leads.of_origin (ht : fs.Tree) {path : String} {names : List String}
    (h : Leads fs (origin fs.home path) names place) :
    Leads fs [] (origin fs.home path ++ names) place :=
  h.of_root ht (ht.origin path)

theorem Follows.leads {links : Nat} {here : Place} {names : List String} {node : Node}
    (h : Follows fs true links here names place) (hn : fs.node? place = some node) :
    Leads fs here (names.filter (· ≠ ".")) place := by
  have hleads := leads_of_locate (locate_eq_ok_iff.mpr h) hn
  refine hleads.of_filter_eq ?_
  rw [List.filter_filter]
  simp

/-- What is no directory stands under the last name of its path, whatever dots are in it. -/
theorem exists_last (ht : fs.Tree) {path : String} {node : Node}
    (h : fs.locate false linkLimit (origin fs.home path) (steps path) = .ok place)
    (hn : fs.node? place = some node) (hno : node ≠ .directory) :
    ∃ front last directory, FilePath.names path = front ++ [last] ∧
      Leads fs [] (origin fs.home path ++ front) directory ∧ place = directory ++ [last] := by
  obtain ⟨front, last, directory, hlast, hfront, hd, hplace⟩ :=
    (locate_eq_ok_iff.mp h).exists_last ht hn hno
  refine ⟨front.filter (· ≠ "."), last, directory, ?_, ?_, hplace⟩
  · rw [← filter_steps, hlast, List.filter_append]
    simp [hd.dot]
  · exact (hfront.leads hd.directory).of_origin ht

/-- **Two spellings of a path lead to one place.** -/
theorem leadsTo_of_absolute (ht : fs.Tree) {content : Bytes}
    (hf : fs.node? place = some (.file content)) {p q : String} (hp : fs.Stands p)
    (hq : fs.leadsTo place q = true)
    (he : FilePath.absolute fs.home p = FilePath.absolute fs.home q) :
    fs.leadsTo place p = true := by
  obtain ⟨target, node, hlocate, hn⟩ := hp
  have hlocate' := leadsTo_iff.mp hq
  rw [FilePath.absolute_eq, FilePath.absolute_eq] at he
  have htarget : target = place := by
    by_cases hdir : node = .directory
    · have hleads {path : String} {r : Place} {node : Node} (hlink : ∀ target, node ≠ .link target)
          (h : fs.locate false linkLimit (origin fs.home path) (steps path) = .ok r)
          (hn : fs.node? r = some node) :
          Leads fs [] (origin fs.home path ++ FilePath.names path) r := by
        have hfollows := (locate_eq_ok_iff.mp h).follow (by rw [hn]; simpa using hlink)
        have hleads := hfollows.leads hn
        rw [filter_steps] at hleads
        exact hleads.of_origin ht
      have hp := hleads (by simp [hdir]) hlocate hn
      rw [he] at hp
      exact hp.unique (hleads (by simp) hlocate' hf)
    · obtain ⟨front, last, directory, hnames, hleads, rfl⟩ := exists_last ht hlocate hn hdir
      obtain ⟨front', last', directory', hnames', hleads', rfl⟩ :=
        exists_last ht hlocate' hf (by simp)
      rw [hnames, hnames', ← List.append_assoc, ← List.append_assoc] at he
      obtain ⟨hfront, hlast⟩ := List.append_inj' he rfl
      rw [hfront] at hleads
      rw [hleads.unique hleads', hlast]
  rw [leadsTo_iff, hlocate, htarget]

end FileSystem

namespace Finder

open FilePath (absolute)

theorem firstSpellings_cons (home : Place) (seen : List Place) (path : String) (rest : List String) :
    firstSpellings home seen (path :: rest) =
      if seen.contains (absolute home path) then firstSpellings home seen rest
      else path :: firstSpellings home (absolute home path :: seen) rest := rfl

/-- Of the spellings that are kept the first ones are kept, if all spellings of a path are kept or none
is. -/
theorem firstSpellings_filter {home : Place} {keep : String → Bool} {paths : List String}
    (hk : ∀ p ∈ paths, ∀ q ∈ paths, absolute home p = absolute home q → keep p = keep q)
    {seen seen' : List Place}
    (hs : ∀ p ∈ paths, keep p = true → (absolute home p ∈ seen ↔ absolute home p ∈ seen')) :
    firstSpellings home seen' (paths.filter keep) = (firstSpellings home seen paths).filter keep := by
  induction paths generalizing seen seen' with
  | nil => rfl
  | cons path rest ih =>
    have hkrest : ∀ p ∈ rest, ∀ q ∈ rest, absolute home p = absolute home q → keep p = keep q :=
      fun p hp q hq => hk p (List.mem_cons_of_mem path hp) q (List.mem_cons_of_mem path hq)
    have hsrest : ∀ p ∈ rest, keep p = true → (absolute home p ∈ seen ↔ absolute home p ∈ seen') :=
      fun p hp => hs p (List.mem_cons_of_mem path hp)
    rw [firstSpellings_cons]
    cases hkeep : keep path with
    | true =>
      have hfirst := hs path List.mem_cons_self hkeep
      rw [List.filter_cons_of_pos hkeep, firstSpellings_cons]
      by_cases hseen : absolute home path ∈ seen
      · rw [if_pos (List.contains_iff_mem.mpr (hfirst.mp hseen)),
          if_pos (List.contains_iff_mem.mpr hseen)]
        exact ih hkrest hsrest
      · rw [if_neg (mt List.contains_iff_mem.mp (mt hfirst.mpr hseen)),
          if_neg (mt List.contains_iff_mem.mp hseen), List.filter_cons_of_pos hkeep]
        refine congrArg (path :: ·) (ih hkrest fun p hp hkp => ?_)
        rw [List.mem_cons, List.mem_cons, hsrest p hp hkp]
    | false =>
      have hdropped : ¬ keep path = true := Bool.eq_false_iff.mp hkeep
      rw [List.filter_cons_of_neg hdropped]
      split
      · exact ih hkrest hsrest
      · rw [List.filter_cons_of_neg hdropped]
        refine ih hkrest fun p hp hkp => ?_
        -- no spelling of this path is kept
        have hne : absolute home p ≠ absolute home path := fun he => hdropped
          ((hk p (List.mem_cons_of_mem path hp) path List.mem_cons_self he).symm.trans hkp)
        rw [List.mem_cons, or_iff_right hne]
        exact hsrest p hp hkp

variable {fs fs' : FileSystem} {place : Place}

/-- **What is found is what was found before, but for the file that is gone.** -/
theorem find_loses (ht : fs.Tree) (h : fs.Loses place fs') (f : Finder) :
    f.find fs' = (f.find fs).filter fun path => !fs.leadsTo place path := by
  obtain ⟨content, hf⟩ := h.file
  have hwants : f.wants fs' = f.wants fs := by
    funext path
    rw [wants, wants, h.isDirectory]
  have hlisted : (f.included.flatMap (Glob.paths fs')).filter (f.wants fs') =
      ((f.included.flatMap (Glob.paths fs)).filter (f.wants fs)).filter fun path =>
        !fs.leadsTo place path := by
    have hpaths : Glob.paths fs' = fun glob =>
        (Glob.paths fs glob).filter fun path => !fs.leadsTo place path :=
      funext fun glob => Glob.paths_loses ht h glob
    rw [hwants, hpaths, ← List.filter_flatMap, List.filter_filter, List.filter_filter]
    exact List.filter_congr fun path _ => Bool.and_comm _ _
  have hstands : ∀ p ∈ (f.included.flatMap (Glob.paths fs)).filter (f.wants fs), fs.Stands p := by
    intro p hp
    obtain ⟨glob, -, hglob⟩ := List.mem_flatMap.mp (List.mem_filter.mp hp).1
    exact Glob.stands_of_mem_paths ht hglob
  rw [find, find, hlisted, h.home]
  refine firstSpellings_filter (fun p hp q hq he => ?_) fun _ _ _ => Iff.rfl
  refine congrArg not (Bool.eq_iff_iff.mpr ⟨fun hl => ?_, fun hl => ?_⟩)
  · exact FileSystem.leadsTo_of_absolute ht hf (hstands q hq) hl he.symm
  · exact FileSystem.leadsTo_of_absolute ht hf (hstands p hp) hl he

end Finder

end LogFollow
