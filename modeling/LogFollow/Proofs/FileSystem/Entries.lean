import LogFollow.Glob.Walk
import LogFollow.Proofs.FileSystem.Removal
import Mathlib.Data.List.Basic

/-!
# Paths of the names in a directory

A name is put behind the path of its directory. The path that arises leads to the name in the directory,
whatever slashes, dots and links the path of the directory is spelled with.
-/
namespace LogFollow

namespace FilePath

/-- A text that is a piece of a path: it has no slash. -/
def IsPiece (name : String) : Prop := '/' ∉ name.toList

/-- The pieces of a path that are not empty, dots included. -/
def segments (path : String) : List String := (pieces path).filter (· ≠ "")

theorem piecesFrom_slash (piece cs rest : List Char) :
    piecesFrom piece (cs ++ '/' :: rest) = piecesFrom piece cs ++ piecesFrom [] rest := by
  induction cs generalizing piece with
  | nil => rfl
  | cons c cs ih =>
    rw [List.cons_append, piecesFrom, piecesFrom]
    split
    · rw [ih, List.cons_append]
    · exact ih (c :: piece)

theorem piecesFrom_of_notMem {cs : List Char} (h : '/' ∉ cs) (piece : List Char) :
    piecesFrom piece cs = [String.ofList (piece.reverse ++ cs)] := by
  induction cs generalizing piece with
  | nil => rw [piecesFrom, List.append_nil]
  | cons c cs ih =>
    rw [List.mem_cons, not_or] at h
    rw [piecesFrom, if_neg (Ne.symm h.1), ih h.2, List.reverse_cons, List.append_assoc]
    rfl

variable {path name : String}

theorem pieces_of_isPiece (hn : IsPiece name) : pieces name = [name] := by
  rw [pieces, piecesFrom_of_notMem hn, List.reverse_nil, List.nil_append, String.ofList_toList]

theorem isAbsolute_of_isPiece (hn : IsPiece name) : isAbsolute name = false := by
  rw [isAbsolute, beq_eq_false_iff_ne]
  intro h
  exact hn (List.mem_of_mem_head? h)

theorem endsWithSlash_of_isPiece (hn : IsPiece name) : endsWithSlash name = false := by
  rw [endsWithSlash, beq_eq_false_iff_ne]
  intro h
  exact hn (List.mem_of_getLast? h)

theorem segments_append_slash (path name : String) :
    segments (path ++ "/" ++ name) = segments path ++ segments name := by
  have hlist : (path ++ "/" ++ name).toList = path.toList ++ '/' :: name.toList := by
    rw [String.toList_append, String.toList_append, List.append_assoc]
    rfl
  rw [segments, pieces, hlist, piecesFrom_slash, List.filter_append]
  rfl

/-- A path that ends with a slash is another one with the slash behind it. -/
theorem exists_of_endsWithSlash (h : endsWithSlash path = true) : ∃ front, path = front ++ "/" := by
  have hlast : path.toList.getLast? = some '/' := eq_of_beq h
  obtain ⟨front, hfront⟩ := List.getLast?_eq_some_iff.mp hlast
  refine ⟨String.ofList front, String.toList_inj.mp ?_⟩
  rw [hfront, String.toList_append, String.toList_ofList]
  rfl

/-- The segments of a path behind another one. -/
theorem segments_join (path : String) (hn : IsPiece name) :
    segments (join path name) = segments path ++ segments name := by
  unfold join
  rw [isAbsolute_of_isPiece hn, Bool.false_or]
  split
  · next hempty =>
    have hpath : path = "" := by simpa using hempty
    rw [hpath]
    rfl
  · split
    · next hslash =>
      obtain ⟨front, rfl⟩ := exists_of_endsWithSlash hslash
      have hfront : segments (front ++ "/") = segments front := by
        have h := segments_append_slash front ""
        rw [String.append_empty] at h
        rw [h]
        exact List.append_nil _
      rw [segments_append_slash, hfront]
    · exact segments_append_slash path name

theorem isAbsolute_join (path : String) (hn : IsPiece name) :
    isAbsolute (join path name) = isAbsolute path := by
  have hhead {more : String} (h : path ≠ "") : isAbsolute (path ++ more) = isAbsolute path := by
    rw [isAbsolute, String.toList_append, isAbsolute]
    cases hp : path.toList with
    | nil => exact absurd (String.toList_eq_nil_iff.mp hp) h
    | cons c cs => rfl
  unfold join
  rw [isAbsolute_of_isPiece hn, Bool.false_or]
  split
  · next hempty =>
    have hpath : path = "" := by simpa using hempty
    rw [isAbsolute_of_isPiece hn, hpath]
    rfl
  · next hne =>
    have hpath : path ≠ "" := by simpa using hne
    split
    · exact hhead hpath
    · rw [String.append_assoc]
      exact hhead hpath

theorem endsWithSlash_join (path : String) (hn : IsPiece name) (hne : name ≠ "") :
    endsWithSlash (join path name) = false := by
  have hlast (front : String) : endsWithSlash (front ++ name) = endsWithSlash name := by
    have hnil : name.toList ≠ [] := fun h => hne (String.toList_eq_nil_iff.mp h)
    rw [endsWithSlash, String.toList_append, endsWithSlash, List.getLast?_append,
      List.getLast?_eq_some_getLast hnil]
    rfl
  unfold join
  split
  · exact endsWithSlash_of_isPiece hn
  · split
    · rw [hlast, endsWithSlash_of_isPiece hn]
    · rw [hlast, endsWithSlash_of_isPiece hn]

theorem segments_of_isPiece (hn : IsPiece name) (hne : name ≠ "") : segments name = [name] := by
  rw [segments, pieces_of_isPiece hn]
  exact List.filter_cons_of_pos (by simpa using hne)

end FilePath

open FilePath (IsPiece segments join)

namespace Glob.Walk

variable {path : String}

/-- The spellings of the home directory are made of dots. -/
theorem segments_of_isHome (h : isHome path = true) :
    FilePath.isAbsolute path = false ∧ ∀ s ∈ segments path, s = "." := by
  have hparts : FilePath.parts path = ["."] := eq_of_beq h
  have hnames : FilePath.names path = [] := by
    rcases FilePath.parts_eq path with ⟨-, hp⟩ | ⟨-, hp | hp⟩
    · rw [hp] at hparts
      exact absurd (List.cons.inj hparts).1 (by decide)
    · have hmem : "." ∈ FilePath.names path := by
        rw [← hp, hparts]
        exact List.mem_cons_self
      exact absurd (List.mem_filter.mp hmem).2 (by decide)
    · rw [hp] at hparts
      exact (List.cons.inj hparts).2
  refine ⟨?_, fun s hs => ?_⟩
  · rcases FilePath.parts_eq path with ⟨-, hp⟩ | ⟨ha, -⟩
    · rw [hp] at hparts
      exact absurd (List.cons.inj hparts).1 (by decide)
    · exact ha
  · by_contra hne
    have hmem : s ∈ FilePath.names path := List.mem_filter.mpr ⟨hs, decide_eq_true hne⟩
    rw [hnames] at hmem
    cases hmem

end Glob.Walk

namespace FileSystem

open Glob.Walk (child isHome)

variable {fs fs' : FileSystem} {place directory : Place} {path name : String}

theorem steps_join (path : String) (hn : IsPiece name) (hne : name ≠ "") :
    steps (join path name) = segments path ++ [name] := by
  have hslash := FilePath.endsWithSlash_join path hn hne
  have hsegments := FilePath.segments_join path hn
  rw [FilePath.segments_of_isPiece hn hne] at hsegments
  rw [← hsegments, steps, hslash]
  rfl

theorem steps_join_empty (hp : path ≠ "") (hs : FilePath.endsWithSlash path = false) :
    steps (join path "") = segments path ++ ["."] := by
  have hjoin : join path "" = path ++ "/" ++ "" := by
    have hempty : path.isEmpty = false := by simpa using hp
    rw [join, hempty, hs]
    rfl
  have hends : FilePath.endsWithSlash (path ++ "/" ++ "") = true := by
    simp [FilePath.endsWithSlash]
  rw [hjoin, steps, hends]
  change segments (path ++ "/" ++ "") ++ ["."] = _
  rw [FilePath.segments_append_slash]
  exact congrArg (· ++ ["."]) (List.append_nil _)

theorem origin_join (path : String) (hn : IsPiece name) (here : Place) :
    origin here (join path name) = origin here path := by
  rw [origin, FilePath.isAbsolute_join path hn, origin]

theorem locate_dots {follow : Bool} {links : Nat} {here : Place} {dots rest : List String}
    (hd : fs.node? here = some .directory) (h : ∀ s ∈ dots, s = ".") :
    fs.locate follow links here (dots ++ rest) = fs.locate follow links here rest := by
  induction dots with
  | nil => rfl
  | cons s dots ih =>
    obtain ⟨rfl, hdots⟩ := List.forall_mem_cons.mp h
    rw [List.cons_append, locate, hd]
    simpa only [if_true] using ih hdots

/-- A name behind a path is taken from where the path leads. -/
theorem locate_child (ht : fs.Tree) (hn : IsPiece name) (hne : name ≠ "") (path : String)
    (follow : Bool) (links : Nat) :
    fs.locate follow links (origin fs.home (child path name)) (steps (child path name)) =
      fs.locate follow links (origin fs.home path) (segments path ++ [name]) := by
  unfold child
  split
  · next hhome =>
    obtain ⟨ha, hdots⟩ := Glob.Walk.segments_of_isHome hhome
    have hsteps : steps name = [name] := by
      rw [steps, FilePath.endsWithSlash_of_isPiece hn]
      exact FilePath.segments_of_isPiece hn hne
    have horigin : origin fs.home name = fs.home := by
      rw [origin, FilePath.isAbsolute_of_isPiece hn]
      rfl
    have hstart : origin fs.home path = fs.home := by
      rw [origin, ha]
      rfl
    rw [hsteps, horigin, hstart, locate_dots ht.home hdots]
  · rw [steps_join path hn hne, origin_join path hn]

/-- The steps to a directory, with others behind them. -/
theorem locate_segments (hd : fs.resolve true path = .ok (directory, .directory)) :
    ∃ left, ∀ follow rest, rest ≠ [] →
      fs.locate follow linkLimit (origin fs.home path) (segments path ++ rest) =
        fs.locate follow left directory rest := by
  obtain ⟨hfind, hnode⟩ := resolve_eq_ok_iff.mp hd
  obtain ⟨-, hfollows⟩ := find_eq_ok_iff.mp hfind
  have hsegments : Follows fs true linkLimit (origin fs.home path) (segments path) directory := by
    unfold steps at hfollows
    simp only at hfollows
    split at hfollows
    · obtain ⟨place, left, hfront, hlast⟩ := hfollows.last
      have hdot := locate_eq_ok_iff.mpr hlast
      rw [locate, hlast.directory] at hdot
      simp only [if_true] at hdot
      rw [locate] at hdot
      exact Except.ok.inj hdot ▸ hfront
    · exact hfollows
  exact hsegments.locate_append

/-- A name in a directory leads to its place. -/
theorem leadsTo_child (ht : fs.Tree) (hd : fs.resolve true path = .ok (directory, .directory))
    (hn : IsEntry name) (place : Place) :
    fs.leadsTo place (child path name) = (directory ++ [name] == place) := by
  obtain ⟨left, hleft⟩ := locate_segments hd
  have hdirectory := (resolve_eq_ok_iff.mp hd).2
  have hlocate := (hleft false [name] (List.cons_ne_nil _ _)).trans
    ((hn.descends hdirectory).locate_last left)
  rw [leadsTo, locate_child ht hn.piece hn.nonempty, hlocate]
  rfl

theorem isPiece_of_mem_dots (h : name ∈ Glob.Walk.dots) :
    IsPiece name ∧ name ≠ "" ∧ (name = "." ∨ name = "..") := by
  rcases List.mem_pair.mp h with rfl | rfl
  · exact ⟨by unfold IsPiece; decide, by decide, .inl rfl⟩
  · exact ⟨by unfold IsPiece; decide, by decide, .inr rfl⟩

theorem leadsTo_dots (ht : fs.Tree) {content : Bytes}
    (hf : fs.node? place = some (.file content)) (hdot : name ∈ Glob.Walk.dots) (path : String) :
    fs.leadsTo place (child path name) = false ∧ fs.leadsTo place (join path name) = false := by
  obtain ⟨hpiece, hne, hdots⟩ := isPiece_of_mem_dots hdot
  have hno : fs.locate false linkLimit (origin fs.home path) (segments path ++ [name]) ≠
      .ok place := by
    intro h
    obtain ⟨hdot, hup⟩ := (locate_eq_ok_iff.mp h).last_ne_dot ht hf (by simp)
    exact hdots.elim hdot hup
  rw [Bool.eq_false_iff, Bool.eq_false_iff, Ne, Ne, leadsTo_iff, leadsTo_iff,
    locate_child ht hpiece hne, steps_join path hpiece hne, origin_join path hpiece]
  exact ⟨hno, hno⟩

/-- A path to a file has no slash at its end, and does more than stay in the home directory. -/
theorem segments_of_leadsTo (ht : fs.Tree) {content : Bytes}
    (hf : fs.node? place = some (.file content)) (hl : fs.leadsTo place path = true) :
    FilePath.endsWithSlash path = false ∧ (FilePath.isAbsolute path = false →
      ∃ s ∈ segments path, s ≠ ".") ∧
    ∀ follow last, ∀ target,
      fs.locate follow linkLimit (origin fs.home path) (segments path ++ [last]) ≠ .ok target := by
  have hlocate := leadsTo_iff.mp hl
  have hfollows := locate_eq_ok_iff.mp hlocate
  have hslash := hfollows.not_endsWithSlash ht hf (by simp)
  have hsteps : steps path = segments path := by
    rw [steps, hslash]
    rfl
  rw [hsteps] at hlocate hfollows
  refine ⟨hslash, fun ha => ?_, fun follow last target => ?_⟩
  · by_contra hdots
    have hdots : ∀ s ∈ segments path, s = "." := by simpa using hdots
    have horigin : origin fs.home path = fs.home := by
      rw [origin, ha]
      rfl
    have hhome : fs.locate false linkLimit fs.home (segments path ++ []) =
        fs.locate false linkLimit fs.home [] := locate_dots ht.home hdots
    rw [List.append_nil, ← horigin, hlocate, locate, horigin] at hhome
    rw [Except.ok.inj hhome, ht.home] at hf
    cases hf
  · obtain ⟨left, hleft⟩ := (hfollows.follow (by rw [hf]; simp)).locate_append
    rw [hleft follow [last] (List.cons_ne_nil _ _), locate, hf]
    simp

theorem not_isDirectory_of_leadsTo (ht : fs.Tree) {content : Bytes}
    (hf : fs.node? place = some (.file content)) (hl : fs.leadsTo place path = true) :
    fs.isDirectory path = false := by
  obtain ⟨-, -, hno⟩ := segments_of_leadsTo ht hf hl
  rw [Bool.eq_false_iff]
  intro hdir
  obtain ⟨directory, hd⟩ := isDirectory_iff.mp hdir
  obtain ⟨left, hleft⟩ := locate_segments hd
  refine hno true "." directory ?_
  rw [hleft true ["."] (List.cons_ne_nil _ _), locate, (resolve_eq_ok_iff.mp hd).2]
  simp only [if_true]
  rw [locate]

/-- Nothing is below a file. -/
theorem present_below_file (ht : fs.Tree) {content : Bytes}
    (hf : fs.node? place = some (.file content)) (hl : fs.leadsTo place path = true)
    (hn : IsPiece name) : fs.present (child path name) = false := by
  obtain ⟨hslash, hdots, hno⟩ := segments_of_leadsTo ht hf hl
  have hrelative (h : ∀ s ∈ segments path, s = ".") : FilePath.isAbsolute path = true := by
    by_contra ha
    obtain ⟨s, hs, hne⟩ := hdots (Bool.not_eq_true _ ▸ ha)
    exact hne (h s hs)
  have hchild : child path name = join path name := by
    refine if_neg fun hhome => ?_
    obtain ⟨ha, hsegments⟩ := Glob.Walk.segments_of_isHome hhome
    rw [hrelative hsegments] at ha
    cases ha
  have hlast : ∃ last, steps (join path name) = segments path ++ [last] := by
    by_cases hne : name = ""
    · have hpath : path ≠ "" := by
        rintro rfl
        have habs := hrelative (by intro s hs; cases hs)
        exact absurd habs (by decide)
      exact ⟨".", hne ▸ steps_join_empty hpath hslash⟩
    · exact ⟨name, steps_join path hn hne⟩
  obtain ⟨last, hlast⟩ := hlast
  rw [hchild, Bool.eq_false_iff]
  intro hpresent
  obtain ⟨target, node, hresolve⟩ := present_iff.mp hpresent
  obtain ⟨-, hfollows⟩ := find_eq_ok_iff.mp (resolve_eq_ok_iff.mp hresolve).1
  rw [origin_join path hn, hlast] at hfollows
  exact hno false last target (locate_eq_ok_iff.mpr hfollows)

/-! ## The names in a directory -/

theorem exists_of_mem_names (h : name ∈ fs.names path) : ∃ directory node,
    fs.resolve true path = .ok (directory, .directory) ∧ (directory ++ [name], node) ∈ fs.nodes := by
  unfold names at h
  split at h
  · next directory hd =>
    rw [List.mem_mergeSort, List.mem_filterMap] at h
    obtain ⟨⟨p, node⟩, hentry, hname⟩ := h
    simp only [Option.ite_none_right_eq_some] at hname
    obtain ⟨rfl, hlast⟩ := hname
    refine ⟨p.dropLast, node, hd, ?_⟩
    rwa [List.dropLast_append_getLast? name hlast]
  · cases h

theorem isEntry_of_mem_names (ht : fs.Tree) (h : name ∈ fs.names path) : IsEntry name := by
  obtain ⟨directory, node, -, hentry⟩ := exists_of_mem_names h
  exact ht.names _ hentry name List.getLast?_concat

/-- The steps of a path lead to something. -/
def Stands (fs : FileSystem) (path : String) : Prop :=
  ∃ place node, fs.locate false linkLimit (origin fs.home path) (steps path) = .ok place ∧
    fs.node? place = some node

theorem stands_of_present (h : fs.present path = true) : fs.Stands path := by
  obtain ⟨place, node, hresolve⟩ := present_iff.mp h
  obtain ⟨hf, hn⟩ := resolve_eq_ok_iff.mp hresolve
  exact ⟨place, node, locate_eq_ok_iff.mpr (find_eq_ok_iff.mp hf).2, hn⟩

theorem stands_dots (ht : fs.Tree) (hdir : fs.isDirectory path = true)
    (hdot : name ∈ Glob.Walk.dots) : fs.Stands (child path name) ∧ fs.Stands (join path name) := by
  obtain ⟨directory, hd⟩ := isDirectory_iff.mp hdir
  obtain ⟨left, hleft⟩ := locate_segments hd
  have hnode := (resolve_eq_ok_iff.mp hd).2
  obtain ⟨hpiece, hne, hdots⟩ := isPiece_of_mem_dots hdot
  have hstands : ∃ place node, fs.locate false linkLimit (origin fs.home path)
      (segments path ++ [name]) = .ok place ∧ fs.node? place = some node := by
    rw [hleft false [name] (List.cons_ne_nil _ _), locate, hnode]
    rcases hdots with rfl | rfl
    · refine ⟨directory, .directory, ?_, hnode⟩
      simp only [if_true]
      rw [locate]
    · refine ⟨directory.dropLast, .directory, ?_, ht.parent directory _ hnode⟩
      simp only [if_true, if_neg (by decide : ¬ ".." = ".")]
      rw [locate]
  rw [Stands, Stands, locate_child ht hpiece hne, steps_join path hpiece hne,
    origin_join path hpiece]
  exact ⟨hstands, hstands⟩

theorem stands_child (ht : fs.Tree) (h : name ∈ fs.names path) : fs.Stands (child path name) := by
  obtain ⟨directory, node, hd, hentry⟩ := exists_of_mem_names h
  have hn := isEntry_of_mem_names ht h
  obtain ⟨node, hnode⟩ := exists_node hentry
  refine ⟨directory ++ [name], node, ?_, hnode⟩
  have hleads := leadsTo_child ht hd hn (directory ++ [name])
  rw [beq_self_eq_true] at hleads
  exact leadsTo_iff.mp hleads

/-- Names are sorted in their order. -/
theorem pairwise_mergeSort_le (names : List String) :
    names.mergeSort.Pairwise fun a b => decide (a ≤ b) = true := by
  have htrans (a b c : String) (hab : decide (a ≤ b) = true) (hbc : decide (b ≤ c) = true) :
      decide (a ≤ c) = true :=
    decide_eq_true (String.le_trans (of_decide_eq_true hab) (of_decide_eq_true hbc))
  have htotal (a b : String) : (decide (a ≤ b) || decide (b ≤ a)) = true := by
    simpa using String.le_total a b
  exact List.pairwise_mergeSort htrans htotal names

theorem mergeSort_filter (keep : String → Bool) (names : List String) :
    (names.filter keep).mergeSort = names.mergeSort.filter keep := by
  have hperm : (names.filter keep).mergeSort.Perm (names.mergeSort.filter keep) :=
    (List.mergeSort_perm _ _).trans ((List.mergeSort_perm names _).symm.filter keep)
  refine hperm.eq_of_pairwise ?_ (pairwise_mergeSort_le _) ((pairwise_mergeSort_le names).filter keep)
  intro a b _ _ hab hba
  exact String.le_antisymm (of_decide_eq_true hab) (of_decide_eq_true hba)

/-- A directory lists the names that it did before, but for that of the file. -/
theorem Loses.names (h : Loses fs place fs') (ht : fs.Tree) :
    fs'.names path = (fs.names path).filter fun name => !fs.leadsTo place (child path name) := by
  cases hdir : fs.isDirectory path with
  | false =>
    have hnames {fs : FileSystem} (hno : fs.isDirectory path = false) : fs.names path = [] := by
      unfold FileSystem.names
      split
      · next directory hd =>
        rw [isDirectory_iff.mpr ⟨directory, hd⟩] at hno
        cases hno
      · rfl
    rw [hnames hdir, hnames (h.isDirectory.trans hdir)]
    rfl
  | true =>
    obtain ⟨directory, hd⟩ := isDirectory_iff.mp hdir
    have hkeep : (fs.names path).filter (fun name => !fs.leadsTo place (child path name)) =
        (fs.names path).filter fun name => !(directory ++ [name] == place) := by
      refine List.filter_congr fun name hname => ?_
      rw [leadsTo_child ht hd (isEntry_of_mem_names ht hname)]
    rw [hkeep, FileSystem.names, FileSystem.names, h.resolve_directory.mpr hd, hd]
    simp only
    rw [← mergeSort_filter, h.nodes, List.filterMap_filter, List.filter_filterMap]
    have hlisted (entry : Place × Node) :
        (if decide (entry.1 ≠ place) = true then
          if entry.1.dropLast = directory then entry.1.getLast? else none else none) =
        (if entry.1.dropLast = directory then entry.1.getLast? else none).filter
          fun name => !(directory ++ [name] == place) := by
      by_cases hdirectory : entry.1.dropLast = directory
      · cases hlast : entry.1.getLast? with
        | none => simp
        | some name =>
          have hentry : directory ++ [name] = entry.1 := by
            rw [← hdirectory]
            exact List.dropLast_append_getLast? name hlast
          rw [if_pos hdirectory, Option.filter_some, hentry]
          by_cases hplace : entry.1 = place
          · simp [hplace]
          · simp [hplace]
      · simp [hdirectory]
    simp only [hlisted]

end FileSystem

end LogFollow
