import LogFollow.Proofs.FileSystem.Steps

/-!
# Removing a file

A file that stands where its path leads can be removed, and is gone then; all other paths lead where they
led before. Only the last name of the path may not be a link, since it would be the link that is removed.
-/
namespace LogFollow.FileSystem

/-- The path leads to a file with this content, and the last name on it is not a link. -/
def Regular (fs : FileSystem) (path : String) (content : Bytes) : Prop :=
  ∃ place, fs.resolve false path = .ok (place, .file content)

/-- The path leads to a place where nothing stands. -/
def Vacant (fs : FileSystem) (path : String) : Prop :=
  ∃ place, (∀ follow, fs.find follow path = .ok place) ∧ fs.node? place = none

/-- A file is taken from its place, and nothing else changes. -/
structure Loses (fs : FileSystem) (place : Place) (fs' : FileSystem) : Prop where
  home : fs'.home = fs.home
  file : ∃ content, fs.node? place = some (.file content)
  nodes : fs'.nodes = fs.nodes.filter fun entry => entry.1 ≠ place

variable {fs fs' : FileSystem} {place : Place} {path : String} {content : Bytes}

/-- Nothing stands below a file, so that only the file is taken out with its place. -/
theorem loses_prune (ht : fs.Tree) (hf : fs.node? place = some (.file content)) :
    Loses fs place (fs.prune place) := by
  refine ⟨rfl, ⟨content, hf⟩, List.filter_congr fun entry hentry => ?_⟩
  have hbelow_iff : place.isPrefixOf entry.1 = true ↔ entry.1 = place := by
    rw [List.isPrefixOf_iff_prefix]
    constructor
    · rintro ⟨below, hbelow⟩
      by_cases hb : below = []
      · rw [← hbelow, hb, List.append_nil]
      · -- whatever stood below the place would make a directory of it
        obtain ⟨node, hnode⟩ := exists_node hentry
        rw [← hbelow] at hnode
        rw [ht.above hb hnode] at hf
        cases hf
    · intro he
      exact ⟨[], (List.append_nil place).trans he.symm⟩
  by_cases he : entry.1 = place
  · rw [hbelow_iff.mpr he, he]
    simp
  · rw [Bool.eq_false_iff.mpr (mt hbelow_iff.mp he)]
    simp [he]

/-! ## When a file is lost -/

theorem Loses.gone (h : Loses fs place fs') : fs'.node? place = none := by
  obtain ⟨content, hfile⟩ := h.file
  cases place with
  | nil => cases hfile
  | cons name rest =>
    change fs'.nodes.lookup (name :: rest) = none
    rw [h.nodes]
    refine (lookup_filter fs.nodes (fun key => key ≠ name :: rest) _).trans ?_
    simp

/-- All else stays where it is. -/
theorem Loses.others (h : Loses fs place fs') {p : Place} (hp : p ≠ place) :
    fs'.node? p = fs.node? p := by
  cases p with
  | nil => rfl
  | cons name rest =>
    change fs'.nodes.lookup (name :: rest) = fs.nodes.lookup (name :: rest)
    rw [h.nodes]
    refine (lookup_filter fs.nodes (fun key => key ≠ place) _).trans ?_
    rw [if_pos (decide_eq_true hp)]

theorem Loses.within (h : Loses fs place fs') : Within fs' fs := by
  refine ⟨h.home, fun {p node} hp => ?_⟩
  have hne : p ≠ place := by
    rintro rfl
    rw [h.gone] at hp
    cases hp
  rwa [← h.others hne]

/-- Whatever is no file stays where it is. -/
theorem Loses.node (h : Loses fs place fs') {p : Place} {node : Node}
    (hp : fs.node? p = some node) (hno : ∀ content, node ≠ .file content) :
    fs'.node? p = some node := by
  obtain ⟨content, hfile⟩ := h.file
  rw [h.others, hp]
  rintro rfl
  rw [hp] at hfile
  exact hno content (Option.some.inj hfile)

theorem Loses.descends (h : Loses fs place fs') {here : Place} {name : String}
    (hd : fs.Descends here name) : fs'.Descends here name :=
  ⟨h.node hd.directory (by simp), hd.dot, hd.up, hd.short⟩

/-- A path leads where it led before: the file could only stand at its end. -/
theorem Loses.follows (h : Loses fs place fs') {follow : Bool} {links : Nat} {here target : Place}
    {names : List String} (hf : Follows fs follow links here names target) :
    Follows fs' follow links here names target := by
  induction hf with
  | here links p => exact .here links p
  | dot hd _ ih => exact .dot (h.node hd (by simp)) ih
  | up hd _ ih => exact .up (h.node hd (by simp)) ih
  | link hd hlink hlast _ ih => exact .link (h.descends hd) (h.node hlink (by simp)) hlast ih
  | @down links here target name node rest hd hnode hno hrest ih =>
    cases node with
    | link link => exact absurd rfl (hno link)
    | directory => exact .down (h.descends hd) (h.node hnode (by simp)) hno ih
    | file content =>
      -- there is no way on from a file
      cases rest with
      | cons name rest => exact absurd (hnode.symm.trans hrest.directory) (by simp)
      | nil =>
        cases hrest
        by_cases he : here ++ [name] = place
        · exact .missing (h.descends hd) (he ▸ h.gone)
        · exact .down (h.descends hd) ((h.others he).trans hnode) hno (.here _ _)
  | unfollowed hd hlink hfollow =>
    exact .unfollowed (h.descends hd) (h.node hlink (by simp)) hfollow
  | @missing links here name hd hnone =>
    refine .missing (h.descends hd) ?_
    obtain ⟨content, hfile⟩ := h.file
    rw [h.others, hnone]
    rintro rfl
    rw [hnone] at hfile
    cases hfile

/-- A path leads nowhere else than before. -/
theorem Loses.followed (h : Loses fs place fs') {follow : Bool} {links : Nat} {here target : Place}
    {names : List String} (hf : Follows fs' follow links here names target) :
    Follows fs follow links here names target := by
  have hnode {p : Place} {node : Node} (hp : fs'.node? p = some node) : fs.node? p = some node :=
    h.within.nodes hp
  have hdescends {here : Place} {name : String} (hd : fs'.Descends here name) :
      fs.Descends here name := ⟨hnode hd.directory, hd.dot, hd.up, hd.short⟩
  induction hf with
  | here links p => exact .here links p
  | dot hd _ ih => exact .dot (hnode hd) ih
  | up hd _ ih => exact .up (hnode hd) ih
  | link hd hlink hlast _ ih => exact .link (hdescends hd) (hnode hlink) hlast ih
  | down hd hstands hno _ ih => exact .down (hdescends hd) (hnode hstands) hno ih
  | unfollowed hd hlink hfollow => exact .unfollowed (hdescends hd) (hnode hlink) hfollow
  | @missing links here name hd hnone =>
    by_cases he : here ++ [name] = place
    · -- the file stood there
      obtain ⟨content, hfile⟩ := h.file
      rw [← he] at hfile
      exact .down (hdescends hd) hfile (by simp) (.here _ _)
    · exact .missing (hdescends hd) ((h.others he).symm.trans hnone)

theorem Loses.find_iff (h : Loses fs place fs') {follow : Bool} {target : Place} :
    fs'.find follow path = .ok target ↔ fs.find follow path = .ok target := by
  rw [find_eq_ok_iff, find_eq_ok_iff, h.home]
  exact ⟨fun hf => ⟨hf.1, h.followed hf.2⟩, fun hf => ⟨hf.1, h.follows hf.2⟩⟩

/-- The directories are those that were there before. -/
theorem Loses.resolve_directory (h : Loses fs place fs') {directory : Place} :
    fs'.resolve true path = .ok (directory, .directory) ↔
      fs.resolve true path = .ok (directory, .directory) := by
  rw [resolve_eq_ok_iff, resolve_eq_ok_iff, h.find_iff]
  exact and_congr_right fun _ => ⟨fun hd => h.within.nodes hd, fun hd => h.node hd (by simp)⟩

theorem Loses.isDirectory (h : Loses fs place fs') : fs'.isDirectory path = fs.isDirectory path := by
  rw [Bool.eq_iff_iff, isDirectory_iff, isDirectory_iff]
  exact exists_congr fun _ => h.resolve_directory

theorem Loses.tree (h : Loses fs place fs') (ht : fs.Tree) : fs'.Tree := by
  refine ⟨?_, fun p node hp => ?_, fun entry hentry => ?_⟩
  · rw [h.home]
    exact h.node ht.home (by simp)
  · exact h.node (ht.parent p node (h.within.nodes hp)) (by simp)
  · rw [h.nodes] at hentry
    exact ht.names entry (List.mem_filter.mp hentry).1

/-- What is there is what was there before, but for the file. -/
theorem Loses.present (h : Loses fs place fs') :
    fs'.present path = (fs.present path && !fs.leadsTo place path) := by
  rw [Bool.eq_iff_iff, Bool.and_eq_true, Bool.not_eq_true', present_iff, present_iff]
  constructor
  · rintro ⟨p, node, hresolve⟩
    obtain ⟨hf, hn⟩ := resolve_eq_ok_iff.mp hresolve
    have hf := h.find_iff.mp hf
    refine ⟨⟨p, node, resolve_eq_ok_iff.mpr ⟨hf, h.within.nodes hn⟩⟩, ?_⟩
    rw [leadsTo_of_find hf, beq_eq_false_iff_ne]
    rintro rfl
    rw [h.gone] at hn
    cases hn
  · rintro ⟨⟨p, node, hresolve⟩, hno⟩
    obtain ⟨hf, hn⟩ := resolve_eq_ok_iff.mp hresolve
    rw [leadsTo_of_find hf, beq_eq_false_iff_ne] at hno
    exact ⟨p, node, resolve_eq_ok_iff.mpr ⟨h.find_iff.mpr hf, (h.others hno).trans hn⟩⟩

/-- Files elsewhere stay. -/
theorem Loses.regular (h : Loses fs place fs') (hr : fs.Regular path content)
    (hne : fs.node? place ≠ some (.file content)) : fs'.Regular path content := by
  obtain ⟨p, hresolve⟩ := hr
  obtain ⟨hf, hn⟩ := resolve_eq_ok_iff.mp hresolve
  refine ⟨p, resolve_eq_ok_iff.mpr ⟨h.find_iff.mpr hf, ?_⟩⟩
  rw [h.others, hn]
  rintro rfl
  exact hne hn

theorem Loses.vacant (h : Loses fs place fs') (hv : fs.Vacant path) : fs'.Vacant path := by
  obtain ⟨p, hf, hn⟩ := hv
  refine ⟨p, fun follow => h.find_iff.mpr (hf follow), ?_⟩
  by_cases hp : p = place
  · rw [hp, h.gone]
  · rw [h.others hp, hn]

/-! ## Regular files -/

theorem Regular.find (hr : fs.Regular path content) :
    ∃ place, (∀ follow, fs.find follow path = .ok place) ∧
      fs.node? place = some (.file content) := by
  obtain ⟨place, hresolve⟩ := hr
  obtain ⟨hf, hn⟩ := resolve_eq_ok_iff.mp hresolve
  refine ⟨place, fun follow => ?_, hn⟩
  obtain ⟨hc, hl⟩ := find_eq_ok_iff.mp hf
  cases follow with
  | false => exact hf
  | true => exact find_eq_ok_iff.mpr ⟨hc, hl.follow (by rw [hn]; simp)⟩

theorem Regular.openPath (hr : fs.Regular path content) :
    fs.openPath path = .ok (.file content) := by
  obtain ⟨place, hf, hn⟩ := hr.find
  rw [FileSystem.openPath, resolve_eq_ok_iff.mpr ⟨hf true, hn⟩]
  rfl

theorem Regular.present (hr : fs.Regular path content) : fs.present path = true := by
  obtain ⟨place, hresolve⟩ := hr
  rw [FileSystem.present, hresolve]
  rfl

theorem Vacant.present (hv : fs.Vacant path) : fs.present path = false := by
  obtain ⟨place, hf, hn⟩ := hv
  have hresolve : fs.resolve false path = .error .notFound := by
    rw [resolve, hf false]
    simp only [bind, Except.bind, hn]
    rfl
  rw [FileSystem.present, hresolve]
  rfl

/-- **A regular file can be removed**, and nothing stands where its path leads then. -/
theorem Regular.remove (ht : fs.Tree) (hr : fs.Regular path content) :
    ∃ place fs', fs.find false path = .ok place ∧ fs.node? place = some (.file content) ∧
      fs.remove path = .ok fs' ∧ Loses fs place fs' ∧ fs'.Vacant path := by
  obtain ⟨place, hf, hn⟩ := hr.find
  obtain ⟨hc, hl⟩ := find_eq_ok_iff.mp (hf false)
  have hloses := loses_prune ht hn
  refine ⟨place, fs.prune place, hf false, hn, ?_, hloses, place,
    fun follow => hloses.find_iff.mpr (hf follow), hloses.gone⟩
  have hslash := hl.not_endsWithSlash ht hn (by simp)
  have hnames : steps path = (FilePath.pieces path).filter (· ≠ "") := by
    rw [steps, hslash]
    rfl
  obtain ⟨front, last, directory, hlast, hfront, hd, rfl⟩ := hl.exists_last ht hn (by simp)
  have hdirectory := locate_eq_ok_iff.mpr (hfront.dotted hd.directory true)
  have hempty : last ≠ "" := by
    have hmem : last ∈ (FilePath.pieces path).filter (· ≠ "") := by
      rw [← hnames, hlast]
      exact List.mem_append_right _ List.mem_cons_self
    simpa using (List.mem_filter.mp hmem).2
  have hentry : fs.entry path = .ok ⟨directory, last, false⟩ := by
    rw [entry, hc, ← hnames, hlast, hslash]
    simp only [bind, Except.bind, List.dropLast_concat, hdirectory, List.getLast?_concat]
    rfl
  have hname : (Entry.mk directory last false).isName = true := by
    simp [Entry.isName, hempty, hd.dot, hd.up]
  have hlook : fs.lookUp ⟨directory, last, false⟩ = .ok (some (.file content)) := by
    rw [lookUp, if_neg (Nat.not_lt.mpr hd.short)]
    exact congrArg _ hn
  rw [FileSystem.remove, hentry]
  simp only [bind, Except.bind, hname, hlook]
  rfl

end LogFollow.FileSystem
