import LogFollow.Proofs.FileSystem
import Mathlib.Data.List.Induction

/-!
# Steps in a tree

Following the steps of a path has an outcome, if it has one, by one rule for each kind of step: a dot, a
double dot, a link, or a name. From these rules follows which directory the last step is taken from.
-/
namespace LogFollow.FileSystem

/-- What can be a name in a directory: a text without a slash that is not empty, not too long, and
neither a dot nor a double dot. -/
structure IsEntry (name : String) : Prop where
  nonempty : name ≠ ""
  piece : '/' ∉ name.toList
  dot : name ≠ "."
  up : name ≠ ".."
  short : name.utf8ByteSize ≤ nameLimit

/-- What stands at a place stands under a name in a directory, and the home directory is one. -/
structure Tree (fs : FileSystem) : Prop where
  home : fs.node? fs.home = some .directory
  parent : ∀ place node, fs.node? place = some node → fs.node? place.dropLast = some .directory
  names : ∀ entry ∈ fs.nodes, ∀ name, entry.1.getLast? = some name → IsEntry name

variable {fs : FileSystem} {place : Place} {path : String} {content : Bytes}

theorem mem_nodes {node : Node} (hp : place ≠ []) (h : fs.node? place = some node) :
    (place, node) ∈ fs.nodes := by
  obtain ⟨name, rest, rfl⟩ := List.exists_cons_of_ne_nil hp
  obtain ⟨before, after, hnodes, -⟩ := List.lookup_eq_some_iff.mp h
  rw [hnodes]
  exact List.mem_append_right _ List.mem_cons_self

theorem exists_node {entry : Place × Node} (h : entry ∈ fs.nodes) :
    ∃ node, fs.node? entry.1 = some node := by
  obtain ⟨p, node⟩ := entry
  cases p with
  | nil => exact ⟨.directory, rfl⟩
  | cons name rest =>
    have hlookup : (fs.nodes.lookup (name :: rest)).isSome = true :=
      List.lookup_isSome_iff.mpr ⟨_, h, beq_self_eq_true _⟩
    exact Option.isSome_iff_exists.mp hlookup

/-- A path starts in a directory. -/
theorem Tree.origin (ht : fs.Tree) (path : String) :
    fs.node? (origin fs.home path) = some .directory := by
  unfold FileSystem.origin
  split
  · rfl
  · exact ht.home

/-- All that a place lies below are directories. -/
theorem Tree.above (ht : fs.Tree) {below : Place} (hb : below ≠ []) {node : Node}
    (h : fs.node? (place ++ below) = some node) : fs.node? place = some .directory := by
  induction below using List.reverseRecOn generalizing node with
  | nil => exact absurd rfl hb
  | append_singleton front last ih =>
    have hparent := ht.parent _ _ h
    rw [← List.append_assoc, List.dropLast_concat] at hparent
    by_cases hf : front = []
    · rwa [hf, List.append_nil] at hparent
    · exact ih hf hparent

/-- A step leads down from a directory: the name is not too long, and neither a dot nor a double
dot. -/
structure Descends (fs : FileSystem) (here : Place) (name : String) : Prop where
  directory : fs.node? here = some .directory
  dot : name ≠ "."
  up : name ≠ ".."
  short : name.utf8ByteSize ≤ nameLimit

theorem IsEntry.descends {here : Place} {name : String} (hn : IsEntry name)
    (hd : fs.node? here = some .directory) : fs.Descends here name :=
  ⟨hd, hn.dot, hn.up, hn.short⟩

/-- Steps from a place are followed to another one, with some links left to follow. Where the steps end,
nothing need stand, or a link that is not to be followed may. -/
inductive Follows (fs : FileSystem) (follow : Bool) : Nat → Place → List String → Place → Prop
  | here (links : Nat) (place : Place) : Follows fs follow links place [] place
  | dot {links : Nat} {here place : Place} {rest : List String} :
      fs.node? here = some .directory → Follows fs follow links here rest place →
      Follows fs follow links here ("." :: rest) place
  | up {links : Nat} {here place : Place} {rest : List String} :
      fs.node? here = some .directory → Follows fs follow links here.dropLast rest place →
      Follows fs follow links here (".." :: rest) place
  | link {links : Nat} {here place : Place} {name target : String} {rest : List String} :
      fs.Descends here name → fs.node? (here ++ [name]) = some (.link target) →
      (rest.isEmpty && !follow) = false →
      Follows fs follow links (origin here target) (steps target ++ rest) place →
      Follows fs follow (links + 1) here (name :: rest) place
  | down {links : Nat} {here place : Place} {name : String} {node : Node} {rest : List String} :
      fs.Descends here name → fs.node? (here ++ [name]) = some node →
      (∀ target, node ≠ .link target) → Follows fs follow links (here ++ [name]) rest place →
      Follows fs follow links here (name :: rest) place
  | unfollowed {links : Nat} {here : Place} {name target : String} : fs.Descends here name →
      fs.node? (here ++ [name]) = some (.link target) → follow = false →
      Follows fs follow links here [name] (here ++ [name])
  | missing {links : Nat} {here : Place} {name : String} : fs.Descends here name →
      fs.node? (here ++ [name]) = none → Follows fs follow links here [name] (here ++ [name])

/-- One step down. -/
theorem Descends.locate {here : Place} {name : String} (h : fs.Descends here name) (follow : Bool)
    (links : Nat) (rest : List String) :
    fs.locate follow links here (name :: rest) =
      match fs.node? (here ++ [name]) with
      | some (.link target) =>
        if rest.isEmpty && !follow then .ok (here ++ [name])
        else
          match links with
          | 0 => .error .tooManyLinks
          | links + 1 => fs.locate follow links (origin here target) (steps target ++ rest)
      | some _ => fs.locate follow links (here ++ [name]) rest
      | none => if rest.isEmpty then .ok (here ++ [name]) else .error .notFound := by
  rw [FileSystem.locate, h.directory]
  exact (if_neg h.dot).trans ((if_neg h.up).trans (if_neg (Nat.not_lt.mpr h.short)))

/-- The last step down comes to its end, whatever stands there. -/
theorem Descends.locate_last {here : Place} {name : String} (h : fs.Descends here name)
    (links : Nat) : fs.locate false links here [name] = .ok (here ++ [name]) := by
  rw [h.locate]
  cases fs.node? (here ++ [name]) with
  | none => rfl
  | some node =>
    cases node with
    | link target => rfl
    | file content =>
      simp only
      rw [FileSystem.locate]
    | directory =>
      simp only
      rw [FileSystem.locate]

theorem locate_eq_ok_iff {follow : Bool} {links : Nat} {here target : Place}
    {names : List String} :
    fs.locate follow links here names = .ok target ↔ Follows fs follow links here names target := by
  constructor
  · intro h
    fun_induction FileSystem.locate fs follow links here names with
    | case1 =>
      cases h
      exact .here _ _
    | case2 links here rest hd ih => exact .dot hd (ih h)
    | case3 links here rest hd hdot ih => exact .up hd (ih h)
    | case5 links here name rest hd hdot hup hshort next link hlink hlast =>
      rw [Bool.and_eq_true, List.isEmpty_iff, Bool.not_eq_true'] at hlast
      obtain ⟨rfl, hfollow⟩ := hlast
      obtain rfl := Except.ok.inj h
      exact .unfollowed ⟨hd, hdot, hup, Nat.not_lt.mp hshort⟩ hlink hfollow
    | case7 here name rest hd hdot hup hshort next link hlink hlast links ih =>
      exact .link ⟨hd, hdot, hup, Nat.not_lt.mp hshort⟩ hlink (Bool.not_eq_true _ ▸ hlast) (ih h)
    | case8 links here name rest hd hdot hup hshort next node hnode hstands ih =>
      exact .down ⟨hd, hdot, hup, Nat.not_lt.mp hshort⟩ hstands (fun t ht => hnode t ht) (ih h)
    | case9 links here name rest hd hdot hup hshort next hnone hlast =>
      obtain rfl := List.isEmpty_iff.mp hlast
      obtain rfl := Except.ok.inj h
      exact .missing ⟨hd, hdot, hup, Nat.not_lt.mp hshort⟩ hnone
    | case4 | case6 | case10 | case11 | case12 => cases h
  · intro h
    induction h with
    | here links place => rw [FileSystem.locate]
    | dot hd _ ih =>
      rw [FileSystem.locate, hd]
      simpa only [if_true] using ih
    | up hd _ ih =>
      rw [FileSystem.locate, hd]
      simpa only [if_true, if_neg (by decide : ¬ ".." = ".")] using ih
    | link hd hlink hlast _ ih =>
      rw [hd.locate, hlink]
      simpa only [hlast, Bool.false_eq_true, if_false] using ih
    | @down links here place name node rest hd hnode hno _ ih =>
      rw [hd.locate, hnode]
      cases node with
      | link target => exact absurd rfl (hno target)
      | file content => exact ih
      | directory => exact ih
    | unfollowed hd hlink hfollow =>
      rw [hd.locate, hlink, hfollow]
      rfl
    | missing hd hnone =>
      rw [hd.locate, hnone]
      rfl

/-- Steps are taken from a directory. -/
theorem Follows.directory {follow : Bool} {links : Nat} {here place : Place} {name : String}
    {rest : List String} (h : Follows fs follow links here (name :: rest) place) :
    fs.node? here = some .directory := by
  cases h with
  | dot hd _ => exact hd
  | up hd _ => exact hd
  | link hd _ _ _ => exact hd.directory
  | down hd _ _ _ => exact hd.directory
  | unfollowed hd _ _ => exact hd.directory
  | missing hd _ => exact hd.directory

/-- Steps behind others are taken from where those lead. -/
theorem Follows.locate_append {links : Nat} {here place : Place} {front : List String}
    (h : Follows fs true links here front place) :
    ∃ left, ∀ follow rest, rest ≠ [] →
      fs.locate follow links here (front ++ rest) = fs.locate follow left place rest := by
  induction h with
  | here links place => exact ⟨links, fun _ _ _ => rfl⟩
  | dot hd _ ih =>
    obtain ⟨left, ih⟩ := ih
    refine ⟨left, fun follow rest hne => ?_⟩
    rw [List.cons_append, FileSystem.locate, hd]
    simpa only [if_true] using ih follow rest hne
  | up hd _ ih =>
    obtain ⟨left, ih⟩ := ih
    refine ⟨left, fun follow rest hne => ?_⟩
    rw [List.cons_append, FileSystem.locate, hd]
    simpa only [if_true, if_neg (by decide : ¬ ".." = ".")] using ih follow rest hne
  | link hd hlink _ _ ih =>
    obtain ⟨left, ih⟩ := ih
    refine ⟨left, fun follow rest hne => ?_⟩
    have hgoes : ∀ names : List String, ((names ++ rest).isEmpty && !follow) = false := by
      intro names
      rw [List.isEmpty_eq_false_iff.mpr (List.append_ne_nil_of_right_ne_nil names hne),
        Bool.false_and]
    rw [List.cons_append, hd.locate, hlink]
    simp only [hgoes, Bool.false_eq_true, if_false]
    rw [← List.append_assoc]
    exact ih follow rest hne
  | @down links here place name node front hd hnode hno _ ih =>
    obtain ⟨left, ih⟩ := ih
    refine ⟨left, fun follow rest hne => ?_⟩
    rw [List.cons_append, hd.locate, hnode]
    cases node with
    | link target => exact absurd rfl (hno target)
    | file content => exact ih follow rest hne
    | directory => exact ih follow rest hne
  | unfollowed _ _ hfollow => exact absurd hfollow (by decide)
  | @missing links here name hd hnone =>
    refine ⟨links, fun follow rest hne => ?_⟩
    obtain ⟨next, rest, rfl⟩ := List.exists_cons_of_ne_nil hne
    rw [List.cons_append, hd.locate, hnone, FileSystem.locate, hnone]
    rfl

/-- The last step of a path is taken from the directory that the steps before it lead to. -/
theorem Follows.last {follow : Bool} {links : Nat} {here place : Place} {front : List String}
    {last : String} (h : Follows fs follow links here (front ++ [last]) place) :
    ∃ directory left, Follows fs true links here front directory ∧
      Follows fs follow left directory [last] place := by
  have hfirst {links : Nat} {here place : Place} (h : Follows fs follow links here [last] place) :
      ∃ directory left, Follows fs true links here [] directory ∧
        Follows fs follow left directory [last] place :=
    ⟨here, links, .here _ _, h⟩
  generalize hn : front ++ [last] = names at h
  -- the last step stays the last one when a link is followed on the way
  induction h generalizing front with
  | here links place => exact absurd hn (by simp)
  | dot hd h ih =>
    rcases List.append_eq_cons_iff.mp hn with ⟨rfl, hlast⟩ | ⟨front, rfl, rfl⟩
    · exact hfirst (hlast ▸ .dot hd h)
    · obtain ⟨directory, left, hf, hl⟩ := ih rfl
      exact ⟨directory, left, .dot hd hf, hl⟩
  | up hd h ih =>
    rcases List.append_eq_cons_iff.mp hn with ⟨rfl, hlast⟩ | ⟨front, rfl, rfl⟩
    · exact hfirst (hlast ▸ .up hd h)
    · obtain ⟨directory, left, hf, hl⟩ := ih rfl
      exact ⟨directory, left, .up hd hf, hl⟩
  | link hd hlink hlast h ih =>
    rcases List.append_eq_cons_iff.mp hn with ⟨rfl, hl⟩ | ⟨front, rfl, rfl⟩
    · exact hfirst (hl ▸ .link hd hlink hlast h)
    · obtain ⟨directory, left, hf, hl⟩ := ih (List.append_assoc _ front [last])
      exact ⟨directory, left, .link hd hlink (Bool.and_false _) hf, hl⟩
  | down hd hnode hno h ih =>
    rcases List.append_eq_cons_iff.mp hn with ⟨rfl, hlast⟩ | ⟨front, rfl, rfl⟩
    · exact hfirst (hlast ▸ .down hd hnode hno h)
    · obtain ⟨directory, left, hf, hl⟩ := ih rfl
      exact ⟨directory, left, .down hd hnode hno hf, hl⟩
  | unfollowed hd hlink hfollow =>
    obtain ⟨rfl, hlast⟩ := List.append_eq_singleton_iff.mp hn |>.resolve_right (by simp)
    obtain rfl := List.singleton_inj.mp hlast
    exact hfirst (.unfollowed hd hlink hfollow)
  | missing hd hnone =>
    obtain ⟨rfl, hlast⟩ := List.append_eq_singleton_iff.mp hn |>.resolve_right (by simp)
    obtain rfl := List.singleton_inj.mp hlast
    exact hfirst (.missing hd hnone)

/-- A dot behind the steps to a directory changes nothing. -/
theorem Follows.dotted {links : Nat} {here place : Place} {names : List String}
    (h : Follows fs true links here names place) (hd : fs.node? place = some .directory)
    (follow : Bool) : Follows fs follow links here (names ++ ["."]) place := by
  obtain ⟨left, hl⟩ := h.locate_append
  rw [← locate_eq_ok_iff, hl follow ["."] (List.cons_ne_nil _ _), FileSystem.locate, hd]
  simp only [if_true]
  rw [FileSystem.locate]

/-- Whether a link at the end is followed does not matter where there is none. -/
theorem Follows.follow {links : Nat} {here place : Place} {names : List String}
    (h : Follows fs false links here names place)
    (hno : ∀ target, fs.node? place ≠ some (.link target)) :
    Follows fs true links here names place := by
  induction h with
  | here links place => exact .here links place
  | dot hd _ ih => exact .dot hd (ih hno)
  | up hd _ ih => exact .up hd (ih hno)
  | link hd hlink _ _ ih => exact .link hd hlink (Bool.and_false _) (ih hno)
  | down hd hnode hlink _ ih => exact .down hd hnode hlink (ih hno)
  | unfollowed hd hlink _ => exact absurd hlink (hno _)
  | missing hd hnone => exact .missing hd hnone

/-- The last step to what is no directory is its name in the directory that holds it. -/
theorem Follows.name (ht : fs.Tree) {links : Nat} {directory : Place} {name : String} {node : Node}
    (h : Follows fs false links directory [name] place) (hf : fs.node? place = some node)
    (hno : node ≠ .directory) : fs.Descends directory name ∧ place = directory ++ [name] := by
  have hend {links : Nat} {here place : Place} (h : Follows fs false links here [] place) :
      place = here := by
    cases h
    rfl
  cases h with
  | dot hd h =>
    rw [hend h, hd] at hf
    exact absurd (Option.some.inj hf).symm hno
  | up hd h =>
    rw [hend h, ht.parent _ _ hd] at hf
    exact absurd (Option.some.inj hf).symm hno
  | link _ _ hlast _ => cases hlast
  | down hd _ _ h => exact ⟨hd, hend h⟩
  | unfollowed hd _ _ => exact ⟨hd, rfl⟩
  | missing hd _ => exact ⟨hd, rfl⟩

/-- What is no directory stands under the last name of its path, in the directory that the steps before it
lead to. -/
theorem Follows.exists_last (ht : fs.Tree) {links : Nat} {node : Node}
    (h : Follows fs false links (FileSystem.origin fs.home path) (FileSystem.steps path) place)
    (hn : fs.node? place = some node) (hno : node ≠ .directory) :
    ∃ front last directory, FileSystem.steps path = front ++ [last] ∧
      Follows fs true links (FileSystem.origin fs.home path) front directory ∧
      fs.Descends directory last ∧ place = directory ++ [last] := by
  rcases List.eq_nil_or_concat (FileSystem.steps path) with hnil | ⟨front, last, hlast⟩
  · -- without a step the path leads to where it starts
    rw [hnil] at h
    cases h
    exact absurd (Option.some.inj (hn.symm.trans (ht.origin path))) hno
  · rw [List.concat_eq_append] at hlast
    rw [hlast] at h
    obtain ⟨directory, left, hfront, hname⟩ := h.last
    obtain ⟨hd, hplace⟩ := hname.name ht hn hno
    exact ⟨front, last, directory, hlast, hfront, hd, hplace⟩

/-- Only a directory has a path that ends with a dot or a double dot. -/
theorem Follows.last_ne_dot (ht : fs.Tree) {links : Nat} {here : Place} {front : List String}
    {last : String} {node : Node} (h : Follows fs false links here (front ++ [last]) place)
    (hn : fs.node? place = some node) (hno : node ≠ .directory) : last ≠ "." ∧ last ≠ ".." := by
  obtain ⟨directory, left, -, hlast⟩ := h.last
  obtain ⟨hd, -⟩ := hlast.name ht hn hno
  exact ⟨hd.dot, hd.up⟩

/-- Only a directory has a path that ends with a slash. -/
theorem Follows.not_endsWithSlash (ht : fs.Tree) {links : Nat} {here : Place} {node : Node}
    (h : Follows fs false links here (steps path) place) (hn : fs.node? place = some node)
    (hno : node ≠ .directory) : FilePath.endsWithSlash path = false := by
  by_contra hslash
  rw [Bool.not_eq_false] at hslash
  have hsteps : steps path = (FilePath.pieces path).filter (· ≠ "") ++ ["."] := by
    rw [steps, hslash]
    rfl
  rw [hsteps] at h
  exact (h.last_ne_dot ht hn hno).1 rfl

theorem find_eq_ok_iff {follow : Bool} :
    fs.find follow path = .ok place ↔ checkPath path = .ok () ∧
      Follows fs follow linkLimit (origin fs.home path) (steps path) place := by
  rw [find, bind_ok_iff, ← locate_eq_ok_iff]
  constructor
  · rintro ⟨_, hc, hl⟩
    exact ⟨hc, hl⟩
  · rintro ⟨hc, hl⟩
    exact ⟨(), hc, hl⟩

theorem resolve_eq_ok_iff {follow : Bool} {node : Node} :
    fs.resolve follow path = .ok (place, node) ↔
      fs.find follow path = .ok place ∧ fs.node? place = some node := by
  rw [resolve, bind_ok_iff]
  constructor
  · rintro ⟨target, hf, h⟩
    split at h
    · next found hn =>
      obtain ⟨rfl, rfl⟩ := Prod.mk.inj (Except.ok.inj h)
      exact ⟨hf, hn⟩
    · cases h
  · rintro ⟨hf, hn⟩
    refine ⟨place, hf, ?_⟩
    rw [hn]
    rfl

theorem isDirectory_iff : fs.isDirectory path = true ↔
    ∃ directory, fs.resolve true path = .ok (directory, .directory) := by
  unfold isDirectory
  constructor
  · intro h
    split at h
    · next directory hresolve => exact ⟨directory, hresolve⟩
    · cases h
  · rintro ⟨directory, hresolve⟩
    rw [hresolve]

theorem present_iff : fs.present path = true ↔
    ∃ place node, fs.resolve false path = .ok (place, node) := by
  unfold present
  constructor
  · intro h
    cases hresolve : fs.resolve false path with
    | error e =>
      rw [hresolve] at h
      cases h
    | ok found => exact ⟨found.1, found.2, rfl⟩
  · rintro ⟨place, node, hresolve⟩
    rw [hresolve]
    rfl

/-- Whether the steps of a path lead to a place, if the path is not too long. A link at the end is not
followed. -/
def leadsTo (fs : FileSystem) (place : Place) (path : String) : Bool :=
  (fs.locate false linkLimit (origin fs.home path) (steps path)).toOption == some place

theorem leadsTo_iff : fs.leadsTo place path = true ↔
    fs.locate false linkLimit (origin fs.home path) (steps path) = .ok place := by
  unfold leadsTo
  cases fs.locate false linkLimit (origin fs.home path) (steps path) with
  | error e => simp [Except.toOption]
  | ok target => simp [Except.toOption]

theorem leadsTo_of_find {target : Place} (h : fs.find false path = .ok target) (place : Place) :
    fs.leadsTo place path = (target == place) := by
  have hl := locate_eq_ok_iff.mpr (find_eq_ok_iff.mp h).2
  rw [leadsTo, hl]
  rfl

end LogFollow.FileSystem
