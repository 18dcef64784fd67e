import LogFollow.FileSystem
import Mathlib.Tactic.Common

/-!
# Where paths lead

A path that is just a name leads to what stands under that name in the home directory. Any path leads
to one place at most, whatever dots and slashes it is spelled with, and it leads there as long as what is
on its way stands.
-/
namespace LogFollow

theorem bind_ok_iff {ε α β : Type} {x : Except ε α} {f : α → Except ε β} {b : β} :
    x >>= f = .ok b ↔ ∃ a, x = .ok a ∧ f a = .ok b := by
  constructor
  · intro h
    cases x with
    | error e => cases h
    | ok a => exact ⟨a, rfl, h⟩
  · rintro ⟨a, rfl, h⟩
    exact h

theorem lookup_filter {α β : Type} [BEq α] [LawfulBEq α] (entries : List (α × β)) (keep : α → Bool)
    (p : α) : (entries.filter fun entry => keep entry.1).lookup p =
      if keep p then entries.lookup p else none := by
  induction entries with
  | nil => exact (ite_self _).symm
  | cons entry rest ih =>
    rw [List.filter_cons, List.lookup_cons]
    by_cases hp : p = entry.1
    · rw [beq_iff_eq.mpr hp]
      cases hk : keep entry.1 with
      | true => rw [if_pos rfl, List.lookup_cons, beq_iff_eq.mpr hp, hp, hk, if_pos rfl]
      | false =>
        rw [if_neg Bool.false_ne_true, ih, hp, hk]
        rfl
    · have hne : (p == entry.1) = false := beq_eq_false_iff_ne.mpr hp
      rw [hne]
      split
      · rw [List.lookup_cons, hne]
        exact ih
      · exact ih

namespace FilePath

theorem slash_notMem_piecesFrom {piece : List Char} (hp : '/' ∉ piece) (cs : List Char) :
    ∀ s ∈ piecesFrom piece cs, '/' ∉ s.toList := by
  have hclosed : ∀ {piece : List Char}, '/' ∉ piece → '/' ∉ (String.ofList piece.reverse).toList := by
    intro piece hp
    rw [String.toList_ofList, List.mem_reverse]
    exact hp
  induction cs generalizing piece with
  | nil =>
    intro s hs
    rw [piecesFrom, List.mem_singleton] at hs
    exact hs ▸ hclosed hp
  | cons c rest ih =>
    intro s hs
    rw [piecesFrom] at hs
    split at hs
    · rcases List.mem_cons.mp hs with rfl | hs
      · exact hclosed hp
      · exact ih List.not_mem_nil s hs
    · next hc =>
      refine ih ?_ s hs
      rw [List.mem_cons]
      rintro (h | h)
      · exact hc h.symm
      · exact hp h

/-- The names along a path, without the dots. -/
def names (path : String) : List String := ((pieces path).filter (· ≠ "")).filter (· ≠ ".")

theorem slash_notMem_names (path : String) : "/" ∉ names path := by
  intro h
  have hpiece := (List.mem_filter.mp (List.mem_filter.mp h).1).1
  exact slash_notMem_piecesFrom List.not_mem_nil path.toList "/" hpiece (by decide)

/-- The parts of a path are its names, behind a slash or a dot where it begins with one. -/
theorem parts_eq (path : String) :
    (isAbsolute path = true ∧ parts path = "/" :: names path) ∨
      isAbsolute path = false ∧ (parts path = names path ∨ parts path = "." :: names path) := by
  unfold parts names
  cases isAbsolute path with
  | true => exact .inl ⟨rfl, rfl⟩
  | false =>
    refine .inr ⟨rfl, ?_⟩
    simp only [Bool.false_eq_true, if_false]
    split
    · next rest hrest =>
      rw [hrest]
      exact .inr rfl
    · exact .inl rfl

/-- Two spellings of a path begin in one place, and have the same names. -/
theorem names_eq_of_same {p q : String} (h : same p q = true) :
    isAbsolute p = isAbsolute q ∧ names p = names q := by
  have hparts (path : String) :
      isAbsolute path = (parts path).contains "/" ∧
        names path = (parts path).filter fun s => s ≠ "/" ∧ s ≠ "." := by
    have hslash := slash_notMem_names path
    have hnames : (names path).filter (fun s => s ≠ "/" ∧ s ≠ ".") = names path := by
      refine List.filter_eq_self.mpr fun s hs => ?_
      have hdot := (List.mem_filter.mp hs).2
      have hne : s ≠ "/" := fun he => hslash (he ▸ hs)
      simpa [hne] using hdot
    rcases parts_eq path with ⟨ha, hp⟩ | ⟨ha, hp | hp⟩
    · rw [ha, hp]
      exact ⟨by simp, by rw [List.filter_cons_of_neg (by decide), hnames]⟩
    · rw [ha, hp]
      exact ⟨by simp [hslash], hnames.symm⟩
    · rw [ha, hp]
      exact ⟨by simp [hslash], by rw [List.filter_cons_of_neg (by decide), hnames]⟩
  have he : parts p = parts q := eq_of_beq h
  rw [(hparts p).1, (hparts q).1, (hparts p).2, (hparts q).2, he]
  exact ⟨rfl, rfl⟩

end FilePath

namespace FileSystem

/-! ## Names in the home directory -/

/-- A path that is a single name, and neither too long nor a dot or a double dot. -/
structure IsName (name : String) : Prop where
  check : checkPath name = .ok ()
  steps : steps name = [name]
  relative : FilePath.isAbsolute name = false
  dot : name ≠ "."
  dots : name ≠ ".."
  short : name.utf8ByteSize ≤ nameLimit

theorem isName_logs : IsName "a.log" ∧ IsName "b.log" := by
  constructor
  · exact ⟨rfl, by decide +kernel, by decide +kernel, by decide, by decide, by decide⟩
  · exact ⟨rfl, by decide +kernel, by decide +kernel, by decide, by decide, by decide⟩

variable {fs : FileSystem} {name : String}

theorem locate_name {content : Bytes} (hn : IsName name)
    (hd : fs.node? fs.home = some .directory)
    (hf : fs.node? (fs.home ++ [name]) = some (.file content)) (follow : Bool) (links : Nat) :
    fs.locate follow links fs.home [name] = .ok (fs.home ++ [name]) := by
  rw [locate, hd]
  simp only [if_neg hn.dot, if_neg hn.dots, if_neg (Nat.not_lt.mpr hn.short), hf]
  rw [locate]

theorem resolve_name {content : Bytes} (hn : IsName name)
    (hd : fs.node? fs.home = some .directory)
    (hf : fs.node? (fs.home ++ [name]) = some (.file content)) (follow : Bool) :
    fs.resolve follow name = .ok (fs.home ++ [name], .file content) := by
  have hfind : fs.find follow name = .ok (fs.home ++ [name]) := by
    rw [find, hn.check, hn.steps, origin, hn.relative]
    exact locate_name hn hd hf follow linkLimit
  rw [resolve, hfind]
  simp only [bind, Except.bind, hf]
  rfl

theorem openPath_name {content : Bytes} (hn : IsName name)
    (hd : fs.node? fs.home = some .directory)
    (hf : fs.node? (fs.home ++ [name]) = some (.file content)) :
    fs.openPath name = .ok (.file content) := by
  rw [openPath, resolve_name hn hd hf]
  rfl

/-- The dot is the home directory. -/
theorem resolve_dot (hd : fs.node? fs.home = some .directory) :
    fs.resolve true "." = .ok (fs.home, .directory) := by
  have hlocate : fs.locate true linkLimit fs.home ["."] = .ok fs.home := by
    rw [locate, hd]
    simp only [if_true]
    rw [locate]
  have hfind : fs.find true "." = .ok fs.home := by
    rw [← hlocate]
    rfl
  rw [resolve, hfind]
  simp only [bind, Except.bind, hd]
  rfl

/-! ## When something is removed -/

/-- What stands in a file system stands in another one too. -/
structure Within (fs fs' : FileSystem) : Prop where
  home : fs.home = fs'.home
  nodes : ∀ {place node}, fs.node? place = some node → fs'.node? place = some node

theorem Within.refl (fs : FileSystem) : Within fs fs := ⟨rfl, id⟩

theorem Within.trans {fs fs' fs'' : FileSystem} (h : Within fs fs') (h' : Within fs' fs'') :
    Within fs fs'' := ⟨h.home.trans h'.home, fun hn => h'.nodes (h.nodes hn)⟩

theorem prune_within (fs : FileSystem) (place : Place) : Within (fs.prune place) fs := by
  refine ⟨rfl, fun {p node} h => ?_⟩
  cases p with
  | nil => exact h
  | cons name rest =>
    have hlookup := lookup_filter fs.nodes (fun key => !place.isPrefixOf key) (name :: rest)
    refine (Option.ite_none_right_eq_some.mp (hlookup.symm.trans h)).2

theorem remove_within {fs fs' : FileSystem} {path : String} (h : fs.remove path = .ok fs') :
    Within fs' fs := by
  obtain ⟨e, -, h⟩ := bind_ok_iff.mp h
  simp only at h
  split at h
  · cases h
  · obtain ⟨found, -, h⟩ := bind_ok_iff.mp h
    split at h
    · cases h
    · cases h
    · split at h
      · cases h
      · cases h
        exact fs.prune_within e.place

/-! ## One place only -/

/-- Steps from a place lead to another one, through directories and links that stand there. -/
inductive Leads (fs : FileSystem) : Place → List String → Place → Prop
  | here (place : Place) : Leads fs place [] place
  | dot {here place : Place} {name : String} {rest : List String} : name = "." →
      Leads fs here rest place → Leads fs here (name :: rest) place
  | up {here place : Place} {name : String} {rest : List String} : name = ".." →
      Leads fs here.dropLast rest place → Leads fs here (name :: rest) place
  | link {here place : Place} {name target : String} {rest : List String} : name ≠ "." →
      name ≠ ".." → fs.node? (here ++ [name]) = some (.link target) →
      Leads fs (origin here target) (steps target ++ rest) place → Leads fs here (name :: rest) place
  | down {here place : Place} {name : String} {node : Node} {rest : List String} : name ≠ "." →
      name ≠ ".." → fs.node? (here ++ [name]) = some node → (∀ target, node ≠ .link target) →
      Leads fs (here ++ [name]) rest place → Leads fs here (name :: rest) place

theorem leads_of_locate {fs : FileSystem} {links : Nat} {here : Place} {names : List String}
    {place : Place} {node : Node} (h : fs.locate true links here names = .ok place)
    (hn : fs.node? place = some node) : Leads fs here names place := by
  fun_induction locate fs true links here names with
  | case1 => cases h; exact .here _
  | case2 links here rest hd ih => exact .dot rfl (ih h)
  | case3 links here rest hd hdot ih => exact .up rfl (ih h)
  | case5 links here name rest hd hdot hup hshort next target hlink hlast =>
    rw [Bool.not_true, Bool.and_false] at hlast
    cases hlast
  | case7 here name rest hd hdot hup hshort next target hlink hlast links ih =>
    exact .link hdot hup hlink (ih h)
  | case8 links here name rest hd hdot hup hshort next node hnode hstands ih =>
    exact .down hdot hup hstands (fun target ht => hnode target ht) (ih h)
  | case9 links here name rest hd hdot hup hshort next hnone =>
    obtain rfl := Except.ok.inj h
    exact absurd (hn.symm.trans hnone) (Option.some_ne_none _)
  | case4 | case6 | case10 | case11 | case12 => cases h

theorem Leads.mono {fs fs' : FileSystem} (hw : Within fs fs') {here place : Place}
    {names : List String} (h : Leads fs here names place) : Leads fs' here names place := by
  induction h with
  | here place => exact .here place
  | dot hdot _ ih => exact .dot hdot ih
  | up hup _ ih => exact .up hup ih
  | link hdot hup hlink _ ih => exact .link hdot hup (hw.nodes hlink) ih
  | down hdot hup hnode hno _ ih => exact .down hdot hup (hw.nodes hnode) hno ih

theorem Leads.dots {fs : FileSystem} {here place : Place} {names : List String}
    (h : Leads fs here names place) {more : List String} (hm : ∀ name ∈ more, name = ".") :
    Leads fs here (more ++ names) place := by
  induction more with
  | nil => exact h
  | cons name rest ih =>
    exact .dot (hm name List.mem_cons_self) (ih fun name hn => hm name (List.mem_cons_of_mem _ hn))

/-- Dots do not matter. -/
theorem Leads.of_filter_eq {fs : FileSystem} {here place : Place} {names names' : List String}
    (h : Leads fs here names place) (hn : names'.filter (· ≠ ".") = names.filter (· ≠ ".")) :
    Leads fs here names' place := by
  have hdots {l : List String} (hl : ∀ name ∈ l, ¬ decide (name ≠ ".") = true) :
      ∀ name ∈ l, name = "." := fun name hm => by simpa using hl name hm
  induction h generalizing names' with
  | here place =>
    have hhere : Leads fs place [] place := .here place
    have h := hhere.dots (hdots (List.filter_eq_nil_iff.mp hn))
    rwa [List.append_nil] at h
  | dot hdot _ ih => exact ih (hn.trans (List.filter_cons_of_neg (by simpa using hdot)))
  | up hup _ ih =>
    rw [List.filter_cons_of_pos (by rw [hup]; decide), List.filter_eq_cons_iff] at hn
    obtain ⟨more, rest, rfl, hm, -, hrest⟩ := hn
    exact (Leads.up hup (ih hrest)).dots (hdots hm)
  | link hdot hup hlink _ ih =>
    rw [List.filter_cons_of_pos (by simpa using hdot), List.filter_eq_cons_iff] at hn
    obtain ⟨more, rest, rfl, hm, -, hrest⟩ := hn
    refine (Leads.link hdot hup hlink (ih ?_)).dots (hdots hm)
    rw [List.filter_append, List.filter_append, hrest]
  | down hdot hup hnode hno _ ih =>
    rw [List.filter_cons_of_pos (by simpa using hdot), List.filter_eq_cons_iff] at hn
    obtain ⟨more, rest, rfl, hm, -, hrest⟩ := hn
    exact (Leads.down hdot hup hnode hno (ih hrest)).dots (hdots hm)

/-- Steps lead to one place only. -/
theorem Leads.unique {fs : FileSystem} {here place place' : Place} {names : List String}
    (h : Leads fs here names place) (h' : Leads fs here names place') : place = place' := by
  induction h with
  | here place =>
    cases h'
    rfl
  | dot hdot _ ih =>
    cases h' with
    | dot _ h' => exact ih h'
    | up hup => exact absurd (hdot.symm.trans hup) (by decide)
    | link hno => exact absurd hdot hno
    | down hno => exact absurd hdot hno
  | up hup _ ih =>
    cases h' with
    | dot hdot => exact absurd (hdot.symm.trans hup) (by decide)
    | up _ h' => exact ih h'
    | link _ hno => exact absurd hup hno
    | down _ hno => exact absurd hup hno
  | link hdot hup hlink _ ih =>
    cases h' with
    | dot h => exact absurd h hdot
    | up h => exact absurd h hup
    | link _ _ hlink' h' =>
      obtain ⟨⟩ := Option.some.inj (hlink.symm.trans hlink')
      exact ih h'
    | down _ _ hnode hno => exact absurd (Option.some.inj (hnode.symm.trans hlink)) (hno _)
  | down hdot hup hnode hno _ ih =>
    cases h' with
    | dot h => exact absurd h hdot
    | up h => exact absurd h hup
    | link _ _ hlink => exact absurd (Option.some.inj (hnode.symm.trans hlink)) (hno _)
    | down _ _ _ _ h' => exact ih h'

theorem filter_steps (path : String) : (steps path).filter (· ≠ ".") = FilePath.names path := by
  unfold steps FilePath.names
  simp only
  split
  · rw [List.filter_append]
    simp
  · rfl

/-- What is opened is what stands where the path leads. -/
theorem leads_of_openPath {fs : FileSystem} {path : String} {opened : Opened}
    (h : fs.openPath path = .ok opened) :
    ∃ place node, Leads fs (origin fs.home path) (steps path) place ∧ fs.node? place = some node ∧
      opened = match node with
        | .file content => .file content
        | _ => .directory := by
  obtain ⟨⟨place, node⟩, hresolve, h⟩ := bind_ok_iff.mp h
  obtain ⟨place', hfind, hresolve⟩ := bind_ok_iff.mp hresolve
  obtain ⟨-, -, hlocate⟩ := bind_ok_iff.mp hfind
  split at hresolve
  · next found hn =>
    obtain ⟨rfl, rfl⟩ := Prod.mk.inj (Except.ok.inj hresolve)
    refine ⟨place', found, leads_of_locate hlocate hn, hn, ?_⟩
    cases found <;> exact (Except.ok.inj h).symm
  · cases hresolve

/-- **A path leads to the same file however it is spelled**, and still does when others are gone. -/
theorem Within.opened_eq {fs fs' : FileSystem} (hw : Within fs fs') {p q : String}
    (hs : FilePath.same p q = true) {opened opened' : Opened} (h : fs.openPath p = .ok opened)
    (h' : fs'.openPath q = .ok opened') : opened = opened' := by
  obtain ⟨place, node, hl, hn, rfl⟩ := leads_of_openPath h
  obtain ⟨place', node', hl', hn', rfl⟩ := leads_of_openPath h'
  obtain ⟨habs, hnames⟩ := FilePath.names_eq_of_same hs
  have horigin : origin fs.home p = origin fs'.home q := by
    rw [origin, origin, habs, hw.home]
  rw [horigin] at hl
  have heq : place = place' := by
    refine (hl.mono hw).unique (hl'.of_filter_eq ?_)
    rw [filter_steps, filter_steps, hnames]
  rw [← heq, hw.nodes hn] at hn'
  rw [Option.some.inj hn']

end FileSystem

end LogFollow
