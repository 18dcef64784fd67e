import LogFollow.Proofs.FileSystem.Entries

/-!
# What a walk finds when a file is gone

The paths that a glob matches when a file has been removed are those that it matched before, in the same
order, less the spellings of the path of the file. At each step of the walk there is less to look at by
just what led to the file, and from a file the walk leads nowhere.
-/
namespace LogFollow.Glob

open FilePath (IsPiece join)

/-- The components that are still to be matched are pieces of a glob. -/
def Pending.HasPieces (x : Pending) : Prop :=
  ∀ components ∈ x.components, ∀ p ∈ components, IsPiece p.text

namespace Walk

variable {fs fs' : FileSystem} {place : Place} {path : String} {components rest : List Pattern}

/-- What there is to look at when a component has led on to a path. -/
def onward (fs : FileSystem) (rest : List Pattern) (next : String) : List Pending :=
  if rest.isEmpty then [{ path := next, components := none }] else below fs next rest

theorem below_cons (fs : FileSystem) (path : String) (p : Pattern) (rest : List Pattern) :
    below fs path (p :: rest) =
      if p.isLiteral then
        if dots.contains p.text then
          if fs.isDirectory path then onward fs rest (child path p.text) else []
        else if fs.present (child path p.text) then onward fs rest (child path p.text) else []
      else if fs.isDirectory path then
        ((if mayMatchDots p then dots.reverse.filter p.isMatch else []).flatMap fun name =>
          onward fs rest (join path name)) ++
          (fs.names path).map fun name => { path := child path name, components := some (p :: rest) }
      else [] := rfl

theorem mem_dots_of_special {p : Pattern} {name : String}
    (h : name ∈ if mayMatchDots p then dots.reverse.filter p.isMatch else []) : name ∈ dots := by
  split at h
  · exact List.mem_reverse.mp (List.mem_filter.mp h).1
  · cases h

/-- From a file the walk leads nowhere. -/
theorem below_file (ht : fs.Tree) {content : Bytes} (hf : fs.node? place = some (.file content))
    (hl : fs.leadsTo place path = true) (hp : ∀ p ∈ components, IsPiece p.text) :
    below fs path components = [] := by
  cases components with
  | nil => rfl
  | cons p rest =>
    rw [below_cons, FileSystem.not_isDirectory_of_leadsTo ht hf hl,
      FileSystem.present_below_file ht hf hl (hp p List.mem_cons_self)]
    simp

/-- There is less to look at by what led to the file. -/
theorem below_loses (ht : fs.Tree) (h : fs.Loses place fs') (hp : ∀ p ∈ components, IsPiece p.text)
    (path : String) : below fs' path components =
      (below fs path components).filter fun x => !fs.leadsTo place x.path := by
  obtain ⟨content, hf⟩ := h.file
  induction components generalizing path with
  | nil => rfl
  | cons p rest ih =>
    have hrest : ∀ p ∈ rest, IsPiece p.text := fun q hq => hp q (List.mem_cons_of_mem p hq)
    have hkept {next : String} (hl : fs.leadsTo place next = false) : onward fs' rest next =
        (onward fs rest next).filter fun x => !fs.leadsTo place x.path := by
      unfold onward
      split
      · simp [hl]
      · exact ih hrest next
    have hlost {next : String} (hl : fs.leadsTo place next = true) :
        (onward fs rest next).filter (fun x => !fs.leadsTo place x.path) = [] := by
      unfold onward
      split
      · simp [hl]
      · rw [below_file ht hf hl hrest]
        rfl
    rw [below_cons, below_cons, h.isDirectory, h.present]
    split
    · split
      · next hdots =>
        split
        · exact hkept (FileSystem.leadsTo_dots ht hf (List.contains_iff_mem.mp hdots) path).1
        · rfl
      · cases hl : fs.leadsTo place (child path p.text) with
        | false =>
          simp only [Bool.not_false, Bool.and_true]
          split
          · exact hkept hl
          · rfl
        | true =>
          simp only [Bool.not_true, Bool.and_false, Bool.false_eq_true, if_false]
          split
          · exact (hlost hl).symm
          · rfl
    · split
      · rw [List.filter_append, List.filter_flatMap, List.filter_map, h.names ht]
        congr 1
        rw [List.flatMap_def, List.flatMap_def]
        refine congrArg List.flatten (List.map_congr_left fun name hname => hkept ?_)
        exact (FileSystem.leadsTo_dots ht hf (mem_dots_of_special hname) path).2
      · rfl

/-- What there is to look at stands in the file system. -/
theorem sound_below (ht : fs.Tree) (hp : ∀ p ∈ components, IsPiece p.text) (path : String) :
    ∀ x ∈ below fs path components, x.HasPieces ∧ fs.Stands x.path := by
  induction components generalizing path with
  | nil => exact fun x hx => absurd hx List.not_mem_nil
  | cons p rest ih =>
    have honward {next : String} (hs : fs.Stands next) :
        ∀ x ∈ onward fs rest next, x.HasPieces ∧ fs.Stands x.path := by
      intro x hx
      unfold onward at hx
      split at hx
      · rw [List.mem_singleton.mp hx]
        refine ⟨?_, hs⟩
        rintro _ ⟨⟩
      · exact ih (fun q hq => hp q (List.mem_cons_of_mem p hq)) next x hx
    intro x hx
    rw [below_cons] at hx
    split at hx
    · split at hx
      · next hdots =>
        split at hx
        · next hdir =>
          have hdots := List.contains_iff_mem.mp hdots
          exact honward (FileSystem.stands_dots ht hdir hdots).1 x hx
        · cases hx
      · split at hx
        · next hpresent => exact honward (FileSystem.stands_of_present hpresent) x hx
        · cases hx
    · split at hx
      · next hdir =>
        rcases List.mem_append.mp hx with hx | hx
        · obtain ⟨name, hname, hx⟩ := List.mem_flatMap.mp hx
          have hdots := mem_dots_of_special hname
          exact honward (FileSystem.stands_dots ht hdir hdots).2 x hx
        · obtain ⟨name, hname, rfl⟩ := List.mem_map.mp hx
          refine ⟨?_, FileSystem.stands_child ht hname⟩
          rintro _ ⟨⟩
          exact hp
      · cases hx

variable {directoriesOnly : Bool} {fuel : Nat}

/-- The matches at a path whose last name is to match a component. -/
def here (fs : FileSystem) (directoriesOnly : Bool) (fuel : Nat) (path : String) (p : Pattern)
    (rest : List Pattern) : List String :=
  if ((FilePath.fileName? path).map p.isMatch).getD false then
    if rest.isEmpty then if !directoriesOnly || fs.isDirectory path then [path] else []
    else (below fs path rest).flatMap (visit fs directoriesOnly fuel)
  else []

/-- The matches below a path that a recursive component leads to. -/
def deeper (fs : FileSystem) (directoriesOnly : Bool) (fuel : Nat) (path : String)
    (components : List Pattern) : List String :=
  if fs.isDirectory path then (below fs path components).flatMap (visit fs directoriesOnly fuel)
  else []

theorem visit_succ (fs : FileSystem) (directoriesOnly : Bool) (fuel : Nat) (path : String)
    (p : Pattern) (rest : List Pattern) :
    visit fs directoriesOnly (fuel + 1) ⟨path, some (p :: rest)⟩ =
      if p.isRecursive then
        match rest.dropWhile Pattern.isRecursive with
        | [] =>
          if fs.isDirectory path then path :: deeper fs directoriesOnly fuel path [p] else []
        | q :: rest =>
          here fs directoriesOnly fuel path q rest ++
            deeper fs directoriesOnly fuel path (p :: q :: rest)
      else here fs directoriesOnly fuel path p rest := by
  rw [visit]
  simp only
  split
  · generalize rest.dropWhile Pattern.isRecursive = rest
    cases rest with
    | nil => rfl
    | cons q rest => rfl
  · rfl

theorem pieces_of_dropWhile {p : Pattern} {behind : List Pattern}
    (hd : rest.dropWhile Pattern.isRecursive = behind) (hp : ∀ q ∈ p :: rest, IsPiece q.text) :
    ∀ q ∈ behind, IsPiece q.text := by
  intro q hq
  rw [← hd] at hq
  exact hp q (List.mem_cons_of_mem p ((List.dropWhile_suffix _).subset hq))

/-- What holds of a path, and of all that there is to look at below such paths, holds of whatever the walk
finds from there. -/
theorem forall_visit (ht : fs.Tree) {P : String → Prop}
    (hstep : ∀ {path : String} {components : List Pattern}, P path →
      (∀ p ∈ components, IsPiece p.text) → ∀ x ∈ below fs path components, P x.path)
    {x : Pending} (hx : x.HasPieces) (hs : P x.path) :
    ∀ path ∈ visit fs directoriesOnly fuel x, P path := by
  induction fuel generalizing x with
  | zero => exact fun path hp => absurd hp List.not_mem_nil
  | succ fuel ih =>
    obtain ⟨path, components⟩ := x
    have hbelow {components : List Pattern} (hp : ∀ q ∈ components, IsPiece q.text) :
        ∀ m ∈ (below fs path components).flatMap (visit fs directoriesOnly fuel), P m := by
      intro m hm
      obtain ⟨x, hx, hm⟩ := List.mem_flatMap.mp hm
      exact ih (sound_below ht hp path x hx).1 (hstep hs hp x hx) m hm
    have hhere {p : Pattern} {rest : List Pattern} (hp : ∀ q ∈ rest, IsPiece q.text) :
        ∀ m ∈ here fs directoriesOnly fuel path p rest, P m := by
      intro m hm
      unfold here at hm
      split at hm
      · split at hm
        · split at hm
          · rw [List.mem_singleton.mp hm]
            exact hs
          · cases hm
        · exact hbelow hp m hm
      · cases hm
    have hdeeper {components : List Pattern} (hp : ∀ q ∈ components, IsPiece q.text) :
        ∀ m ∈ deeper fs directoriesOnly fuel path components, P m := by
      intro m hm
      unfold deeper at hm
      split at hm
      · exact hbelow hp m hm
      · cases hm
    intro m hm
    cases components with
    | none =>
      simp only [visit] at hm
      split at hm
      · rw [List.mem_singleton.mp hm]
        exact hs
      · cases hm
    | some components =>
      cases components with
      | nil => cases hm
      | cons p rest =>
        have hpieces := hx _ rfl
        have hfirst := hpieces p List.mem_cons_self
        rw [visit_succ] at hm
        split at hm
        · split at hm
          · split at hm
            · rcases List.mem_cons.mp hm with rfl | hm
              · exact hs
              · exact hdeeper (List.forall_mem_singleton.mpr hfirst) m hm
            · cases hm
          · next q rest' hdrop =>
            have hdropped := pieces_of_dropWhile hdrop hpieces
            rcases List.mem_append.mp hm with hm | hm
            · exact hhere (fun r hr => hdropped r (List.mem_cons_of_mem q hr)) m hm
            · exact hdeeper (List.forall_mem_cons.mpr ⟨hfirst, hdropped⟩) m hm
        · exact hhere (fun q hq => hpieces q (List.mem_cons_of_mem p hq)) m hm

/-- From all there is to look at but the file, the walk finds what it found before, but for the file. -/
def Agrees (fs fs' : FileSystem) (place : Place) (directoriesOnly : Bool) (fuel : Nat) : Prop :=
  ∀ x : Pending, x.HasPieces → fs.leadsTo place x.path = false →
    visit fs' directoriesOnly fuel x =
      (visit fs directoriesOnly fuel x).filter fun path => !fs.leadsTo place path

theorem Agrees.below (hw : Agrees fs fs' place directoriesOnly fuel) (ht : fs.Tree)
    (h : fs.Loses place fs') (hp : ∀ p ∈ components, IsPiece p.text) (path : String) :
    (below fs' path components).flatMap (visit fs' directoriesOnly fuel) =
      ((below fs path components).flatMap (visit fs directoriesOnly fuel)).filter fun path =>
        !fs.leadsTo place path := by
  obtain ⟨content, hf⟩ := h.file
  rw [below_loses ht h hp path, List.filter_flatMap]
  have hpieces : ∀ x ∈ Walk.below fs path components, x.HasPieces :=
    fun x hx => (sound_below ht hp path x hx).1
  generalize Walk.below fs path components = pending at hpieces
  induction pending with
  | nil => rfl
  | cons x pending hrest =>
    obtain ⟨hx, hpieces⟩ := List.forall_mem_cons.mp hpieces
    rw [List.flatMap_cons, ← hrest hpieces, List.filter_cons]
    cases hl : fs.leadsTo place x.path with
    | false =>
      rw [Bool.not_false, if_pos rfl, List.flatMap_cons, hw x hx hl]
    | true =>
      have hnothing : (visit fs directoriesOnly fuel x).filter
          (fun path => !fs.leadsTo place path) = [] := by
        refine List.filter_eq_nil_iff.mpr fun path hpath => ?_
        have hlost : fs.leadsTo place path = true := by
          refine forall_visit (P := fun path => fs.leadsTo place path = true) ht
            (fun hlost hp x hx => ?_) hx hl path hpath
          rw [below_file ht hf hlost hp] at hx
          cases hx
        rw [hlost]
        exact Bool.false_ne_true
      rw [hnothing]
      rfl

theorem Agrees.here (hw : Agrees fs fs' place directoriesOnly fuel) (ht : fs.Tree)
    (h : fs.Loses place fs') (hl : fs.leadsTo place path = false) {p : Pattern}
    (hp : ∀ q ∈ rest, IsPiece q.text) : here fs' directoriesOnly fuel path p rest =
      (here fs directoriesOnly fuel path p rest).filter fun path => !fs.leadsTo place path := by
  unfold Walk.here
  rw [h.isDirectory]
  split
  · split
    · split
      · simp [hl]
      · rfl
    · exact hw.below ht h hp path
  · rfl

theorem Agrees.deeper (hw : Agrees fs fs' place directoriesOnly fuel) (ht : fs.Tree)
    (h : fs.Loses place fs') (hp : ∀ q ∈ components, IsPiece q.text) :
    deeper fs' directoriesOnly fuel path components =
      (deeper fs directoriesOnly fuel path components).filter fun path =>
        !fs.leadsTo place path := by
  unfold Walk.deeper
  rw [h.isDirectory]
  split
  · exact hw.below ht h hp path
  · rfl

/-- **The walk finds what it found before, but for the file.** -/
theorem agrees (ht : fs.Tree) (h : fs.Loses place fs') (directoriesOnly : Bool) (fuel : Nat) :
    Agrees fs fs' place directoriesOnly fuel := by
  induction fuel with
  | zero => exact fun _ _ _ => rfl
  | succ fuel ih =>
    rintro ⟨path, components⟩ hx hl
    cases components with
    | none =>
      simp only [visit, h.isDirectory]
      split
      · simp [hl]
      · rfl
    | some components =>
      cases components with
      | nil => rfl
      | cons p rest =>
        have hpieces := hx _ rfl
        have hfirst := hpieces p List.mem_cons_self
        rw [visit_succ, visit_succ]
        split
        · split
          · rw [h.isDirectory]
            split
            · rw [ih.deeper ht h (List.forall_mem_singleton.mpr hfirst), List.filter_cons]
              simp [hl]
            · rfl
          · next q rest' hdrop =>
            have hdropped := pieces_of_dropWhile hdrop hpieces
            rw [ih.here ht h hl fun r hr => hdropped r (List.mem_cons_of_mem q hr),
              ih.deeper ht h (List.forall_mem_cons.mpr ⟨hfirst, hdropped⟩), List.filter_append]
        · exact ih.here ht h hl fun q hq => hpieces q (List.mem_cons_of_mem p hq)

/-- The components of a glob are pieces of it. -/
theorem isPiece_of_mem_componentTexts {chars : List Char} {text : String}
    (h : text ∈ componentTexts chars) : IsPiece text := by
  have hpieces : text ∈ FilePath.piecesFrom [] chars := by
    unfold componentTexts at h
    simp only at h
    split at h
    · exact List.dropLast_subset _ h
    · exact h
  exact FilePath.slash_notMem_piecesFrom List.not_mem_nil chars text hpieces

theorem pieces_of_mapM {texts : List String} (ht : ∀ text ∈ texts, IsPiece text)
    (h : texts.mapM Pattern.parse = .ok components) : ∀ p ∈ components, IsPiece p.text := by
  induction texts generalizing components with
  | nil =>
    obtain rfl := Except.ok.inj h
    exact fun p hp => absurd hp List.not_mem_nil
  | cons text texts ih =>
    rw [List.mapM_cons] at h
    obtain ⟨p, hp, h⟩ := bind_ok_iff.mp h
    obtain ⟨rest, hrest, h⟩ := bind_ok_iff.mp h
    obtain rfl := Except.ok.inj h
    obtain ⟨htext, htexts⟩ := List.forall_mem_cons.mp ht
    refine List.forall_mem_cons.mpr ⟨?_, ih htexts hrest⟩
    unfold Pattern.parse at hp
    cases htokens : Pattern.parseFrom (text.length + 1) 0 none [] text.toList with
    | error e =>
      rw [htokens] at hp
      cases hp
    | ok tokens =>
      rw [htokens] at hp
      obtain rfl := Except.ok.inj hp
      exact htext

end Walk

variable {fs fs' : FileSystem} {place : Place}

/-- **A glob matches what it matched before, but for the file that is gone.** -/
theorem paths_loses (ht : fs.Tree) (h : fs.Loses place fs') (glob : String) :
    paths fs' glob = (paths fs glob).filter fun path => !fs.leadsTo place path := by
  unfold paths
  simp only
  split
  · rfl
  · next components hparse =>
    have hpieces := Walk.pieces_of_mapM (fun _ => Walk.isPiece_of_mem_componentTexts) hparse
    exact (Walk.agrees ht h _ _).below ht h hpieces _

/-- Whatever a glob matches stands in the file system. -/
theorem stands_of_mem_paths (ht : fs.Tree) {glob path : String} (h : path ∈ paths fs glob) :
    fs.Stands path := by
  unfold paths at h
  simp only at h
  split at h
  · cases h
  · next components hparse =>
    have hpieces := Walk.pieces_of_mapM (fun _ => Walk.isPiece_of_mem_componentTexts) hparse
    obtain ⟨x, hx, hm⟩ := List.mem_flatMap.mp h
    obtain ⟨hxpieces, hstands⟩ := Walk.sound_below ht hpieces _ x hx
    refine Walk.forall_visit ht (fun _ hp y hy => ?_) hxpieces hstands path hm
    exact (Walk.sound_below ht hp _ y hy).2

end LogFollow.Glob
