/-!
# Attributes

The attributes of an event map keys to values. They are kept in the order of their keys, so equal
maps are equal values.
-/

namespace LogFollow

/-- Inserts a pair into a list that is ordered by key. A pair with the same key is replaced. -/
def insertPair (key value : String) : List (String × String) → List (String × String)
  | [] => [(key, value)]
  | pair :: rest =>
    if key < pair.1 then (key, value) :: pair :: rest
    else if key = pair.1 then (key, value) :: rest
    else pair :: insertPair key value rest

/-- Whether the keys of a list of pairs increase. -/
def Increasing (entries : List (String × String)) : Prop :=
  entries.Pairwise fun p q => p.1 < q.1

theorem lt_of_not_lt_of_ne {s t : String} (not_lt : ¬ s < t) (ne : s ≠ t) : t < s := by
  rcases Decidable.em (t < s) with h | h
  · exact h
  · exact absurd (String.le_antisymm (String.not_lt.mp h) (String.not_lt.mp not_lt)) ne

theorem mem_insertPair {key value : String} {entries : List (String × String)}
    {p : String × String} (h : p ∈ insertPair key value entries) :
    p = (key, value) ∨ p ∈ entries := by
  induction entries with
  | nil => simp_all [insertPair]
  | cons q rest ih =>
    unfold insertPair at h
    split at h
    · exact List.mem_cons.mp h
    · split at h
      · exact (List.mem_cons.mp h).imp_right (List.mem_cons_of_mem q)
      · rcases List.mem_cons.mp h with rfl | h
        · exact .inr List.mem_cons_self
        · exact (ih h).imp_right (List.mem_cons_of_mem q)

theorem Increasing.insertPair {entries : List (String × String)} (h : Increasing entries)
    (key value : String) : Increasing (insertPair key value entries) := by
  induction entries with
  | nil => simp [LogFollow.insertPair, Increasing]
  | cons q rest ih =>
    have tail : Increasing rest := (List.pairwise_cons.mp h).2
    have head := (List.pairwise_cons.mp h).1
    unfold LogFollow.insertPair
    split
    · next lt =>
      refine List.pairwise_cons.mpr ⟨fun p hp => ?_, h⟩
      rcases List.mem_cons.mp hp with rfl | hp
      · exact lt
      · exact String.lt_trans lt (head p hp)
    · split
      · next eq => exact List.pairwise_cons.mpr ⟨fun p hp => eq ▸ head p hp, tail⟩
      · next not_lt ne =>
        refine List.pairwise_cons.mpr ⟨fun p hp => ?_, ih tail⟩
        rcases mem_insertPair hp with rfl | hp
        · exact lt_of_not_lt_of_ne not_lt ne
        · exact head p hp

/-- A map from keys to values, ordered by key. -/
structure Attributes where
  entries : List (String × String)
  increasing : Increasing entries

namespace Attributes

def empty : Attributes := ⟨[], .nil⟩

instance : Inhabited Attributes := ⟨empty⟩

instance : DecidableEq Attributes := fun a b =>
  if h : a.entries = b.entries then .isTrue (by cases a; cases b; simp_all)
  else .isFalse fun eq => h (by rw [eq])

def insert (a : Attributes) (key value : String) : Attributes :=
  ⟨insertPair key value a.entries, a.increasing.insertPair key value⟩

def get? (a : Attributes) (key : String) : Option String :=
  (a.entries.find? (·.1 == key)).map (·.2)

def isEmpty (a : Attributes) : Bool := a.entries.isEmpty

/-- The map of a list of pairs; of two pairs with one key, the later one counts. -/
def ofList (pairs : List (String × String)) : Attributes :=
  pairs.foldl (fun a pair => a.insert pair.1 pair.2) empty

/-- The attributes of `a`, and those of `b`, which win where both have a key. -/
def override (a b : Attributes) : Attributes :=
  b.entries.foldl (fun a pair => a.insert pair.1 pair.2) a

end Attributes

end LogFollow
