import LogFollow.Framing
import LogFollow.Proofs.Bytes

/-!
# Framing rules

A rule that is to cut a growing byte string must cut from the front, use up at least a byte with each
token, and stand by a token when more bytes come. Then it cuts the byte string into tokens, one after
another, and what is left.
-/
namespace LogFollow.Framing

/-- A rule cuts its tokens from the front of the bytes at hand. -/
def CutsFront (rule : Framing) : Prop :=
  ∀ data complete advance token, rule.cut data complete = .token advance token →
    token.start = 0 ∧ token.stop ≤ advance ∧ advance ≤ data.length

/-- Lines are cut from the front, whatever newlines are. -/
theorem cutsFront_newline (nl cr : Bytes) (width : Nat) : (newline nl cr width).CutsFront := by
  intro data complete advance token h
  unfold cut at h
  split at h
  · cases h
  · simp only [cutLine] at h
    cases hi : Bytes.alignedIndex? nl width data with
    | none =>
      rw [hi] at h
      cases h
    | some stop =>
      rw [hi] at h
      obtain ⟨rfl, rfl⟩ := Cut.token.inj h
      have hs := Bytes.alignedIndexFrom_spec hi
      refine ⟨rfl, ?_, by omega⟩
      change (if Bytes.endsAt cr data stop then stop - cr.length else stop) ≤ _
      split <;> omega

/-- The tokens of a rule stand at the front of the bytes, and stay there when more bytes come. -/
structure Stable (rule : Framing) : Prop where
  front : rule.CutsFront
  pos : ∀ data complete advance token, rule.cut data complete = .token advance token → 0 < advance
  stays : ∀ data advance token, rule.cut data false = .token advance token →
    ∀ more complete, rule.cut (data ++ more) complete = .token advance token

/-- Cuts tokens from the front until more bytes are needed: the tokens, and the bytes left over. -/
def split (rule : Framing) (complete : Bool) (data : Bytes) : List Bytes × Bytes :=
  match rule.cut data complete with
  | .needsMore => ([], data)
  | .token advance token =>
    if _h : 0 < advance ∧ advance ≤ data.length then
      let rest := split rule complete (data.drop advance)
      (Bytes.slice data token.start token.stop :: rest.1, rest.2)
    else ([], data)
termination_by data.length
decreasing_by
  rw [List.length_drop]
  omega

variable {rule : Framing} {data more : Bytes} {complete : Bool} {advance : Nat} {token : Span}

theorem split_needsMore (h : rule.cut data complete = .needsMore) :
    rule.split complete data = ([], data) := by
  rw [split]
  simp only [h]

theorem split_of_cut (h : rule.cut data complete = .token advance token) (hpos : 0 < advance)
    (hle : advance ≤ data.length) :
    rule.split complete data =
      (Bytes.slice data token.start token.stop :: (rule.split complete (data.drop advance)).1,
        (rule.split complete (data.drop advance)).2) := by
  conv_lhs => rw [split]
  simp only [h]
  rw [dif_pos ⟨hpos, hle⟩]

theorem split_token (hr : rule.Stable) (h : rule.cut data complete = .token advance token) :
    rule.split complete data =
      (Bytes.slice data token.start token.stop :: (rule.split complete (data.drop advance)).1,
        (rule.split complete (data.drop advance)).2) :=
  split_of_cut h (hr.pos _ _ _ _ h) (hr.front _ _ _ _ h).2.2

/-- No token is longer than the bytes, and neither is what is left. -/
theorem split_length_le (rule : Framing) (complete : Bool) (data : Bytes) :
    (∀ token ∈ (rule.split complete data).1, token.length ≤ data.length) ∧
      (rule.split complete data).2.length ≤ data.length := by
  fun_induction split rule complete data with
  | case1 data hc => exact ⟨fun _ h => absurd h List.not_mem_nil, Nat.le_refl _⟩
  | case2 data advance token hc h rest ih =>
    rw [List.length_drop] at ih
    refine ⟨fun t ht => ?_, Nat.le_trans ih.2 (Nat.sub_le _ _)⟩
    rcases List.mem_cons.mp ht with rfl | ht
    · rw [Bytes.length_slice]
      omega
    · exact Nat.le_trans (ih.1 t ht) (Nat.sub_le _ _)
  | case3 data advance token hc h => exact ⟨fun _ h => absurd h List.not_mem_nil, Nat.le_refl _⟩

/-- Bytes that end inside the first token and its end hold no token. -/
theorem Stable.cut_take_of_lt (hr : rule.Stable)
    (hc : rule.cut data complete = .token advance token) {n : Nat} (hn : n < advance) :
    rule.cut (data.take n) false = .needsMore := by
  cases hcut : rule.cut (data.take n) false with
  | needsMore => rfl
  | token advance' token' =>
    have hle := (hr.front _ _ _ _ hcut).2.2
    have hstays := hr.stays _ _ _ hcut (data.drop n) complete
    rw [List.take_append_drop, hc] at hstays
    obtain ⟨rfl, -⟩ := Cut.token.inj hstays
    rw [List.length_take] at hle
    omega

end LogFollow.Framing
