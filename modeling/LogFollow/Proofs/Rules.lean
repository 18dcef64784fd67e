import LogFollow.Proofs.Config.Settings
import LogFollow.Proofs.Framing
import LogFollow.Proofs.Pattern.Spans
import LogFollow.Proofs.Units

/-!
# Rules with lawful patterns

A rule either cuts lines in some encoding, or entries that a pattern describes. If the matches of the
pattern lie where they are looked for, each cut uses up some of the bytes at hand, and its token is among
those. Entries follow one another without a gap.
-/
namespace LogFollow

namespace Framing

/-- A rule for the lines of an encoding, or for entries whose pattern finds lawful matches. -/
def Lawful : Framing → Prop
  | newline nl cr width => ∃ e : Encoding, newline nl cr width = e.lines
  | entryStart m => m.Lawful
  | entryEnd m => m.Lawful

/-- A rule for entries, which consist of all bytes between their boundaries. -/
def Gapless : Framing → Prop
  | newline .. => False
  | entryStart _ | entryEnd _ => True

/-- What a cut leaves to be cut. -/
structure Advances (data : Bytes) (advance : Nat) (token : Span) : Prop where
  start : token.start = 0
  stop : token.stop ≤ advance
  pos : 0 < advance
  le : advance ≤ data.length

variable {m : Matcher} {data : Bytes} {complete : Bool} {advance : Nat} {token : Span}

theorem advances_cutBeforeEntry (hm : m.Lawful) (h : cutBeforeEntry m data = .token advance token) :
    Advances data advance token ∧ token = ⟨0, advance⟩ := by
  unfold cutBeforeEntry at h
  cases hf : m.find? data 0 with
  | none => simp [hf] at h
  | some first =>
    obtain ⟨-, hle, hstop⟩ := hm data 0 first hf
    simp only [hf] at h
    split at h
    · next hne =>
      obtain ⟨rfl, rfl⟩ := Cut.token.inj h
      exact ⟨⟨rfl, Nat.le_refl _, by omega, by omega⟩, rfl⟩
    · split at h
      · cases h
      · split at h
        · next second hs =>
          obtain ⟨rfl, rfl⟩ := Cut.token.inj h
          obtain ⟨hfrom, hle', hstop'⟩ := hm data _ second hs
          refine ⟨⟨rfl, Nat.le_refl _, ?_, by omega⟩, rfl⟩
          split at hfrom <;> omega
        · cases h

theorem pos_of_firstEnd? (hm : m.Lawful) {last : Span} (h : firstEnd? m data = some last) :
    0 < last.stop ∧ last.stop ≤ data.length := by
  unfold firstEnd? at h
  cases hf : m.find? data 0 with
  | none => simp [hf] at h
  | some first =>
    obtain ⟨-, hle, hstop⟩ := hm data 0 first hf
    simp only [hf] at h
    split at h
    · next hpos =>
      obtain rfl := Option.some.inj h
      exact ⟨hpos, hstop⟩
    · obtain ⟨hfrom, hle', hstop'⟩ := hm data 1 last h
      omega

theorem advances_cutAfterEntry (hm : m.Lawful)
    (h : cutAfterEntry m data complete = .token advance token) :
    Advances data advance token ∧ token = ⟨0, advance⟩ := by
  unfold cutAfterEntry at h
  cases hf : firstEnd? m data with
  | none => simp [hf] at h
  | some last =>
    obtain ⟨hpos, hle⟩ := pos_of_firstEnd? hm hf
    simp only [hf] at h
    split at h
    · cases h
    · obtain ⟨rfl, rfl⟩ := Cut.token.inj h
      exact ⟨⟨rfl, Nat.le_refl _, hpos, hle⟩, rfl⟩

/-- **Each cut uses up between one byte and all bytes at hand, and its token is among these.** -/
theorem Lawful.advances {rule : Framing} (hr : rule.Lawful)
    (h : rule.cut data complete = .token advance token) :
    Advances data advance token ∧ (rule.Gapless → token = ⟨0, advance⟩) := by
  cases rule with
  | newline nl cr width =>
    obtain ⟨e, he⟩ := hr
    rw [he] at h
    obtain ⟨hstart, hstop, hle⟩ := e.lines_stable.front _ _ _ _ h
    exact ⟨⟨hstart, hstop, e.lines_stable.pos _ _ _ _ h, hle⟩, False.elim⟩
  | entryStart m =>
    unfold cut at h
    split at h
    · cases h
    · exact (advances_cutBeforeEntry hr h).imp_right fun heq _ => heq
  | entryEnd m =>
    unfold cut at h
    split at h
    · cases h
    · exact (advances_cutAfterEntry hr h).imp_right fun heq _ => heq

theorem Lawful.cutsFront {rule : Framing} (hr : rule.Lawful) : rule.CutsFront := by
  intro data complete advance token h
  have ha := (hr.advances h).1
  exact ⟨ha.start, ha.stop, ha.le⟩

theorem lawful_of_matcher {pattern : String} {m : Matcher} (h : matcher pattern = .ok m) :
    m.Lawful := by
  unfold matcher at h
  split at h
  · cases h
    exact Matcher.lawful_ofRegex _
  · cases h

end Framing

/-- Every rule that a configuration can ask for is lawful. -/
theorem Config.lawful_of_build {c : Config} {settings : Settings} (h : c.build = .ok settings) :
    settings.framing.Lawful := by
  have hlines (e : Encoding) : e.lines.Lawful := ⟨e, rfl⟩
  have hpattern (entries : Matcher → Framing) {pattern : String} {rule : Framing}
      (hl : ∀ m : Matcher, m.Lawful → (entries m).Lawful)
      (hr : (Framing.matcher pattern).map entries = .ok rule) : rule.Lawful := by
    cases hm : Framing.matcher pattern with
    | error e =>
      rw [hm] at hr
      cases hr
    | ok m =>
      rw [hm] at hr
      cases hr
      exact hl m (Framing.lawful_of_matcher hm)
  have hframing := (built_of_build h).framing
  unfold framing at hframing
  split at hframing
  · exact Except.ok.inj hframing ▸ hlines _
  · split at hframing
    · cases hframing
    · exact hpattern .entryStart (fun _ hm => hm) hframing
    · exact hpattern .entryEnd (fun _ hm => hm) hframing
    · exact Except.ok.inj hframing ▸ hlines _

end LogFollow
