import LogFollow.Config.Settings
import LogFollow.Proofs.FileSystem

/-!
# What settings are built from

A configuration is built in steps, each of which may refuse it. If none does, the settings have what the
steps have found, and the numbers have been checked.
-/
namespace LogFollow

namespace Config

variable {c : Config}

theorem fingerprintSize_of_check (h : c.check = .ok ()) :
    minFingerprintSize ≤ c.fingerprintSize := by
  by_contra hlt
  have hlt' : c.fingerprintSize < minFingerprintSize := by omega
  unfold check at h
  simp only [hlt', if_true] at h
  split at h
  · cases h
  · split at h
    · cases h
    · cases h

/-- What built settings have taken from their configuration. -/
structure Built (c : Config) (settings : Settings) : Prop where
  checked : c.check = .ok ()
  framing : c.framing settings.encoding = .ok settings.framing
  header : c.header = .ok settings.header
  fingerprintSize : settings.fingerprintSize = c.fingerprintSize
  deleteAfterRead : settings.deleteAfterRead = c.deleteAfterRead
  startAt : settings.startAt = c.startAt

theorem built_of_build {settings : Settings} (h : c.build = .ok settings) : Built c settings := by
  unfold build at h
  obtain ⟨_, hcheck, h⟩ := bind_ok_iff.mp h
  obtain ⟨finder, -, h⟩ := bind_ok_iff.mp h
  obtain ⟨encoding, -, h⟩ := bind_ok_iff.mp h
  obtain ⟨framing, hframing, h⟩ := bind_ok_iff.mp h
  obtain ⟨header, hheader, h⟩ := bind_ok_iff.mp h
  cases h
  refine ⟨?_, hframing, hheader, rfl, rfl, rfl⟩
  cases hc : c.check with
  | error fault =>
    rw [hc] at hcheck
    cases hcheck
  | ok _ => rfl

theorem Built.fingerprintSize_pos {settings : Settings} (h : Built c settings) :
    0 < settings.fingerprintSize := by
  rw [h.fingerprintSize]
  exact Nat.lt_of_lt_of_le (by decide) (fingerprintSize_of_check h.checked)

/-- Files that are not read from their beginning are not deleted. -/
theorem keeps_of_check (h : c.check = .ok ()) (hend : c.startAt = .atEnd) :
    c.deleteAfterRead = false := by
  by_contra hd
  have hboth : c.deleteAfterRead = true ∧ c.startAt = .atEnd :=
    ⟨(Bool.not_eq_false _).mp hd, hend⟩
  unfold check at h
  simp only [hboth, and_self, if_true] at h
  repeat' split at h
  all_goals cases h

/-- Another start gives settings with this start. -/
theorem eq_of_build_startAt {settings settings' : Settings} {startAt : StartAt}
    (h : c.build = .ok settings) (h' : { c with startAt }.build = .ok settings') :
    settings' = { settings with startAt } := by
  unfold build at h h'
  obtain ⟨_, -, h⟩ := bind_ok_iff.mp h
  obtain ⟨finder, hfinder, h⟩ := bind_ok_iff.mp h
  obtain ⟨encoding, hencoding, h⟩ := bind_ok_iff.mp h
  obtain ⟨framing, hframing, h⟩ := bind_ok_iff.mp h
  obtain ⟨header, hheader, h⟩ := bind_ok_iff.mp h
  obtain ⟨_, -, h'⟩ := bind_ok_iff.mp h'
  obtain ⟨finder', hfinder', h'⟩ := bind_ok_iff.mp h'
  obtain ⟨encoding', hencoding', h'⟩ := bind_ok_iff.mp h'
  obtain ⟨framing', hframing', h'⟩ := bind_ok_iff.mp h'
  obtain ⟨header', hheader', h'⟩ := bind_ok_iff.mp h'
  obtain rfl : finder = finder' := Except.ok.inj (hfinder.symm.trans hfinder')
  obtain rfl : encoding = encoding' := Except.ok.inj (hencoding.symm.trans hencoding')
  obtain rfl : framing = framing' := Except.ok.inj (hframing.symm.trans hframing')
  obtain rfl : header = header' := Except.ok.inj (hheader.symm.trans hheader')
  cases h
  cases h'
  rfl

end Config

end LogFollow
