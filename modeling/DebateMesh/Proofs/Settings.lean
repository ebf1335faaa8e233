import DebateMesh.Proofs.Message.Json
import DebateMesh.Settings

namespace DebateMesh

theorem Settings.checkProfile_ok {nodeId : String} {p p' : Profile} (hn : nodeId ≠ "")
    (h : Settings.checkProfile nodeId p = .ok p') :
    p'.nodeId ≠ "" ∧ isNonNegative p'.cost = true ∧ 0 < p'.latency := by
  unfold Settings.checkProfile at h
  split at h
  · cases h
  split at h
  · cases h
  rename_i hlatency
  split at h
  · cases h
  rename_i hcost
  split at h
  · cases h
  cases h
  refine ⟨?_, ?_, UInt32.pos_iff_ne_zero.mpr hlatency⟩
  · dsimp only
    split
    · exact hn
    · rename_i hne
      rintro heq
      exact hne (by rw [heq]; rfl)
  · rw [Bool.not_eq_true', Bool.not_eq_false] at hcost
    exact hcost

/-- The settings after a check that they pass: their key opens the envelope, and a guardian's
profile has passed its own check. -/
theorem Settings.check_ok {s : Settings} {c : CheckedSettings} (h : s.check = .ok c) :
    s.nodeId ≠ "" ∧ s.openKey = .ok c.envelope ∧ s.checkRole = .ok c.toSettings := by
  unfold Settings.check at h
  split at h
  · cases h
  rename_i hname
  split at h
  · cases h
  rename_i e hopens
  split at h
  · cases h
  rename_i checked hchecked
  cases h
  exact ⟨fun heq => hname (by rw [heq]; rfl), hopens, hchecked⟩

/-- A key opens an envelope when it is the digits of one, with or without blanks around them. -/
theorem Settings.openKey_ok {s : Settings} {e : Envelope} (h : s.openKey = .ok e) :
    ∃ text key, s.networkKey = some text ∧
      Hex.decode (Utf8.encode (Text.trim text)) = .ok key ∧ Envelope.ofKey key = .ok e := by
  unfold Settings.openKey at h
  split at h
  · cases h
  rename_i text htext
  split at h
  · cases h
  rename_i key hkey
  split at h
  · rename_i hwidth
    cases h
    exact ⟨text, key, htext, hkey, dif_pos hwidth⟩
  · cases h

theorem Settings.checkRole_networkKey {s s' : Settings} (h : s.checkRole = .ok s') :
    s'.networkKey = s.networkKey := by
  unfold Settings.checkRole at h
  split at h
  · cases h
    rfl
  · cases h
  · split at h
    · cases h
    split at h
    · cases h
    cases h
    rfl

theorem Settings.checkRole_guardian {s s' : Settings} (h : s.checkRole = .ok s')
    (hr : s'.role = .guardian) :
    ∃ p p', checkProfile s.nodeId p = .ok p' ∧ s'.guardian = some p' := by
  unfold Settings.checkRole at h
  split at h
  · rename_i hmoderator
    cases h
    rw [hmoderator] at hr
    cases hr
  · cases h
  · split at h
    · cases h
    rename_i hprofile
    split at h
    · cases h
    cases h
    exact ⟨_, _, hprofile, rfl⟩

/-- Some settings that pass their check give a guardian this profile. -/
def Profile.Accepted (p : Profile) : Prop :=
  ∃ (s : Settings) (c : CheckedSettings), s.check = .ok c ∧ c.role = .guardian ∧ c.guardian = some p

theorem Profile.accepted_of_check {s : Settings} {c : CheckedSettings} (h : s.check = .ok c)
    (hrole : c.role = .guardian) : ∃ p, c.guardian = some p ∧ p.Accepted := by
  obtain ⟨-, -, hchecked⟩ := Settings.check_ok h
  obtain ⟨-, p, -, hguardian⟩ := Settings.checkRole_guardian hchecked hrole
  exact ⟨p, hguardian, s, c, h, hrole, hguardian⟩

theorem Profile.Accepted.isValid_offer {p : Profile} (hp : p.Accepted) {r : RoutingRequest}
    (hid : r.id ≠ "") : (Message.offer (Guardian.offer p r)).isValid = true := by
  obtain ⟨s, c, hcheck, hrole, hguardian⟩ := hp
  obtain ⟨hname, -, hchecked⟩ := Settings.check_ok hcheck
  obtain ⟨p₀, p₁, hprofile, heq⟩ := Settings.checkRole_guardian hchecked hrole
  obtain rfl := Option.some.inj (heq.symm.trans hguardian)
  obtain ⟨hid', hcost, hlatency⟩ := Settings.checkProfile_ok hname hprofile
  rw [Message.isValid_offer]
  exact ⟨⟨hid, hid'⟩, hcost, hlatency⟩

end DebateMesh
