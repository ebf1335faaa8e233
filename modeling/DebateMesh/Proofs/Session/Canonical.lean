import DebateMesh.Proofs.Session.Header

namespace DebateMesh

open Utf8 (encodeChars encodeChar encodeChars_append)

/-- What a reader takes off the end of a field is filling, all of it. -/
theorem trimZeros_append_zeros (bs : Bytes) :
    trimZeros bs ++ List.replicate (bs.length - (trimZeros bs).length) 0 = bs :=
  rdropWhile_append_filling 0 bs

/-- A text whose octets do not end in zero does not end in NUL. -/
theorem trimmed_of_trimZeros {cs : List Char} (h : trimZeros (encodeChars cs) = encodeChars cs) :
    Trimmed cs := by
  rw [trimmed_iff]
  intro hne hlast
  have hsplit : encodeChars cs = encodeChars cs.dropLast ++ [0] := by
    conv_lhs => rw [← List.dropLast_append_getLast hne, hlast]
    rw [encodeChars_append]
    rfl
  have hlast := List.rdropWhile_eq_self_iff.mp h (by simp [hsplit])
  simp [hsplit] at hlast

theorem readField_ok {f : HeaderField} {raw : Bytes} {s : String} (h : readField f raw = .ok s) :
    Utf8.encode s = trimZeros raw := by
  unfold readField at h
  split at h
  · rename_i t hread
    cases h
    exact Utf8.encode_of_decode hread
  · cases h

theorem fitField_of_readField {f : HeaderField} {raw : Bytes} {s : String}
    (h : readField f raw = .ok s) : fitField raw.length s = s := by
  have hoctets := readField_ok h
  apply fitField_eq_self
  · rw [hoctets]
    exact (List.rdropWhile_prefix _ _).length_le
  · apply trimmed_of_trimZeros
    rw [Utf8.encode] at hoctets
    rw [hoctets, trimZeros_eq, trimZeros_eq, List.rdropWhile_idempotent]

/-- What is read out of a field is written as the same octets. -/
theorem putField_of_readField {f : HeaderField} {raw : Bytes} {s : String}
    (h : readField f raw = .ok s) : putField raw.length s = raw := by
  unfold putField
  rw [fitField_of_readField h, readField_ok h]
  exact trimZeros_append_zeros raw

namespace SessionInit

variable {session request proposer critic prompt bs : Bytes} {i : SessionInit}

/-- What the fields of an invitation are read from. -/
theorem ofFields_ok (h : ofFields session request proposer critic prompt = .ok i) :
    readField .sessionId session = .ok i.sessionId ∧
      readField .requestId request = .ok i.requestId ∧
      readField .proposerId proposer = .ok i.proposerId ∧
      readField .criticId critic = .ok (i.criticId.getD "") ∧ i.encryptedPrompt = prompt := by
  unfold ofFields at h
  cases hs : readField .sessionId session with
  | error f => simp [hs, bind, Except.bind] at h
  | ok sessionId =>
    cases hp : readField .proposerId proposer with
    | error f => simp [hs, hp, bind, Except.bind] at h
    | ok proposerId =>
      simp only [hs, hp, bind, Except.bind] at h
      split at h
      · cases h
      split at h
      · cases h
      cases hc : readField .criticId critic with
      | error f => simp [hc] at h
      | ok criticId =>
        cases hr : readField .requestId request with
        | error f => simp [hc, hr] at h
        | ok requestId =>
          simp only [hc, hr] at h
          cases h
          refine ⟨rfl, rfl, rfl, ?_, rfl⟩
          by_cases hempty : criticId = "" <;> simp [hempty]

theorem toBytes_of_ofFields (hs : session.length = sessionIdWidth)
    (hr : request.length = requestIdWidth) (hp : proposer.length = nodeIdWidth)
    (hc : critic.length = nodeIdWidth)
    (h : ofFields session request proposer critic prompt = .ok i) :
    i.toBytes = session ++ request ++ proposer ++ critic ++ prompt := by
  obtain ⟨hsession, hrequest, hproposer, hcritic, hprompt⟩ := ofFields_ok h
  unfold toBytes
  rw [← hs, ← hr, putField_of_readField hsession, putField_of_readField hrequest, hprompt]
  rw [← hp, putField_of_readField hproposer, hp, ← hc, putField_of_readField hcritic]

/-- An invitation that is read tells every octet it was read from. -/
theorem toBytes_of_ofBytes (h : ofBytes bs = .ok i) : i.toBytes = bs := by
  unfold ofBytes at h
  split at h
  · cases h
  rename_i hlong
  have hwidth : sessionIdWidth + requestIdWidth + 2 * nodeIdWidth ≤ bs.length :=
    Nat.le_of_not_lt hlong
  rw [toBytes_of_ofFields _ _ _ _ h]
  · simp only [List.append_assoc, List.take_append_drop]
  all_goals
    simp only [List.length_take, List.length_drop]
    omega

/-- An invitation arrives with every identifier as its field carries it, unless nothing is left of
its session or of its proposer. -/
theorem ofBytes_toBytes_cases (i : SessionInit) : ofBytes i.toBytes =
    if fitField sessionIdWidth i.sessionId = "" then .error (.empty .sessionId)
    else if fitField nodeIdWidth i.proposerId = "" then .error (.empty .proposerId)
    else .ok i.fitted := by
  by_cases hs : fitField sessionIdWidth i.sessionId = ""
  · rw [if_pos hs, ofBytes_toBytes_eq]
    simp only [ofFields, readField_putField, bind, Except.bind, if_pos hs]
    rfl
  · rw [if_neg hs]
    by_cases hp : fitField nodeIdWidth i.proposerId = ""
    · rw [if_pos hp, ofBytes_toBytes_unnamed hs hp]
    · rw [if_neg hp, ofBytes_toBytes hs hp]

theorem named_of_ofBytes (h : ofBytes bs = .ok i) : i.sessionId ≠ "" := by
  intro hempty
  have hfield : fitField sessionIdWidth i.sessionId = "" := by
    rw [hempty]
    rfl
  have hread := ofBytes_toBytes_cases i
  rw [toBytes_of_ofBytes h, h, if_pos hfield] at hread
  cases hread

theorem fittedCritic_eq_filter (criticId : Option String) :
    fittedCritic criticId = (criticId.map (fitField nodeIdWidth)).filter (· ≠ "") := by
  unfold fittedCritic
  cases criticId with
  | none => rfl
  | some critic => by_cases h : fitField nodeIdWidth critic = "" <;> simp [Option.filter, h]

theorem length_toBytes (i : SessionInit) :
    i.toBytes.length = headerWidth + i.encryptedPrompt.length := by
  unfold toBytes headerWidth
  simp only [List.length_append, length_putField]
  omega

theorem drop_toBytes (i : SessionInit) : i.toBytes.drop headerWidth = i.encryptedPrompt := by
  unfold toBytes
  apply List.drop_left'
  simp only [List.length_append, length_putField, headerWidth]
  omega

theorem roleOf_eq_proposer_iff (i : SessionInit) (nodeId : String) :
    i.roleOf nodeId = some .proposer ↔ fitField nodeIdWidth nodeId = i.proposerId := by
  unfold roleOf
  dsimp only
  split
  · rename_i h
    simp [h]
  · rename_i h
    split <;> simp [Ne.symm h]

/-- An invitation is written as 80 octets and its prompt. It is read with every identifier cut to
its field and a critic of whom nothing is left taken for none, but not without a session or a
proposer. Whatever can be read is the written form of what is read, and its proposer is every node
whose identifier the field cannot tell from it. -/
theorem headers_are_invitations :
    (∀ i : SessionInit, i.toBytes.length = 80 + i.encryptedPrompt.length ∧
      i.toBytes.drop 80 = i.encryptedPrompt ∧
      ofBytes i.toBytes =
        if fitField sessionIdWidth i.sessionId = "" then .error (.empty .sessionId)
        else if fitField nodeIdWidth i.proposerId = "" then .error (.empty .proposerId)
        else .ok { i with
          sessionId := fitField sessionIdWidth i.sessionId
          requestId := fitField requestIdWidth i.requestId
          proposerId := fitField nodeIdWidth i.proposerId
          criticId := (i.criticId.map (fitField nodeIdWidth)).filter (· ≠ "") }) ∧
    ∀ (bs : Bytes) (i : SessionInit), ofBytes bs = .ok i → i.toBytes = bs ∧
      ∀ nodeId, i.roleOf nodeId = some .proposer ↔ fitField nodeIdWidth nodeId = i.proposerId := by
  constructor
  · intro i
    refine ⟨i.length_toBytes, i.drop_toBytes, ?_⟩
    rw [ofBytes_toBytes_cases, fitted, fittedCritic_eq_filter]
  · intro bs i h
    exact ⟨toBytes_of_ofBytes h, i.roleOf_eq_proposer_iff⟩

/-- The proposer's identifier is cut before the character that does not fit, and the critic's is all
filling. -/
def cutInvitation : SessionInit where
  sessionId := "s\x00t"
  requestId := "r\x00\x00"
  proposerId := "0123456789abcdeé"
  criticId := some "\x00\x00"
  encryptedPrompt := [0, 7]

/-- What is read of it. -/
def shownInvitation : SessionInit where
  sessionId := "s\x00t"
  requestId := "r"
  proposerId := "0123456789abcde"
  criticId := none
  encryptedPrompt := [0, 7]

theorem headers_are_invitations_cut : ofBytes cutInvitation.toBytes = .ok shownInvitation ∧
    shownInvitation.toBytes = cutInvitation.toBytes ∧
    shownInvitation.roleOf "0123456789abcdeé" = some .proposer := by
  obtain ⟨hwritten, hread⟩ := headers_are_invitations
  obtain ⟨-, -, hcut⟩ := hwritten cutInvitation
  rw [if_neg (by decide), if_neg (by decide)] at hcut
  have hshown : ofBytes cutInvitation.toBytes = .ok shownInvitation :=
    hcut.trans (congrArg Except.ok (by decide))
  obtain ⟨hbytes, hrole⟩ := hread _ _ hshown
  exact ⟨hshown, hbytes, (hrole _).mpr (by decide)⟩

end SessionInit

end DebateMesh
