import DebateMesh.Moderator
import DebateMesh.Proofs.Discovery
import DebateMesh.Proofs.Session.Transcript

namespace DebateMesh

namespace Moderator

/-- The request that a submission makes. -/
def requestOf (m : Moderator) (prompt requestId : String) (constraints : Option Constraints)
    (now : UInt64) : RoutingRequest :=
  .ofPrompt prompt m.nodeId requestId (constraints.getD {}) now

/-- A submission fails and leaves the moderator idle, or starts a search with no offers yet. -/
theorem submit_cases (m : Moderator) (prompt requestId : String) (constraints : Option Constraints)
    (now : UInt64) :
    (∃ f, m.submit prompt requestId constraints now = (m.drop, .error f)) ∨
    ∃ bytes, encodeFor (openDiscovery m.settings
        (m.requestOf prompt requestId constraints now)).phase.layer
        (.routing (m.requestOf prompt requestId constraints now)) = .ok bytes ∧
      m.submit prompt requestId constraints now =
        ({ m with active := some ⟨m.requestOf prompt requestId constraints now, prompt,
            openDiscovery m.settings (m.requestOf prompt requestId constraints now), none⟩ },
          .ok [.broadcast (openDiscovery m.settings
              (m.requestOf prompt requestId constraints now)).phase.layer bytes,
            .armTimer (openDiscovery m.settings
              (m.requestOf prompt requestId constraints now)).timeout]) := by
  unfold submit
  dsimp only
  split
  · rename_i f _
    exact Or.inl ⟨f, rfl⟩
  · rename_i bytes he
    exact Or.inr ⟨bytes, he, rfl⟩

/-- A message changes nothing, adds an offer to a search, or adds a packet to a debate. The last
packet ends the debate. -/
theorem handle_cases (m : Moderator) (msg : Message) :
    m.handle msg = (m, []) ∨
    (∃ a o, m.active = some a ∧ a.session = none ∧ msg = .offer o ∧ o.requestId = a.request.id ∧
      m.handle msg = ({ m with active := some { a with discovery := a.discovery.add o } }, [])) ∨
    ∃ a d p, m.active = some a ∧ a.session = some d ∧ msg = .debate p ∧ d.Takes p ∧
      ((d.append p).isTerminal = true ∧ m.handle msg = m.finish a (d.append p) ∨
       (d.append p).isTerminal = false ∧
        m.handle msg = (m.withSession a (d.append p), [.armTimer roundTimeout])) := by
  unfold handle
  split
  · exact Or.inl rfl
  rename_i a ha
  split
  · rename_i o hs
    split
    · rename_i hid
      exact Or.inr (Or.inl ⟨a, o, ha, hs, rfl, hid, rfl⟩)
    · exact Or.inl rfl
  · rename_i p d hs
    split
    · unfold Debate.record
      cases hr : d.refusal? p with
      | some f => exact Or.inl rfl
      | none =>
        refine Or.inr (Or.inr ⟨a, d, p, ha, hs, rfl, Debate.refusal?_eq_none hr, ?_⟩)
        unfold Debate.status
        dsimp only
        cases hend : (d.append p).isTerminal with
        | true => exact Or.inl ⟨rfl, rfl⟩
        | false => exact Or.inr ⟨rfl, rfl⟩
    · exact Or.inl rfl
  · exact Or.inl rfl

theorem handle_offer {m : Moderator} {a : Active} {o : ExpertOffer} (ha : m.active = some a)
    (hs : a.session = none) (hid : o.requestId = a.request.id) :
    m.handle (.offer o) =
      ({ m with active := some { a with discovery := a.discovery.add o } }, []) := by
  unfold handle
  simp only [ha, hs, if_pos hid]

theorem handle_packet {m : Moderator} {a : Active} {d : Debate} {p : DebatePacket}
    (ha : m.active = some a) (hs : a.session = some d) (ht : d.Takes p)
    (hr : p.round ≤ maxRounds) :
    m.handle (.debate p) = match (d.append p).status with
      | .complete => m.finish a (d.append p)
      | .awaiting _ => (m.withSession a (d.append p), [.armTimer roundTimeout]) := by
  have hrecord : d.record p = .ok (d.append p) := by
    rw [Debate.record, Debate.refusal?_of_takes ht hr]
  unfold handle
  cases hstatus : (d.append p).status <;> simp [ha, hs, ht.session, hrecord, hstatus]

/-- A timeout ends a debate, opens one with the experts chosen, or goes on to the backbone; there it
ends the request. -/
theorem onTimeout_cases (m : Moderator) (fresh : Fresh) :
    (m.active = none ∧ m.onTimeout fresh = (m, .ok [])) ∨
    (∃ a d, m.active = some a ∧ a.session = some d ∧
      m.onTimeout fresh = (m.drop, .ok [.complete d.sessionId a.request.id d.transcript])) ∨
    (∃ a proposer, m.active = some a ∧ a.session = none ∧ a.discovery.isSufficient = true ∧
      (a.discovery.select a.request m.reputation).proposer = some proposer ∧
      m.onTimeout fresh =
        m.startSession a (a.discovery.select a.request m.reputation) proposer fresh) ∨
    ∃ a, m.active = some a ∧ a.session = none ∧
      (a.discovery.isSufficient = true →
        (a.discovery.select a.request m.reputation).proposer = none) ∧
      m.onTimeout fresh = m.escalate a := by
  unfold onTimeout
  split
  · rename_i ha
    exact Or.inl ⟨ha, rfl⟩
  rename_i a ha
  split
  · rename_i d hs
    exact Or.inr (Or.inl ⟨a, d, ha, hs, rfl⟩)
  rename_i hs
  split
  · rename_i hsuff
    dsimp only
    split
    · rename_i proposer hp
      exact Or.inr (Or.inr (Or.inl ⟨a, proposer, ha, hs, hsuff, hp, rfl⟩))
    · rename_i hnone
      exact Or.inr (Or.inr (Or.inr ⟨a, ha, hs, fun _ => hnone, rfl⟩))
  · rename_i hfew
    exact Or.inr (Or.inr (Or.inr ⟨a, ha, hs, fun h => absurd h hfew, rfl⟩))

theorem onTimeout_of_select {m : Moderator} {a : Active} {proposer : ExpertOffer} (fresh : Fresh)
    (ha : m.active = some a) (hs : a.session = none) (hsuff : a.discovery.isSufficient = true)
    (hp : (a.discovery.select a.request m.reputation).proposer = some proposer) :
    m.onTimeout fresh =
      m.startSession a (a.discovery.select a.request m.reputation) proposer fresh := by
  unfold onTimeout
  simp only [ha, hs, hsuff, if_true, hp]

/-- A request goes on to the backbone with its text and offers, or it ends there. -/
theorem escalate_cases (m : Moderator) (a : Active) :
    (a.discovery.phase = .local ∧ ∃ outcome, m.escalate a =
        ({ m with active := some { a with discovery := a.discovery.escalate } }, outcome) ∧
      ∀ actions, outcome = .ok actions → ∃ bytes,
        encodeFor .backbone (.routing a.request) = .ok bytes ∧
        actions = [.broadcast .backbone bytes, .armTimer a.discovery.escalate.timeout]) ∨
    (a.discovery.phase = .backbone ∧ m.escalate a = (m.drop, .ok [.failed a.request.id])) := by
  unfold escalate
  split
  · rename_i hphase
    dsimp only
    split
    · exact Or.inl ⟨hphase, _, rfl, fun actions h => by cases h⟩
    · rename_i bytes he
      exact Or.inl ⟨hphase, _, rfl, fun actions h => ⟨bytes, he, by cases h; rfl⟩⟩
  · rename_i hphase
    exact Or.inr ⟨hphase, rfl⟩

/-- What the invitation says, and that the prompt is sealed for the request's header field. -/
theorem invitation_ok {m : Moderator} {a : Active} {proposer : ExpertOffer}
    {critic : Option ExpertOffer} {fresh : Fresh} {i : SessionInit}
    (h : m.invitation a proposer critic fresh = .ok i) :
    i.sessionId = fresh.sessionId ∧ i.requestId = a.request.id ∧
      i.proposerId = proposer.guardianId ∧ i.criticId = critic.map (·.guardianId) ∧
      m.envelope.encryptText fresh.nonce a.prompt
        (Utf8.encode (fitField requestIdWidth a.request.id)) = .ok i.encryptedPrompt := by
  unfold invitation at h
  dsimp only at h
  cases he : m.envelope.encryptText fresh.nonce a.prompt
      (Utf8.encode (fitField requestIdWidth a.request.id)) with
  | error f =>
    rw [he] at h
    cases h
  | ok blob =>
    rw [he] at h
    cases h
    exact ⟨rfl, rfl, rfl, rfl, rfl⟩

theorem invitation_of_sealed {m : Moderator} {a : Active} (proposer : ExpertOffer)
    (critic : Option ExpertOffer) {fresh : Fresh} {blob : Bytes}
    (h : m.envelope.encryptText fresh.nonce a.prompt
      (Utf8.encode (fitField requestIdWidth a.request.id)) = .ok blob) :
    ∃ i, m.invitation a proposer critic fresh = .ok i := by
  unfold invitation
  dsimp only
  rw [h]
  exact ⟨_, rfl⟩

/-- A session is opened with its invitation, or nothing happens. -/
theorem startSession_cases (m : Moderator) (a : Active) (s : Selection) (proposer : ExpertOffer)
    (fresh : Fresh) :
    (∃ f, m.invitation a proposer s.critic fresh = .error f ∧
      m.startSession a s proposer fresh = (m, .error (.envelope f))) ∨
    ∃ i, m.invitation a proposer s.critic fresh = .ok i ∧
      m.startSession a s proposer fresh = (m.withSession a (Debate.ofInit i),
        .ok [.sendInit s.phase.layer i.recipients i.toBytes, .armTimer roundTimeout]) := by
  unfold startSession
  split
  · rename_i f hi
    exact Or.inl ⟨f, hi, rfl⟩
  · rename_i i hi
    exact Or.inr ⟨i, hi, rfl⟩

end Moderator

end DebateMesh
