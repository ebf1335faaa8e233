import DebateMesh.Proofs.Classifier
import DebateMesh.Proofs.Envelope
import DebateMesh.Proofs.GuardianNode
import DebateMesh.Proofs.Moderator.Run
import DebateMesh.Proofs.Session.Header
import DebateMesh.Proofs.Settings

namespace DebateMesh

namespace GuardianNode

/-- The request waits at the node alone: no other one there looks like it in a header. The node is
free. -/
structure Awaits (n : GuardianNode) (r : RoutingRequest) : Prop where
  pending : r ∈ n.guardian.pending
  alone : ∀ q ∈ n.guardian.pending, q.showsAs (fitField requestIdWidth r.id) = true → q = r
  free : n.guardian.isSaturated = false

/-- The text waits at the node for the session's proposer, and the node is free. -/
structure Waits (n : GuardianNode) (sessionId text : String) : Prop where
  parked : ⟨sessionId, text⟩ ∈ n.guardian.parked
  alone : ∀ q ∈ n.guardian.parked, q.sessionId = sessionId → q = ⟨sessionId, text⟩
  free : n.guardian.isSaturated = false

/-- The node answers the request with its offer, which counts for a moderator that still searches.
It keeps the request, and nothing else changes that a session depends on. -/
def Offers (n : GuardianNode) (layer : Layer) (bytes : Bytes) (r : RoutingRequest) : Prop :=
  ∃ n' d, n.onDatagram (.message layer bytes) = (n', [.send layer d]) ∧
    Same n n' ∧ n'.guardian.parked = n.guardian.parked ∧
    ((∀ q ∈ n.guardian.pending, q.showsAs (fitField requestIdWidth r.id) = false) → n'.Awaits r) ∧
    ∀ (m : Moderator) (a : Active), m.active = some a → a.session = none → a.request = r →
      ModeratorLoop.onDatagram m d = ({ m with active := some { a with
        discovery := a.discovery.add (Guardian.offer n.guardian.profile r) } }, [])

end GuardianNode

/-- The critic's packet completes the debate, and the moderator is idle. -/
def Concludes (m : Moderator) (layer : Layer) (requestId : String) (a : Assignment)
    (first : DebatePacket) : Prop :=
  ∀ (c : GuardianNode) (content : String) (confidence : Binary64) (citations : List String),
    confidence.isNaN = false → layer.Fits (.debate (a.respond content confidence citations)) →
    ∃ c' d m', c.onGenerated layer (some (a.respond content confidence citations)) =
        (c', [.send layer d]) ∧
      ModeratorLoop.onDatagram m d =
        (m', [.complete a.sessionId requestId [first, a.respond content confidence citations]]) ∧
      m'.isIdle = true

/-- The proposer's packet gives the round more time, and wakes a critic that waits. -/
def Continues (m : Moderator) (layer : Layer) (requestId text : String) (a : Assignment) : Prop :=
  ∀ (p c : GuardianNode) (content : String) (confidence : Binary64) (citations : List String),
    c.Waits a.sessionId text → confidence.isNaN = false →
    layer.Fits (.debate (a.respond content confidence citations)) →
    ∃ p' d m' c', p.onGenerated layer (some (a.respond content confidence citations)) =
        (p', [.send layer d]) ∧
      ModeratorLoop.onDatagram m d = (m', [.armTimer roundTimeout]) ∧
      c.onDatagram d =
        (c', [.generate layer ⟨a.sessionId, 2, .critic, text, some content⟩]) ∧
      Concludes m' layer requestId ⟨a.sessionId, 2, .critic, text, some content⟩
        (a.respond content confidence citations)

namespace Moderator

/-- The search is about to end with these nodes as experts. They have the moderator's key, a header
tells them apart, and both await the request. -/
structure Chooses (m : Moderator) (a : Active) (p c : GuardianNode) : Prop where
  active : m.active = some a
  searching : a.session = none
  sufficient : a.discovery.isSufficient = true
  proposer : (a.discovery.select a.request m.reputation).proposer.map (·.guardianId) =
    some p.guardian.nodeId
  critic : (a.discovery.select a.request m.reputation).critic.map (·.guardianId) =
    some c.guardian.nodeId
  proposerNamed : fitField nodeIdWidth p.guardian.nodeId ≠ ""
  criticNamed : fitField nodeIdWidth c.guardian.nodeId ≠ ""
  distinct : fitField nodeIdWidth p.guardian.nodeId ≠ fitField nodeIdWidth c.guardian.nodeId
  proposerKey : p.envelope = m.envelope
  criticKey : c.envelope = m.envelope
  proposerAwaits : p.Awaits a.request
  criticAwaits : c.Awaits a.request

/-- The timeout invites both nodes; the invitation starts the proposer on the text, parks the critic
with it, and the debate goes on from there. -/
def Opens (m : Moderator) (p c : GuardianNode) (fresh : Fresh) (requestId text : String) : Prop :=
  ∃ m' layer bytes p' c', m.onTimeout fresh = (m', .ok
      [.sendInit layer [p.guardian.nodeId, c.guardian.nodeId] bytes, .armTimer roundTimeout]) ∧
    p.onDatagram (.sessionInit bytes) =
      (p', [.generate (p.offerLayer (fitField requestIdWidth requestId))
        ⟨fresh.sessionId, 1, .proposer, text, none⟩]) ∧
    c.onDatagram (.sessionInit bytes) = (c', []) ∧ c'.Waits fresh.sessionId text ∧
    Continues m' (p.offerLayer (fitField requestIdWidth requestId)) requestId text
      ⟨fresh.sessionId, 1, .proposer, text, none⟩

end Moderator

def RoutingRequest.firstLayer (r : RoutingRequest) : Layer :=
  if r.constraints.preferLocal then .mesh else .backbone

theorem Moderator.openDiscovery_layer (s : DiscoverySettings) (r : RoutingRequest) :
    (openDiscovery s r).phase.layer = r.firstLayer := by
  unfold openDiscovery RoutingRequest.firstLayer
  split <;> rfl

/-- A submission whose request is encoded starts the search with its broadcast. -/
theorem Moderator.submit_of_encodeFor {m : Moderator} {text requestId : String}
    {constraints : Option Constraints} {now : UInt64} {r : RoutingRequest} {bytes : Bytes}
    (hr : r = m.requestOf text requestId constraints now)
    (he : encodeFor r.firstLayer (.routing r) = .ok bytes) :
    m.submit text requestId constraints now =
      ({ m with active := some ⟨r, text, openDiscovery m.settings r, none⟩ },
        .ok [.broadcast r.firstLayer bytes, .armTimer (openDiscovery m.settings r).timeout]) := by
  rw [← openDiscovery_layer m.settings r] at he ⊢
  subst hr
  unfold submit
  dsimp only
  rw [requestOf] at he ⊢
  rw [he]

theorem GuardianNode.offers_of_accepts {n : GuardianNode} {layer : Layer} {bytes : Bytes}
    {r : RoutingRequest}
    (hread : (Datagram.message layer bytes).message? = some (layer, .routing r))
    (hid : r.id ≠ "") (hp : n.guardian.profile.Accepted) (ha : n.guardian.accepts r = true)
    (hf : layer.Fits (.offer (Guardian.offer n.guardian.profile r))) : n.Offers layer bytes r := by
  obtain ⟨d, hd, hheard⟩ := Datagram.ofMessage?_of_fits (hp.isValid_offer hid) hf
  have hoffer : n.guardian.offerFor r =
      ({ n.guardian with pending := enqueue n.guardian.pending r },
        some (Guardian.offer n.guardian.profile r)) := by
    rw [Guardian.offerFor, if_pos ha]
  refine ⟨{ n with
    guardian := { n.guardian with pending := enqueue n.guardian.pending r }
    offerLayers := enqueue n.offerLayers (r.id, layer) }, d, ?_, ⟨rfl, rfl⟩, rfl, ?_, ?_⟩
  · rw [onDatagram_of_message hread, onMessage, onRequest, hoffer]
    dsimp only
    rw [hd]
  · intro hnew
    refine ⟨mem_enqueue_self _ _, fun q hq hshows => ?_, ?_⟩
    · rcases mem_enqueue hq with hq | rfl
      · rw [hnew q hq] at hshows
        cases hshows
      · rfl
    · unfold Guardian.accepts at ha
      simp only [Bool.and_eq_true, Bool.not_eq_true'] at ha
      exact ha.1.2
  · intro m a hactive hsession hrequest
    rw [ModeratorLoop.onDatagram_eq, hheard]
    exact Moderator.handle_offer hactive hsession (by rw [hrequest]; rfl)

namespace Assignment

variable {a : Assignment} {content : String} {confidence : Binary64} {citations : List String}

theorem isValid_respond (hs : a.sessionId ≠ "") (hc : confidence.isNaN = false) :
    (Message.debate (a.respond content confidence citations)).isValid = true :=
  (Message.isValid_debate _).mpr ⟨hs, isUnit_clamp hc⟩

/-- The answer to an assignment is sent on its layer, and read at the other end. -/
theorem sent_of_fits {layer : Layer} (hs : a.sessionId ≠ "") (hc : confidence.isNaN = false)
    (hf : layer.Fits (.debate (a.respond content confidence citations))) (n : GuardianNode) :
    ∃ d, n.onGenerated layer (some (a.respond content confidence citations)) =
        ({ n with guardian := n.guardian.release }, [.send layer d]) ∧
      d.message? = some (layer, .debate (a.respond content confidence citations)) := by
  obtain ⟨d, hd, hread⟩ := Datagram.ofMessage?_of_fits (isValid_respond hs hc) hf
  refine ⟨d, ?_, hread⟩
  unfold GuardianNode.onGenerated
  dsimp only
  rw [Option.bind_some, hd]
  rfl

end Assignment

theorem concludes_of_first {m : Moderator} {a : Active} {d : Debate} {first : DebatePacket}
    {layer : Layer} {critic text : String} (ha : m.active = some a) (hs : a.session = some d)
    (hfirst : d.transcript = [first]) (hexpired : d.expired = false)
    (hcritic : d.criticId = some critic) (hnamed : d.sessionId ≠ "") :
    Concludes m layer a.request.id ⟨d.sessionId, 2, .critic, text, some first.content⟩ first := by
  intro c content confidence citations hconf hf
  obtain ⟨g, hsent, hread⟩ := Assignment.sent_of_fits (a := ⟨d.sessionId, 2, .critic, text,
    some first.content⟩) hnamed hconf hf c
  generalize hq : Assignment.respond ⟨d.sessionId, 2, .critic, text, some first.content⟩ content
    confidence citations = q at *
  have hround : q.round = 2 := by rw [← hq]; rfl
  have htakes : d.Takes q := by
    refine ⟨?_, by rw [← hq]; rfl, ?_, fun h1 => ?_⟩
    · simp [Debate.isTerminal, Debate.rounds, hfirst, hexpired, hcritic, maxRounds]
    · rw [hround, Debate.nextRound, Debate.rounds, hfirst]
      rfl
    · rw [hround] at h1
      exact absurd h1 (by decide)
  refine ⟨_, g, m.drop, hsent, ?_, rfl⟩
  have hend : (d.append q).status = .complete := by
    simp [Debate.status, Debate.isTerminal, Debate.append, Debate.rounds, hfirst, maxRounds]
  rw [ModeratorLoop.onDatagram_eq, hread]
  dsimp only
  rw [Moderator.handle_packet ha hs htakes (by rw [hround]; decide), hend]
  dsimp only
  rw [Moderator.finish, Debate.append, hfirst]
  rfl

/-- A critic that waits starts on the proposer's packet. -/
theorem GuardianNode.Waits.wakes {c : GuardianNode} {sessionId text : String}
    (hc : c.Waits sessionId text) {d : Datagram} {layer : Layer} {p : DebatePacket}
    (hd : d.message? = some (layer, .debate p)) (hs : p.sessionId = sessionId)
    (hround : p.round = 1) (hrole : p.role = .proposer) : ∃ c', c.onDatagram d =
      (c', [.generate layer ⟨sessionId, 2, .critic, text, some p.content⟩]) := by
  obtain ⟨parked, hex⟩ := extract_of_unique (p := fun q => q.sessionId == p.sessionId) hc.parked
    (beq_iff_eq.mpr hs.symm) fun q hq hqs => hc.alone q hq ((beq_iff_eq.mp hqs).trans hs)
  have hpacket := Guardian.onPacket_eq hround hrole hex hc.free
  rw [GuardianNode.onDatagram_of_message hd, GuardianNode.onMessage, GuardianNode.onPacket, hpacket,
    hs]
  exact ⟨_, rfl⟩

theorem continues_of_opening {m : Moderator} {a : Active} {d : Debate} {critic : String}
    (ha : m.active = some a) (hs : a.session = some d) (hnil : d.transcript = [])
    (hexpired : d.expired = false) (hcritic : d.criticId = some critic) (hnamed : d.sessionId ≠ "")
    (layer : Layer) (text : String) :
    Continues m layer a.request.id text ⟨d.sessionId, 1, .proposer, text, none⟩ := by
  intro p c content confidence citations hwaits hconf hf
  obtain ⟨g, hsent, hread⟩ := Assignment.sent_of_fits (a := ⟨d.sessionId, 1, .proposer, text, none⟩)
    hnamed hconf hf p
  have hcontent : (Assignment.respond ⟨d.sessionId, 1, .proposer, text, none⟩ content confidence
    citations).content = content := rfl
  generalize hq : Assignment.respond ⟨d.sessionId, 1, .proposer, text, none⟩ content confidence
    citations = q at *
  have hround : q.round = 1 := by rw [← hq]; rfl
  have hrole : q.role = .proposer := by rw [← hq]; rfl
  have hsession : q.sessionId = d.sessionId := by rw [← hq]; rfl
  have htakes : d.Takes q := by
    refine ⟨?_, hsession, ?_, fun _ => hrole⟩
    · simp [Debate.isTerminal, Debate.rounds, hnil, hexpired, hcritic, maxRounds]
    · rw [hround, Debate.nextRound, Debate.rounds, hnil]
      rfl
  have happend : (d.append q).transcript = [q] := by
    rw [Debate.append, hnil]
    rfl
  have hnext : (d.append q).status = .awaiting 2 := by
    unfold Debate.status Debate.isTerminal Debate.nextRound Debate.rounds
    rw [happend]
    simp [Debate.append, hexpired, hcritic, maxRounds]
  obtain ⟨c', hwakes⟩ := hwaits.wakes hread hsession hround hrole
  rw [hcontent] at hwakes
  refine ⟨_, g, m.withSession a (d.append q), c', hsent, ?_, hwakes, ?_⟩
  · rw [ModeratorLoop.onDatagram_eq, hread]
    dsimp only
    rw [Moderator.handle_packet ha hs htakes (by rw [hround]; decide), hnext]
  · rw [← hcontent]
    exact concludes_of_first (m := m.withSession a (d.append q))
      (a := { a with session := some (d.append q) }) (d := d.append q) rfl rfl happend hexpired
      hcritic hnamed

theorem GuardianNode.Awaits.of_pending {n : GuardianNode} {r : RoutingRequest}
    (hpending : n.guardian.pending = [r]) (hfree : n.guardian.isSaturated = false) :
    n.Awaits r where
  pending := by
    rw [hpending]
    exact List.mem_singleton_self r
  alone q hq _ := by
    rw [hpending] at hq
    exact List.mem_singleton.mp hq
  free := hfree

/-- An invitation goes back to the request that the node awaits, which joins with its text. -/
theorem GuardianNode.Awaits.joins {n : GuardianNode} {r : RoutingRequest} (hn : n.Awaits r)
    {i : SessionInit} {role : Role} {text : String} (hrole : i.roleOf n.guardian.nodeId = some role)
    (hid : i.requestId = fitField requestIdWidth r.id)
    (hdec : n.envelope.decryptText i.encryptedPrompt (Utf8.encode i.requestId) = some text)
    (hhash : r.payloadHash = PayloadHash.ofPrompt text) :
    ∃ pending, n.guardian.onInit i n.envelope =
      .ok ({ n.guardian with pending }.join i.sessionId text role) := by
  have hshows : r.showsAs i.requestId = true := beq_iff_eq.mpr hid.symm
  obtain ⟨pending, hex⟩ := extract_of_unique (p := (·.showsAs i.requestId)) hn.pending hshows
    fun q hq hqs => hn.alone q hq (hid ▸ hqs)
  refine ⟨pending, Guardian.onInit_eq hrole hex hdec ?_⟩
  rw [hhash]
  exact PayloadHash.verify_ofPrompt text

theorem GuardianNode.Awaits.proposes {n : GuardianNode} {r : RoutingRequest} (hn : n.Awaits r)
    {i : SessionInit} {bs : Bytes} {text : String} (hi : SessionInit.ofBytes bs = .ok i)
    (hrole : i.roleOf n.guardian.nodeId = some .proposer)
    (hid : i.requestId = fitField requestIdWidth r.id)
    (hdec : n.envelope.decryptText i.encryptedPrompt (Utf8.encode i.requestId) = some text)
    (hhash : r.payloadHash = PayloadHash.ofPrompt text) :
    ∃ n', n.onDatagram (.sessionInit bs) = (n', [.generate (n.offerLayer i.requestId)
      ⟨i.sessionId, 1, .proposer, text, none⟩]) := by
  obtain ⟨pending, hinit⟩ := hn.joins hrole hid hdec hhash
  have hacquire := Guardian.acquire_of_free (g := { n.guardian with pending }) hn.free
  rw [onDatagram_eq]
  dsimp only
  rw [onInit, hi]
  dsimp only
  rw [hinit, Guardian.join, hacquire]
  exact ⟨_, rfl⟩

theorem GuardianNode.Awaits.parks {n : GuardianNode} {r : RoutingRequest} (hn : n.Awaits r)
    {i : SessionInit} {bs : Bytes} {text : String} (hi : SessionInit.ofBytes bs = .ok i)
    (hrole : i.roleOf n.guardian.nodeId = some .critic)
    (hid : i.requestId = fitField requestIdWidth r.id)
    (hdec : n.envelope.decryptText i.encryptedPrompt (Utf8.encode i.requestId) = some text)
    (hhash : r.payloadHash = PayloadHash.ofPrompt text)
    (hnew : ∀ q ∈ n.guardian.parked, q.sessionId ≠ i.sessionId) :
    ∃ n', n.onDatagram (.sessionInit bs) = (n', []) ∧ n'.Waits i.sessionId text := by
  obtain ⟨pending, hinit⟩ := hn.joins hrole hid hdec hhash
  rw [onDatagram_eq]
  dsimp only
  rw [onInit, hi]
  dsimp only
  rw [hinit, Guardian.join]
  refine ⟨_, rfl, mem_enqueue_self _ _, fun q hq hs => ?_, hn.free⟩
  rcases mem_enqueue hq with hq | rfl
  · exact absurd hs (hnew q hq)
  · rfl

namespace Moderator

/-- Only a text that is too long cannot be sealed for an invitation. -/
theorem invitation_isOk (m : Moderator) {a : Active} (proposer : ExpertOffer)
    (critic : Option ExpertOffer) (fresh : Fresh)
    (ht : (Utf8.encode a.prompt).length ≤ Gcm.maxLength) :
    ∃ i, m.invitation a proposer critic fresh = .ok i := by
  have hid : (Utf8.encode (fitField requestIdWidth a.request.id)).length ≤ Gcm.maxLength :=
    Nat.le_trans (length_fitField _ _) (by decide)
  obtain ⟨blob, hblob⟩ := @Envelope.encryptText_isOk m.envelope fresh.nonce _ _ ht hid
  exact invitation_of_sealed proposer critic hblob

theorem invitation_tooLong {m : Moderator} {a : Active} {proposer : ExpertOffer}
    {critic : Option ExpertOffer} {fresh : Fresh}
    (ht : Gcm.maxLength < (Utf8.encode a.prompt).length) :
    m.invitation a proposer critic fresh = .error .tooLong := by
  unfold invitation
  dsimp only
  rw [Envelope.encryptText_tooLong ht]
  rfl

variable {m : Moderator} {a : Active} {p c : GuardianNode}

theorem Chooses.tooLong (h : m.Chooses a p c) (fresh : Fresh)
    (ht : Gcm.maxLength < (Utf8.encode a.prompt).length) :
    m.onTimeout fresh = (m, .error (.envelope .tooLong)) := by
  obtain ⟨proposer, hproposer, -⟩ := Option.map_eq_some_iff.mp h.proposer
  rw [onTimeout_of_select fresh h.active h.searching h.sufficient hproposer, startSession,
    invitation_tooLong ht]

theorem Chooses.opens (h : m.Chooses a p c)
    (hhash : a.request.payloadHash = PayloadHash.ofPrompt a.prompt)
    {random nonce : Bytes} (hrandom : random.length = 16) (hnonce : nonce.length = nonceWidth)
    (hnew : ∀ q ∈ c.guardian.parked, q.sessionId ≠ sessionIdOf random)
    (ht : (Utf8.encode a.prompt).length ≤ Gcm.maxLength) :
    m.Opens p c ⟨sessionIdOf random, nonce⟩ a.request.id a.prompt := by
  obtain ⟨proposer, hproposer, hproposerId⟩ := Option.map_eq_some_iff.mp h.proposer
  obtain ⟨critic, hcritic, hcriticId⟩ := Option.map_eq_some_iff.mp h.critic
  obtain ⟨i, hi⟩ := m.invitation_isOk proposer (a.discovery.select a.request m.reputation).critic
    ⟨sessionIdOf random, nonce⟩ ht
  obtain ⟨hsession, hrequest, hp, hc, hsealed⟩ := invitation_ok hi
  rw [hproposerId] at hp
  rw [hcritic, Option.map_some, hcriticId] at hc
  obtain ⟨hfits, hnamed⟩ := sessionIdOf_fits hrandom
  have hid : i.fitted.requestId = fitField requestIdWidth a.request.id := by
    rw [SessionInit.fitted, hrequest]
  have hsid : i.fitted.sessionId = sessionIdOf random := by
    rw [SessionInit.fitted, hsession, hfits]
  have hbytes : SessionInit.ofBytes i.toBytes = .ok i.fitted := by
    apply SessionInit.ofBytes_toBytes
    · rw [hsession, hfits]
      exact hnamed
    · rw [hp]
      exact h.proposerNamed
  have hroleP : i.fitted.roleOf p.guardian.nodeId = some .proposer := by
    rw [← hp]
    exact i.roleOf_fitted_proposer
  have hroleC : i.fitted.roleOf c.guardian.nodeId = some .critic := by
    rw [SessionInit.roleOf_fitted_critic hc, hp, if_neg h.distinct, if_neg h.criticNamed]
  have hdec := Envelope.decryptText_encryptText hnonce hsealed
  obtain ⟨p', hproposes⟩ := h.proposerAwaits.proposes hbytes hroleP hid
    (by rw [h.proposerKey, hid]; exact hdec) hhash
  obtain ⟨c', hparks, hwaits⟩ := h.criticAwaits.parks hbytes hroleC hid
    (by rw [h.criticKey, hid]; exact hdec) hhash (by rw [hsid]; exact hnew)
  rw [hid, hsid] at hproposes
  rw [hsid] at hwaits
  refine ⟨m.withSession a (Debate.ofInit i),
    (a.discovery.select a.request m.reputation).phase.layer, i.toBytes, p', c', ?_, hproposes,
    hparks, hwaits, ?_⟩
  · rw [onTimeout_of_select _ h.active h.searching h.sufficient hproposer, startSession, hi]
    dsimp only
    rw [SessionInit.recipients, hp, hc]
    rfl
  · have hcontinues := continues_of_opening (m := m.withSession a (Debate.ofInit i))
      (a := { a with session := some (Debate.ofInit i) }) (d := Debate.ofInit i) rfl rfl rfl rfl hc
      (by rw [Debate.ofInit, hsession]; exact hnamed)
      (p.offerLayer (fitField requestIdWidth a.request.id)) a.prompt
    change Continues _ _ _ _ ⟨i.sessionId, 1, .proposer, a.prompt, none⟩ at hcontinues
    rw [hsession] at hcontinues
    exact hcontinues

end Moderator

/-- A valid submission that its layer can carry is broadcast, and every guardian that it suits makes
an offer that counts. Whatever happens until two experts are chosen, their debate completes then,
unless the text is too long to be sealed. -/
theorem debates_complete {m : Moderator} {text requestId : String}
    {constraints : Option Constraints} {now : UInt64} {r : RoutingRequest} (hm : m.nodeId ≠ "")
    (hid : requestId ≠ "") (hc : ∀ c ∈ (constraints.getD {}).checks, c.1 = true)
    (hr : r = m.requestOf text requestId constraints now) :
    (r.firstLayer.Fits (.routing r) → ∃ bytes, m.submit text requestId constraints now =
        ({ m with active := some ⟨r, text, Moderator.openDiscovery m.settings r, none⟩ },
          .ok [.broadcast r.firstLayer bytes,
            .armTimer (Moderator.openDiscovery m.settings r).timeout]) ∧
      ∀ n : GuardianNode, n.guardian.profile.Accepted → n.guardian.accepts r = true →
        r.firstLayer.Fits (.offer (Guardian.offer n.guardian.profile r)) →
        n.Offers r.firstLayer bytes r) ∧
    ∀ (es : List Moderator.Event) (m' : Moderator) (a : Active) (p c : GuardianNode)
      (random nonce : Bytes), (∀ e ∈ es, e.isSubmit = false) →
      ((m.submit text requestId constraints now).1.run es).1 = m' → m'.Chooses a p c →
      random.length = 16 → nonce.length = nonceWidth →
      (∀ q ∈ c.guardian.parked, q.sessionId ≠ sessionIdOf random) →
      if (Utf8.encode text).length ≤ Gcm.maxLength then
        m'.Opens p c ⟨sessionIdOf random, nonce⟩ requestId text
      else m'.onTimeout ⟨sessionIdOf random, nonce⟩ = (m', .error (.envelope .tooLong)) := by
  constructor
  · intro hf
    have hv : (Message.routing r).isValid = true := by
      rw [hr]
      exact RoutingRequest.isValid_ofPrompt hid hm hc now
    obtain ⟨bytes, he, hread⟩ := encodeFor_of_fits hv hf
    refine ⟨bytes, Moderator.submit_of_encodeFor hr he, fun n hp ha hfits => ?_⟩
    exact GuardianNode.offers_of_accepts hread (by rw [hr]; exact hid) hp ha hfits
  · intro es m' a p c random nonce hes hrun hchooses hrandom hnonce hnew
    have hholds := (Moderator.Holds.submit m text requestId constraints now).run hes
    rw [hrun, ← hr] at hholds
    obtain ⟨hrequest, rfl⟩ := hholds.request a hchooses.active
    have hhash : a.request.payloadHash = PayloadHash.ofPrompt a.prompt := by
      rw [hrequest, hr]
      rfl
    have hrequestId : a.request.id = requestId := by
      rw [hrequest, hr]
      rfl
    split
    · rename_i ht
      rw [← hrequestId]
      exact hchooses.opens hhash hrandom hnonce hnew ht
    · rename_i ht
      exact hchooses.tooLong _ (Nat.lt_of_not_le ht)

def expertSettings (nodeId capability : String) : Settings where
  nodeId := nodeId
  role := .guardian
  networkKey := some "00000000000000000000000000000000"
  modelUrl := some "http://localhost"
  guardian := some { nodeId := "", expertType := "", capabilities := [capability], latency := 10 }

def expert (nodeId capability : String) : GuardianNode where
  guardian :=
    { profile := { nodeId, expertType := "", capabilities := [capability], latency := 10 } }
  envelope := asker.envelope

def solveCode : RoutingRequest := asker.requestOf "solve code" "r" none 0

/-- The moderator hears an expert's offer. -/
def heard (n : GuardianNode) : Moderator.Event :=
  .message (Message.offer (Guardian.offer n.guardian.profile solveCode)).toJson.encode

/-- The moderator once it has heard both experts. -/
def solveCodeHeard : Moderator :=
  ((asker.submit "solve code" "r" none 0).1.run
    [heard (expert "!c" "math"), heard (expert "!p" "code")]).1

theorem accepted_expert {nodeId capability : String}
    (h : ((expertSettings nodeId capability).check.toOption.map fun c => (c.role, c.guardian)) =
      some (.guardian, some (expert nodeId capability).guardian.profile)) :
    (expert nodeId capability).guardian.profile.Accepted := by
  obtain ⟨c, hc, heq⟩ := Option.map_eq_some_iff.mp h
  exact ⟨_, c, toOption_eq_some_iff.mp hc, congrArg Prod.fst heq, congrArg Prod.snd heq⟩

theorem solveCodeHeard_keeps :
    solveCodeHeard.reputation = none ∧ solveCodeHeard.envelope = asker.envelope := by
  have h : solveCodeHeard.reputation.isNone = true ∧
      solveCodeHeard.envelope.key = asker.envelope.key := by
    decide +kernel
  exact ⟨Option.isNone_iff_eq_none.mp h.1, Envelope.eq_of_key h.2⟩

theorem solveCodeHeard_active : ∃ a, solveCodeHeard.active = some a ∧ a.session = none ∧
    a.request = solveCode ∧ a.discovery.isSufficient = true ∧
    (a.discovery.select a.request none).proposer.map (·.guardianId) = some "!p" ∧
    (a.discovery.select a.request none).critic.map (·.guardianId) = some "!c" := by
  have hstate : (solveCodeHeard.active.map fun a => (a.session, a.request, a.discovery.isSufficient,
      (a.discovery.select a.request none).proposer.map (·.guardianId),
      (a.discovery.select a.request none).critic.map (·.guardianId))) =
      some (none, solveCode, true, some "!p", some "!c") := by
    decide +kernel
  obtain ⟨a, ha, hstate⟩ := Option.map_eq_some_iff.mp hstate
  obtain ⟨hsession, hstate⟩ := Prod.mk.inj hstate
  obtain ⟨hrequest, hstate⟩ := Prod.mk.inj hstate
  obtain ⟨hsufficient, hstate⟩ := Prod.mk.inj hstate
  obtain ⟨hproposer, hcritic⟩ := Prod.mk.inj hstate
  exact ⟨a, ha, hsession, hrequest, hsufficient, hproposer, hcritic⟩

theorem debates_complete_solveCode : ∃ bytes a p c,
    (expert "!p" "code").Offers .mesh bytes solveCode ∧
    (expert "!c" "math").Offers .mesh bytes solveCode ∧
    ((expert "!p" "code").onDatagram (.message .mesh bytes)).1 = p ∧
    ((expert "!c" "math").onDatagram (.message .mesh bytes)).1 = c ∧
    solveCodeHeard.Chooses a p c ∧
    solveCodeHeard.Opens p c ⟨sessionIdOf (List.replicate 16 0), List.replicate 12 0⟩ "r"
      "solve code" := by
  obtain ⟨hsearch, hdebate⟩ := @debates_complete asker "solve code" "r" none 0 solveCode (by decide)
    (by decide) (by decide +kernel) rfl
  have hlayer : solveCode.firstLayer = .mesh := by decide +kernel
  rw [hlayer] at hsearch
  obtain ⟨bytes, -, hoffers⟩ := hsearch fun h => by cases h
  have hp := hoffers (expert "!p" "code") (accepted_expert (by decide +kernel)) (by decide +kernel)
    fun h => by cases h
  have hc := hoffers (expert "!c" "math") (accepted_expert (by decide +kernel)) (by decide +kernel)
    fun h => by cases h
  have ⟨p, _, hpturn, hpsame, _, hpawaits, _⟩ := hp
  have ⟨c, _, hcturn, hcsame, hcparked, hcawaits, _⟩ := hc
  obtain ⟨hreputation, hkey⟩ := solveCodeHeard_keeps
  obtain ⟨a, ha, hsession, hrequest, hsufficient, hproposer, hcritic⟩ := solveCodeHeard_active
  have hpname : p.guardian.nodeId = "!p" := by
    rw [Guardian.nodeId, hpsame.1]
    rfl
  have hcname : c.guardian.nodeId = "!c" := by
    rw [Guardian.nodeId, hcsame.1]
    rfl
  have hchooses : solveCodeHeard.Chooses a p c := by
    constructor
    case active => exact ha
    case searching => exact hsession
    case sufficient => exact hsufficient
    case proposer => rw [hreputation, hproposer, hpname]
    case critic => rw [hreputation, hcritic, hcname]
    case proposerNamed => rw [hpname]; decide
    case criticNamed => rw [hcname]; decide
    case distinct => rw [hpname, hcname]; decide
    case proposerKey => rw [hpsame.2, hkey]; rfl
    case criticKey => rw [hcsame.2, hkey]; rfl
    case proposerAwaits => exact hrequest ▸ hpawaits (by simp [expert])
    case criticAwaits => exact hrequest ▸ hcawaits (by simp [expert])
  have hlen : (Utf8.encode "solve code").length ≤ Gcm.maxLength := by decide +kernel
  have hopens := hdebate [heard (expert "!c" "math"), heard (expert "!p" "code")] solveCodeHeard a
    p c (List.replicate 16 0) (List.replicate 12 0) (by decide +kernel) (by rw [solveCodeHeard])
    hchooses rfl rfl (by rw [hcparked]; simp [expert])
  rw [if_pos hlen] at hopens
  refine ⟨bytes, a, p, c, hp, hc, ?_, ?_, hchooses, hopens⟩
  · rw [hpturn]
  · rw [hcturn]

end DebateMesh
