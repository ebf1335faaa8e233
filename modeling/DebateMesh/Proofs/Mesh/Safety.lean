import DebateMesh.Proofs.GuardianNode
import DebateMesh.Proofs.Mesh.Debate
import DebateMesh.Proofs.Moderator

namespace DebateMesh

open History (Honest Grows Answers Sendable sendable_nil)

/-- What a node holds agrees with the invitations that were sent. -/
structure NodeSound (r : Roster) (h : History) (k : Nat) (n : GuardianNode) : Prop where
  name : r.Names k n.guardian.nodeId
  key : n.envelope = r.moderator.envelope
  parked : ∀ q ∈ n.guardian.parked, ∃ place i c, Invited r h.sent place i q.prompt ∧
    i.sessionId = q.sessionId ∧ i.criticId = some c ∧ r.Names k c

/-- A transcript holds answers to the debate's own assignments: the proposer's, and a critic's to
it. -/
def Spoken (r : Roster) (h : History) (d : Debate) (text : String) : Prop :=
  d.transcript = [] ∨ ∃ p,
    h.Answers r d.proposerId ⟨d.sessionId, 1, .proposer, text, none⟩ p ∧
    (d.transcript = [p] ∨ ∃ q c, d.criticId = some c ∧ d.transcript = [p, q] ∧
      h.Answers r c ⟨d.sessionId, 2, .critic, text, some p.content⟩ q)

/-- A debate is the one that an invitation is for. -/
structure Tracks (d : Debate) (i : SessionInit) : Prop where
  session : d.sessionId = i.sessionId
  proposer : d.proposerId = i.proposerId
  critic : d.criticId = i.criticId

/-- A debate is between the experts that the search has chosen. -/
structure Chosen (reputation : Option Reputation) (a : Active) (d : Debate) : Prop where
  proposer : (a.discovery.select a.request reputation).proposer.map (·.guardianId) =
    some d.proposerId
  critic : (a.discovery.select a.request reputation).critic.map (·.guardianId) = d.criticId

/-- What the moderator follows is the last submission, with offers of guardians and a debate to
which the chosen ones were invited. -/
structure Following (r : Roster) (h : History) (submitted : List (String × String)) (a : Active) :
    Prop where
  text : submitted.getLast? = some (a.request.id, a.prompt)
  offers : ∀ o ∈ a.discovery.offers, ∃ k, r.Names k o.guardianId
  debate : ∀ d, a.session = some d → Chosen r.moderator.reputation a d ∧
    ∃ place i, Invited r h.sent place i a.prompt ∧ Tracks d i ∧ Spoken r h d a.prompt

/-- What no event changes about the moderator. -/
structure Keeps (m m' : Moderator) : Prop where
  key : m'.envelope = m.envelope
  reputation : m'.reputation = m.reputation

structure Sound (r : Roster) (w : Mesh) : Prop where
  honest : Honest r w.history
  keeps : Keeps r.moderator w.moderator
  size : w.nodes.length = r.profiles.length
  nodes : ∀ {k : Nat} {n : GuardianNode}, w.nodes[k]? = some n → NodeSound r w.history k n
  following : ∀ {a : Active}, w.moderator.active = some a →
    Following r w.history w.submitted a

variable {r : Roster} {h h' : History} {w w' : Mesh}

theorem NodeSound.mono (hg : Grows h h') {k : Nat} {n : GuardianNode} (hn : NodeSound r h k n) :
    NodeSound r h' k n where
  name := hn.name
  key := hn.key
  parked q hq := by
    obtain ⟨place, i, c, hi, hs, hc, hk⟩ := hn.parked q hq
    exact ⟨place, i, c, hg.invited hi, hs, hc, hk⟩

theorem Spoken.mono (hg : Grows h h') {d : Debate} {text : String} (hs : Spoken r h d text) :
    Spoken r h' d text := by
  rcases hs with hnil | ⟨p, hp, hend⟩
  · exact Or.inl hnil
  · refine Or.inr ⟨p, hp.mono hg, ?_⟩
    rcases hend with hone | ⟨q, c, hc, htwo, hq⟩
    · exact Or.inl hone
    · exact Or.inr ⟨q, c, hc, htwo, hq.mono hg⟩

theorem Following.mono (hg : Grows h h') {submitted : List (String × String)} {a : Active}
    (hf : Following r h submitted a) : Following r h' submitted a where
  text := hf.text
  offers := hf.offers
  debate d hd := by
    obtain ⟨hc, place, i, hi, ht, hs⟩ := hf.debate d hd
    exact ⟨hc, place, i, hg.invited hi, ht, hs.mono hg⟩

theorem Sound.start (r : Roster) : Sound r r.start where
  honest := History.honest_empty r
  keeps := ⟨rfl, rfl⟩
  size := List.length_map _
  nodes := by
    intro k n hn
    unfold Roster.start at hn
    rw [List.getElem?_map] at hn
    obtain ⟨p, hp, rfl⟩ := Option.map_eq_some_iff.mp hn
    exact ⟨⟨p, hp, rfl⟩, rfl, fun q hq => by cases hq⟩
  following := by
    intro a ha
    change r.moderator.active = some a at ha
    rw [r.idle] at ha
    cases ha

/-- The moderator's turns: the history stays honest, the key stays, and what it follows is sound. -/
theorem Sound.turn (hw : Sound r w) {m : Moderator} {history : History}
    {submitted : List (String × String)} (hh : Honest r history) (hg : Grows w.history history)
    (hk : Keeps w.moderator m)
    (hf : ∀ a, m.active = some a → Following r history submitted a) :
    Sound r { w with moderator := m, history, submitted } where
  honest := hh
  keeps := ⟨hk.key.trans hw.keeps.key, hk.reputation.trans hw.keeps.reputation⟩
  size := hw.size
  nodes hn := (hw.nodes hn).mono hg
  following ha := hf _ ha

/-- A turn that sends what anyone may send. -/
theorem Sound.act (hw : Sound r w) {m : Moderator} {history : History}
    {submitted : List (String × String)} {ds : List Datagram} (hh : Honest r history)
    (hg : Grows w.history history) (hds : Sendable r history ds) (hk : Keeps w.moderator m)
    (hf : Grows w.history (history.post ds) →
      ∀ a, m.active = some a → Following r (history.post ds) submitted a) :
    Sound r { w with moderator := m, history := history.post ds, submitted } := by
  have hg' := hg.trans (History.grows_post history ds)
  exact hw.turn (hh.post hds) hg' hk (hf hg')

theorem Sound.rest (hw : Sound r w) {m : Moderator} {history : History}
    {submitted : List (String × String)} (hh : Honest r history) (hg : Grows w.history history)
    (hk : Keeps w.moderator m) (hidle : m.active = none) :
    Sound r { w with moderator := m, history := history.post [], submitted } := by
  apply hw.act hh hg (sendable_nil r history) hk
  intro _ a ha
  rw [hidle] at ha
  cases ha

theorem sendable_request {layer : Layer} {q : RoutingRequest} {bs : Bytes}
    (he : encodeFor layer (.routing q) = .ok bs) (r : Roster) (h : History) :
    Sendable r h [Datagram.message layer bs] := by
  have hd := Datagram.ofMessage?_of_encodeFor he
  exact History.sendable_message hd fun place => .request hd

theorem Sound.submit (hw : Sound r w) (text requestId : String) (constraints : Option Constraints)
    (now : UInt64) {actions : List Action}
    (hs : w.step? (.submit text requestId constraints now) = some (w', actions)) : Sound r w' := by
  unfold Mesh.step? Mesh.act at hs
  dsimp only at hs
  rcases w.moderator.submit_cases text requestId constraints now with
    ⟨f, hsubmit⟩ | ⟨bytes, he, hsubmit⟩
  · rw [hsubmit] at hs
    cases hs
    exact hw.rest hw.honest (Grows.refl _) ⟨rfl, rfl⟩ rfl
  · rw [hsubmit] at hs
    cases hs
    refine hw.act hw.honest (Grows.refl _) (sendable_request he r _) ⟨rfl, rfl⟩ ?_
    intro _ a ha
    cases ha
    refine ⟨List.getLast?_concat, ?_, fun d hd => by cases hd⟩
    intro o ho
    unfold Moderator.openDiscovery at ho
    split at ho <;> cases ho

theorem Sound.cancel (hw : Sound r w) {actions : List Action}
    (hs : w.step? .cancel = some (w', actions)) : Sound r w' := by
  cases hs
  exact hw.rest hw.honest (Grows.refl _) ⟨rfl, rfl⟩ rfl

/-- The invitation that opens a session names guardians and seals the text. -/
theorem Sound.invited (hw : Sound r w) {a : Active} (ha : w.moderator.active = some a)
    {proposer : ExpertOffer} {critic : Option ExpertOffer} {random nonce : Bytes} {i : SessionInit}
    (hp : proposer ∈ a.discovery.offers) (hc : ∀ o, critic = some o → o ∈ a.discovery.offers)
    (hrandom : random.length = 16) (hnonce : nonce.length = nonceWidth)
    (hi : w.moderator.invitation a proposer critic ⟨sessionIdOf random, nonce⟩ = .ok i)
    (sent : List Datagram) :
    Invited r (sent ++ [.sessionInit i.toBytes]) sent.length i a.prompt := by
  obtain ⟨hsession, hrequest, hproposer, hcritic, hsealed⟩ := Moderator.invitation_ok hi
  obtain ⟨hfits, hnamed⟩ := sessionIdOf_fits hrandom
  have hoffers := (hw.following ha).offers
  constructor
  case sent => exact List.getElem?_concat_length
  case fits => rw [hsession, hfits]
  case named => rw [hsession]; exact hnamed
  case proposer => exact hproposer ▸ hoffers proposer hp
  case critic =>
    intro c hcid
    rw [hcritic] at hcid
    obtain ⟨o, ho, rfl⟩ := Option.map_eq_some_iff.mp hcid
    exact hoffers o (hc o ho)
  case seals =>
    rw [hrequest, ← hw.keeps.key]
    exact Envelope.decryptText_encryptText hnonce hsealed

/-- The opening of a session sends the one invitation to it. -/
theorem Sound.startSession (hw : Sound r w) {a : Active} (ha : w.moderator.active = some a)
    {proposer : ExpertOffer} {random nonce : Bytes} {m : Moderator} {o : Moderator.Outcome}
    (hp : (a.discovery.select a.request w.moderator.reputation).proposer = some proposer)
    (hrandom : random.length = 16) (hnonce : nonce.length = nonceWidth)
    (hnew : sessionIdOf random ∉ w.history.sessions)
    (hs : w.moderator.startSession a (a.discovery.select a.request w.moderator.reputation) proposer
      ⟨sessionIdOf random, nonce⟩ = (m, o)) :
    Sound r { w with
      moderator := m
      history := (w.history.draw (sessionIdOf random)).post
        (o.actions.filterMap Action.datagram?) } := by
  obtain ⟨hselp, hselc⟩ := a.discovery.mem_of_select a.request w.moderator.reputation
  have hdraw := hw.honest.draw (sessionIdOf random)
  have hgdraw := History.grows_draw w.history (sessionIdOf random)
  rcases w.moderator.startSession_cases a (a.discovery.select a.request w.moderator.reputation)
    proposer ⟨sessionIdOf random, nonce⟩ with ⟨f, -, heq⟩ | ⟨i, hi, heq⟩
  · rw [heq] at hs
    cases hs
    refine hw.act hdraw hgdraw (sendable_nil r _) ⟨rfl, rfl⟩ ?_
    intro hg b hb
    exact (hw.following hb).mono hg
  · rw [heq] at hs
    cases hs
    have hinv := hw.invited ha (hselp _ hp) hselc hrandom hnonce hi
    obtain ⟨hsession, -, hproposer, hcritic, -⟩ := Moderator.invitation_ok hi
    have hg := hgdraw.trans (History.grows_post _ [.sessionInit i.toBytes])
    have hhonest : Honest r ((w.history.draw (sessionIdOf random)).post
        [.sessionInit i.toBytes]) := by
      apply hdraw.invite (hinv w.history.sent)
      · rw [hsession]
        exact List.mem_cons_self
      · intro place i' text' hi' heq
        rw [hsession] at heq
        have hold := hw.honest.drawn hi'
        rw [heq] at hold
        exact hnew hold
    refine hw.turn hhonest hg ⟨rfl, rfl⟩ ?_
    intro b hb
    cases hb
    have hold := hw.following ha
    refine ⟨hold.text, hold.offers, fun d hd => ?_⟩
    cases hd
    refine ⟨⟨?_, ?_⟩, _, i, hinv w.history.sent, ⟨rfl, rfl, rfl⟩, Or.inl rfl⟩
    · rw [← hw.keeps.reputation, hp]
      exact congrArg some hproposer.symm
    · rw [← hw.keeps.reputation]
      exact hcritic.symm

theorem Sound.escalate (hw : Sound r w) {a : Active} (ha : w.moderator.active = some a)
    (hsession : a.session = none) {m : Moderator} {o : Moderator.Outcome}
    (hs : w.moderator.escalate a = (m, o)) (sessionId : String) :
    Sound r { w with
      moderator := m
      history := (w.history.draw sessionId).post (o.actions.filterMap Action.datagram?) } := by
  have hdraw := hw.honest.draw sessionId
  have hgdraw := History.grows_draw w.history sessionId
  rcases w.moderator.escalate_cases a with ⟨-, outcome, heq, hactions⟩ | ⟨-, heq⟩
  · rw [heq] at hs
    obtain ⟨rfl, rfl⟩ := Prod.mk.inj hs
    have hposted : Sendable r (w.history.draw sessionId)
        (outcome.actions.filterMap Action.datagram?) := by
      cases outcome with
      | error f => exact sendable_nil r _
      | ok actions =>
        obtain ⟨bytes, he, rfl⟩ := hactions actions rfl
        exact sendable_request he r _
    refine hw.act hdraw hgdraw hposted ⟨rfl, rfl⟩ ?_
    intro hg b hb
    cases hb
    have hold := (hw.following ha).mono hg
    refine ⟨hold.text, hold.offers, fun d hd => ?_⟩
    rw [hsession] at hd
    cases hd
  · rw [heq] at hs
    cases hs
    exact hw.rest hdraw hgdraw ⟨rfl, rfl⟩ rfl

theorem Sound.timeout (hw : Sound r w) (random nonce : Bytes) {actions : List Action}
    (hs : w.step? (.timeout random nonce) = some (w', actions)) : Sound r w' := by
  unfold Mesh.step? Mesh.act at hs
  dsimp only at hs
  split at hs
  case isFalse => cases hs
  rename_i hcan
  obtain ⟨hrandom, hnonce, hnew⟩ := hcan
  have hdraw := hw.honest.draw (sessionIdOf random)
  have hgdraw := History.grows_draw w.history (sessionIdOf random)
  rcases w.moderator.onTimeout_cases ⟨sessionIdOf random, nonce⟩ with
    ⟨hidle, heq⟩ | ⟨a, d, ha, hd, heq⟩ | ⟨a, proposer, ha, -, -, hp, heq⟩ |
    ⟨a, ha, hsession, -, heq⟩
  · rw [heq] at hs
    cases hs
    exact hw.rest hdraw hgdraw ⟨rfl, rfl⟩ hidle
  · rw [heq] at hs
    cases hs
    exact hw.rest hdraw hgdraw ⟨rfl, rfl⟩ rfl
  · rw [heq] at hs
    cases hs
    exact hw.startSession ha hp hrandom hnonce hnew rfl
  · rw [heq] at hs
    cases hs
    exact hw.escalate ha hsession rfl _

/-- A packet that the moderator takes in is an answer to the debate's own assignment. -/
theorem Spoken.append (hh : Honest r h) {place job : Nat} {i : SessionInit} {text : String}
    {d : Debate} {p : DebatePacket} (hi : Invited r h.sent place i text) (ht : Tracks d i)
    (hs : Spoken r h d text) (htakes : d.Takes p) (hdone : (job, some p) ∈ h.done) :
    Spoken r h (d.append p) text := by
  have hsession : p.sessionId = i.sessionId := htakes.session.trans ht.session
  have hnext := htakes.next
  unfold Debate.nextRound Debate.rounds at hnext
  rcases hs with hnil | ⟨first, hfirst, hone | ⟨q, c, hc, htwo, hq⟩⟩
  · rw [hnil] at hnext
    have hp := hh.opening hi hdone hnext hsession
    rw [← ht.proposer, ← ht.session] at hp
    refine Or.inr ⟨p, hp, Or.inl ?_⟩
    unfold Debate.append
    rw [hnil]
    rfl
  · rw [hone] at hnext
    have hfirst' := hfirst
    rw [ht.proposer, ht.session] at hfirst'
    obtain ⟨c, hc, hq⟩ := hh.rebuttal hi hfirst' hdone hnext hsession
    rw [← ht.session] at hq
    refine Or.inr ⟨first, hfirst, Or.inr ⟨p, c, ht.critic.trans hc, ?_, hq⟩⟩
    unfold Debate.append
    rw [hone]
    rfl
  · have hrunning := htakes.running
    unfold Debate.isTerminal Debate.rounds at hrunning
    rw [htwo] at hrunning
    simp [maxRounds] at hrunning

theorem Sound.hear (hw : Sound r w) (place : Nat) {actions : List Action}
    (hs : w.step? (.hear place) = some (w', actions)) : Sound r w' := by
  unfold Mesh.step? Mesh.act at hs
  dsimp only at hs
  split at hs
  · cases hs
  rename_i d hd
  rw [ModeratorLoop.onDatagram_eq] at hs
  have hdeliver := hw.honest.deliver place .moderator
  have hgdeliver := History.grows_deliver w.history place .moderator
  have hquiet : Sound r { w with history := (w.history.deliver place .moderator).post [] } := by
    refine hw.act hdeliver hgdeliver (sendable_nil r _) ⟨rfl, rfl⟩ ?_
    intro hg a ha
    exact (hw.following ha).mono hg
  split at hs
  · cases hs
    exact hquiet
  rename_i layer msg hmsg
  rcases w.moderator.handle_cases msg with heq | ⟨a, o, ha, hsession, rfl, hid, heq⟩ |
    ⟨a, debate, p, ha, hsession, rfl, htakes, heq⟩
  · rw [heq] at hs
    cases hs
    exact hquiet
  · rw [heq] at hs
    cases hs
    refine hw.act hdeliver hgdeliver (sendable_nil r _) ⟨rfl, rfl⟩ ?_
    intro hg b hb
    cases hb
    have hold := (hw.following ha).mono hg
    refine ⟨hold.text, ?_, ?_⟩
    · intro x hx
      rcases List.mem_append.mp hx with hx | hx
      · exact hold.offers x hx
      · cases List.mem_singleton.mp hx
        exact hw.honest.offer hd hmsg
    · intro d hd
      rw [hsession] at hd
      cases hd
  · rcases heq with ⟨-, heq⟩ | ⟨-, heq⟩
    · rw [heq] at hs
      cases hs
      exact hw.rest hdeliver hgdeliver ⟨rfl, rfl⟩ rfl
    · rw [heq] at hs
      cases hs
      refine hw.act hdeliver hgdeliver (sendable_nil r _) ⟨rfl, rfl⟩ ?_
      intro hg b hb
      cases hb
      have hold := hw.following ha
      refine ⟨hold.text, hold.offers, ?_⟩
      intro d' hd'
      cases hd'
      obtain ⟨hchosen, place', i, hi, ht, hspoken⟩ := hold.debate debate hsession
      obtain ⟨job, hdone⟩ := hw.honest.packet hd hmsg
      exact ⟨⟨hchosen.proposer, hchosen.critic⟩, place', i, hg.invited hi,
        ⟨ht.session, ht.proposer, ht.critic⟩,
        (hspoken.append hw.honest hi ht htakes hdone).mono hg⟩

/-- A node's turns: the history stays honest, and the node agrees with it. -/
theorem Sound.work (hw : Sound r w) {k : Nat} {n : GuardianNode} {history : History}
    (hh : Honest r history) (hg : Grows w.history history) (hn : NodeSound r history k n) :
    Sound r { w with nodes := w.nodes.set k n, history } where
  honest := hh
  keeps := hw.keeps
  size := List.length_set.trans hw.size
  nodes := by
    intro l m hm
    rw [List.getElem?_set] at hm
    split at hm
    · rename_i hkl
      split at hm
      · cases hm
        exact hkl ▸ hn
      · cases hm
    · exact (hw.nodes hm).mono hg
  following ha := (hw.following ha).mono hg

theorem NodeSound.same {k : Nat} {n n' : GuardianNode} (hn : NodeSound r h k n)
    (hs : GuardianNode.Same n n')
    (hp : ∀ q ∈ n'.guardian.parked, ∃ place i c, Invited r h.sent place i q.prompt ∧
      i.sessionId = q.sessionId ∧ i.criticId = some c ∧ r.Names k c) : NodeSound r h k n' where
  name := by
    unfold Guardian.nodeId
    rw [hs.1]
    exact hn.name
  key := hs.2.trans hn.key
  parked := hp

/-- A turn after which nothing new is parked at the node. -/
theorem Sound.workOf (hw : Sound r w) {k : Nat} {n n' : GuardianNode} {history : History}
    (hh : Honest r history) (hg : Grows w.history history) (hn : w.nodes[k]? = some n)
    (hs : GuardianNode.Same n n') (hp : ∀ q ∈ n'.guardian.parked, q ∈ n.guardian.parked) :
    Sound r { w with nodes := w.nodes.set k n', history } := by
  have hmono := (hw.nodes hn).mono hg
  exact hw.work hh hg (hmono.same hs fun q hq => hmono.parked q (hp q hq))

/-- An invitation that a node reads is one that the moderator sent, with the text that it seals. -/
theorem NodeSound.reads (hh : Honest r h) {place k : Nat} {n : GuardianNode} {bs : Bytes}
    {i : SessionInit} {prompt : String} (hn : NodeSound r h k n)
    (hd : h.parcel? place (.node k) = some (.sessionInit bs)) (hi : SessionInit.ofBytes bs = .ok i)
    (hprompt : n.envelope.decryptText i.encryptedPrompt (Utf8.encode i.requestId) = some prompt) :
    ∃ i', Invited r h.sent place i' prompt ∧ i = i'.fitted := by
  obtain ⟨i', text, hinv, rfl⟩ := hh.invitation hd hi
  have hseals := hinv.seals
  rw [hn.key] at hprompt
  obtain rfl := Option.some.inj (hprompt.symm.trans hseals)
  exact ⟨i', hinv, rfl⟩

/-- A proposer is given its assignment when its node gets the invitation, and not before. -/
theorem NodeSound.first (hh : Honest r h) {place k : Nat} {d : Datagram} {i : SessionInit}
    {text : String} (hinv : Invited r h.sent place i text) (hk : r.Names k i.proposerId)
    (hd : h.parcel? place (.node k) = some d) :
    ∀ (place' : Nat) (j : Job), h.jobs[place']? = some j → j.assignment.round = 1 →
      j.assignment.sessionId ≠ i.sessionId := by
  intro place' j hj hround hs
  cases hh.jobs hj with
  | opening hi' hnode hdelivered ha =>
    rw [ha] at hs
    dsimp only at hs
    have same := hh.same hi' hinv hs
    rw [same.proposer] at hnode
    have hkj := (hnode.unique hk rfl).1
    rw [hkj, same.place] at hdelivered
    exact (History.parcel?_eq_some hd).2.2 hdelivered
  | rebuttal hi' hc hnode hp' hround' hs' ha =>
    rw [ha] at hround
    cases hround

theorem Sound.receive (hw : Sound r w) (place k : Nat) {actions : List Action}
    (hs : w.step? (.receive place k) = some (w', actions)) : Sound r w' := by
  unfold Mesh.step? Mesh.work at hs
  dsimp only at hs
  split at hs
  case h_2 => cases hs
  rename_i d n hd hn
  cases hs
  have hh := hw.honest
  have hnode := hw.nodes hn
  have hdeliver := hh.deliver place (.node k)
  have hg := History.grows_deliver w.history place (.node k)
  obtain ⟨hsame, hturn⟩ := n.onDatagram_turn d
  generalize hn' : (n.onDatagram d).1 = n' at hsame hturn ⊢
  generalize (n.onDatagram d).2 = works at hturn ⊢
  cases hturn with
  | quiet hp =>
    simp only [List.filterMap_nil, History.post_nil, History.assign_nil]
    exact hw.workOf hdeliver hg hn hsame hp
  | offer hmsg hsent hp =>
    rename_i layer q d'
    have hsendable : Sendable r (w.history.deliver place (.node k)) [d'] :=
      History.sendable_message hsent fun place' => .offer hsent ⟨k, hnode.name⟩
    simp only [List.filterMap_cons, List.filterMap_nil, Work.datagram?, Work.job?,
      History.assign_nil]
    have hg' := hg.trans (History.grows_post _ [d'])
    exact hw.workOf (hdeliver.post hsendable) hg' hn hsame hp
  | propose hd' hi hrole hprompt hp =>
    rename_i bs i prompt layer
    subst hd'
    obtain ⟨i', hinv, rfl⟩ := hnode.reads hh hd hi hprompt
    have hk := hinv.isProposer hnode.name hrole
    have hcause : History.Cause r (w.history.deliver place (.node k))
        ⟨k, layer, ⟨i'.fitted.sessionId, 1, .proposer, prompt, none⟩⟩ :=
      .opening hinv hk List.mem_cons_self (by
        dsimp only
        rw [hinv.fitted_sessionId])
    have hfirst := NodeSound.first hh hinv hk hd
    simp only [List.filterMap_cons, List.filterMap_nil, Work.datagram?, Work.job?,
      History.post_nil]
    have hg' := hg.trans (History.grows_assign _
      [⟨k, layer, ⟨i'.fitted.sessionId, 1, .proposer, prompt, none⟩⟩])
    refine hw.workOf (hdeliver.assign hcause fun _ place' j hj hround => ?_) hg' hn hsame hp
    rw [hinv.fitted_sessionId]
    exact hfirst place' j hj hround
  | park hd' hi hrole hprompt hp =>
    rename_i bs i prompt
    subst hd'
    obtain ⟨i', hinv, rfl⟩ := hnode.reads hh hd hi hprompt
    obtain ⟨c, hc, hk⟩ := hinv.isCritic hnode.name hrole
    simp only [List.filterMap_nil, History.post_nil, History.assign_nil]
    have hmono := hnode.mono hg
    refine hw.work hdeliver hg (hmono.same hsame fun q hq => ?_)
    rcases hp q hq with hq | rfl
    · exact hmono.parked q hq
    · exact ⟨place, i', c, hinv, hinv.fits.symm, hc, hk⟩
  | criticise hmsg hround hrole hq hsession hp =>
    rename_i layer p q
    obtain ⟨place', i, c, hinv, his, hc, hk⟩ := hnode.parked q hq
    obtain ⟨job, hdone⟩ := hh.packet hd hmsg
    have hcause : History.Cause r (w.history.deliver place (.node k))
        ⟨k, layer, ⟨p.sessionId, 2, .critic, q.prompt, some p.content⟩⟩ :=
      .rebuttal hinv hc hk hdone hround (hsession.symm.trans his.symm) (by
        dsimp only
        rw [his, hsession])
    simp only [List.filterMap_cons, List.filterMap_nil, Work.datagram?, Work.job?,
      History.post_nil]
    have hg' := hg.trans (History.grows_assign _
      [⟨k, layer, ⟨p.sessionId, 2, .critic, q.prompt, some p.content⟩⟩])
    refine hw.workOf (hdeliver.assign hcause fun h1 => ?_) hg' hn hsame hp
    cases h1

theorem Sound.answer (hw : Sound r w) (place : Nat) (reply : Option Reply) {actions : List Action}
    (hs : w.step? (.answer place reply) = some (w', actions)) : Sound r w' := by
  unfold Mesh.step? Mesh.work at hs
  dsimp only at hs
  split at hs
  · cases hs
  rename_i j hj
  split at hs
  · cases hs
  rename_i n hn
  cases hs
  have hsettle := hw.honest.settle hj reply
  have hg := History.grows_settle w.history place (reply.map j.packet)
  obtain ⟨hreleased, hworks⟩ := n.onGenerated_cases j.layer (reply.map j.packet)
  rw [hreleased]
  rcases hworks with hworks | ⟨p, d, hp, hd, hworks⟩
  · rw [hworks]
    simp only [List.filterMap_nil, History.post_nil, History.assign_nil]
    exact hw.workOf hsettle hg hn ⟨rfl, rfl⟩ fun _ hq => hq
  · rw [hworks]
    have hdone : (place, some p) ∈ (w.history.settle place (reply.map j.packet)).done :=
      hp ▸ List.mem_cons_self
    have hsendable : Sendable r (w.history.settle place (reply.map j.packet)) [d] :=
      History.sendable_message hd fun place' => .packet hd hdone
    simp only [List.filterMap_cons, List.filterMap_nil, Work.datagram?, Work.job?,
      History.assign_nil]
    have hg' := hg.trans (History.grows_post _ [d])
    exact hw.workOf (hsettle.post hsendable) hg' hn ⟨rfl, rfl⟩ fun _ hq => hq

/-- One event keeps the mesh sound. -/
theorem Sound.step (hw : Sound r w) {e : MeshEvent} {actions : List Action}
    (hs : w.step? e = some (w', actions)) : Sound r w' := by
  cases e with
  | submit text requestId constraints now => exact hw.submit text requestId constraints now hs
  | cancel => exact hw.cancel hs
  | timeout random nonce => exact hw.timeout random nonce hs
  | hear place => exact hw.hear place hs
  | receive place node => exact hw.receive place node hs
  | answer job reply => exact hw.answer job reply hs

theorem Sound.run (hw : Sound r w) {es : List MeshEvent} (hs : w.run? es = some w') :
    Sound r w' := by
  induction es generalizing w with
  | nil =>
    cases hs
    exact hw
  | cons e es ih =>
    unfold Mesh.run? at hs
    split at hs
    · cases hs
    · rename_i next actions hstep
      exact ih (hw.step hstep) hs

namespace Mesh

/-- The packet was built at the node with this identifier, in answer to an assignment. -/
def Built (w : Mesh) (id : String) (a : Assignment) (p : DebatePacket) : Prop :=
  ∃ (place : Nat) (j : Job) (n : GuardianNode) (reply : Reply),
    w.history.jobs[place]? = some j ∧ w.nodes[j.node]? = some n ∧ n.guardian.nodeId = id ∧
    j.assignment = a ∧ (place, some p) ∈ w.history.done ∧
    p = a.respond reply.content reply.confidence reply.citations

/-- The transcript is about the text submitted last: it is empty, or holds the chosen proposer's
answer to the text, and at most the chosen critic's answer to the text and that answer. -/
def Genuine (w : Mesh) (sessionId requestId : String) (transcript : List DebatePacket) : Prop :=
  ∃ text a d, w.submitted.getLast? = some (requestId, text) ∧ w.moderator.active = some a ∧
    a.session = some d ∧ d.sessionId = sessionId ∧ Chosen w.moderator.reputation a d ∧
    (transcript = [] ∨ ∃ p, w.Built d.proposerId ⟨sessionId, 1, .proposer, text, none⟩ p ∧
      (transcript = [p] ∨ ∃ q c, d.criticId = some c ∧ transcript = [p, q] ∧
        w.Built c ⟨sessionId, 2, .critic, text, some p.content⟩ q))

end Mesh

theorem Sound.built (hw : Sound r w) {id : String} {a : Assignment} {p : DebatePacket}
    (ha : w.history.Answers r id a p) : w.Built id a p := by
  obtain ⟨place, j, hj, ⟨profile, hp, rfl⟩, rfl, hdone⟩ := ha
  have hlt : j.node < w.nodes.length := by
    rw [hw.size]
    exact (List.getElem?_eq_some_iff.mp hp).1
  have hn : w.nodes[j.node]? = some w.nodes[j.node] := List.getElem?_eq_getElem hlt
  obtain ⟨profile', hp', hid⟩ := (hw.nodes hn).name
  rw [hp] at hp'
  cases hp'
  obtain ⟨j', reply, hj', hpacket⟩ := hw.honest.answers hdone
  rw [hj] at hj'
  cases hj'
  exact ⟨place, j, _, reply, hj, hn, hid.symm, rfl, hdone, hpacket⟩

/-- What is spoken in the moderator's debate makes a genuine transcript. -/
theorem Sound.genuine (hw : Sound r w) {a : Active} {d : Debate} {transcript : List DebatePacket}
    (ha : w.moderator.active = some a) (hd : a.session = some d)
    (hs : Spoken r w.history { d with transcript } a.prompt) :
    w.Genuine d.sessionId a.request.id transcript := by
  have hf := hw.following ha
  obtain ⟨hchosen, -⟩ := hf.debate d hd
  rw [← hw.keeps.reputation] at hchosen
  refine ⟨a.prompt, a, d, hf.text, ha, hd, rfl, hchosen, ?_⟩
  rcases hs with hnil | ⟨p, hp, hend⟩
  · exact Or.inl hnil
  · refine Or.inr ⟨p, hw.built hp, ?_⟩
    rcases hend with hone | ⟨q, c, hc, htwo, hq⟩
    · exact Or.inl hone
    · exact Or.inr ⟨q, c, hc, htwo, hw.built hq⟩

theorem Sound.timeout_completes (hw : Sound r w) {random nonce : Bytes} {actions : List Action}
    {sessionId requestId : String} {transcript : List DebatePacket}
    (hs : w.step? (.timeout random nonce) = some (w', actions))
    (hc : .complete sessionId requestId transcript ∈ actions) :
    w.Genuine sessionId requestId transcript := by
  unfold Mesh.step? Mesh.act at hs
  dsimp only at hs
  split at hs
  case isFalse => cases hs
  rcases w.moderator.onTimeout_cases ⟨sessionIdOf random, nonce⟩ with
    ⟨-, heq⟩ | ⟨a, d, ha, hd, heq⟩ | ⟨a, proposer, -, -, -, -, heq⟩ | ⟨a, -, -, -, heq⟩
  · rw [heq] at hs
    cases hs
    cases hc
  · rw [heq] at hs
    cases hs
    cases List.mem_singleton.mp hc
    obtain ⟨-, place, i, hi, ht, hspoken⟩ := (hw.following ha).debate d hd
    exact hw.genuine ha hd hspoken
  · rw [heq] at hs
    rcases w.moderator.startSession_cases a (a.discovery.select a.request w.moderator.reputation)
      proposer ⟨sessionIdOf random, nonce⟩ with ⟨f, -, heq⟩ | ⟨i, -, heq⟩
    · rw [heq] at hs
      cases hs
      cases hc
    · rw [heq] at hs
      cases hs
      simp [Moderator.Outcome.actions] at hc
  · rw [heq] at hs
    rcases w.moderator.escalate_cases a with ⟨-, outcome, heq, hactions⟩ | ⟨-, heq⟩
    · rw [heq] at hs
      cases hs
      cases outcome with
      | error f => cases hc
      | ok actions =>
        obtain ⟨bytes, -, rfl⟩ := hactions actions rfl
        simp [Moderator.Outcome.actions] at hc
    · rw [heq] at hs
      cases hs
      simp [Moderator.Outcome.actions] at hc

theorem Sound.hear_completes (hw : Sound r w) {place : Nat} {actions : List Action}
    {sessionId requestId : String} {transcript : List DebatePacket}
    (hs : w.step? (.hear place) = some (w', actions))
    (hc : .complete sessionId requestId transcript ∈ actions) :
    w.Genuine sessionId requestId transcript := by
  unfold Mesh.step? Mesh.act at hs
  dsimp only at hs
  split at hs
  · cases hs
  rename_i d hd
  rw [ModeratorLoop.onDatagram_eq] at hs
  split at hs
  · cases hs
    cases hc
  rename_i layer msg hmsg
  rcases w.moderator.handle_cases msg with heq | ⟨a, o, -, -, -, -, heq⟩ |
    ⟨a, debate, p, ha, hsession, rfl, htakes, heq⟩
  · rw [heq] at hs
    cases hs
    cases hc
  · rw [heq] at hs
    cases hs
    cases hc
  · rcases heq with ⟨-, heq⟩ | ⟨-, heq⟩
    · rw [heq] at hs
      cases hs
      cases List.mem_singleton.mp hc
      obtain ⟨-, place', i, hi, ht, hspoken⟩ := (hw.following ha).debate debate hsession
      obtain ⟨job, hdone⟩ := hw.honest.packet hd hmsg
      have happended := hspoken.append hw.honest hi ht htakes hdone
      exact hw.genuine (d := debate) ha hsession happended
    · rw [heq] at hs
      cases hs
      simp at hc

/-- Two nodes that the search is about to end with have the moderator's key, and headers can tell
them apart. -/
theorem Sound.chooses (hw : Sound r w) {a : Active} {k l : Nat} {p c : GuardianNode} (hkl : k ≠ l)
    (ha : w.moderator.active = some a) (hs : a.session = none)
    (hsuff : a.discovery.isSufficient = true) (hp : w.nodes[k]? = some p)
    (hc : w.nodes[l]? = some c)
    (hproposer : (a.discovery.select a.request w.moderator.reputation).proposer.map
      (·.guardianId) = some p.guardian.nodeId)
    (hcritic : (a.discovery.select a.request w.moderator.reputation).critic.map
      (·.guardianId) = some c.guardian.nodeId)
    (hpa : p.Awaits a.request) (hca : c.Awaits a.request) : w.moderator.Chooses a p c where
  active := ha
  searching := hs
  sufficient := hsuff
  proposer := hproposer
  critic := hcritic
  proposerNamed := (hw.nodes hp).name.fits
  criticNamed := (hw.nodes hc).name.fits
  distinct := fun h => hkl ((hw.nodes hp).name.unique (hw.nodes hc).name h).1
  proposerKey := (hw.nodes hp).key.trans hw.keeps.key.symm
  criticKey := (hw.nodes hc).key.trans hw.keeps.key.symm
  proposerAwaits := hpa
  criticAwaits := hca

/-- Whatever is lost, reordered or superseded on the way: a debate that is completed in a run holds
nothing but what the chosen experts built from assignments on the text submitted. -/
theorem completed_debates_are_genuine {r : Roster} {es : List MeshEvent} {e : MeshEvent}
    {w w' : Mesh} {actions : List Action} {sessionId requestId : String}
    {transcript : List DebatePacket} (hrun : r.start.run? es = some w)
    (hstep : w.step? e = some (w', actions))
    (hc : .complete sessionId requestId transcript ∈ actions) :
    w.Genuine sessionId requestId transcript := by
  have hw := (Sound.start r).run hrun
  cases e with
  | submit text id constraints now =>
    unfold Mesh.step? Mesh.act at hstep
    dsimp only at hstep
    rcases w.moderator.submit_cases text id constraints now with ⟨f, heq⟩ | ⟨bytes, -, heq⟩
    · rw [heq] at hstep
      cases hstep
      cases hc
    · rw [heq] at hstep
      cases hstep
      simp [Moderator.Outcome.actions] at hc
  | cancel =>
    cases hstep
    cases hc
  | timeout random nonce => exact hw.timeout_completes hstep hc
  | hear place => exact hw.hear_completes hstep hc
  | receive place node =>
    unfold Mesh.step? Mesh.work at hstep
    dsimp only at hstep
    split at hstep
    · cases hstep
      cases hc
    · cases hstep
  | answer job reply =>
    unfold Mesh.step? Mesh.work at hstep
    dsimp only at hstep
    split at hstep
    · cases hstep
    split at hstep
    · cases hstep
    · cases hstep
      cases hc

/-- A coder and a solver, each with its offer for a request that is about both. -/
def pair : Roster where
  moderator := { nodeId := "!m", envelope := .zero }
  profiles :=
    [{ nodeId := "!p", expertType := "coder", capabilities := ["code"], latency := 10 },
      { nodeId := "!c", expertType := "solver", capabilities := ["math"], latency := 10 }]
  idle := rfl
  named := by decide +kernel
  distinct := by decide +kernel

/-- The pair debates; the coder's packet reaches the solver before the moderator. -/
def pairRun : List MeshEvent :=
  [.submit "solve code" "r" none 0, .receive 0 1, .receive 0 0, .hear 2, .hear 1,
    .timeout (List.replicate 16 0) (List.replicate 12 0), .receive 3 0, .receive 3 1,
    .answer 0 (some ⟨"yes", Binary64.one, []⟩), .receive 4 1,
    .answer 1 (some ⟨"no", Binary64.one, []⟩), .hear 4]

def pairTranscript : List DebatePacket :=
  [⟨sessionIdOf (List.replicate 16 0), 1, .proposer, "yes", ⟨Binary64.one, []⟩⟩,
    ⟨sessionIdOf (List.replicate 16 0), 2, .critic, "no", ⟨Binary64.one, []⟩⟩]

/-- The moderator has heard both experts, which await the request. -/
theorem pair_heard : ∃ w ∈ pair.start.run? (pairRun.take 5), ∃ a ∈ w.moderator.active,
    ∃ p ∈ w.nodes[0]?, ∃ c ∈ w.nodes[1]?,
    (a.session.isNone = true ∧ a.discovery.isSufficient = true ∧
      (a.discovery.select a.request none).proposer.map (·.guardianId) = some p.guardian.nodeId ∧
      (a.discovery.select a.request none).critic.map (·.guardianId) = some c.guardian.nodeId) ∧
    (a.request.id = "r" ∧ a.prompt = "solve code" ∧
      a.request.payloadHash = PayloadHash.ofPrompt a.prompt) ∧
    (p.guardian.pending = [a.request] ∧ p.guardian.isSaturated = false ∧
      p.offerLayer (fitField requestIdWidth "r") = .mesh) ∧
    (c.guardian.pending = [a.request] ∧ c.guardian.isSaturated = false ∧ c.guardian.parked = []) ∧
    w.history.sent.length = 3 ∧ { w.history with sent := [] } = ({ delivered :=
      [(1, .moderator), (2, .moderator), (0, .node 0), (0, .node 1)] } : History) := by
  decide +kernel

theorem completed_debates_are_genuine_pair : ∃ w w' actions,
    pair.start.run? pairRun = some w ∧ w.step? (.hear 5) = some (w', actions) ∧
    .complete (sessionIdOf (List.replicate 16 0)) "r" pairTranscript ∈ actions ∧
    w.Genuine (sessionIdOf (List.replicate 16 0)) "r" pairTranscript := by
  obtain ⟨w, hrun, a, ha, p, hp, c, hc, ⟨hsession, hsufficient, hproposer, hcritic⟩,
    ⟨hid, hprompt, hhash⟩, ⟨hpending, hfree, hlayer⟩, ⟨hpending', hfree', hparked⟩,
    hsent, hhistory⟩ := pair_heard
  obtain ⟨hsessions, -, hdelivered, hjobs, hdone⟩ := History.mk.inj hhistory
  have hw := (Sound.start pair).run hrun
  have hchooses := hw.chooses (k := 0) (l := 1) (by decide) ha
    (Option.isNone_iff_eq_none.mp hsession) hsufficient hp hc
    (by rw [hw.keeps.reputation]; exact hproposer) (by rw [hw.keeps.reputation]; exact hcritic)
    (.of_pending hpending hfree) (.of_pending hpending' hfree')
  have hopens : w.moderator.Opens p c ⟨sessionIdOf (List.replicate 16 0), List.replicate 12 0⟩
      a.request.id a.prompt :=
    hchooses.opens hhash rfl rfl (by rw [hparked]; simp) (by rw [hprompt]; decide +kernel)
  rw [hid, hprompt] at hopens
  have hdebate : w.Leads (w.debate 0 1 (List.replicate 16 0) (List.replicate 12 0)
      ⟨"yes", Binary64.one, []⟩ ⟨"no", Binary64.one, []⟩) fun w₁ => ∃ w₂,
      w₁.step? (.hear (w.history.sent.length + 2)) =
        some (w₂, [.complete (sessionIdOf (List.replicate 16 0)) "r" pairTranscript]) :=
    Mesh.debate_completes (by decide) hp hc ⟨by simp [hsent, hdelivered], by simp [hdone]⟩ hopens
      hlayer rfl rfl (by rw [hsessions]; simp) (by decide +kernel) (by decide +kernel)
      (by decide +kernel) (by decide +kernel) ⟨by rintro ⟨⟩, by decide +kernel⟩
      ⟨by rintro ⟨⟩, by decide +kernel⟩
  have hcourse : pairRun = pairRun.take 5 ++ w.debate 0 1 (List.replicate 16 0)
      (List.replicate 12 0) ⟨"yes", Binary64.one, []⟩ ⟨"no", Binary64.one, []⟩ := by
    rw [Mesh.debate, hsent, hjobs]
    rfl
  obtain ⟨w₁, hrun₁, w₂, hstep⟩ := Mesh.leads_append hrun hdebate
  rw [← hcourse] at hrun₁
  rw [hsent] at hstep
  have hc := List.mem_singleton_self
    (Action.complete (sessionIdOf (List.replicate 16 0)) "r" pairTranscript)
  exact ⟨w₁, w₂, _, hrun₁, hstep, hc, completed_debates_are_genuine hrun₁ hstep hc⟩

end DebateMesh
