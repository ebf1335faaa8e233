import DebateMesh.Proofs.Completion
import DebateMesh.Proofs.Envelope.Blobs
import DebateMesh.Proofs.Mesh.History
import DebateMesh.Proofs.Session.Canonical

namespace DebateMesh

/-- The layer carries the message, in a datagram that can be delivered. -/
structure Layer.Carries (layer : Layer) (m : Message) : Prop where
  fits : layer.Fits m
  size : ∀ d ∈ Datagram.ofMessage? layer m, d.body.length < 2 ^ 64

/-- Every invitation is short enough to be delivered. -/
theorem Moderator.length_invitation {m m' : Moderator} {fresh : Fresh} {layer : Layer}
    {recipients : List String} {bytes : Bytes} {actions : List Action}
    (hnonce : fresh.nonce.length = nonceWidth)
    (h : m.onTimeout fresh = (m', .ok (.sendInit layer recipients bytes :: actions))) :
    (Datagram.sessionInit bytes).body.length < 2 ^ 64 := by
  rcases m.onTimeout_cases fresh with ⟨-, heq⟩ | ⟨a, d, -, -, heq⟩ |
    ⟨a, proposer, -, -, -, -, heq⟩ | ⟨a, -, -, -, heq⟩
  · rw [heq] at h
    cases h
  · rw [heq] at h
    cases h
  · rw [heq] at h
    rcases m.startSession_cases a (a.discovery.select a.request m.reputation) proposer fresh with
      ⟨f, -, hstart⟩ | ⟨i, hi, hstart⟩
    · rw [hstart] at h
      cases h
    · rw [hstart] at h
      cases h
      obtain ⟨-, -, -, -, hsealed⟩ := invitation_ok hi
      have hblob := Envelope.length_encryptText hnonce hsealed
      rw [Datagram.body, SessionInit.length_toBytes]
      exact Nat.lt_of_le_of_lt (Nat.add_le_add_left hblob _) (by decide)
  · rw [heq] at h
    rcases m.escalate_cases a with ⟨-, outcome, hescalate, hactions⟩ | ⟨-, hescalate⟩
    · rw [hescalate] at h
      obtain ⟨bs, -, hbroadcast⟩ := hactions _ (Prod.mk.inj h).2
      cases hbroadcast
    · rw [hescalate] at h
      cases h

theorem GuardianNode.size_of_sends {n n' : GuardianNode} {layer : Layer} {p : DebatePacket}
    {d : Datagram} (h : n.onGenerated layer (some p) = (n', [.send layer d]))
    (hp : layer.Carries (.debate p)) : d.body.length < 2 ^ 64 := by
  obtain ⟨-, hnone | ⟨q, d', hq, hsent, hsome⟩⟩ := n.onGenerated_cases layer (some p)
  · rw [h] at hnone
    cases hnone
  · rw [h] at hsome
    cases hq
    cases hsome
    exact hp.size d hsent

namespace History

variable {h : History} {place : Nat}

/-- What is delivered was sent, and what is over was a job. -/
structure Orderly (h : History) : Prop where
  delivered : ∀ x ∈ h.delivered, x.1 < h.sent.length
  done : ∀ x ∈ h.done, x.1 < h.jobs.length

theorem Orderly.undelivered (hh : h.Orderly) (hplace : h.sent.length ≤ place) (address : Address) :
    (place, address) ∉ h.delivered :=
  fun hmem => Nat.not_lt.mpr hplace (hh.delivered _ hmem)

theorem Orderly.open (hh : h.Orderly) (hplace : h.jobs.length ≤ place)
    (packet : Option DebatePacket) : (place, packet) ∉ h.done :=
  fun hmem => Nat.not_lt.mpr hplace (hh.done _ hmem)

end History

namespace Mesh

variable {w w' : Mesh} {actions : List Action} {works : List Work} {place k : Nat}

/-- The events can happen in turn, and what they lead to is as said. -/
def Leads (w : Mesh) (es : List MeshEvent) (Q : Mesh → Prop) : Prop :=
  ∃ w', w.run? es = some w' ∧ Q w'

theorem leads_nil {Q : Mesh → Prop} (hq : Q w) : w.Leads [] Q :=
  ⟨w, rfl, hq⟩

theorem leads_cons {e : MeshEvent} {es : List MeshEvent} {Q : Mesh → Prop}
    (h : w.step? e = some (w', actions)) (hes : w'.Leads es Q) : w.Leads (e :: es) Q := by
  unfold Leads
  rw [run?, h]
  exact hes

theorem leads_append {es fs : List MeshEvent} {Q : Mesh → Prop} (h : w.run? es = some w')
    (hfs : w'.Leads fs Q) : w.Leads (es ++ fs) Q := by
  induction es generalizing w with
  | nil =>
    cases h
    exact hfs
  | cons e es ih =>
    rw [run?] at h
    split at h
    · cases h
    · rename_i hstep
      exact leads_cons hstep (ih h)

theorem step?_timeout {random nonce : Bytes} {m : Moderator} {o : Moderator.Outcome}
    (hrandom : random.length = 16) (hnonce : nonce.length = nonceWidth)
    (hnew : sessionIdOf random ∉ w.history.sessions)
    (h : w.moderator.onTimeout ⟨sessionIdOf random, nonce⟩ = (m, o)) :
    w.step? (.timeout random nonce) =
      some ({ w with history := w.history.draw (sessionIdOf random) }.act m o.actions) := by
  unfold step?
  dsimp only
  rw [if_pos ⟨hrandom, hnonce, hnew⟩, h]

theorem step?_hear {d : Datagram} {m : Moderator} (hd : w.history.parcel? place .moderator = some d)
    (h : ModeratorLoop.onDatagram w.moderator d = (m, actions)) :
    w.step? (.hear place) =
      some ({ w with history := w.history.deliver place .moderator }.act m actions) := by
  unfold step?
  dsimp only
  rw [hd]
  dsimp only
  rw [h]

theorem step?_receive {d : Datagram} {n n' : GuardianNode}
    (hd : w.history.parcel? place (.node k) = some d) (hn : w.nodes[k]? = some n)
    (h : n.onDatagram d = (n', works)) :
    w.step? (.receive place k) =
      some ({ w with history := w.history.deliver place (.node k) }.work k n' works) := by
  unfold step?
  dsimp only
  rw [hd, hn]
  dsimp only
  rw [h]

theorem step?_answer {j : Job} {n n' : GuardianNode} {reply : Reply} {packet : DebatePacket}
    (hj : w.history.job? place = some j) (hn : w.nodes[j.node]? = some n)
    (hpacket : j.packet reply = packet)
    (h : n.onGenerated j.layer (some packet) = (n', works)) :
    w.step? (.answer place (some reply)) =
      some ({ w with history := w.history.settle place (some packet) }.work j.node n' works) := by
  unfold step?
  dsimp only
  rw [hj]
  dsimp only
  rw [hn]
  dsimp only
  rw [Option.map_some, hpacket, h]

/-- A debate from the timeout that opens it until both experts have answered. The critic hears the
proposer before the moderator does. -/
def debate (w : Mesh) (proposer critic : Nat) (random nonce : Bytes) (first second : Reply) :
    List MeshEvent :=
  let place := w.history.sent.length
  let job := w.history.jobs.length
  [.timeout random nonce, .receive place proposer, .receive place critic, .answer job (some first),
    .receive (place + 1) critic, .answer (job + 1) (some second), .hear (place + 1)]

/-- A debate that opens between two nodes can take its course on the mesh. -/
theorem debate_completes {p c : GuardianNode} {l : Nat} {random nonce : Bytes}
    {requestId text : String} {layer : Layer} {r₁ r₂ : Reply} {p₁ p₂ : DebatePacket}
    (hkl : k ≠ l) (hp : w.nodes[k]? = some p) (hc : w.nodes[l]? = some c)
    (hh : w.history.Orderly)
    (hopens : w.moderator.Opens p c ⟨sessionIdOf random, nonce⟩ requestId text)
    (hlayer : p.offerLayer (fitField requestIdWidth requestId) = layer)
    (hrandom : random.length = 16) (hnonce : nonce.length = nonceWidth)
    (hnew : sessionIdOf random ∉ w.history.sessions)
    (hp₁ : p₁ = Job.packet ⟨k, layer, ⟨sessionIdOf random, 1, .proposer, text, none⟩⟩ r₁)
    (hp₂ : p₂ = Job.packet ⟨l, layer, ⟨sessionIdOf random, 2, .critic, text, some r₁.content⟩⟩ r₂)
    (hr₁ : r₁.confidence.isNaN = false) (hr₂ : r₂.confidence.isNaN = false)
    (hc₁ : layer.Carries (.debate p₁)) (hc₂ : layer.Carries (.debate p₂)) :
    w.Leads (w.debate k l random nonce r₁ r₂) fun w₁ => ∃ w₂,
      w₁.step? (.hear (w.history.sent.length + 2)) =
        some (w₂, [.complete (sessionIdOf random) requestId [p₁, p₂]]) := by
  obtain ⟨m, nodes, submitted, ⟨sessions, sent, delivered, jobs, done⟩⟩ := w
  obtain ⟨m₁, layer', bytes, n₁, n₂, hout, hproposes, hparks, hwaits, hcontinues⟩ := hopens
  rw [hlayer] at hproposes hcontinues
  subst hp₁ hp₂
  obtain ⟨n₃, d₁, m₂, n₄, hsends₁, hheard₁, hwakes, hconcludes⟩ :=
    hcontinues n₁ n₂ r₁.content r₁.confidence r₁.citations hwaits hr₁ hc₁.fits
  obtain ⟨n₅, d₂, m₃, hsends₂, hheard₂, -⟩ :=
    hconcludes n₄ r₂.content r₂.confidence r₂.citations hr₂ hc₂.fits
  have hbytes := Moderator.length_invitation hnonce hout
  have hsize₁ := n₁.size_of_sends hsends₁ hc₁
  have hsize₂ := n₄.size_of_sends hsends₂ hc₂
  obtain ⟨hk, -⟩ := List.getElem?_eq_some_iff.mp hp
  obtain ⟨hl, hcl⟩ := List.getElem?_eq_some_iff.mp hc
  have hundelivered : ∀ {i : Nat}, sent.length ≤ i → ∀ a, (i, a) ∉ delivered := hh.undelivered
  have hopen : ∀ {i : Nat}, jobs.length ≤ i → ∀ x, (i, x) ∉ done := hh.open
  refine leads_cons (step?_timeout hrandom hnonce hnew hout) <|
    leads_cons (step?_receive (History.parcel?_of_new ?_ hbytes ?_) hp hproposes) <|
    leads_cons (step?_receive (History.parcel?_of_new ?_ hbytes ?_) ?_ hparks) <|
    leads_cons (step?_answer (j := ⟨k, layer, ⟨sessionIdOf random, 1, .proposer, text, none⟩⟩)
      (History.job?_of_new ?_ ?_) ?_ rfl hsends₁) <|
    leads_cons (step?_receive (History.parcel?_of_new ?_ hsize₁ ?_) ?_ hwakes) <|
    leads_cons (step?_answer
      (j := ⟨l, layer, ⟨sessionIdOf random, 2, .critic, text, some r₁.content⟩⟩)
      (History.job?_of_new ?_ ?_) ?_ rfl hsends₂) <|
    leads_cons (step?_hear (History.parcel?_of_new ?_ hsize₁ ?_) hheard₁) <|
    leads_nil ⟨_, step?_hear (History.parcel?_of_new ?_ hsize₂ ?_) hheard₂⟩
  all_goals simp [List.filterMap_cons, History.draw, History.post, History.deliver, History.assign,
    History.settle, Action.datagram?, Action.effect?, Work.datagram?, Work.job?,
    Moderator.Outcome.actions, hk, hl, hcl, hkl, hkl.symm, hundelivered, hopen]

end Mesh

end DebateMesh
