import DebateMesh.Proofs.Datagram
import DebateMesh.Proofs.Guardian.Run

namespace DebateMesh.GuardianNode

inductive Event
  | datagram (d : Datagram)
  /-- The model is done with an assignment that is to be answered on this layer. It has no packet
  when it failed. -/
  | generated (layer : Layer) (a : Assignment) (packet : Option DebatePacket)

def step (n : GuardianNode) : Event → GuardianNode × List Work
  | .datagram d => n.onDatagram d
  | .generated layer _ packet => n.onGenerated layer packet

/-- The expert waits for the session that the request leads to. -/
def expecting (n : GuardianNode) (r : RoutingRequest) : Guardian :=
  { n.guardian with pending := enqueue n.guardian.pending r }

/-- What an event can lead to: the work, and the node after it. -/
inductive Move (n : GuardianNode) : Event → List Work → GuardianNode → Prop
  | passes {d : Datagram} (unread : ∀ bs i, d = .sessionInit bs → SessionInit.ofBytes bs ≠ .ok i)
      (mute : ∀ layer m, d.message? = some (layer, m) → ∃ o, m = .offer o) :
      Move n (.datagram d) [] n
  | declines {d : Datagram} {layer : Layer} {r : RoutingRequest}
      (reads : d.message? = some (layer, .routing r)) (unsuited : n.guardian.accepts r = false) :
      Move n (.datagram d) [] n
  | offers {d d' : Datagram} {layer : Layer} {r : RoutingRequest}
      (reads : d.message? = some (layer, .routing r)) (suited : n.guardian.accepts r = true)
      (fits : Datagram.ofMessage? layer (.offer (Guardian.offer n.guardian.profile r)) = some d') :
      Move n (.datagram d) [.send layer d']
        { n with guardian := n.expecting r, offerLayers := enqueue n.offerLayers (r.id, layer) }
  | cannotOffer {d : Datagram} {layer : Layer} {r : RoutingRequest}
      (reads : d.message? = some (layer, .routing r)) (suited : n.guardian.accepts r = true)
      (unfit : Datagram.ofMessage? layer (.offer (Guardian.offer n.guardian.profile r)) = none) :
      Move n (.datagram d) [] { n with guardian := n.expecting r }
  | meets {bs : Bytes} {i : SessionInit} {result : Except GuardianFault (Option Assignment)}
      {g : Guardian} (reads : SessionInit.ofBytes bs = .ok i)
      (move : Guardian.Move n.guardian (.init i n.envelope) (.joined result) g) :
      Move n (.datagram (.sessionInit bs))
        ((Guardian.Answer.joined result).assignment?.toList.map
          (.generate (n.offerLayer i.requestId))) { n with guardian := g }
  | hears {d : Datagram} {layer : Layer} {p : DebatePacket} {a : Option Assignment} {g : Guardian}
      (reads : d.message? = some (layer, .debate p))
      (move : Guardian.Move n.guardian (.packet p) (.woken a) g) :
      Move n (.datagram d) (a.toList.map (.generate layer)) { n with guardian := g }
  | answers {layer : Layer} {a : Assignment} {packet : Option DebatePacket} {works : List Work}
      (sends : ∀ w ∈ works, ∃ p d, packet = some p ∧
        Datagram.ofMessage? layer (.debate p) = some d ∧ w = .send layer d) :
      Move n (.generated layer a packet) works { n with guardian := n.guardian.release }

variable {n n' : GuardianNode} {d : Datagram} {layer : Layer} {works : List Work}

/-- The end of an assignment sends its packet, if it has one that can be encoded. -/
theorem onGenerated_cases (n : GuardianNode) (layer : Layer) (packet : Option DebatePacket) :
    (n.onGenerated layer packet).1 = { n with guardian := n.guardian.release } ∧
      ((n.onGenerated layer packet).2 = [] ∨
       ∃ p d, packet = some p ∧ Datagram.ofMessage? layer (.debate p) = some d ∧
        (n.onGenerated layer packet).2 = [.send layer d]) := by
  refine ⟨rfl, ?_⟩
  unfold onGenerated
  dsimp only
  cases packet with
  | none => exact Or.inl rfl
  | some p =>
    rw [Option.bind_some]
    cases hd : Datagram.ofMessage? layer (.debate p) with
    | none => exact Or.inl rfl
    | some d => exact Or.inr ⟨p, d, rfl, hd, rfl⟩

theorem onRequest_moves {r : RoutingRequest} (reads : d.message? = some (layer, .routing r)) :
    Move n (.datagram d) (n.onRequest layer r).2 (n.onRequest layer r).1 := by
  unfold onRequest
  split
  · rename_i g ho
    obtain rfl := Guardian.offerFor_none ho
    cases hsuited : n.guardian.accepts r with
    | false => exact .declines reads hsuited
    | true =>
      rw [Guardian.offerFor, if_pos hsuited] at ho
      cases (Prod.mk.inj ho).2
  · rename_i g o ho
    obtain ⟨suited, rfl, rfl⟩ := Guardian.offerFor_some ho
    dsimp only
    split
    · rename_i unfit
      exact .cannotOffer reads suited unfit
    · rename_i d' fits
      exact .offers reads suited fits

theorem onInit_moves (n : GuardianNode) (bs : Bytes) :
    Move n (.datagram (.sessionInit bs)) (n.onInit bs).2 (n.onInit bs).1 := by
  unfold onInit
  split
  · rename_i fault hfault
    refine .passes (fun bs' i hbs hi => ?_) fun layer m hm => by cases hm
    cases hbs
    rw [hfault] at hi
    cases hi
  · rename_i i reads
    have hmove := Guardian.takeUp_moves n.guardian i n.envelope
    rw [Guardian.takeUp_eq] at hmove
    cases hinit : n.guardian.onInit i n.envelope with
    | error fault =>
      rw [hinit] at hmove
      exact .meets reads hmove
    | ok result =>
      obtain ⟨g, a⟩ := result
      rw [hinit] at hmove
      cases a <;> exact .meets reads hmove

theorem onPacket_moves {p : DebatePacket} (reads : d.message? = some (layer, .debate p)) :
    Move n (.datagram d) (n.onPacket layer p).2 (n.onPacket layer p).1 :=
  .hears reads (Guardian.onPacket_moves n.guardian p)

/-- Every event leads to one of the moves. -/
theorem step_moves (n : GuardianNode) (e : Event) : Move n e (n.step e).2 (n.step e).1 := by
  cases e with
  | generated layer a packet =>
    obtain ⟨hafter, hworks⟩ := onGenerated_cases n layer packet
    rw [step, hafter]
    refine .answers fun w hw => ?_
    rcases hworks with hworks | ⟨p, d, hpacket, hd, hworks⟩
    · rw [hworks] at hw
      cases hw
    · rw [hworks] at hw
      exact ⟨p, d, hpacket, hd, List.mem_singleton.mp hw⟩
  | datagram d =>
    rw [step, onDatagram_eq]
    split
    · exact onInit_moves n _
    · rename_i hinit
      split
      · rename_i hmessage
        refine .passes (fun bs i hd => absurd hd (hinit bs)) fun layer m hm => ?_
        rw [hmessage] at hm
        cases hm
      · rename_i layer m reads
        cases m with
        | routing r => exact onRequest_moves reads
        | debate p => exact onPacket_moves reads
        | offer o =>
          refine .passes (fun bs i hd => absurd hd (hinit bs)) fun layer' m' hm => ?_
          rw [reads] at hm
          cases hm
          exact ⟨o, rfl⟩

/-- No session is parked that was not parked before. -/
def ParksNoMore (n n' : GuardianNode) : Prop :=
  ∀ q ∈ n'.guardian.parked, q ∈ n.guardian.parked

/-- What a datagram leads to: the node afterwards, and its work. -/
inductive Turn (n : GuardianNode) (d : Datagram) (n' : GuardianNode) : List Work → Prop
  | quiet (hp : ParksNoMore n n') : Turn n d n' []
  | offer {layer : Layer} {r : RoutingRequest} {d' : Datagram}
    (hd : d.message? = some (layer, .routing r))
    (hsent : Datagram.ofMessage? layer (.offer (Guardian.offer n.guardian.profile r)) = some d')
    (hp : ParksNoMore n n') : Turn n d n' [.send layer d']
  | propose {bs : Bytes} {i : SessionInit} {prompt : String} {layer : Layer}
    (hd : d = .sessionInit bs) (hi : SessionInit.ofBytes bs = .ok i)
    (hrole : i.roleOf n.guardian.nodeId = some .proposer)
    (hprompt : n.envelope.decryptText i.encryptedPrompt (Utf8.encode i.requestId) = some prompt)
    (hp : ParksNoMore n n') :
    Turn n d n' [.generate layer ⟨i.sessionId, 1, .proposer, prompt, none⟩]
  | park {bs : Bytes} {i : SessionInit} {prompt : String}
    (hd : d = .sessionInit bs) (hi : SessionInit.ofBytes bs = .ok i)
    (hrole : i.roleOf n.guardian.nodeId = some .critic)
    (hprompt : n.envelope.decryptText i.encryptedPrompt (Utf8.encode i.requestId) = some prompt)
    (hp : ∀ q ∈ n'.guardian.parked, q ∈ n.guardian.parked ∨ q = ⟨i.sessionId, prompt⟩) :
    Turn n d n' []
  | criticise {layer : Layer} {p : DebatePacket} {q : Parked}
    (hd : d.message? = some (layer, .debate p)) (hround : p.round = 1) (hrole : p.role = .proposer)
    (hq : q ∈ n.guardian.parked) (hsession : q.sessionId = p.sessionId) (hp : ParksNoMore n n') :
    Turn n d n' [.generate layer ⟨p.sessionId, 2, .critic, q.prompt, some p.content⟩]

/-- What no datagram changes. -/
def Same (n n' : GuardianNode) : Prop :=
  n'.guardian.profile = n.guardian.profile ∧ n'.envelope = n.envelope

theorem Move.turn (h : Move n (.datagram d) works n') : Same n n' ∧ Turn n d n' works := by
  cases h with
  | passes | declines | cannotOffer => exact ⟨⟨rfl, rfl⟩, .quiet fun q hq => hq⟩
  | offers reads _ fits => exact ⟨⟨rfl, rfl⟩, .offer reads fits fun q hq => hq⟩
  | meets reads move =>
    cases move with
    | ignores | refuses | lacksRoom => exact ⟨⟨rfl, rfl⟩, .quiet fun q hq => hq⟩
    | starts admitted =>
      exact ⟨⟨rfl, rfl⟩, .propose rfl reads admitted.named admitted.opened fun q hq => hq⟩
    | parks admitted =>
      exact ⟨⟨rfl, rfl⟩, .park rfl reads admitted.named admitted.opened fun q hq => mem_enqueue hq⟩
  | hears reads move =>
    cases move with
    | overhears => exact ⟨⟨rfl, rfl⟩, .quiet fun q hq => hq⟩
    | sleepsOn _ _ awaited => exact ⟨⟨rfl, rfl⟩, .quiet (extract_mem awaited).2.2⟩
    | wakes round role awaited =>
      obtain ⟨hq, hsession, hrest⟩ := extract_mem awaited
      exact ⟨⟨rfl, rfl⟩, .criticise reads round role hq (beq_iff_eq.mp hsession) hrest⟩

theorem onDatagram_turn (n : GuardianNode) (d : Datagram) :
    Same n (n.onDatagram d).1 ∧ Turn n d (n.onDatagram d).1 (n.onDatagram d).2 :=
  (n.step_moves (.datagram d)).turn

end DebateMesh.GuardianNode
