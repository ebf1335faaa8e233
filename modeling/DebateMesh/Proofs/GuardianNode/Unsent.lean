import DebateMesh.Proofs.Guardian.Offers
import DebateMesh.Proofs.GuardianNode.Layers
import DebateMesh.Proofs.Message.Cap

namespace DebateMesh.GuardianNode

variable {n n' : GuardianNode} {e : Event} {d d' : Datagram} {layer layer' : Layer}
  {works : List Work} {r : RoutingRequest} {es : List Event}

/-- The offer that the node would make, as it would send it. -/
def offer? (n : GuardianNode) (layer : Layer) (r : RoutingRequest) : Option Datagram :=
  Datagram.ofMessage? layer (.offer (Guardian.offer n.guardian.profile r))

theorem onDatagram_of_declines (reads : d.message? = some (layer, .routing r))
    (unsuited : n.guardian.accepts r = false) : n.onDatagram d = (n, []) := by
  rw [onDatagram_of_message reads, onMessage, onRequest, Guardian.offerFor, unsuited]
  rfl

theorem onDatagram_of_unfit (reads : d.message? = some (layer, .routing r))
    (suited : n.guardian.accepts r = true) (unfit : n.offer? layer r = none) :
    n.onDatagram d = ({ n with guardian := n.expecting r }, []) := by
  rw [offer?] at unfit
  rw [onDatagram_of_message reads, onMessage, onRequest, Guardian.offerFor, if_pos suited]
  dsimp only
  rw [unfit]
  rfl

theorem onDatagram_of_fits (reads : d.message? = some (layer, .routing r))
    (suited : n.guardian.accepts r = true) (fits : n.offer? layer r = some d') :
    (n.onDatagram d).2 = [.send layer d'] :=
  congrArg Prod.snd (step_offers reads suited fits)

/-- A request leads to no work just when it is declined, or its offer has no encoding. -/
theorem onDatagram_silent_iff (reads : d.message? = some (layer, .routing r)) :
    (n.onDatagram d).2 = [] ↔ n.guardian.accepts r = false ∨ n.offer? layer r = none := by
  cases suited : n.guardian.accepts r with
  | false => simp [onDatagram_of_declines reads suited]
  | true =>
    cases fits : n.offer? layer r with
    | none => simp [onDatagram_of_unfit reads suited fits]
    | some d' => simp [onDatagram_of_fits reads suited fits]

theorem expecting_ne (suited : n.guardian.accepts r = true) :
    { n with guardian := n.expecting r } ≠ n := by
  intro h
  have hpending : enqueue n.guardian.pending r = n.guardian.pending :=
    congrArg (fun n => n.guardian.pending) h
  have hmem := mem_enqueue_self n.guardian.pending r
  rw [hpending] at hmem
  exact Guardian.id_ne_of_accepts suited r hmem rfl

theorem accepts_of_mem (h : r ∈ n.guardian.pending) : n.guardian.accepts r = false := by
  rw [← Bool.not_eq_true]
  intro suited
  exact Guardian.id_ne_of_accepts suited r h rfl

/-- A session is taken up for the request. -/
def TakesUp (t : Entry) (r : RoutingRequest) : Prop :=
  ∃ bs i role pending prompt, t.event = .datagram (.sessionInit bs) ∧
    SessionInit.ofBytes bs = .ok i ∧
    t.before.guardian.Admits i t.before.envelope role r pending prompt

theorem Move.queued {k : Nat} (h : Move n e works n') (hr : Queued n.guardian.pending r k)
    (hkept : ¬ TakesUp ⟨n, e, works, n'⟩ r)
    (hfew : k + (offered? ⟨n, e, works, n'⟩).toList.length < maxQueued) :
    Queued n'.guardian.pending r (k + (offered? ⟨n, e, works, n'⟩).toList.length) := by
  cases h with
  | passes _ mute =>
    rw [offered?_of_mute mute]
    exact hr
  | declines reads unsuited =>
    rw [offered?_of_unsuited reads unsuited]
    exact hr
  | offers reads suited | cannotOffer reads suited =>
    rw [offered?_eq_some reads suited] at hfew ⊢
    exact hr.enqueue hfew _
  | meets reads move =>
    refine move.queued hr ?_ hfew
    rintro ⟨_, _, role, pending, prompt, hcall, admitted⟩
    cases hcall
    exact hkept ⟨_, _, role, pending, prompt, rfl, reads, admitted⟩
  | hears reads move =>
    rw [offered?_of_debate reads] at hfew ⊢
    refine move.queued hr ?_ hfew
    rintro ⟨_, _, _, _, _, hcall, -⟩
    cases hcall
  | answers => exact hr

/-- A request that no session takes up waits, as long as fewer than the queue holds come behind it;
all the while it is declined, on whichever layer it comes. -/
theorem silent_while_queued (hr : Queued n.guardian.pending r 0)
    (hkept : ∀ t ∈ n.log es, ¬ TakesUp t r)
    (hfew : ((n.log es).filterMap offered?).length < maxQueued)
    (reads : d.message? = some (layer, .routing r)) :
    (n.run es).onDatagram d = (n.run es, []) := by
  have hwaits : r ∈ (n.run es).guardian.pending :=
    @Queued.final _ r _ _ _ _ step (fun n => n.guardian.pending) (TakesUp · r) offered?
      (fun n e _ hr hkept hfew => (n.step_moves e).queued hr hkept hfew) n hr es hkept hfew
  exact onDatagram_of_declines reads (accepts_of_mem hwaits)

/-- A request leads to no work when the expert declines it, and then nothing has changed, or when
its offer has no encoding on its layer. Then it waits, perhaps in the place of the oldest request,
and until a session takes it up or the queue is filled with others it is declined on every layer.
Nothing else has changed. -/
theorem unsent_offers_wait (reads : d.message? = some (layer, .routing r)) :
    ((n.onDatagram d).2 = [] ↔ n.guardian.accepts r = false ∨ n.offer? layer r = none) ∧
    ((n.onDatagram d).2 = [] → ((n.onDatagram d).1 = n ↔ n.guardian.accepts r = false) ∧
      (n.onDatagram d).1.guardian.parked = n.guardian.parked ∧
      (n.onDatagram d).1.guardian.inFlight = n.guardian.inFlight ∧
      (n.onDatagram d).1.offerLayers = n.offerLayers) ∧
    ((n.onDatagram d).2 = [] → n.guardian.accepts r = true →
      (n.onDatagram d).1.guardian.pending = enqueue n.guardian.pending r ∧
      ∀ es, (∀ t ∈ (n.onDatagram d).1.log es, ¬ TakesUp t r) →
        (((n.onDatagram d).1.log es).filterMap offered?).length < maxQueued →
        ∀ layer' d', d'.message? = some (layer', .routing r) →
          ((n.onDatagram d).1.run es).onDatagram d' = ((n.onDatagram d).1.run es, [])) := by
  have hsilent := onDatagram_silent_iff (n := n) reads
  refine ⟨hsilent, ?_, ?_⟩
  · intro hnone
    cases suited : n.guardian.accepts r with
    | false => simp [onDatagram_of_declines reads suited]
    | true =>
      have hunfit : n.offer? layer r = none := by simpa [suited] using hsilent.mp hnone
      rw [onDatagram_of_unfit reads suited hunfit]
      exact ⟨iff_of_false (expecting_ne suited) (by simp), rfl, rfl, rfl⟩
  · intro hnone suited
    have hunfit : n.offer? layer r = none := by simpa [suited] using hsilent.mp hnone
    rw [onDatagram_of_unfit reads suited hunfit]
    refine ⟨rfl, fun es hkept hfew layer' d' reads' => ?_⟩
    exact silent_while_queued (queued_enqueue_self _ r) hkept hfew reads'

/-- The coder, with a name for its kind that is this long. -/
def orator (n : Nat) : GuardianNode :=
  fresh { (Guardian.coder [] 0).profile with expertType := Frame.letters n } .zero

theorem orator_accepts (n : Nat) :
    (orator n).guardian.accepts (Guardian.codeRequest "r") = true :=
  Guardian.coder_accepts Nat.two_pos

/-- No check asks for the kind of an expert. -/
theorem orator_valid (n : Nat) : (Message.offer (Guardian.offer (orator n).guardian.profile
    (Guardian.codeRequest "r"))).isValid = true := by
  have hcoder : (Message.offer (Guardian.offer (Guardian.coder [] 0).profile
      (Guardian.codeRequest "r"))).isValid = true := by decide +kernel
  rw [Message.isValid_offer] at hcoder ⊢
  exact hcoder

theorem orator_unfit {n : Nat} (hlong : Frame.maxPayload ≤ n) (hn : n < 2 ^ 31) :
    (orator n).offer? .backbone (Guardian.codeRequest "r") = none := by
  have hlength : (Frame.payload (.offer (Guardian.offer (orator n).guardian.profile
      (Guardian.codeRequest "r")))).length = n + 71 := by
    have hrest : (Frame.payload (.offer (Guardian.offer (Guardian.coder [] 0).profile
        (Guardian.codeRequest "r")))).length = 71 := by decide +kernel
    rw [Frame.length_payload_offer]
    exact congrArg₂ (· + ·) (Frame.length_encode_letters n) hrest
  have hcap : Frame.maxPayload < (n + 71) % 2 ^ 32 := by
    simp only [Frame.maxPayload] at *
    omega
  rw [offer?, Datagram.ofMessage?, Frame.encode_eq (orator_valid n), hlength, if_pos hcap]
  rfl

theorem orator_fits (n : Nat) :
    ∃ d, (orator n).offer? .mesh (Guardian.codeRequest "r") = some d := by
  obtain ⟨d, hd, -⟩ := @Datagram.ofMessage?_of_fits .mesh _ (orator_valid n) fun h => by cases h
  exact ⟨d, hd⟩

theorem unsent_offers_wait_orator :
    (codeRequest .backbone).message? = some (.backbone, .routing (Guardian.codeRequest "r")) ∧
    ((orator 65536).onDatagram (codeRequest .backbone)).2 = [] ∧
    ((orator 65536).onDatagram (codeRequest .backbone)).1.guardian.pending =
      [Guardian.codeRequest "r"] := by
  have hreads := codeRequest_message .backbone
  obtain ⟨hsilent, -, hwaits⟩ := unsent_offers_wait (n := orator 65536) hreads
  have hnone := hsilent.mpr (.inr (orator_unfit (by decide) (by decide)))
  exact ⟨hreads, hnone, (hwaits hnone (orator_accepts 65536)).1⟩

/-- The offer does not fit a frame, so nothing is sent; yet the node has changed. The same request
on the mesh, where the offer fits, is declined; a node that had not heard of it answers. -/
theorem unsent_offers_are_taken_for_sent : ∃ n' d,
    (orator 65536).onDatagram (codeRequest .backbone) = (n', []) ∧ n' ≠ orator 65536 ∧
    n'.onDatagram (codeRequest .mesh) = (n', []) ∧
    ((orator 65536).onDatagram (codeRequest .mesh)).2 = [.send .mesh d] := by
  have hsuited := orator_accepts 65536
  obtain ⟨d, hfits⟩ := orator_fits 65536
  have hwaits : Guardian.codeRequest "r" ∈
      ((orator 65536).expecting (Guardian.codeRequest "r")).pending := mem_enqueue_self _ _
  exact ⟨_, d, onDatagram_of_unfit (codeRequest_message .backbone) hsuited
      (orator_unfit (by decide) (by decide)), expecting_ne hsuited,
    onDatagram_of_declines (codeRequest_message .mesh) (accepts_of_mem hwaits),
    onDatagram_of_fits (codeRequest_message .mesh) hsuited hfits⟩

end DebateMesh.GuardianNode
