import DebateMesh.Proofs.GuardianNode
import DebateMesh.Proofs.Session.Header

namespace DebateMesh.GuardianNode

/-- One event of a run, with the node before and after it. -/
abbrev Entry := Machine.Turn GuardianNode Event (List Work)

def log (n : GuardianNode) (es : List Event) : List Entry := Machine.turns step n es

def run (n : GuardianNode) (es : List Event) : GuardianNode := Machine.final step n es

theorem log_append (n : GuardianNode) (es fs : List Event) :
    n.log (es ++ fs) = n.log es ++ (n.run es).log fs := Machine.turns_append step n es fs

/-- A node to which nothing has happened. -/
def fresh (p : Profile) (e : Envelope) : GuardianNode :=
  { guardian := { profile := p }, envelope := e }

variable {n : GuardianNode} {d : Datagram} {layer : Layer}

theorem step_offers {d' : Datagram} {r : RoutingRequest}
    (reads : d.message? = some (layer, .routing r)) (suited : n.guardian.accepts r = true)
    (fits : Datagram.ofMessage? layer (.offer (Guardian.offer n.guardian.profile r)) = some d') :
    n.step (.datagram d) = ({ n with
      guardian := n.expecting r, offerLayers := enqueue n.offerLayers (r.id, layer) },
      [.send layer d']) := by
  rw [step, onDatagram_of_message reads, onMessage, onRequest, Guardian.offerFor, if_pos suited]
  dsimp only
  rw [fits]
  rfl

theorem step_starts {bs : Bytes} {i : SessionInit} {g : Guardian} {a : Assignment}
    (reads : SessionInit.ofBytes bs = .ok i)
    (starts : n.guardian.onInit i n.envelope = .ok (g, some a)) :
    n.step (.datagram (.sessionInit bs)) =
      ({ n with guardian := g }, [.generate (n.offerLayer i.requestId) a]) := by
  rw [step, onDatagram_eq]
  dsimp only
  rw [onInit, reads]
  dsimp only
  rw [starts]

/-- The node of the coder, with these offers sent. -/
def coder (pending : List RoutingRequest) (inFlight : Nat) (offerLayers : List (String × Layer)) :
    GuardianNode :=
  { guardian := Guardian.coder pending inFlight, envelope := .zero, offerLayers }

theorem fresh_coder : fresh (Guardian.coder [] 0).profile .zero = coder [] 0 [] := rfl

def codeRequest (layer : Layer) : Datagram :=
  (Datagram.ofMessage? layer (.routing (Guardian.codeRequest "r"))).getD (.json [])

theorem codeRequest_message (layer : Layer) :
    (codeRequest layer).message? = some (layer, .routing (Guardian.codeRequest "r")) := by
  have hvalid : (Message.routing (Guardian.codeRequest "r")).isValid = true := by decide +kernel
  obtain ⟨d, hd, hreads⟩ := @Datagram.ofMessage?_of_fits layer _ hvalid fun _ => by decide +kernel
  rw [codeRequest, hd]
  exact hreads

def codeInvitation : Datagram := .sessionInit Guardian.codeInvitation.toBytes

theorem codeInvitation_reads :
    SessionInit.ofBytes Guardian.codeInvitation.toBytes = .ok Guardian.codeInvitation := by
  have hfitted : Guardian.codeInvitation.fitted = Guardian.codeInvitation := by
    have hsession : fitField sessionIdWidth Guardian.codeInvitation.sessionId = "s" := by decide
    have hrequest : fitField requestIdWidth Guardian.codeInvitation.requestId = "r" := by decide
    have hproposer : fitField nodeIdWidth Guardian.codeInvitation.proposerId = "!p" := by decide
    have hcritic : SessionInit.fittedCritic Guardian.codeInvitation.criticId = none := by decide
    rw [SessionInit.fitted, hsession, hrequest, hproposer, hcritic]
    rfl
  have hreads := @SessionInit.ofBytes_toBytes Guardian.codeInvitation (by decide) (by decide)
  rwa [hfitted] at hreads

/-- A request on the layer, and a session on it. -/
def codeSession (layer : Layer) : List Event :=
  [.datagram (codeRequest layer), .datagram codeInvitation]

variable {inFlight : Nat} (hfree : inFlight < 2) (offerLayers : List (String × Layer))

include hfree

theorem coder_offers (layer : Layer) : ∃ d,
    (coder [] inFlight offerLayers).step (.datagram (codeRequest layer)) =
      (coder [Guardian.codeRequest "r"] inFlight (enqueue offerLayers ("r", layer)),
        [.send layer d]) := by
  have hvalid : (Message.offer (Guardian.offer (Guardian.coder [] inFlight).profile
      (Guardian.codeRequest "r"))).isValid = true := by
    change (Message.offer (Guardian.offer (Guardian.coder [] 0).profile _)).isValid = true
    decide +kernel
  obtain ⟨d, hd, -⟩ := @Datagram.ofMessage?_of_fits layer _ hvalid fun _ => by
    change (Frame.payload (.offer (Guardian.offer (Guardian.coder [] 0).profile _))).length ≤ _
    decide +kernel
  exact ⟨d, step_offers (codeRequest_message layer) (Guardian.coder_accepts hfree) hd⟩

theorem coder_starts :
    (coder [Guardian.codeRequest "r"] inFlight offerLayers).step (.datagram codeInvitation) =
      (coder [] (inFlight + 1) offerLayers,
        [.generate ((coder [] inFlight offerLayers).offerLayer "r") Guardian.codeAssignment]) := by
  have hstep := @step_starts (coder [Guardian.codeRequest "r"] inFlight offerLayers) _ _ _ _
    codeInvitation_reads (Guardian.coder_onInit hfree)
  rw [codeInvitation, hstep]
  rfl

/-- What a request on a layer and a session on it lead to. -/
theorem coder_codeSession (layer : Layer) : ∃ d,
    (coder [] inFlight offerLayers).log (codeSession layer) =
      [⟨coder [] inFlight offerLayers, .datagram (codeRequest layer), [.send layer d],
        coder [Guardian.codeRequest "r"] inFlight (enqueue offerLayers ("r", layer))⟩,
       ⟨coder [Guardian.codeRequest "r"] inFlight (enqueue offerLayers ("r", layer)),
        .datagram codeInvitation,
        [.generate ((coder [] inFlight (enqueue offerLayers ("r", layer))).offerLayer "r")
          Guardian.codeAssignment],
        coder [] (inFlight + 1) (enqueue offerLayers ("r", layer))⟩] ∧
    (coder [] inFlight offerLayers).run (codeSession layer) =
      coder [] (inFlight + 1) (enqueue offerLayers ("r", layer)) := by
  obtain ⟨d, hoffers⟩ := coder_offers hfree offerLayers layer
  have hstarts := coder_starts hfree (enqueue offerLayers ("r", layer))
  refine ⟨d, ?_, ?_⟩
  · simp only [log, codeSession, Machine.turns, Machine.turn, hoffers, hstarts]
  · simp only [run, codeSession, Machine.final, hoffers, hstarts]

end DebateMesh.GuardianNode
