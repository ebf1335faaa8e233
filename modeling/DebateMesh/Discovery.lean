import DebateMesh.Message
import DebateMesh.Ranking

namespace DebateMesh

/-- Where a message travels: as JSON on the local mesh, or as frames on the backbone. -/
inductive Layer
  | mesh
  | backbone
deriving DecidableEq

inductive Phase
  | local
  | backbone
deriving DecidableEq

def Phase.layer : Phase → Layer
  | .local => .mesh
  | .backbone => .backbone

/-- Times in milliseconds, and what reputation and latency weigh. -/
structure DiscoverySettings where
  localTimeout : UInt64 := 200
  backboneTimeout : UInt64 := 2000
  reputationWeight : Binary64 := .ofDecimal false ⟨6, -1⟩
  latencyWeight : Binary64 := .ofDecimal false ⟨4, -1⟩
  /-- With fewer offers a phase has failed. -/
  minOffers : UInt64 := 1
deriving DecidableEq

/-- The reputation of a node, up to 100. -/
abbrev Reputation := String → UInt32

/-- What every node has when no one keeps reputations. -/
def defaultReputation : UInt32 := 50

/-- A search for experts, with the offers in the order they arrived. -/
structure Discovery where
  settings : DiscoverySettings
  offers : List ExpertOffer := []
  phase : Phase := .local
deriving DecidableEq

/-- The experts chosen, and every offer there was. -/
structure Selection where
  phase : Phase
  proposer : Option ExpertOffer
  critic : Option ExpertOffer
  offers : List ExpertOffer
deriving DecidableEq

def Selection.success (s : Selection) : Bool := s.proposer.isSome

def ratio (num den : Nat) : Binary64 := .ofRatio false num den

namespace Discovery

/-- The weighted sum of reputation and speed, each of them at most one. -/
def score (s : DiscoverySettings) (offer : ExpertOffer) (reputation : UInt32) : Binary64 :=
  let standing := (ratio reputation.toNat 100).min Binary64.one
  let speed := (ratio 1000 (Nat.max offer.bid.latency.toNat 1)).min Binary64.one
  (standing.mul s.reputationWeight).add (speed.mul s.latencyWeight)

def reset (d : Discovery) : Discovery := { d with offers := [], phase := .local }

/-- The caller sees to it that the offer is for its request. -/
def add (d : Discovery) (offer : ExpertOffer) : Discovery :=
  { d with offers := d.offers ++ [offer] }

def isSufficient (d : Discovery) : Bool := decide (d.settings.minOffers.toNat ≤ d.offers.length)

/-- The search never goes back to the local phase. -/
def escalate (d : Discovery) : Discovery := { d with phase := .backbone }

def timeout (d : Discovery) : UInt64 :=
  match d.phase with
  | .local => d.settings.localTimeout
  | .backbone => d.settings.backboneTimeout

/-- An offer with its place in the order of arrival and its score. -/
structure Ranked where
  place : Nat
  offer : ExpertOffer
  score : Binary64

def reputationOf (reputation : Option Reputation) (nodeId : String) : UInt32 :=
  match reputation with
  | some look => look nodeId
  | none => defaultReputation

def scored (d : Discovery) (reputation : Option Reputation) : List Ranked :=
  d.offers.zipIdx.map fun (o, i) =>
    ⟨i, o, score d.settings o (reputationOf reputation o.guardianId)⟩

/-- The highest score first; equal scores keep the order of arrival. -/
def ranked (d : Discovery) (reputation : Option Reputation) : List Ranked :=
  rankBy (fun a b => decide (b.score.totalRank ≤ a.score.totalRank)) (d.scored reputation)

def pickProposer (rs : List Ranked) (i : Intent) : Option Ranked :=
  rs.find? fun r => r.offer.hasCapability i.primary

/-- Excludes the proposer's place only, so an equal offer that arrived apart may be chosen. -/
def pickCritic (rs : List Ranked) (i : Intent) (proposer : Option Ranked) : Option Ranked :=
  rs.find? fun r =>
    proposer.map Ranked.place != some r.place && i.secondary.any r.offer.hasCapability

def select (d : Discovery) (request : RoutingRequest) (reputation : Option Reputation) :
    Selection :=
  let rs := d.ranked reputation
  let proposer := pickProposer rs request.intent
  let critic := pickCritic rs request.intent proposer
  ⟨d.phase, proposer.map Ranked.offer, critic.map Ranked.offer, d.offers⟩

end Discovery

end DebateMesh
