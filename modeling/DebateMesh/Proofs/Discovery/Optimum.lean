import DebateMesh.Proofs.Discovery

namespace DebateMesh.Discovery

variable {d : Discovery} {reputation : Option Reputation} {may : Nat → ExpertOffer → Prop}
  {request : RoutingRequest} {i j : Nat} {o x : ExpertOffer} {p q : Option Nat}

/-- The offer at this place may be chosen. No other that may be scores higher, and those that score
the same arrived later. -/
structure Best (d : Discovery) (reputation : Option Reputation) (may : Nat → ExpertOffer → Prop)
    (i : Nat) (o : ExpertOffer) : Prop where
  offer : d.offers[i]? = some o
  allowed : may i o
  leads : ∀ j x, d.offers[j]? = some x → may j x →
    (d.scoreOf reputation x).totalRank < (d.scoreOf reputation o).totalRank ∨
      (d.scoreOf reputation x).totalRank = (d.scoreOf reputation o).totalRank ∧ i ≤ j

/-- The place of the best offer, and none when no offer may be chosen. -/
def Chosen (d : Discovery) (reputation : Option Reputation) (may : Nat → ExpertOffer → Prop) :
    Option Nat → Prop
  | some i => ∃ o, d.Best reputation may i o
  | none => ∀ j x, d.offers[j]? = some x → ¬ may j x

theorem Best.place_unique (hi : d.Best reputation may i o) (hj : d.Best reputation may j x) :
    i = j := by
  have hij := hi.leads j x hj.offer hj.allowed
  have hji := hj.leads i o hi.offer hi.allowed
  omega

theorem Best.place_eq (hi : d.Best reputation may i o) (hp : d.Chosen reputation may p) :
    p = some i := by
  cases p with
  | none => exact absurd hi.allowed (hp i o hi.offer)
  | some j =>
    obtain ⟨x, hx⟩ := hp
    rw [hi.place_unique hx]

theorem Chosen.unique (hp : d.Chosen reputation may p) (hq : d.Chosen reputation may q) :
    p = q := by
  cases p with
  | none =>
    cases q with
    | none => rfl
    | some j =>
      obtain ⟨x, hx⟩ := hq
      exact hx.place_eq hp
  | some i =>
    obtain ⟨o, ho⟩ := hp
    exact (ho.place_eq hq).symm

theorem Chosen.offer_eq_some_iff (hp : d.Chosen reputation may p) :
    p.bind (d.offers[·]?) = some o ↔ ∃ i, d.Best reputation may i o := by
  constructor
  · intro hoffer
    obtain ⟨i, rfl, hi⟩ := Option.bind_eq_some_iff.mp hoffer
    obtain ⟨x, hx⟩ := hp
    rw [hx.offer] at hi
    cases hi
    exact ⟨i, hx⟩
  · rintro ⟨i, hi⟩
    rw [hi.place_eq hp]
    exact hi.offer

theorem Chosen.offer_eq_none_iff (h : d.Chosen reputation may p) :
    p.bind (d.offers[·]?) = none ↔ ∀ i o, d.offers[i]? = some o → ¬ may i o := by
  cases p with
  | none => exact iff_of_true rfl h
  | some i =>
    obtain ⟨o, ho⟩ := h
    have hsome : (some i).bind (d.offers[·]?) = some o := ho.offer
    rw [hsome]
    exact iff_of_false (Option.some_ne_none o) fun hnone => hnone i o ho.offer ho.allowed

/-- The first entry of the ranking that may be chosen stands for the best offer. -/
theorem chosen_of_find? (d : Discovery) (reputation : Option Reputation)
    (may : Nat → ExpertOffer → Bool) :
    d.Chosen reputation (fun i o => may i o = true)
      (((d.ranked reputation).find? fun r => may r.place r.offer).map Ranked.place) := by
  have hentry (j : Nat) (x : ExpertOffer) (hx : d.offers[j]? = some x) :
      ⟨j, x, d.scoreOf reputation x⟩ ∈ d.ranked reputation := by
    refine mem_ranked_iff.mpr ⟨hx, ?_⟩
    dsimp only
  cases hfind : (d.ranked reputation).find? fun r => may r.place r.offer with
  | none =>
    intro j x hx hmay
    exact List.find?_eq_none.mp hfind _ (hentry j x hx) hmay
  | some r =>
    obtain ⟨hoffer, hscore⟩ := mem_ranked_iff.mp (List.mem_of_find?_eq_some hfind)
    have hallowed := List.find?_some hfind
    refine ⟨r.offer, hoffer, hallowed, fun j x hx hmay => ?_⟩
    rcases related_of_find? (d.ranked_pairwise reputation) hfind (hentry j x hx) hmay with
      rfl | hbehind
    · exact .inr ⟨rfl, Nat.le_refl _⟩
    · rw [Outranks, hscore] at hbehind
      dsimp only at hbehind
      omega

def proposerPlace (d : Discovery) (request : RoutingRequest) (reputation : Option Reputation) :
    Option Nat :=
  (pickProposer (d.ranked reputation) request.intent).map Ranked.place

def criticPlace (d : Discovery) (request : RoutingRequest) (reputation : Option Reputation) :
    Option Nat :=
  (pickCritic (d.ranked reputation) request.intent
    (pickProposer (d.ranked reputation) request.intent)).map Ranked.place

/-- The offer is on the primary intent. -/
def Proposes (request : RoutingRequest) (_ : Nat) (o : ExpertOffer) : Prop :=
  o.hasCapability request.intent.primary = true

/-- The offer is on a secondary intent, and stands in another place than the proposer's. -/
def Criticises (request : RoutingRequest) (proposer : Option Nat) (i : Nat) (o : ExpertOffer) :
    Prop :=
  proposer ≠ some i ∧ ∃ skill ∈ request.intent.secondary, o.hasCapability skill = true

theorem chosen_proposer (d : Discovery) (request : RoutingRequest)
    (reputation : Option Reputation) :
    d.Chosen reputation (Proposes request) (d.proposerPlace request reputation) :=
  d.chosen_of_find? reputation fun _ o => o.hasCapability request.intent.primary

theorem chosen_critic (d : Discovery) (request : RoutingRequest) (reputation : Option Reputation) :
    d.Chosen reputation (Criticises request (d.proposerPlace request reputation))
      (d.criticPlace request reputation) := by
  have hcritic := d.chosen_of_find? reputation fun i o =>
    d.proposerPlace request reputation != some i && request.intent.secondary.any o.hasCapability
  simp only [Bool.and_eq_true, bne_iff_ne, List.any_eq_true] at hcritic
  exact hcritic

theorem offer_of_find? {test : Ranked → Bool} :
    ((d.ranked reputation).find? test).map Ranked.offer =
      (((d.ranked reputation).find? test).map Ranked.place).bind (d.offers[·]?) := by
  cases hfind : (d.ranked reputation).find? test with
  | none => rfl
  | some r => exact (mem_ranked_iff.mp (List.mem_of_find?_eq_some hfind)).1.symm

theorem select_eq (d : Discovery) (request : RoutingRequest) (reputation : Option Reputation) :
    d.select request reputation =
      ⟨d.phase, (d.proposerPlace request reputation).bind (d.offers[·]?),
        (d.criticPlace request reputation).bind (d.offers[·]?), d.offers⟩ := by
  unfold select proposerPlace criticPlace pickProposer pickCritic
  dsimp only
  rw [offer_of_find?, offer_of_find?]

theorem select_proposer_iff :
    (d.select request reputation).proposer = some o ↔
      ∃ i, d.Best reputation (Proposes request) i o := by
  rw [select_eq]
  exact (d.chosen_proposer request reputation).offer_eq_some_iff

theorem select_critic_iff :
    (d.select request reputation).critic = some o ↔
      ∃ i, d.Best reputation (Criticises request (d.proposerPlace request reputation)) i o := by
  rw [select_eq]
  exact (d.chosen_critic request reputation).offer_eq_some_iff

/-- No other offer on the primary intent scores higher than the proposer's. -/
theorem proposer_best {proposer : ExpertOffer}
    (h : (d.select request reputation).proposer = some proposer) :
    proposer.hasCapability request.intent.primary = true ∧
      ∀ o ∈ d.offers, o.hasCapability request.intent.primary = true →
        (d.scoreOf reputation o).totalRank ≤ (d.scoreOf reputation proposer).totalRank := by
  obtain ⟨i, hi⟩ := select_proposer_iff.mp h
  refine ⟨hi.allowed, fun o ho hskill => ?_⟩
  obtain ⟨j, hj⟩ := List.mem_iff_getElem?.mp ho
  have hleads := hi.leads j o hj hskill
  omega

/-- No offer on a secondary intent, other than the proposer's, scores higher than the critic's. -/
theorem critic_best {critic : ExpertOffer}
    (h : (d.select request reputation).critic = some critic) :
    request.intent.secondary.any critic.hasCapability = true ∧
      ∀ o ∈ d.offers, request.intent.secondary.any o.hasCapability = true →
        (d.select request reputation).proposer ≠ some o →
        (d.scoreOf reputation o).totalRank ≤ (d.scoreOf reputation critic).totalRank := by
  obtain ⟨i, hi⟩ := select_critic_iff.mp h
  refine ⟨List.any_eq_true.mpr hi.allowed.2, fun o ho hskill hother => ?_⟩
  obtain ⟨j, hj⟩ := List.mem_iff_getElem?.mp ho
  have hplace : d.proposerPlace request reputation ≠ some j := by
    intro hsame
    rw [select_eq, hsame] at hother
    exact hother hj
  have hleads := hi.leads j o hj ⟨hplace, List.any_eq_true.mp hskill⟩
  omega

/-- The selected experts are the best ones. The proposer's place is the only one that is best on the
primary intent, and the critic's the only one that is best on a secondary intent among the places
that are left; there is no proposer, or no critic, just when no offer may be chosen. -/
theorem selection_is_optimal (d : Discovery) (request : RoutingRequest)
    (reputation : Option Reputation) :
    (∀ p, d.Chosen reputation (Proposes request) p ↔ p = d.proposerPlace request reputation) ∧
    (∀ q, d.Chosen reputation (Criticises request (d.proposerPlace request reputation)) q ↔
      q = d.criticPlace request reputation) ∧
    d.select request reputation =
      ⟨d.phase, (d.proposerPlace request reputation).bind (d.offers[·]?),
        (d.criticPlace request reputation).bind (d.offers[·]?), d.offers⟩ ∧
    ((d.select request reputation).proposer = none ↔
      ∀ o ∈ d.offers, o.hasCapability request.intent.primary = false) ∧
    (request.intent.secondary = [] → (d.select request reputation).critic = none) ∧
    ((d.select request reputation).critic = none ↔
      ∀ i o, d.offers[i]? = some o → d.proposerPlace request reputation ≠ some i →
        ∀ skill ∈ request.intent.secondary, o.hasCapability skill = false) := by
  have hproposer := d.chosen_proposer request reputation
  have hcritic := d.chosen_critic request reputation
  refine ⟨fun p => ⟨fun h => h.unique hproposer, fun h => h ▸ hproposer⟩,
    fun q => ⟨fun h => h.unique hcritic, fun h => h ▸ hcritic⟩, d.select_eq request reputation,
    ?_, ?_, ?_⟩
  · rw [select_eq, hproposer.offer_eq_none_iff]
    simp only [Proposes, Bool.not_eq_true, List.mem_iff_getElem?]
    exact ⟨fun h o ⟨i, hi⟩ => h i o hi, fun h i o hi => h o ⟨i, hi⟩⟩
  · intro hnone
    rw [select_eq, hcritic.offer_eq_none_iff]
    simp [Criticises, hnone]
  · rw [select_eq, hcritic.offer_eq_none_iff]
    simp [Criticises]

def coderOffer (guardianId : String) (latency : UInt32) : ExpertOffer :=
  ⟨"r", guardianId, "", ["code"], ⟨Binary64.zero, latency⟩, ""⟩

/-- The skill is wanted of both experts. -/
def codeWanted : RoutingRequest where
  id := "r"
  origin := "!m"
  intent := { primary := "code", secondary := ["code"] }
  timestamp := 0
  payloadHash := ""

/-- A search in which no offer scores a number, and one offer has arrived twice. -/
def unscored : Discovery where
  settings := { reputationWeight := Binary64.invalid }
  offers := [coderOffer "!a" 500, coderOffer "!b" 100, coderOffer "!a" 500]

theorem selection_is_optimal_unscored :
    unscored.Chosen none (Proposes codeWanted) (some 0) ∧
    unscored.Chosen none (Criticises codeWanted (some 0)) (some 1) ∧
    (unscored.select codeWanted none).offers = unscored.offers := by
  have hproposer : unscored.proposerPlace codeWanted none = some 0 := by decide +kernel
  have hcritic : unscored.criticPlace codeWanted none = some 1 := by decide +kernel
  obtain ⟨hproposes, hcriticises, hselect, -, -, -⟩ :=
    selection_is_optimal unscored codeWanted none
  rw [hproposer] at hproposes hcriticises
  rw [hcritic] at hcriticises
  exact ⟨(hproposes _).mpr rfl, (hcriticises _).mpr rfl, by rw [hselect]⟩

end DebateMesh.Discovery
