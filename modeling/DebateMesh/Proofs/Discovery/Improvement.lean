import DebateMesh.Proofs.Binary64.Monotone
import DebateMesh.Proofs.Discovery.Optimum

namespace DebateMesh

/-- The offer with another estimate of the latency. -/
def ExpertOffer.withLatency (o : ExpertOffer) (latency : UInt32) : ExpertOffer :=
  { o with bid := { o.bid with latency } }

namespace Discovery

open Binary64

/-- Both weights are finite numbers from zero up. -/
structure Weighs (s : DiscoverySettings) : Prop where
  reputation : isNonNegative s.reputationWeight = true
  latency : isNonNegative s.latencyWeight = true

/-- The magnitude of a ratio, cut at one. -/
def share (num den : Nat) : Nat := Nat.min (nearest (num <<< 1074) den) one.magnitude

theorem share_lt (num den : Nat) : share num den < infinite :=
  Nat.lt_of_le_of_lt (Nat.min_le_right _ _) (by decide +kernel)

theorem min_ratio_one (num den : Nat) :
    (ratio num den).min one = ofMagnitude false (share num den) := by
  have hone : one = ofMagnitude false one.magnitude := by decide +kernel
  have hle : one.magnitude ≤ infinite := by decide +kernel
  conv_lhs => rw [hone]
  exact min_of_magnitude (nearest_le_infinite _ _) hle

theorem share_mono {num den num' den' : Nat} (hden : 0 < den) (hden' : 0 < den')
    (h : num * den' ≤ num' * den) : share num den ≤ share num' den' := by
  have hscaled : num <<< 1074 * den' ≤ num' <<< 1074 * den := by
    rw [Nat.shiftLeft_eq, Nat.shiftLeft_eq, Nat.mul_right_comm, Nat.mul_right_comm num']
    exact Nat.mul_le_mul_right _ h
  have hnearest := nearest_mono hden hden' hscaled
  exact Nat.le_min.mpr ⟨(Nat.min_le_left _ _).trans hnearest, Nat.min_le_right _ _⟩

variable {s : DiscoverySettings} {o o' : ExpertOffer} {r r' : UInt32}

/-- How much of the full speed an offer has. -/
def speed (o : ExpertOffer) : Nat := share 1000 (Nat.max o.bid.latency.toNat 1)

/-- A score is the sum of two weighted shares. -/
theorem score_eq (s : DiscoverySettings) (o : ExpertOffer) (r : UInt32) :
    score s o r = ((ofMagnitude false (share r.toNat 100)).mul s.reputationWeight).add
      ((ofMagnitude false (speed o)).mul s.latencyWeight) := by
  unfold score speed
  dsimp only
  rw [min_ratio_one, min_ratio_one]

theorem score_nonneg (hs : Weighs s) (o : ExpertOffer) (r : UInt32) : (score s o r).Nonneg := by
  rw [score_eq]
  exact (nonneg_mul (share_lt _ _) (nonneg_of_isNonNegative hs.reputation)).add
    (nonneg_mul (share_lt _ _) (nonneg_of_isNonNegative hs.latency))

/-- More reputation and less latency do not make a score lower. -/
theorem score_mono (hs : Weighs s) (hr : r ≤ r') (hl : o'.bid.latency ≤ o.bid.latency) :
    (score s o r).totalRank ≤ (score s o' r').totalRank := by
  have hreputation := nonneg_of_isNonNegative hs.reputation
  have hlatency := nonneg_of_isNonNegative hs.latency
  have hstanding : share r.toNat 100 ≤ share r'.toNat 100 := by
    refine share_mono (by decide) (by decide) (Nat.mul_le_mul_right 100 ?_)
    exact UInt32.le_iff_toNat_le.mp hr
  have hspeed : speed o ≤ speed o' := by
    have hmax : Nat.max o'.bid.latency.toNat 1 ≤ Nat.max o.bid.latency.toNat 1 :=
      max_le_max_right 1 (UInt32.le_iff_toNat_le.mp hl)
    exact share_mono (Nat.le_max_right _ 1) (Nat.le_max_right _ 1) (Nat.mul_le_mul_left 1000 hmax)
  rw [score_eq, score_eq]
  exact add_mono (nonneg_mul (share_lt _ _) hreputation) (nonneg_mul (share_lt _ _) hreputation)
    (nonneg_mul (share_lt _ _) hlatency) (nonneg_mul (share_lt _ _) hlatency)
    (mul_mono hstanding (share_lt _ _) hreputation) (mul_mono hspeed (share_lt _ _) hlatency)

theorem score_le (hs : Weighs s) (hr : r ≤ r') (hl : o'.bid.latency ≤ o.bid.latency) :
    (score s o r).le (score s o' r') = true :=
  le_of_totalRank_le (score_nonneg hs o r).isNaN (score_nonneg hs o' r').isNaN
    (score_mono hs hr hl)

variable {d d' : Discovery} {reputation reputation' : Option Reputation} {request : RoutingRequest}
  {may may' : Nat → ExpertOffer → Prop} {i j : Nat} {x x' : ExpertOffer} {g : String}

/-- If the best offer does not score less in another search, and the best one there did not score
less before, both are in one place. -/
theorem Best.stays (hi : d.Best reputation may i o) (hj : d'.Best reputation' may' j x')
    (hx : d.offers[j]? = some x) (hmay : may j x) (ho : d'.offers[i]? = some o') (hmay' : may' i o')
    (hrise : (d.scoreOf reputation o).totalRank ≤ (d'.scoreOf reputation' o').totalRank)
    (hfall : (d'.scoreOf reputation' x').totalRank ≤ (d.scoreOf reputation x).totalRank) :
    j = i := by
  have hbefore := hi.leads j x hx hmay
  have hafter := hj.leads i o' ho hmay'
  omega

/-- Only this node's reputation is another, and it is not lower. -/
structure Raised (g : String) (before after : Option Reputation) : Prop where
  others : ∀ id, id ≠ g → reputationOf after id = reputationOf before id
  raised : reputationOf before g ≤ reputationOf after g

theorem Raised.scoreOf_le (h : Raised g reputation reputation') (hs : Weighs d.settings)
    (o : ExpertOffer) :
    (d.scoreOf reputation o).totalRank ≤ (d.scoreOf reputation' o).totalRank := by
  have hvalue : reputationOf reputation o.guardianId ≤ reputationOf reputation' o.guardianId := by
    by_cases hg : o.guardianId = g
    · rw [hg]
      exact h.raised
    · rw [h.others _ hg]
      exact UInt32.le_refl _
  unfold scoreOf
  exact score_mono hs hvalue (UInt32.le_refl o.bid.latency)

/-- The best offer of a search in which a node is valued more is the node's, if it was. -/
theorem Best.raised (hi : d.Best reputation (Proposes request) i o)
    (hj : d.Best reputation' (Proposes request) j x)
    (h : Raised o.guardianId reputation reputation') (hs : Weighs d.settings) :
    x.guardianId = o.guardianId := by
  by_contra hother
  have hsame : d.scoreOf reputation' x = d.scoreOf reputation x := by
    unfold scoreOf
    rw [h.others _ hother]
  have hfall := le_of_eq (congrArg totalRank hsame)
  have hplace := hi.stays hj hj.offer hj.allowed hi.offer hi.allowed (h.scoreOf_le hs o) hfall
  have hoffer := hj.offer
  rw [hplace, hi.offer] at hoffer
  cases hoffer
  exact hother rfl

/-- The offer in this place has another estimate of the latency. -/
def hasten (d : Discovery) (i : Nat) (latency : UInt32) : Discovery :=
  { d with offers := d.offers.modify i (·.withLatency latency) }

theorem Best.hasten {latency : UInt32} (hi : d.Best reputation (Proposes request) i o)
    (hl : latency ≤ o.bid.latency) (hs : Weighs d.settings) :
    (d.hasten i latency).Best reputation (Proposes request) i (o.withLatency latency) := by
  have hoffer : (d.hasten i latency).offers[i]? = some (o.withLatency latency) := by
    simp [Discovery.hasten, hi.offer]
  have hscore : (d.scoreOf reputation o).totalRank ≤
      ((d.hasten i latency).scoreOf reputation (o.withLatency latency)).totalRank :=
    score_mono hs (UInt32.le_refl _) hl
  refine ⟨hoffer, hi.allowed, fun j x hx hskill => ?_⟩
  by_cases hij : i = j
  · subst hij
    rw [hoffer] at hx
    cases hx
    exact .inr ⟨rfl, Nat.le_refl _⟩
  · have hx' : d.offers[j]? = some x := by simpa [Discovery.hasten, hij] using hx
    have hleads := hi.leads j x hx' hskill
    have hsame : (d.hasten i latency).scoreOf reputation x = d.scoreOf reputation x := rfl
    rw [hsame]
    omega

/-- The better an offer, the higher its score. The node of the selected offer keeps the selection
when its reputation rises, and the selected offer itself when its latency falls. -/
theorem better_offers_stay_chosen (d : Discovery) (hs : Weighs d.settings) :
    (∀ o r r', r ≤ r' → (score d.settings o r).le (score d.settings o r') = true) ∧
    (∀ (o : ExpertOffer) r l l', l ≤ l' → (score d.settings (o.withLatency l') r).le
      (score d.settings (o.withLatency l) r) = true) ∧
    (∀ request g before after o, Raised g before after →
      (d.select request before).proposer = some o → o.guardianId = g →
      ∃ o', (d.select request after).proposer = some o' ∧ o'.guardianId = g) ∧
    ∀ request reputation o, (d.select request reputation).proposer = some o →
      ∃ i, d.offers[i]? = some o ∧ d.proposerPlace request reputation = some i ∧
        ∀ l ≤ o.bid.latency, (d.hasten i l).proposerPlace request reputation = some i ∧
          ((d.hasten i l).select request reputation).proposer = some (o.withLatency l) := by
  refine ⟨fun o r r' hr => ?_, fun o r l l' hl => ?_, ?_, ?_⟩
  · exact score_le hs hr (UInt32.le_refl o.bid.latency)
  · exact score_le hs (UInt32.le_refl r) hl
  · rintro request g before after o hraised hchosen rfl
    obtain ⟨i, hi⟩ := select_proposer_iff.mp hchosen
    cases hafter : (d.select request after).proposer with
    | none =>
      rw [select_eq, (d.chosen_proposer request after).offer_eq_none_iff] at hafter
      exact absurd hi.allowed (hafter i o hi.offer)
    | some x =>
      obtain ⟨j, hj⟩ := select_proposer_iff.mp hafter
      exact ⟨x, rfl, hi.raised hj hraised hs⟩
  · intro request reputation o hchosen
    obtain ⟨i, hi⟩ := select_proposer_iff.mp hchosen
    refine ⟨i, hi.offer, hi.place_eq (d.chosen_proposer request reputation), fun l hl => ?_⟩
    have hfaster := hi.hasten hl hs
    exact ⟨hfaster.place_eq ((d.hasten i l).chosen_proposer request reputation),
      select_proposer_iff.mpr ⟨i, hfaster⟩⟩

/-- Offers that score the same, as neither could have more reputation or speed. -/
def saturated : Discovery :=
  { settings := {}, offers := [coderOffer "!a" 500, coderOffer "!b" 800] }

theorem better_offers_stay_chosen_saturated :
    Weighs saturated.settings ∧
    (score saturated.settings (coderOffer "!a" 500) 0).le
      (score saturated.settings (coderOffer "!a" 500) 120) = true ∧
    (∃ o, (saturated.select codeWanted (some fun id => if id = "!a" then 120 else 100)).proposer =
      some o ∧ o.guardianId = "!a") ∧
    ((saturated.hasten 0 0).select codeWanted (some fun _ => 100)).proposer =
      some (coderOffer "!a" 0) := by
  have hweighs : Weighs saturated.settings := ⟨by decide +kernel, by decide +kernel⟩
  have hchosen : (saturated.select codeWanted (some fun _ => 100)).proposer =
      some (coderOffer "!a" 500) := by decide +kernel
  have hraised : Raised "!a" (some fun _ => 100)
      (some fun id => if id = "!a" then 120 else 100) := by
    refine ⟨fun id hid => ?_, by decide⟩
    dsimp only [reputationOf]
    rw [if_neg hid]
  obtain ⟨hscore, -, hkeeps, hhastened⟩ := better_offers_stay_chosen saturated hweighs
  refine ⟨hweighs, hscore _ _ _ (by decide), hkeeps _ _ _ _ _ hraised hchosen rfl, ?_⟩
  obtain ⟨i, hoffer, hplace, hstays⟩ := hhastened _ _ _ hchosen
  have hfirst : saturated.proposerPlace codeWanted (some fun _ => 100) = some 0 := by
    decide +kernel
  cases Option.some.inj (hfirst.symm.trans hplace)
  exact (hstays 0 (by decide)).2

end Discovery

end DebateMesh
