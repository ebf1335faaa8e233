import DebateMesh.Proofs.Binary64.Order
import DebateMesh.Proofs.Discovery.Optimum
import DebateMesh.Proofs.Guardian.Run
import DebateMesh.Proofs.Moderator.Invitation
import DebateMesh.Proofs.Moderator.Search

namespace DebateMesh

/-- The offer costs no more than the user allows, and its expert is fast enough. -/
structure ExpertOffer.Within (o : ExpertOffer) (c : Constraints) : Prop where
  cost : o.bid.cost.le c.costCap = true
  latency : o.bid.latency ≤ c.maxLatency

/-- An expert makes no offer beyond the limits of the request. -/
theorem within_of_offerFor {g g' : Guardian} {r : RoutingRequest} {o : ExpertOffer}
    (h : g.offerFor r = (g', some o)) (hcost : isNonNegative o.bid.cost = true)
    (hcap : isNonNegative r.constraints.costCap = true) : o.Within r.constraints := by
  obtain ⟨haccepts, -, rfl⟩ := Guardian.offerFor_some h
  rw [Guardian.accepts, Guardian.serves] at haccepts
  simp only [Bool.and_eq_true, Bool.not_eq_true', decide_eq_true_eq] at haccepts
  obtain ⟨-, ⟨-, hbelow⟩, hfast⟩ := haccepts
  exact ⟨Binary64.le_of_not_lt (isFinite_of_isNonNegative hcost)
    (isFinite_of_isNonNegative hcap) hbelow, hfast⟩

namespace Moderator

variable {m m' : Moderator} {e : Event} {o : Outcome} {es past : List Event} {t : Turn}
  {layer : Layer} {recipients : List String} {bytes : Bytes}

def Heard (past : List Event) (m : Moderator) : Prop :=
  ∀ a, m.active = some a → ∀ o ∈ a.discovery.offers, ∃ e ∈ past, e.offer? a.request.id = some o

theorem Heard.of_idle (h : m.active = none) : Heard past m := by
  simp [Heard, h]

theorem Heard.of_active {a b : Active} (hm : Heard past m) (ha : m.active = some a)
    (hr : b.request = a.request) (ho : b.discovery.offers = a.discovery.offers) :
    Heard past { m with active := some b } := by
  intro c hc
  cases hc
  rw [hr, ho]
  exact hm a ha

theorem Heard.mono (hm : Heard past m) (more : List Event) : Heard (past ++ more) m := by
  intro a ha x hx
  obtain ⟨e, he, hoffer⟩ := hm a ha x hx
  exact ⟨e, List.mem_append_left _ he, hoffer⟩

theorem Heard.move (hm : Heard past m) (h : Move m e o m') : Heard (past ++ [e]) m' := by
  cases h with
  | refuses | concludes | expires | fails | cancels => exact Heard.of_idle rfl
  | ignores | rests | cannotSeal => exact hm.mono _
  | accepts =>
    intro a ha x hx
    cases ha
    simp [openDiscovery_offers] at hx
  | records active | opens active | escalates active | cannotBroadcast active =>
    apply Heard.mono
    exact hm.of_active active rfl rfl
  | @hears _ a offer active _ _ arrived request =>
    intro b hb x hx
    cases hb
    rcases List.mem_append.mp hx with hx | hx
    · exact hm.mono _ a active x hx
    · refine ⟨e, List.mem_append_right _ (List.mem_singleton.mpr rfl), ?_⟩
      cases List.mem_singleton.mp hx
      simp [Event.offer?, arrived, request]

theorem Heard.run (hm : Heard past m) (es : List Event) : Heard (past ++ es) (m.run es).1 := by
  rw [run_final]
  exact Machine.final_past (fun _ m e h => h.move (m.step_moves e)) hm es

/-- What is known of an expert's offer when the expert is invited. That it is within the limits is
known when it was made by an expert that was shown them. -/
structure Engaged (past : List Event) (a : Active) (o : ExpertOffer) : Prop where
  arrived : ∃ e ∈ past, e.message? = some (.offer o)
  request : o.requestId = a.request.id
  valid : (Message.offer o).isValid = true
  within : ∀ g g' r, Guardian.offerFor g r = (g', some o) →
    r.constraints = a.request.constraints → o.Within a.request.constraints

theorem engaged_of_mem {a : Active} {x : ExpertOffer} (hheard : Heard past m) (hm : m.Valid)
    (ha : m.active = some a) (hx : x ∈ a.discovery.offers) : Engaged past a x := by
  obtain ⟨e, he, hoffer⟩ := hheard a ha x hx
  obtain ⟨harrived, hid⟩ := message?_of_offer? hoffer
  have hvalid := Event.isValid_of_message? harrived
  refine ⟨⟨e, he, harrived⟩, hid, hvalid, fun g g' r hmade hlimits => ?_⟩
  obtain ⟨-, hcost, -⟩ := (Message.isValid_offer x).mp hvalid
  obtain ⟨-, -, -, -, hcap⟩ := (Message.isValid_routing a.request).mp (hm a ha)
  rw [← hlimits] at hcap ⊢
  exact within_of_offerFor hmade hcost hcap

/-- The experts that are invited are those whose offers rank first among all that arrived, whatever
the limits of the request are. Their offers are within these limits when they were made by experts
that were shown them; nothing is known of others, and reputation decides nothing but the ranks. -/
theorem limits_are_kept_by_experts (hm : m.active = none) (ht : t ∈ m.turns es)
    (hx : .sendInit layer recipients bytes ∈ t.actions) :
    ∃ past rest a proposer critic, es = past ++ t.event :: rest ∧ t.before.active = some a ∧
      (∀ limits, (a.discovery.select { a.request with constraints := limits } m.reputation) =
        ⟨a.discovery.phase, some proposer, critic, a.discovery.offers⟩) ∧
      recipients = proposer.guardianId :: (critic.map (·.guardianId)).toList ∧
      (∀ x ∈ proposer :: critic.toList, Engaged past a x) ∧
      (∀ x ∈ a.discovery.offers, x.hasCapability a.request.intent.primary = true →
        (a.discovery.scoreOf m.reputation x).totalRank ≤
          (a.discovery.scoreOf m.reputation proposer).totalRank) ∧
      ∀ c ∈ critic, ∀ x ∈ a.discovery.offers,
        a.request.intent.secondary.any x.hasCapability = true → x ≠ proposer →
        (a.discovery.scoreOf m.reputation x).totalRank ≤
          (a.discovery.scoreOf m.reputation c).totalRank := by
  obtain ⟨past, rest, hes, hbefore⟩ := before_of_mem_turns ht
  obtain ⟨fresh, a, proposer, i, -, hinvites, hrecipients, -⟩ := (move_of_mem_turns ht).invites hx
  obtain ⟨y, hfixed⟩ := m.run_fixed past
  have hlook : t.before.reputation = m.reputation := by rw [hbefore, hfixed]
  have hheard : Heard past t.before := by
    have hrun : Heard ([] ++ past) (m.run past).1 := (Heard.of_idle hm).run past
    rwa [List.nil_append, ← hbefore] at hrun
  have hvalid : t.before.Valid := by
    rw [hbefore]
    exact (Valid.of_idle hm).run
  obtain ⟨-, -, hproposer, hcritic, -⟩ := invitation_ok hinvites.invites
  have hchosen := hinvites.chosen
  rw [hlook] at hchosen hcritic
  obtain ⟨hheldP, hheldC⟩ := a.discovery.mem_of_select a.request m.reputation
  refine ⟨past, rest, a, proposer, (a.discovery.select a.request m.reputation).critic, hes,
    hinvites.before, fun limits => ?_, ?_, fun x hx => ?_, (Discovery.proposer_best hchosen).2,
    fun c hc x hx hskill hother => (Discovery.critic_best hc).2 x hx hskill ?_⟩
  · rw [← hchosen]
    rfl
  · rw [hrecipients, SessionInit.recipients, hproposer, hcritic]
  · apply engaged_of_mem hheard hvalid hinvites.before
    rcases List.mem_cons.mp hx with rfl | hx
    · exact hheldP x hchosen
    · exact hheldC x (Option.mem_toList.mp hx)
  · rw [hchosen]
    exact fun hsame => hother (Option.some.inj hsame).symm

/-- One expert is heard, and the search ends. -/
def expertHeard (x : ExpertOffer) : List Event :=
  [.submit "solve code" "r" none 0, .message (Message.offer x).toJson.encode,
    .timeout ⟨sessionIdOf (List.replicate 16 0), List.replicate 12 0⟩]

/-- What the turns that invite experts choose from, and within which limits. -/
def Turn.choice? (t : Turn) : Option (Constraints × List ExpertOffer) :=
  if t.actions.any Action.isInvitation then
    t.before.active.map fun a => (a.request.constraints, a.discovery.offers)
  else none

theorem invites_of_choice {limits : Constraints} {offers : List ExpertOffer}
    (hinvited : recipients ∈ invited (m.turns es))
    (hchoice : ∀ t ∈ m.turns es, ∀ choice ∈ t.choice?, choice = (limits, offers)) :
    ∃ t ∈ m.turns es, ∃ layer bytes a, .sendInit layer recipients bytes ∈ t.actions ∧
      t.before.active = some a ∧ a.request.constraints = limits ∧ a.discovery.offers = offers := by
  obtain ⟨t, ht, layer, bytes, hx⟩ := exists_of_mem_invited hinvited
  obtain ⟨_, a, _, _, -, hinvites, -, -⟩ := (move_of_mem_turns ht).invites hx
  have ha := hinvites.before
  have hchosen : t.choice? = some (a.request.constraints, a.discovery.offers) := by
    rw [Turn.choice?, if_pos (List.any_eq_true.mpr ⟨_, hx, rfl⟩), ha]
    rfl
  obtain ⟨hlimits, hoffers⟩ := Prod.mk.inj (hchoice t ht _ hchosen)
  exact ⟨t, ht, layer, bytes, a, hx, ha, hlimits, hoffers⟩

def codeOffer : ExpertOffer :=
  Guardian.offer (Guardian.coder [] 0).profile (Guardian.codeRequest "r")

theorem limits_are_kept_by_experts_coder :
    ∃ t ∈ asker.turns (expertHeard codeOffer), ∃ layer bytes a,
      .sendInit layer ["!p"] bytes ∈ t.actions ∧ t.before.active = some a ∧
      a.discovery.offers = [codeOffer] ∧ codeOffer.Within a.request.constraints := by
  obtain ⟨t, ht, layer, bytes, a, hx, ha, hlimits, hoffers⟩ :=
    @invites_of_choice asker (expertHeard codeOffer) ["!p"] {} [codeOffer] (by decide +kernel)
      (by decide +kernel)
  obtain ⟨past, rest, b, proposer, critic, -, hb, hselect, -, hengaged, -, -⟩ :=
    limits_are_kept_by_experts rfl ht hx
  cases Option.some.inj (ha.symm.trans hb)
  have hproposer : proposer = codeOffer := by
    have hheld := (a.discovery.mem_of_select a.request asker.reputation).1 proposer
      (congrArg Selection.proposer (hselect a.request.constraints))
    rwa [hoffers, List.mem_singleton] at hheld
  have hmade : (Guardian.coder [] 0).offerFor (Guardian.codeRequest "r") =
      (Guardian.coder [Guardian.codeRequest "r"] 0, some proposer) := by
    rw [hproposer, Guardian.offerFor, if_pos (Guardian.coder_accepts Nat.two_pos)]
    rfl
  have hwithin := (hengaged proposer List.mem_cons_self).within _ _ _ hmade hlimits.symm
  rw [hproposer] at hwithin
  exact ⟨t, ht, layer, bytes, a, hx, ha, hoffers, hwithin⟩

/-- A moderator that trusts nobody. -/
def sceptic : Moderator := { asker with reputation := some fun _ => 0 }

/-- The offer of an expert that is slow and charges too much. -/
def slowOffer : ExpertOffer := ⟨"r", "!p", "", ["code"], ⟨Binary64.one, 5000⟩, ""⟩

/-- The expert is invited, although it has no reputation, charges too much and is too slow. -/
theorem limits_are_passed_over :
    ∃ t ∈ sceptic.turns (expertHeard slowOffer), ∃ layer bytes a,
      .sendInit layer [slowOffer.guardianId] bytes ∈ t.actions ∧ t.before.active = some a ∧
      a.discovery.offers = [slowOffer] ∧
      (Discovery.reputationOf sceptic.reputation slowOffer.guardianId).toNat <
        a.request.constraints.minReputation.toNat ∧
      a.request.constraints.costCap.lt slowOffer.bid.cost = true ∧
      a.request.constraints.maxLatency < slowOffer.bid.latency := by
  obtain ⟨t, ht, layer, bytes, a, hx, ha, hlimits, hoffers⟩ :=
    @invites_of_choice sceptic (expertHeard slowOffer) ["!p"] {} [slowOffer] (by decide +kernel)
      (by decide +kernel)
  refine ⟨t, ht, layer, bytes, a, hx, ha, hoffers, ?_⟩
  rw [hlimits]
  decide +kernel

end Moderator

end DebateMesh
