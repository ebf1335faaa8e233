import DebateMesh.Proofs.Moderator.Run
import DebateMesh.Proofs.Session.Header

namespace DebateMesh

namespace Moderator

/-- Every offer that counts names its guardian. -/
def Named (m : Moderator) : Prop :=
  ∀ a, m.active = some a → ∀ o ∈ a.discovery.offers, o.guardianId ≠ ""

variable {m m' : Moderator} {e : Event} {o : Outcome} {es : List Event} {t : Turn} {layer : Layer}
  {recipients : List String} {bytes : Bytes}

theorem Named.of_idle (h : m.active = none) : m.Named := by
  intro a ha
  rw [h] at ha
  cases ha

theorem openDiscovery_offers (s : DiscoverySettings) (r : RoutingRequest) :
    (openDiscovery s r).offers = [] := by
  unfold openDiscovery
  split
  · rfl
  · rfl

theorem Named.move (hm : m.Named) (h : Move m e o m') : m'.Named := by
  cases h with
  | refuses | concludes | expires | fails | cancels => exact Named.of_idle rfl
  | ignores | rests | cannotSeal => exact hm
  | accepts =>
    intro a ha x hx
    cases ha
    rw [openDiscovery_offers] at hx
    cases hx
  | @hears _ a offer active _ _ arrived =>
    intro b hb x hx
    cases hb
    rcases List.mem_append.mp hx with hx | hx
    · exact hm a active x hx
    · cases List.mem_singleton.mp hx
      exact ((Message.isValid_offer offer).mp (Event.isValid_of_message? arrived)).1.2
  | records active | opens active | escalates active | cannotBroadcast active =>
    intro b hb x hx
    cases hb
    exact hm _ active x hx

theorem Named.run (hm : m.Named) : (m.run es).1.Named :=
  run_keeps (P := Named) (A := fun _ => True) (fun _ _ _ _ hn hmove _ => hn.move hmove) hm
    fun _ _ => trivial

/-- The invitation that a debate is opened with. -/
structure Invites (m : Moderator) (fresh : Fresh) (m' : Moderator) (a : Active)
    (proposer : ExpertOffer) (i : SessionInit) : Prop where
  before : m.active = some a
  chosen : (a.discovery.select a.request m.reputation).proposer = some proposer
  invites : m.invitation a proposer (a.discovery.select a.request m.reputation).critic fresh = .ok i
  after : m'.active = some { a with session := some (Debate.ofInit i) }

theorem Move.invites (h : Move m e o m') (hx : .sendInit layer recipients bytes ∈ o.actions) :
    ∃ fresh a proposer i, e = .timeout fresh ∧ Invites m fresh m' a proposer i ∧
      recipients = i.recipients ∧ bytes = i.toBytes := by
  cases h with
  | refuses | ignores | hears | rests | cannotSeal | cannotBroadcast | cancels => cases hx
  | records | concludes | expires | fails => cases List.mem_singleton.mp hx
  | accepts | escalates => rcases List.mem_pair.mp hx with h | h <;> cases h
  | @opens fresh a proposer i active _ _ chosen invites =>
    rcases List.mem_pair.mp hx with h | h
    · cases h
      exact ⟨fresh, a, proposer, i, rfl, ⟨active, chosen, invites, rfl⟩, rfl, rfl⟩
    · cases h

theorem Invites.session {fresh : Fresh} {a : Active} {proposer : ExpertOffer} {i : SessionInit}
    (h : Invites m fresh m' a proposer i) (he : Event.Drawn (.timeout fresh)) :
    fitField sessionIdWidth i.sessionId ≠ "" := by
  obtain ⟨random, hrandom, hsession⟩ := he
  obtain ⟨hfits, hnamed⟩ := sessionIdOf_fits hrandom
  rw [(invitation_ok h.invites).1, hsession, hfits]
  exact hnamed

theorem Invites.recipients_named {fresh : Fresh} {a : Active} {proposer : ExpertOffer}
    {i : SessionInit} (h : Invites m fresh m' a proposer i) (hm : m.Named) :
    ∀ id ∈ i.recipients, id ≠ "" := by
  obtain ⟨-, -, hp, hc, -⟩ := invitation_ok h.invites
  obtain ⟨hproposer, hcritic⟩ := a.discovery.mem_of_select a.request m.reputation
  intro id hid
  rcases List.mem_cons.mp hid with rfl | hid
  · rw [hp]
    exact hm a h.before _ (hproposer _ h.chosen)
  · rw [hc, Option.mem_toList] at hid
    obtain ⟨critic, hmem, rfl⟩ := Option.map_eq_some_iff.mp hid
    exact hm a h.before _ (hcritic _ hmem)

theorem invites_of_mem_turns (hes : ∀ e ∈ es, e.Drawn) (ht : t ∈ m.turns es)
    (hx : .sendInit layer recipients bytes ∈ t.actions) :
    ∃ fresh a proposer i, Invites t.before fresh t.after a proposer i ∧
      fitField sessionIdWidth i.sessionId ≠ "" ∧ recipients = i.recipients ∧ bytes = i.toBytes := by
  obtain ⟨fresh, a, proposer, i, hevent, hinvites, hrecipients, hbytes⟩ :=
    (move_of_mem_turns ht).invites hx
  obtain ⟨fs, gs, rfl, -⟩ := before_of_mem_turns ht
  have hdrawn : Event.Drawn (.timeout fresh) := by
    rw [← hevent]
    exact hes _ (List.mem_append_right _ List.mem_cons_self)
  exact ⟨fresh, a, proposer, i, hinvites, hinvites.session hdrawn, hrecipients, hbytes⟩

/-- An invitation goes to the experts that were chosen, all of which have names. When the header has
room for nothing of the proposer's name, the invitation cannot be read. Else it shows a critic when
it has room for something of the critic's name, and each expert finds its role there; but a critic
that the header cannot tell from the proposer finds the proposer's. -/
theorem invitations_tell_roles (hm : m.active = none) (hes : ∀ e ∈ es, e.Drawn)
    (ht : t ∈ m.turns es) (hx : .sendInit layer recipients bytes ∈ t.actions) :
    ∃ a d, t.before.active = some a ∧ t.after.active = some { a with session := some d } ∧
      (a.discovery.select a.request t.before.reputation).proposer.map (·.guardianId) =
        some d.proposerId ∧
      (a.discovery.select a.request t.before.reputation).critic.map (·.guardianId) = d.criticId ∧
      recipients = d.proposerId :: d.criticId.toList ∧ (∀ id ∈ recipients, id ≠ "") ∧
      if fitField nodeIdWidth d.proposerId = "" then
        SessionInit.ofBytes bytes = .error (.empty .proposerId)
      else ∃ i, SessionInit.ofBytes bytes = .ok i ∧
        (i.criticId.isSome = true ↔
          ∃ critic, d.criticId = some critic ∧ fitField nodeIdWidth critic ≠ "") ∧
        i.roleOf d.proposerId = some .proposer ∧
        ∀ critic, d.criticId = some critic → i.roleOf critic =
          if fitField nodeIdWidth d.proposerId = fitField nodeIdWidth critic then some .proposer
          else if fitField nodeIdWidth critic = "" then none
          else some .critic := by
  have hnamed : t.before.Named := by
    obtain ⟨fs, gs, -, hbefore⟩ := before_of_mem_turns ht
    rw [hbefore]
    exact (Named.of_idle hm).run
  obtain ⟨fresh, a, proposer, i, hinvites, hsession, rfl, hbytes⟩ :=
    invites_of_mem_turns hes ht hx
  obtain ⟨-, -, hp, hc, -⟩ := invitation_ok hinvites.invites
  refine ⟨a, Debate.ofInit i, hinvites.before, hinvites.after, ?_, hc.symm, rfl,
    hinvites.recipients_named hnamed, ?_⟩
  · rw [hinvites.chosen]
    exact congrArg some hp.symm
  · rw [hbytes]
    change if fitField nodeIdWidth i.proposerId = "" then _ else _
    split
    · rename_i hfilling
      exact SessionInit.ofBytes_toBytes_unnamed hsession hfilling
    · rename_i hshown
      exact ⟨i.fitted, SessionInit.ofBytes_toBytes hsession hshown, i.fitted_criticId_isSome,
        i.roleOf_fitted_proposer, fun critic hcritic => SessionInit.roleOf_fitted_critic hcritic⟩

/-- Two experts are heard, one on code and one on mathematics, and the search ends. -/
def pairHeard (proposer critic : String) : List Event :=
  [.submit "solve code" "r" none 0,
    .message (Message.offer ⟨"r", proposer, "", ["code"], ⟨Binary64.zero, 10⟩, ""⟩).toJson.encode,
    .message (Message.offer ⟨"r", critic, "", ["math"], ⟨Binary64.zero, 10⟩, ""⟩).toJson.encode,
    .timeout ⟨sessionIdOf (List.replicate 16 0), List.replicate 12 0⟩]

theorem exists_of_mem_actions {α : Type} {f : Action → Option α} {ts : List Turn} {y : α}
    (h : y ∈ (ts.flatMap Turn.actions).filterMap f) : ∃ t ∈ ts, ∃ x ∈ t.actions, f x = some y := by
  obtain ⟨x, hx, hy⟩ := List.mem_filterMap.mp h
  obtain ⟨t, ht, hx⟩ := List.mem_flatMap.mp hx
  exact ⟨t, ht, x, hx, hy⟩

/-- Whom the actions of a run invite. -/
def invited (ts : List Turn) : List (List String) :=
  (ts.flatMap Turn.actions).filterMap fun
    | .sendInit _ recipients _ => some recipients
    | _ => none

theorem exists_of_mem_invited {ts : List Turn} (h : recipients ∈ invited ts) :
    ∃ t ∈ ts, ∃ layer bytes, .sendInit layer recipients bytes ∈ t.actions := by
  obtain ⟨t, ht, x, hx, hrecipients⟩ := exists_of_mem_actions h
  cases x with
  | broadcast | armTimer | failed | complete => cases hrecipients
  | sendInit layer recipients bytes =>
    cases hrecipients
    exact ⟨t, ht, layer, bytes, hx⟩

theorem pairHeard_drawn (proposer critic : String) : ∀ e ∈ pairHeard proposer critic, e.Drawn := by
  simp only [pairHeard, List.forall_mem_cons]
  exact ⟨trivial, trivial, trivial, ⟨_, rfl, rfl⟩, fun e he => by cases he⟩

theorem invitations_tell_roles_pair : ∃ t ∈ asker.turns (pairHeard "!p" "!c"), ∃ layer bytes i,
    .sendInit layer ["!p", "!c"] bytes ∈ t.actions ∧ SessionInit.ofBytes bytes = .ok i ∧
    i.criticId.isSome = true ∧ i.roleOf "!p" = some .proposer ∧ i.roleOf "!c" = some .critic := by
  have hinvited : ["!p", "!c"] ∈ invited (asker.turns (pairHeard "!p" "!c")) := by decide +kernel
  obtain ⟨t, ht, layer, bytes, hx⟩ := exists_of_mem_invited hinvited
  obtain ⟨a, d, -, -, -, -, hrecipients, -, htells⟩ :=
    invitations_tell_roles rfl (pairHeard_drawn "!p" "!c") ht hx
  obtain ⟨hproposer, hcritic⟩ := List.cons.inj hrecipients
  have hcritic : d.criticId = some "!c" := Option.toList_eq_singleton_iff.mp hcritic.symm
  rw [← hproposer, if_neg (by decide)] at htells
  obtain ⟨i, hi, hshown, hroleP, hroleC⟩ := htells
  refine ⟨t, ht, layer, bytes, i, hx, hi, hshown.mpr ⟨"!c", hcritic, by decide⟩, hroleP, ?_⟩
  rw [hroleC "!c" hcritic]
  decide

/-- The header of an invitation to two experts. -/
theorem invited_pair {proposer critic : String} (hes : ∀ e ∈ es, e.Drawn)
    (h : [proposer, critic] ∈ invited (m.turns es)) :
    ∃ t ∈ m.turns es, ∃ (layer : Layer) (i : SessionInit),
      .sendInit layer [proposer, critic] i.toBytes ∈ t.actions ∧ i.proposerId = proposer ∧
      i.criticId = some critic ∧ fitField sessionIdWidth i.sessionId ≠ "" := by
  obtain ⟨t, ht, layer, bytes, hx⟩ := exists_of_mem_invited h
  obtain ⟨fresh, a, chosen, i, -, hsession, hrecipients, hbytes⟩ := invites_of_mem_turns hes ht hx
  obtain ⟨hp, hc⟩ := List.cons.inj hrecipients
  rw [hbytes] at hx
  exact ⟨t, ht, layer, i, hx, hp.symm, Option.toList_eq_singleton_iff.mp hc.symm, hsession⟩

/-- A proposer whose name is filling makes the invitation unreadable; a critic whose name is filling
is not shown; and a critic that differs from the proposer behind the width of the field is shown as
the proposer. -/
theorem invitations_hide_names :
    (∃ t ∈ asker.turns (pairHeard "\x00" "!c"), ∃ layer bytes,
      .sendInit layer ["\x00", "!c"] bytes ∈ t.actions ∧
      SessionInit.ofBytes bytes = .error (.empty .proposerId)) ∧
    (∃ t ∈ asker.turns (pairHeard "!p" "\x00"), ∃ layer bytes i,
      .sendInit layer ["!p", "\x00"] bytes ∈ t.actions ∧
      SessionInit.ofBytes bytes = .ok i ∧ i.criticId = none) ∧
    ∃ t ∈ asker.turns (pairHeard "0123456789abcdefP" "0123456789abcdefC"), ∃ layer bytes i,
      .sendInit layer ["0123456789abcdefP", "0123456789abcdefC"] bytes ∈ t.actions ∧
      SessionInit.ofBytes bytes = .ok i ∧ i.roleOf "0123456789abcdefC" = some .proposer := by
  refine ⟨?_, ?_, ?_⟩
  · have hinvited : ["\x00", "!c"] ∈ invited (asker.turns (pairHeard "\x00" "!c")) := by
      decide +kernel
    obtain ⟨t, ht, layer, i, hx, hp, -, hsession⟩ :=
      invited_pair (pairHeard_drawn _ _) hinvited
    refine ⟨t, ht, layer, _, hx, SessionInit.ofBytes_toBytes_unnamed hsession ?_⟩
    rw [hp]
    decide
  · have hinvited : ["!p", "\x00"] ∈ invited (asker.turns (pairHeard "!p" "\x00")) := by
      decide +kernel
    obtain ⟨t, ht, layer, i, hx, hp, hc, hsession⟩ :=
      invited_pair (pairHeard_drawn _ _) hinvited
    refine ⟨t, ht, layer, _, _, hx, SessionInit.ofBytes_toBytes hsession ?_, ?_⟩
    · rw [hp]
      decide
    · change SessionInit.fittedCritic i.criticId = none
      rw [hc]
      decide
  · have hinvited : ["0123456789abcdefP", "0123456789abcdefC"] ∈
        invited (asker.turns (pairHeard "0123456789abcdefP" "0123456789abcdefC")) := by
      decide +kernel
    obtain ⟨t, ht, layer, i, hx, hp, hc, hsession⟩ :=
      invited_pair (pairHeard_drawn _ _) hinvited
    refine ⟨t, ht, layer, _, _, hx, SessionInit.ofBytes_toBytes hsession ?_, ?_⟩
    · rw [hp]
      decide
    · rw [SessionInit.roleOf_fitted_critic hc, hp]
      decide

end Moderator

end DebateMesh
