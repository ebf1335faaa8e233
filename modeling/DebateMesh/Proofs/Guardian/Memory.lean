import DebateMesh.Proofs.Guardian.Offers

namespace DebateMesh.Guardian

variable {g g' : Guardian} {c : Call} {answer : Answer} {cs : List Call} {ts : List Turn} {t : Turn}
  {i : SessionInit} {e : Envelope} {r : RoutingRequest} {pending : List RoutingRequest} {q : Parked}
  {prompt : String}

/-- An expert after these calls. -/
def after (p : Profile) (cs : List Call) : Guardian := Machine.final perform { profile := p } cs

/-- The session that a turn parks. -/
def parked? (t : Turn) : Option Parked :=
  match t.event, t.outcome with
  | .init i e, .joined (.ok none) =>
    if i.roleOf t.before.nodeId = some .critic then
      (e.decryptText i.encryptedPrompt (Utf8.encode i.requestId)).map (⟨i.sessionId, ·⟩)
    else none
  | _, _ => none

/-- The proposer's first packet of the session is heard. -/
def Opens (t : Turn) (sessionId : String) : Prop :=
  ∃ p, t.event = .packet p ∧ p.round = 1 ∧ p.role = .proposer ∧ p.sessionId = sessionId

theorem parked?_of_parks (admitted : g.Admits i e .critic r pending prompt) :
    parked? ⟨g, .init i e, .joined (.ok none), g'⟩ = some ⟨i.sessionId, prompt⟩ := by
  simp [parked?, admitted.named, admitted.opened]

theorem Move.of_parked (h : Move g c answer g') (hq : parked? ⟨g, c, answer, g'⟩ = some q) :
    g'.parked = enqueue g.parked q := by
  cases h with
  | declines | offers | refuses | starts | overhears | wakes | sleepsOn | releases => cases hq
  | ignores unnamed => simp [parked?, unnamed] at hq
  | lacksRoom admitted => simp [parked?, admitted.named] at hq
  | parks admitted =>
    rw [parked?_of_parks admitted] at hq
    cases hq
    rfl

/-- A parked session whose opening is not heard stays, with one more behind it for each session that
is parked, as long as these are fewer than the queue holds. -/
theorem Move.queued_parked {n : Nat} (h : Move g c answer g') (hq : Queued g.parked q n)
    (hkept : ¬ Opens ⟨g, c, answer, g'⟩ q.sessionId)
    (hfew : n + (parked? ⟨g, c, answer, g'⟩).toList.length < maxQueued) :
    Queued g'.parked q (n + (parked? ⟨g, c, answer, g'⟩).toList.length) := by
  cases h with
  | declines | offers | ignores | refuses | starts | lacksRoom | overhears | releases =>
    exact hq.mono (Nat.le_add_right _ _)
  | parks admitted =>
    rw [parked?_of_parks admitted] at hfew ⊢
    exact hq.enqueue hfew _
  | wakes round role awaited | sleepsOn round role awaited =>
    refine (hq.extract awaited ?_).mono (Nat.le_add_right _ _)
    rintro rfl
    exact hkept ⟨_, rfl, round, role, (beq_iff_eq.mp (extract_mem awaited).2.1).symm⟩

theorem queued_parked_turns (hq : Queued g.parked q 0) (cs : List Call)
    (hkept : ∀ t ∈ g.turns cs, ¬ Opens t q.sessionId)
    (hfew : ((g.turns cs).filterMap parked?).length < maxQueued) :
    q ∈ (Machine.final perform g cs).parked :=
  hq.final (fun g c _ h hkept hfew =>
    (perform_moves g c).queued_parked h hkept hfew) cs hkept hfew

theorem Move.pending_sublist (h : Move g c answer g') :
    g'.pending.Sublist (g.pending ++ (offered? ⟨g, c, answer, g'⟩).toList) := by
  cases h with
  | declines | ignores | refuses | overhears | wakes | sleepsOn | releases =>
    exact List.sublist_append_left _ _
  | offers => exact enqueue_sublist _ _
  | starts admitted | lacksRoom admitted | parks admitted =>
    exact (extract_sublist admitted.request).trans (List.sublist_append_left _ _)

theorem Move.parked_sublist (h : Move g c answer g') :
    g'.parked.Sublist (g.parked ++ (parked? ⟨g, c, answer, g'⟩).toList) := by
  cases h with
  | declines | offers | ignores | refuses | starts | lacksRoom | overhears | releases =>
    exact List.sublist_append_left _ _
  | parks admitted =>
    rw [parked?_of_parks admitted]
    exact enqueue_sublist _ _
  | wakes _ _ awaited | sleepsOn _ _ awaited =>
    exact (extract_sublist awaited).trans (List.sublist_append_left _ _)

theorem Move.ids_nodup (h : Move g c answer g') (hg : (g.pending.map (·.id)).Nodup) :
    (g'.pending.map (·.id)).Nodup := by
  cases h with
  | declines | ignores | refuses | overhears | wakes | sleepsOn | releases => exact hg
  | @offers r suited =>
    have hnew : ((g.pending ++ [r]).map (·.id)).Nodup := by
      rw [List.map_append, List.nodup_append]
      refine ⟨hg, List.pairwise_singleton _ _, ?_⟩
      rintro _ hq _ hr rfl
      obtain ⟨q, hq, hid⟩ := List.mem_map.mp hq
      exact id_ne_of_accepts suited q hq (hid.trans (List.mem_singleton.mp hr))
    exact hnew.sublist ((enqueue_sublist _ _).map _)
  | starts admitted | lacksRoom admitted | parks admitted =>
    exact hg.sublist ((extract_sublist admitted.request).map _)

/-- The queues hold what was put in, in its order. -/
structure Ordered (ts : List Turn) (g : Guardian) : Prop where
  pending : g.pending.Sublist (ts.filterMap offered?)
  parked : g.parked.Sublist (ts.filterMap parked?)
  ids : (g.pending.map (·.id)).Nodup

theorem Ordered.turn (ts : List Turn) (g : Guardian) (c : Call) (h : Ordered ts g) :
    Ordered (ts ++ [Machine.turn perform g c]) (g.perform c).1 := by
  have hmove := g.perform_moves c
  refine ⟨?_, ?_, hmove.ids_nodup h.ids⟩
  · rw [Machine.filterMap_concat]
    exact hmove.pending_sublist.trans (h.pending.append_right _)
  · rw [Machine.filterMap_concat]
    exact hmove.parked_sublist.trans (h.parked.append_right _)

theorem ordered_start (p : Profile) : Ordered [] { profile := p } :=
  ⟨List.nil_sublist _, List.nil_sublist _, List.Pairwise.nil⟩

theorem ordered_after (p : Profile) (cs : List Call) :
    Ordered (turns { profile := p } cs) (after p cs) :=
  Machine.history Ordered.turn (ordered_start p) cs

/-- An invitation is for an unknown request only when its header shows none that waits. -/
theorem unshown_of_unknownRequest {id : String}
    (h : g.onInit i e = .error (.unknownRequest id)) :
    ∀ r ∈ g.pending, r.showsAs i.requestId = false := by
  unfold onInit at h
  split at h
  · cases h
  split at h
  · rename_i hnone
    exact extract_eq_none_iff.mp hnone
  split at h
  · cases h
  split at h <;> cases h

/-- The opening packet of a parked session leads to the second round, on the prompt of the oldest
session of that name, if there is a free slot. -/
theorem onPacket_of_parked {packet : DebatePacket} (hq : q ∈ g.parked) (hround : packet.round = 1)
    (hrole : packet.role = .proposer) (hsession : packet.sessionId = q.sessionId) :
    ∃ q' ∈ g.parked, q'.sessionId = q.sessionId ∧ (g.onPacket packet).2 =
      if g.isSaturated then none
      else some ⟨packet.sessionId, 2, .critic, q'.prompt, some packet.content⟩ := by
  cases hex : extract (fun q => q.sessionId == packet.sessionId) g.parked with
  | none =>
    have hmiss := extract_eq_none_iff.mp hex q hq
    rw [hsession, beq_self_eq_true] at hmiss
    cases hmiss
  | some found =>
    obtain ⟨q', parked⟩ := found
    obtain ⟨hmem, hname, -⟩ := extract_mem hex
    refine ⟨q', hmem, (beq_iff_eq.mp hname).trans hsession, ?_⟩
    cases hfree : g.isSaturated with
    | false => rw [onPacket_eq hround hrole hex hfree]; rfl
    | true =>
      have hbusy := acquire_of_saturated (g := { g with parked }) hfree
      unfold onPacket
      rw [if_pos ⟨hround, hrole⟩, hex]
      dsimp only
      rw [hbusy]
      rfl

/-- The requests that wait differ in their identifiers and stand in the order of the offers, as
parked sessions stand in the order of their invitations. An offer that no session was taken up for
still waits unless the queue was filled with later ones, and no invitation that shows it is for an
unknown request. A parked session whose opening was not heard still waits, with its prompt, unless
the queue was filled with later ones; its opening then leads to the second round, if a slot is
free. -/
theorem commitments_are_remembered (p : Profile) (cs : List Call) :
    ((after p cs).pending.map (·.id)).Nodup ∧
    (after p cs).pending.Sublist ((turns { profile := p } cs).filterMap offered?) ∧
    (after p cs).parked.Sublist ((turns { profile := p } cs).filterMap parked?) ∧
    (∀ front t back r, turns { profile := p } cs = front ++ t :: back → offered? t = some r →
      (∀ u ∈ back, ¬ TakesUp u r) → (back.filterMap offered?).length < maxQueued →
      r ∈ (after p cs).pending ∧ ∀ i e id, i.requestId = fitField requestIdWidth r.id →
        (after p cs).onInit i e ≠ .error (.unknownRequest id)) ∧
    (∀ front t back q, turns { profile := p } cs = front ++ t :: back → parked? t = some q →
      (∀ u ∈ back, ¬ Opens u q.sessionId) → (back.filterMap parked?).length < maxQueued →
      q ∈ (after p cs).parked ∧ ∀ packet : DebatePacket, packet.round = 1 →
        packet.role = .proposer → packet.sessionId = q.sessionId →
        ∃ q' ∈ (after p cs).parked, q'.sessionId = q.sessionId ∧
          ((after p cs).onPacket packet).2 = if (after p cs).isSaturated then none
            else some ⟨packet.sessionId, 2, .critic, q'.prompt, some packet.content⟩) := by
  have hordered := ordered_after p cs
  refine ⟨hordered.ids, hordered.pending, hordered.parked, ?_, ?_⟩
  · intro front t back r hsplit ho hkept hfew
    have hmove := move_of_mem_turns (t := t) (by rw [hsplit]; simp)
    obtain ⟨gs, rfl, hend⟩ := Machine.final_of_split hsplit
    have hwaits : Queued t.after.pending r 0 := by
      rw [(hmove.of_offered ho).2]
      exact queued_enqueue_self _ _
    have hmem := queued_turns hwaits gs hkept hfew
    rw [hend] at hmem
    refine ⟨hmem, fun i e id hid hunknown => ?_⟩
    have hunshown := unshown_of_unknownRequest hunknown r hmem
    rw [RoutingRequest.showsAs, hid, beq_self_eq_true] at hunshown
    cases hunshown
  · intro front t back q hsplit hq hkept hfew
    have hmove := move_of_mem_turns (t := t) (by rw [hsplit]; simp)
    obtain ⟨gs, rfl, hend⟩ := Machine.final_of_split hsplit
    have hwaits : Queued t.after.parked q 0 := by
      rw [hmove.of_parked hq]
      exact queued_enqueue_self _ _
    have hmem := queued_parked_turns hwaits gs hkept hfew
    rw [hend] at hmem
    exact ⟨hmem, fun packet hround hrole hsession =>
      onPacket_of_parked hmem hround hrole hsession⟩

def narrow (pending : List RoutingRequest) (parked : List Parked) (inFlight : Nat) : Guardian where
  profile := { (coder [] 0).profile with maxConcurrent := 1 }
  pending := pending
  parked := parked
  inFlight := inFlight

/-- The expert is to criticise. -/
def criticInvitation : SessionInit := sealedInvitation "s" "r" "solve code" "!q" (some "!p")

def proposerInvitation : SessionInit := sealedInvitation "t" "q" "solve code" "!p" none

theorem narrow_admits_critic (q : RoutingRequest) : (narrow [codeRequest "r", q] [] 0).Admits
    criticInvitation .zero .critic (codeRequest "r") [q] "solve code" where
  named := (by decide : criticInvitation.roleOf "!p" = some .critic)
  request := if_pos (by decide)
  opened := sealedInvitation_opens "s" "!q" (some "!p") (by decide) (by decide)
  bound := PayloadHash.verify_ofPrompt _

theorem narrow_admits_proposer (parked : List Parked) : (narrow [codeRequest "q"] parked 0).Admits
    proposerInvitation .zero .proposer (codeRequest "q") [] "solve code" where
  named := (by decide : proposerInvitation.roleOf "!p" = some .proposer)
  request := if_pos (by decide)
  opened := sealedInvitation_opens "t" "!p" none (by decide) (by decide)
  bound := PayloadHash.verify_ofPrompt _

/-- Two offers, and a session to criticise. -/
def criticCalls : List Call :=
  [.offer (codeRequest "r"), .offer (codeRequest "q"), .init criticInvitation .zero]

theorem turns_criticCalls : (narrow [] [] 0).turns criticCalls =
    [⟨narrow [] [] 0, .offer (codeRequest "r"),
        .offered (some (offer (narrow [] [] 0).profile (codeRequest "r"))),
        narrow [codeRequest "r"] [] 0⟩,
      ⟨narrow [codeRequest "r"] [] 0, .offer (codeRequest "q"),
        .offered (some (offer (narrow [] [] 0).profile (codeRequest "q"))),
        narrow [codeRequest "r", codeRequest "q"] [] 0⟩,
      ⟨narrow [codeRequest "r", codeRequest "q"] [] 0, .init criticInvitation .zero,
        .joined (.ok none), narrow [codeRequest "q"] [⟨"s", "solve code"⟩] 0⟩] := by
  have hfirst : (narrow [] [] 0).perform (.offer (codeRequest "r")) =
      (narrow [codeRequest "r"] [] 0, .offered (some (offer (narrow [] [] 0).profile _))) :=
    perform_offer (by decide +kernel)
  have hsecond : (narrow [codeRequest "r"] [] 0).perform (.offer (codeRequest "q")) =
      (narrow [codeRequest "r", codeRequest "q"] [] 0,
        .offered (some (offer (narrow [] [] 0).profile _))) :=
    perform_offer (by decide +kernel)
  have hparks : (narrow [codeRequest "r", codeRequest "q"] [] 0).perform
      (.init criticInvitation .zero) =
      (narrow [codeRequest "q"] [⟨"s", "solve code"⟩] 0, .joined (.ok none)) := by
    rw [perform, takeUp_eq, (narrow_admits_critic _).onInit]
    rfl
  simp only [turns, criticCalls, Machine.turns, Machine.turn, hfirst, hsecond, hparks]

theorem turns_narrowCalls :
    (narrow [] [] 0).turns (criticCalls ++ [.init proposerInvitation .zero]) =
    (narrow [] [] 0).turns criticCalls ++
      [⟨narrow [codeRequest "q"] [⟨"s", "solve code"⟩] 0, .init proposerInvitation .zero,
        .joined (.ok (some ⟨"t", 1, .proposer, "solve code", none⟩)),
        narrow [] [⟨"s", "solve code"⟩] 1⟩] := by
  have hend : Machine.final perform (narrow [] [] 0) criticCalls =
      narrow [codeRequest "q"] [⟨"s", "solve code"⟩] 0 :=
    Machine.final_of_last [_, _] turns_criticCalls
  have hstarts : (narrow [codeRequest "q"] [⟨"s", "solve code"⟩] 0).perform
      (.init proposerInvitation .zero) = (narrow [] [⟨"s", "solve code"⟩] 1,
        .joined (.ok (some ⟨"t", 1, .proposer, "solve code", none⟩))) := by
    rw [perform, takeUp_eq, (narrow_admits_proposer _).onInit]
    rfl
  rw [turns, Machine.turns_append, hend]
  simp only [turns, Machine.turns, Machine.turn, hstarts]

/-- The opening packet of the session that the expert is to criticise. -/
def opening : DebatePacket where
  sessionId := "s"
  round := 1
  role := .proposer
  content := "text"

theorem commitments_are_remembered_narrow :
    codeRequest "q" ∈ (after (narrow [] [] 0).profile criticCalls).pending ∧
    ⟨"s", "solve code"⟩ ∈ (after (narrow [] [] 0).profile criticCalls).parked ∧
    ((after (narrow [] [] 0).profile criticCalls).onPacket opening).2 =
      some ⟨"s", 2, .critic, "solve code", some "text"⟩ := by
  obtain ⟨-, -, -, hpending, hparked⟩ :=
    commitments_are_remembered (narrow [] [] 0).profile criticCalls
  have hsplit : turns { profile := (narrow [] [] 0).profile } criticCalls = [_] ++ _ :: [_] :=
    turns_criticCalls
  have hsplit' : turns { profile := (narrow [] [] 0).profile } criticCalls = [_, _] ++ _ :: [] :=
    turns_criticCalls
  have hend : after (narrow [] [] 0).profile criticCalls =
      narrow [codeRequest "q"] [⟨"s", "solve code"⟩] 0 :=
    Machine.final_of_last [_, _] turns_criticCalls
  obtain ⟨hq, -⟩ := hpending _ _ _ (codeRequest "q") hsplit rfl (by
    rw [List.forall_mem_singleton]
    rintro ⟨i, e, role, pending, prompt, hevent, admitted⟩
    cases hevent
    have hother := (narrow_admits_critic (codeRequest "q")).request
    have hsame := (Prod.mk.inj (Option.some.inj (admitted.request.symm.trans hother))).1
    exact absurd (congrArg RoutingRequest.id hsame) (by decide)) (by decide)
  obtain ⟨hs, hwakes⟩ := hparked _ _ _ ⟨"s", "solve code"⟩ hsplit'
    (parked?_of_parks (narrow_admits_critic (codeRequest "q"))) (List.forall_mem_nil _) (by decide)
  obtain ⟨q', hq', -, hpacket⟩ := hwakes opening rfl rfl rfl
  refine ⟨hq, hs, ?_⟩
  rw [hend] at hq' hpacket ⊢
  obtain rfl := List.mem_singleton.mp hq'
  exact hpacket

/-- The session was parked just now, and no packet of it was heard; yet the proposer's packet leads
to nothing, since the only slot is taken. -/
theorem busy_experts_miss_rounds : ∃ cs front t back q,
    turns { profile := (narrow [] [] 0).profile } cs = front ++ t :: back ∧
    parked? t = some q ∧ (∀ u ∈ back, ¬ Opens u q.sessionId) ∧
    (back.filterMap parked?).length < maxQueued ∧ opening.sessionId = q.sessionId ∧
    ((after (narrow [] [] 0).profile cs).onPacket opening).2 = none := by
  have hsplit := turns_narrowCalls
  rw [turns_criticCalls] at hsplit
  have hend : after (narrow [] [] 0).profile (criticCalls ++ [.init proposerInvitation .zero]) =
      narrow [] [⟨"s", "solve code"⟩] 1 := Machine.final_of_last [_, _, _] hsplit
  refine ⟨_, [_, _], _, [_], ⟨"s", "solve code"⟩, hsplit,
    parked?_of_parks (narrow_admits_critic (codeRequest "q")), ?_, by decide, rfl, ?_⟩
  · rw [List.forall_mem_singleton]
    rintro ⟨p, hevent, -⟩
    cases hevent
  · rw [hend]
    decide

end DebateMesh.Guardian
