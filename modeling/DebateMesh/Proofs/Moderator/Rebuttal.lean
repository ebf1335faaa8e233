import DebateMesh.Proofs.Moderator.Invitation

namespace DebateMesh.Moderator

open Debate (Records)

variable {m m' : Moderator} {e : Event} {o : Outcome} {es past : List Event} {t : Turn}
  {a : Active} {d : Debate} {p q : DebatePacket} {sessionId requestId : String}

/-- The packet that arrives, on either layer. -/
def Event.packet? (e : Event) : Option DebatePacket :=
  match e.message? with
  | some (.debate p) => some p
  | _ => none

/-- The packets that arrive, in their order. -/
def packetsIn (es : List Event) : List DebatePacket := es.filterMap Event.packet?

theorem message?_of_packet? (h : e.packet? = some p) : e.message? = some (.debate p) := by
  unfold Event.packet? at h
  split at h
  · rename_i sent harrived
    cases h
    exact harrived
  · cases h

theorem packet?_of_message? (h : e.message? = some (.debate p)) : e.packet? = some p := by
  rw [Event.packet?, h]

/-- What arrives is recorded, packet after packet. -/
def recordsOf (es : List Event) : List Debate.Call := (packetsIn es).map .record

theorem recordsOf_concat (es : List Event) (e : Event) :
    recordsOf (es ++ [e]) = recordsOf es ++ (e.packet?.map Debate.Call.record).toList := by
  rw [recordsOf, packetsIn, Machine.filterMap_concat, List.map_append]
  cases e.packet? <;> rfl

/-- A packet that the debate takes does not pass unnoticed. -/
theorem outcome_of_takes (ha : m.active = some a) (hs : a.session = some d)
    (he : e.packet? = some p) (ht : d.Takes p) (hr : p.round ≤ maxRounds) :
    (m.step e).2 ≠ .ok [] := by
  rw [m.step_of_message (message?_of_packet? he), handle_packet ha hs ht hr]
  cases (d.append p).status <;> simp [finish]

/-- An open debate is what the packets since its opening make of it. -/
def Followed (past : List Event) (m : Moderator) : Prop :=
  ∀ a d, m.active = some a → a.session = some d → ∃ before fresh during i,
    past = before ++ .timeout fresh :: during ∧ i.sessionId = fresh.sessionId ∧
      d.isTerminal = false ∧ Records i (recordsOf during) d

theorem Followed.of_idle (h : m.active = none) : Followed past m := by
  simp [Followed, h]

theorem Followed.of_searching {b : Active} (h : m.active = some b) (hs : b.session = none) :
    Followed past m := by
  intro a d ha hd
  cases Option.some.inj (h.symm.trans ha)
  rw [hs] at hd
  cases hd

theorem Followed.step (hm : Followed past m) (e : Event) : Followed (past ++ [e]) (m.step e).1 := by
  have hmove := m.step_moves e
  generalize hstep : m.step e = next at hmove
  obtain ⟨m', o⟩ := next
  cases hmove with
  | refuses | concludes | expires | fails | cancels => exact Followed.of_idle rfl
  | rests idle => exact Followed.of_idle idle
  | accepts => exact Followed.of_searching rfl rfl
  | cannotSeal active searching => exact Followed.of_searching active searching
  | hears active searching | escalates active searching | cannotBroadcast active searching =>
    exact Followed.of_searching rfl searching
  | @opens fresh a proposer i active searching sufficient chosen invites =>
    intro b d hb hd
    cases hb
    cases hd
    exact ⟨past, fresh, [], i, rfl, (invitation_ok invites).1, Debate.isTerminal_ofInit i,
      Records.ofInit i⟩
  | @records _ a d p active debating traffic arrived takes goesOn =>
    intro b d' hb hd
    cases hb
    cases hd
    obtain ⟨before, fresh, during, i, rfl, hsession, -, hrecords⟩ := hm a d active debating
    refine ⟨before, fresh, during ++ [e], i, by simp, hsession, goesOn, ?_⟩
    rw [recordsOf_concat, packet?_of_message? arrived]
    exact hrecords.append takes
  | ignores traffic =>
    intro a d active debating
    obtain ⟨before, fresh, during, i, rfl, hsession, hrunning, hrecords⟩ := hm a d active debating
    refine ⟨before, fresh, during ++ [e], i, by simp, hsession, hrunning, ?_⟩
    rw [recordsOf_concat]
    cases hp : e.packet? with
    | none => simpa using hrecords
    | some p =>
      refine hrecords.refused fun takes => ?_
      apply outcome_of_takes active debating hp takes (takes.round_le hrecords.short)
      rw [hstep]

theorem Followed.run (hm : Followed past m) (es : List Event) :
    Followed (past ++ es) (m.run es).1 := by
  rw [run_final]
  exact Machine.final_past (fun _ _ e h => h.step e) hm es

/-- A debate completes with its last packet, or when its time has run out. -/
theorem Move.completes {transcript : List DebatePacket} (h : Move m e o m')
    (hx : .complete sessionId requestId transcript ∈ o.actions) : ∃ a d, m.active = some a ∧
      a.session = some d ∧ d.sessionId = sessionId ∧
      (transcript = d.transcript ∨ ∃ p, e.packet? = some p ∧ d.Takes p ∧
        transcript = (d.append p).transcript) := by
  cases h with
  | refuses | ignores | hears | rests | cannotSeal | cannotBroadcast | cancels => cases hx
  | records | fails => cases List.mem_singleton.mp hx
  | accepts | opens | escalates => rcases List.mem_pair.mp hx with hx | hx <;> cases hx
  | @concludes _ a d p active debating traffic arrived takes ends =>
    cases List.mem_singleton.mp hx
    exact ⟨a, d, active, debating, rfl, .inr ⟨p, packet?_of_message? arrived, takes, rfl⟩⟩
  | @expires fresh a d active debating =>
    cases List.mem_singleton.mp hx
    exact ⟨a, d, active, debating, rfl, .inl rfl⟩

/-- What a debate of two packets holds is an exchange of what arrived since it opened, and its
second packet arrived last. -/
theorem Followed.exchange (hm : Followed past m) (h : Move m e o m')
    (hx : .complete sessionId requestId [p, q] ∈ o.actions) : ∃ before fresh during,
      past = before ++ .timeout fresh :: during ∧ fresh.sessionId = sessionId ∧
        e.packet? = some q ∧ Exchange sessionId (packetsIn (during ++ [e])) p q := by
  obtain ⟨a, d, active, debating, rfl, hends⟩ := h.completes hx
  obtain ⟨before, fresh, during, i, rfl, hsession, hrunning, hrecords⟩ := hm a d active debating
  rcases hends with hheld | ⟨last, hp, takes, htranscript⟩
  · have hfull := (Debate.isTerminal_iff hrecords.short).mpr (.inr (.inl (by rw [← hheld]; rfl)))
    rw [hrunning] at hfull
    cases hfull
  · have hlast : q = last := by
      have hgetLast := congrArg List.getLast? htranscript
      simpa [Debate.append] using hgetLast
    have hcalls : recordsOf during ++ [.record last] = recordsOf (during ++ [e]) := by
      rw [recordsOf_concat, hp]
      rfl
    have hkept := (hrecords.append takes).transcript
    rw [← htranscript, hcalls, recordsOf, Debate.inTime_map_record] at hkept
    have hexchange := SessionInit.exchange_of_kept hkept.symm
    rw [← hrecords.session] at hsession hexchange
    rw [← hlast] at hp
    exact ⟨before, fresh, during, rfl, hsession.symm, hp, hexchange⟩

/-- A debate of two packets has the proposer's opening and a packet of round two: the first that
arrived after the opening, whoever sent it. It is the critic's when no one else sends packets of
round two in the session. -/
theorem rebuttals_are_of_round_two (hm : m.active = none) (ht : t ∈ m.turns es)
    (hx : .complete sessionId requestId [p, q] ∈ t.actions) :
    (p.round = 1 ∧ p.role = .proposer) ∧ q.round = 2 ∧
    (∃ before fresh during after, es = before ++ .timeout fresh :: (during ++ t.event :: after) ∧
      fresh.sessionId = sessionId ∧ t.event.packet? = some q ∧
      Exchange sessionId (packetsIn (during ++ [t.event])) p q) ∧
    ((∀ x ∈ packetsIn es, x.sessionId = sessionId → x.round = 2 → x.role = .critic) →
      q.role = .critic) ∧
    ∀ i cs p q, (Debate.after i cs).transcript = [p, q] →
      Exchange i.sessionId (Debate.inTime cs) p q := by
  obtain ⟨fs, gs, rfl, hbefore⟩ := before_of_mem_turns ht
  have hfollowed : Followed ([] ++ fs) t.before := by
    rw [hbefore]
    exact (Followed.of_idle hm).run fs
  obtain ⟨before, fresh, during, rfl, hsession, hq, hexchange⟩ :=
    hfollowed.exchange (move_of_mem_turns ht) hx
  refine ⟨hexchange.opening.2, hexchange.rebuttal.2,
    ⟨before, fresh, during, gs, by simp, hsession, hq, hexchange⟩, fun hcritics => ?_,
    fun i cs p q hpair => ?_⟩
  · have harrived : q ∈ packetsIn ((before ++ .timeout fresh :: during) ++ t.event :: gs) :=
      List.mem_filterMap.mpr ⟨t.event, by simp, hq⟩
    exact hcritics q harrived hexchange.rebuttal.1 hexchange.rebuttal.2
  · rw [(Debate.records_after i cs).transcript] at hpair
    exact SessionInit.exchange_of_kept hpair

/-- The name of the session that `pairHeard` opens. -/
def pairSession : String := sessionIdOf (List.replicate 16 0)

/-- What is said in that session. -/
def packetOf (round : UInt32) (role : Role) : DebatePacket :=
  ⟨pairSession, round, role, "yes", ⟨Binary64.one, []⟩⟩

/-- The session opens, and both rounds are heard, the second one from this role. -/
def pairSpeaks (second : Role) : List Event :=
  pairHeard "!p" "!c" ++ [packetOf 1 .proposer, packetOf 2 second].map fun p =>
    .message (Message.debate p).toJson.encode

/-- The transcripts that the actions of a run complete. -/
def completed (ts : List Turn) : List (List DebatePacket) :=
  (ts.flatMap Turn.actions).filterMap fun
    | .complete _ _ transcript => some transcript
    | _ => none

theorem exists_of_mem_completed {ts : List Turn} {transcript : List DebatePacket}
    (h : transcript ∈ completed ts) :
    ∃ t ∈ ts, ∃ sessionId requestId, .complete sessionId requestId transcript ∈ t.actions := by
  obtain ⟨t, ht, x, hx, htranscript⟩ := exists_of_mem_actions h
  cases x with
  | broadcast | armTimer | failed | sendInit => cases htranscript
  | complete sessionId requestId transcript =>
    cases htranscript
    exact ⟨t, ht, sessionId, requestId, hx⟩

theorem rebuttals_are_of_round_two_pair : ∃ t ∈ asker.turns (pairSpeaks .critic),
    ∃ sessionId requestId,
      .complete sessionId requestId [packetOf 1 .proposer, packetOf 2 .critic] ∈ t.actions ∧
      (packetOf 1 .proposer).role = .proposer ∧ (packetOf 2 .critic).role = .critic := by
  have hcompleted : [packetOf 1 .proposer, packetOf 2 .critic] ∈
      completed (asker.turns (pairSpeaks .critic)) := by decide +kernel
  have hcritics : ∀ x ∈ packetsIn (pairSpeaks .critic), x.round = 2 → x.role = .critic := by
    decide +kernel
  obtain ⟨t, ht, sessionId, requestId, hx⟩ := exists_of_mem_completed hcompleted
  obtain ⟨hopening, -, -, hcritic, -⟩ := rebuttals_are_of_round_two rfl ht hx
  exact ⟨t, ht, sessionId, requestId, hx, hopening.2,
    hcritic fun x harrived _ hround => hcritics x harrived hround⟩

/-- The proposer's packet of round two completes the debate, of a moderator and on its own. -/
theorem rebuttals_come_from_anyone :
    (∃ t ∈ asker.turns (pairSpeaks .proposer), ∃ sessionId requestId p q,
      .complete sessionId requestId [p, q] ∈ t.actions ∧ q.role = .proposer) ∧
    ∃ i p q, (Debate.after i [.record p, .record q]).transcript = [p, q] ∧ q.role = .proposer := by
  constructor
  · have hcompleted : [packetOf 1 .proposer, packetOf 2 .proposer] ∈
        completed (asker.turns (pairSpeaks .proposer)) := by decide +kernel
    obtain ⟨t, ht, sessionId, requestId, hx⟩ := exists_of_mem_completed hcompleted
    exact ⟨t, ht, sessionId, requestId, _, _, hx, rfl⟩
  · refine ⟨⟨pairSession, "r", "!p", some "!c", []⟩, packetOf 1 .proposer, packetOf 2 .proposer,
      ?_, rfl⟩
    decide +kernel

end DebateMesh.Moderator
