import DebateMesh.Proofs.Run
import DebateMesh.Session.Debate

namespace DebateMesh

namespace Debate

/-- What is known of a packet that is not refused. -/
structure Takes (d : Debate) (p : DebatePacket) : Prop where
  running : d.isTerminal = false
  session : p.sessionId = d.sessionId
  next : p.round = d.nextRound
  proposer : p.round = 1 → p.role = .proposer

theorem refusal?_eq_none {d : Debate} {p : DebatePacket} (h : d.refusal? p = none) : d.Takes p := by
  unfold refusal? at h
  split at h
  · cases h
  rename_i hrun
  split at h
  · cases h
  rename_i hsession
  split at h
  · cases h
  split at h
  · cases h
  rename_i hnext
  split at h
  · cases h
  rename_i hrole
  refine ⟨Bool.eq_false_iff.mpr hrun, Decidable.of_not_not hsession, Decidable.of_not_not hnext,
    fun h1 => ?_⟩
  exact Decidable.of_not_not fun hne => hrole ⟨h1, hne⟩

theorem refusal?_of_takes {d : Debate} {p : DebatePacket} (h : d.Takes p)
    (hr : p.round ≤ maxRounds) :
    d.refusal? p = none := by
  unfold refusal?
  rw [if_neg (Bool.eq_false_iff.mp h.running), if_neg fun hne => hne h.session,
    if_neg (UInt32.not_lt.mpr hr), if_neg fun hne => hne h.next,
    if_neg fun hp => hp.2 (h.proposer hp.1)]

end Debate

/-- Two packets of a session: the proposer's first opening, and behind it the first packet of round
two, whoever it is from. -/
structure Exchange (sessionId : String) (ps : List DebatePacket) (p q : DebatePacket) : Prop where
  opening : p.sessionId = sessionId ∧ p.round = 1 ∧ p.role = .proposer
  rebuttal : q.sessionId = sessionId ∧ q.round = 2
  order : ∃ front middle back, ps = front ++ p :: (middle ++ q :: back) ∧
    (∀ x ∈ front, ¬ (x.sessionId = sessionId ∧ x.round = 1 ∧ x.role = .proposer)) ∧
    ∀ x ∈ middle, ¬ (x.sessionId = sessionId ∧ x.round = 2)

namespace SessionInit

variable {i : SessionInit} {p q : DebatePacket} {ps : List DebatePacket}

/-- The proposer speaks first. -/
def opens (i : SessionInit) (p : DebatePacket) : Bool :=
  decide (p.sessionId = i.sessionId ∧ p.round = 1 ∧ p.role = .proposer)

/-- A packet of round two. Its role is not looked at. -/
def rebuts (i : SessionInit) (p : DebatePacket) : Bool :=
  decide (p.sessionId = i.sessionId ∧ p.round = 2)

/-- The first opening, and the first packet of round two behind it if there is a critic. -/
def kept (i : SessionInit) : List DebatePacket → List DebatePacket
  | [] => []
  | p :: ps =>
    if i.opens p then p :: if i.criticId.isSome then (ps.find? i.rebuts).toList else []
    else i.kept ps

/-- The packet is the next one of a debate with this transcript. -/
def continues (i : SessionInit) : List DebatePacket → DebatePacket → Bool
  | [], p => i.opens p
  | [_], p => i.criticId.isSome && i.rebuts p
  | _, _ => false

theorem kept_concat (i : SessionInit) (ps : List DebatePacket) (p : DebatePacket) :
    i.kept (ps ++ [p]) = i.kept ps ++ if i.continues (i.kept ps) p then [p] else [] := by
  induction ps with
  | nil =>
    by_cases hopens : i.opens p = true
    · simp [kept, continues, hopens]
    · simp [kept, continues, hopens]
  | cons q ps ih =>
    rw [List.cons_append, kept, kept]
    by_cases hopens : i.opens q = true
    · rw [if_pos hopens, if_pos hopens, List.find?_append]
      cases hcritic : i.criticId.isSome with
      | false => simp [continues, hcritic]
      | true =>
        cases hfirst : ps.find? i.rebuts with
        | none => cases hp : i.rebuts p <;> simp [continues, hcritic, hp]
        | some r => simp [continues]
    · rw [if_neg hopens, if_neg hopens]
      exact ih

theorem length_kept_le (i : SessionInit) (ps : List DebatePacket) : (i.kept ps).length ≤ 2 := by
  induction ps with
  | nil => exact Nat.zero_le 2
  | cons p ps ih =>
    rw [kept]
    split
    · split
      · exact Nat.succ_le_succ Option.length_toList_le
      · exact Nat.le_succ 1
    · exact ih

theorem exchange_of_kept (h : i.kept ps = [p, q]) : Exchange i.sessionId ps p q := by
  induction ps with
  | nil => cases h
  | cons x ps ih =>
    rw [kept] at h
    by_cases hopens : i.opens x = true
    · rw [if_pos hopens] at h
      obtain ⟨rfl, hrest⟩ := List.cons.inj h
      have hfind : ps.find? i.rebuts = some q := by
        split at hrest
        · exact Option.toList_eq_singleton_iff.mp hrest
        · cases hrest
      obtain ⟨hq, middle, back, rfl, hmiddle⟩ := List.find?_eq_some_iff_append.mp hfind
      refine ⟨of_decide_eq_true hopens, of_decide_eq_true hq, [], middle, back, rfl, by simp,
        fun y hy => of_decide_eq_false ?_⟩
      rw [← rebuts, ← Bool.not_eq_true']
      exact hmiddle y hy
    · rw [if_neg hopens] at h
      obtain ⟨hp, hq, front, middle, back, rfl, hfront, hmiddle⟩ := ih h
      refine ⟨hp, hq, x :: front, middle, back, rfl, ?_, hmiddle⟩
      exact List.forall_mem_cons.mpr ⟨fun hx => hopens (decide_eq_true hx), hfront⟩

end SessionInit

namespace Debate

/-- What is asked of a debate. -/
inductive Call
  | record (p : DebatePacket)
  | expire

/-- The debate after a call, and the answer to a packet. -/
def call (d : Debate) : Call → Debate × Option (Except DebateFault DebateStatus)
  | .record p =>
    match d.record p with
    | .error f => (d, some (.error f))
    | .ok d' => (d', some (.ok d'.status))
  | .expire => (d.expire, none)

/-- The packets that arrive before the time runs out. -/
def inTime : List Call → List DebatePacket
  | .record p :: cs => p :: inTime cs
  | _ => []

variable {i : SessionInit} {cs ds : List Call} {d : Debate} {p : DebatePacket} {f : DebateFault}

theorem call_of_refusal (h : d.refusal? p = some f) :
    d.call (.record p) = (d, some (.error f)) := by
  simp only [call, Debate.record, h]

theorem call_of_refusal_none (h : d.refusal? p = none) :
    d.call (.record p) = (d.append p, some (.ok (d.append p).status)) := by
  simp only [call, Debate.record, h]

theorem inTime_concat_record (h : .expire ∉ cs) :
    inTime (cs ++ [.record p]) = inTime cs ++ [p] := by
  induction cs with
  | nil => rfl
  | cons c cs ih =>
    cases c with
    | record q => exact congrArg (List.cons q) (ih fun hmem => h (List.mem_cons_of_mem _ hmem))
    | expire => exact absurd List.mem_cons_self h

theorem inTime_append (h : .expire ∈ cs) (ds : List Call) : inTime (cs ++ ds) = inTime cs := by
  induction cs with
  | nil => cases h
  | cons c cs ih =>
    cases c with
    | record q =>
      have hrest : Call.expire ∈ cs := by simpa using h
      exact congrArg (List.cons q) (ih hrest)
    | expire => rfl

theorem inTime_concat_expire (cs : List Call) : inTime (cs ++ [.expire]) = inTime cs := by
  induction cs with
  | nil => rfl
  | cons c cs ih =>
    cases c with
    | record q => exact congrArg (List.cons q) ih
    | expire => rfl

theorem inTime_map_record (ps : List DebatePacket) : inTime (ps.map .record) = ps := by
  induction ps with
  | nil => rfl
  | cons p ps ih => exact congrArg (List.cons p) ih

/-- The debate has been through these calls since the invitation. -/
structure Records (i : SessionInit) (cs : List Call) (d : Debate) : Prop where
  session : d.sessionId = i.sessionId
  critic : d.criticId = i.criticId
  transcript : d.transcript = i.kept (inTime cs)
  expired : d.expired = true ↔ .expire ∈ cs

theorem Records.ofInit (i : SessionInit) : Records i [] (Debate.ofInit i) :=
  ⟨rfl, rfl, rfl, by simp [Debate.ofInit]⟩

theorem isTerminal_ofInit (i : SessionInit) : (Debate.ofInit i).isTerminal = false := by
  simp [isTerminal, rounds, Debate.ofInit, maxRounds]

theorem Records.short (h : Records i cs d) : d.transcript.length ≤ 2 := by
  rw [h.transcript]
  exact i.length_kept_le _

theorem isTerminal_iff (h : d.transcript.length ≤ 2) : d.isTerminal = true ↔
    d.expired = true ∨ d.transcript.length = 2 ∨ d.transcript.length = 1 ∧ d.criticId = none := by
  unfold isTerminal rounds
  rcases hd : d.transcript with _ | ⟨q, _ | ⟨r, _ | ⟨s, rest⟩⟩⟩
  · simp [maxRounds]
  · simp [maxRounds]
  · simp [maxRounds]
  · rw [hd] at h
    simp at h

/-- A debate that goes on waits for the round behind its transcript. -/
theorem toNat_nextRound (h : d.transcript.length ≤ 2) :
    d.nextRound.toNat = d.transcript.length + 1 := by
  rw [nextRound, rounds, UInt32.toNat_add, UInt32.toNat_ofNat', UInt32.toNat_one]
  omega

theorem Takes.round_le (ht : d.Takes p) (h : d.transcript.length ≤ 2) : p.round ≤ maxRounds := by
  have hnot := mt (isTerminal_iff h).mpr (Bool.eq_false_iff.mp ht.running)
  have hround : p.round.toNat = d.transcript.length + 1 := by
    rw [ht.next, toNat_nextRound h]
  have hmax : maxRounds.toNat = 2 := rfl
  rw [UInt32.le_iff_toNat_le]
  omega

theorem refusal?_eq_none_iff (h : d.transcript.length ≤ 2) : d.refusal? p = none ↔ d.Takes p :=
  ⟨refusal?_eq_none, fun ht => refusal?_of_takes ht (ht.round_le h)⟩

/-- Just the packet that continues the transcript is taken, while the time lasts. -/
theorem Records.takes_iff (h : Records i cs d) :
    d.Takes p ↔ .expire ∉ cs ∧ i.continues d.transcript p = true := by
  have htakes : d.Takes p ↔ d.isTerminal = false ∧ p.sessionId = i.sessionId ∧
      p.round = d.nextRound ∧ (p.round = 1 → p.role = .proposer) := by
    rw [← h.session]
    exact ⟨fun ht => ⟨ht.running, ht.session, ht.next, ht.proposer⟩,
      fun ⟨hr, hs, hn, hp⟩ => ⟨hr, hs, hn, hp⟩⟩
  have hshort := h.short
  rw [htakes, ← Bool.not_eq_true, isTerminal_iff hshort, h.expired, h.critic]
  unfold nextRound rounds
  rcases hd : d.transcript with _ | ⟨q, _ | ⟨r, _ | ⟨s, rest⟩⟩⟩
  · simp only [SessionInit.continues, SessionInit.opens, decide_eq_true_eq, List.length_nil]
    grind
  · have hsecond : UInt32.ofNat [q].length + 1 = 2 := rfl
    rw [hsecond]
    simp only [SessionInit.continues, SessionInit.rebuts, Bool.and_eq_true, decide_eq_true_eq,
      List.length_singleton, Option.isSome_iff_ne_none]
    grind
  · simp [SessionInit.continues]
  · rw [hd] at hshort
    simp at hshort

theorem Records.append (h : Records i cs d) (ht : d.Takes p) :
    Records i (cs ++ [.record p]) (d.append p) := by
  obtain ⟨htime, hcontinues⟩ := h.takes_iff.mp ht
  refine ⟨h.session, h.critic, ?_, ?_⟩
  · rw [inTime_concat_record htime, SessionInit.kept_concat, ← h.transcript, if_pos hcontinues]
    rfl
  · have hexpired := h.expired
    simpa [Debate.append] using hexpired

theorem Records.refused (h : Records i cs d) (ht : ¬ d.Takes p) :
    Records i (cs ++ [.record p]) d := by
  refine ⟨h.session, h.critic, ?_, ?_⟩
  · by_cases htime : .expire ∈ cs
    · rw [inTime_append htime]
      exact h.transcript
    · have hcontinues : i.continues d.transcript p = false :=
        Bool.eq_false_iff.mpr fun hc => ht (h.takes_iff.mpr ⟨htime, hc⟩)
      rw [inTime_concat_record htime, SessionInit.kept_concat, ← h.transcript, hcontinues]
      simp
  · simpa using h.expired

theorem Records.call (h : Records i cs d) (c : Call) : Records i (cs ++ [c]) (d.call c).1 := by
  cases c with
  | record p =>
    cases hrefusal : d.refusal? p with
    | none =>
      rw [call_of_refusal_none hrefusal]
      exact h.append (refusal?_eq_none hrefusal)
    | some f =>
      rw [call_of_refusal hrefusal]
      refine h.refused fun ht => ?_
      rw [(refusal?_eq_none_iff h.short).mpr ht] at hrefusal
      cases hrefusal
  | expire =>
    refine ⟨h.session, h.critic, ?_, ?_⟩
    · rw [inTime_concat_expire]
      exact h.transcript
    · simp [Debate.call, Debate.expire]

theorem Records.run (h : Records i cs d) (ds : List Call) :
    Records i (cs ++ ds) (Machine.final Debate.call d ds) := by
  induction ds generalizing cs d with
  | nil => simpa [Machine.final] using h
  | cons c ds ih =>
    have hrest := ih (h.call c)
    rwa [List.append_assoc] at hrest

/-- The debate of an invitation after these calls. -/
def after (i : SessionInit) (cs : List Call) : Debate :=
  Machine.final Debate.call (Debate.ofInit i) cs

theorem records_after (i : SessionInit) (cs : List Call) : Records i cs (after i cs) :=
  (Records.ofInit i).run cs

theorem status_eq_complete_iff : d.status = .complete ↔ d.isTerminal = true := by
  unfold status
  split <;> simp [*]

theorem refusal?_of_terminal (h : d.isTerminal = true) (p : DebatePacket) :
    d.refusal? p = some .closed := by
  rw [refusal?, if_pos h]

/-- Once a debate is over, no call makes it go on or changes its transcript. -/
theorem isTerminal_call (h : d.isTerminal = true) (c : Call) :
    (d.call c).1.isTerminal = true ∧ (d.call c).1.transcript = d.transcript := by
  cases c with
  | record p =>
    rw [call_of_refusal (refusal?_of_terminal h p)]
    exact ⟨h, rfl⟩
  | expire => exact ⟨by simp [Debate.call, Debate.expire, isTerminal], rfl⟩

theorem isTerminal_run (h : d.isTerminal = true) (ds : List Call) :
    (Machine.final Debate.call d ds).isTerminal = true ∧
      (Machine.final Debate.call d ds).transcript = d.transcript := by
  induction ds generalizing d with
  | nil => exact ⟨h, rfl⟩
  | cons c ds ih =>
    obtain ⟨hcall, hsame⟩ := isTerminal_call h c
    obtain ⟨hrun, hkept⟩ := ih hcall
    exact ⟨hrun, hkept.trans hsame⟩

/-- Whatever a debate is asked, its transcript is what the packets in time make of it, it is
complete when its time has run out or no packet is missing, and it waits for the next round until
then. A packet that is refused changes nothing, and what is complete stays as it is. -/
theorem transcript_is_kept (i : SessionInit) (cs : List Call) :
    (after i cs).transcript = i.kept (inTime cs) ∧
    (∀ p f, ((after i cs).call (.record p)).2 = some (.error f) →
      ((after i cs).call (.record p)).1 = after i cs) ∧
    ((after i cs).status = .complete ↔ .expire ∈ cs ∨ (after i cs).transcript.length = 2 ∨
      (after i cs).transcript.length = 1 ∧ i.criticId = none) ∧
    ((after i cs).status = .complete → ∀ ds, (after i (cs ++ ds)).status = .complete ∧
      (after i (cs ++ ds)).transcript = (after i cs).transcript ∧
      ∀ p, (after i (cs ++ ds)).call (.record p) =
        (after i (cs ++ ds), some (.error .closed))) ∧
    ((after i cs).status ≠ .complete → ∃ round, (after i cs).status = .awaiting round ∧
      round.toNat = (after i cs).transcript.length + 1) := by
  have hrecords := records_after i cs
  refine ⟨hrecords.transcript, fun p f herror => ?_, ?_, fun hcomplete ds => ?_, fun hgoes => ?_⟩
  · cases hrefusal : (after i cs).refusal? p with
    | none =>
      rw [call_of_refusal_none hrefusal] at herror
      cases herror
    | some f => rw [call_of_refusal hrefusal]
  · rw [status_eq_complete_iff, isTerminal_iff hrecords.short, hrecords.expired, hrecords.critic]
  · rw [status_eq_complete_iff] at hcomplete ⊢
    obtain ⟨hrun, hsame⟩ := isTerminal_run hcomplete ds
    rw [after, Machine.final_append]
    exact ⟨hrun, hsame, fun p => call_of_refusal (refusal?_of_terminal hrun p)⟩
  · have hrunning := mt status_eq_complete_iff.mpr hgoes
    exact ⟨(after i cs).nextRound, if_neg hrunning, toNat_nextRound hrecords.short⟩

/-- A debate of two experts, and more packets than it has room for: one out of turn, the opening,
another one, the rebuttal of another session, the rebuttal, and another one. -/
def crowded : SessionInit × List Call :=
  (⟨"s", "r", "!p", some "!c", []⟩,
    [.record ⟨"s", 2, .critic, "a", {}⟩, .record ⟨"s", 1, .proposer, "b", {}⟩,
      .record ⟨"s", 1, .proposer, "c", {}⟩, .record ⟨"t", 2, .critic, "d", {}⟩,
      .record ⟨"s", 2, .critic, "e", {}⟩, .record ⟨"s", 2, .critic, "f", {}⟩])

theorem transcript_is_kept_crowded :
    (after crowded.1 crowded.2).transcript.map DebatePacket.content = ["b", "e"] ∧
    ∀ ds, (after crowded.1 (crowded.2 ++ ds)).status = .complete := by
  obtain ⟨hkept, -, hcomplete, hstays, -⟩ := transcript_is_kept crowded.1 crowded.2
  have hlength : (after crowded.1 crowded.2).transcript.length = 2 := by
    rw [hkept]
    decide +kernel
  refine ⟨?_, fun ds => (hstays (hcomplete.mpr (.inr (.inl hlength))) ds).1⟩
  rw [hkept]
  decide +kernel

end Debate

end DebateMesh
