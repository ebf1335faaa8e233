import DebateMesh.Proofs.Guardian.Queue
import DebateMesh.Proofs.Guardian.Run

namespace DebateMesh.Guardian

variable {g g' : Guardian} {c : Call} {answer : Answer} {cs : List Call} {ts : List Turn}
  {a : Assignment} {i : SessionInit} {e : Envelope} {role : Role} {r : RoutingRequest}
  {rs pending : List RoutingRequest} {parked : List Parked} {prompt : String}

theorem Admits.countP (h : g.Admits i e role r pending prompt) (id : String) :
    [i].countP (·.requestId == id) + pending.countP (·.showsAs id) =
      g.pending.countP (·.showsAs id) := by
  have hid : fitField requestIdWidth r.id = i.requestId :=
    beq_iff_eq.mp (extract_mem h.request).2.1
  have hshows : r.showsAs id = (i.requestId == id) := by rw [RoutingRequest.showsAs, hid]
  rw [(extract_perm h.request).countP_eq]
  simp only [List.countP_cons, List.countP_nil, hshows]
  omega

theorem Admits.length (h : g.Admits i e role r pending prompt) :
    pending.length + 1 = g.pending.length :=
  (extract_length h.request).symm

theorem Admits.joined (h : g.Admits i e role r pending prompt) (a : Option Assignment) :
    joined? ⟨g, .init i e, .joined (.ok a), g'⟩ = some i := by
  simp [joined?, h.named]

/-- A session joined under an identifier is paid for by a request that waits under it, and a request
that comes to wait by an offer. -/
theorem Move.joins_le (h : Move g c answer g') (id : String) :
    (joined? ⟨g, c, answer, g'⟩).toList.countP (·.requestId == id) +
        g'.pending.countP (·.showsAs id) ≤
      (offered? ⟨g, c, answer, g'⟩).toList.countP (·.showsAs id) +
        g.pending.countP (·.showsAs id) := by
  cases h with
  | declines | refuses | overhears | wakes | sleepsOn | releases =>
    simp [joined?, offered?, release]
  | ignores unnamed => simp [joined?, offered?, unnamed]
  | @offers r =>
    have hcount := countP_enqueue_le (·.showsAs id) g.pending r
    simpa [joined?, offered?, Nat.add_comm] using hcount
  | starts admitted | lacksRoom admitted | parks admitted =>
    rw [admitted.joined]
    simpa [offered?] using (admitted.countP id).le

/-- An assignment is paid for by a request that waits or by a parked session, a session that is
parked by a request that waits, and a request that comes to wait by an offer. -/
theorem Move.assigns_le (h : Move g c answer g') :
    answer.assignment?.toList.length + g'.pending.length + g'.parked.length ≤
      (offered? ⟨g, c, answer, g'⟩).toList.length + g.pending.length + g.parked.length := by
  cases h with
  | declines | ignores | refuses | overhears | releases =>
    simp [Answer.assignment?, offered?, release]
  | @offers r =>
    have hlength := length_enqueue_le g.pending r
    simp [Answer.assignment?, offered?]
    omega
  | starts admitted | lacksRoom admitted =>
    have hlength := admitted.length
    simp [Answer.assignment?, offered?]
    omega
  | @parks i _ _ _ prompt admitted =>
    have hlength := admitted.length
    have hparked := length_enqueue_le g.parked ⟨i.sessionId, prompt⟩
    simp [Answer.assignment?, offered?]
    omega
  | wakes _ _ awaited | sleepsOn _ _ awaited =>
    have hlength := extract_length awaited
    simp [Answer.assignment?, offered?]
    omega

/-- The prompt is the one that one of these requests announced. -/
def Announced (rs : List RoutingRequest) (prompt : String) : Prop :=
  ∃ r ∈ rs, PayloadHash.verify prompt r.payloadHash = true

/-- What waits is one of these requests, and what is parked the prompt of one. -/
structure Bound (rs pending : List RoutingRequest) (parked : List Parked) : Prop where
  pending : ∀ r ∈ pending, r ∈ rs
  parked : ∀ q ∈ parked, Announced rs q.prompt

theorem Bound.mono (h : Bound rs pending parked) (rs' : List RoutingRequest) :
    Bound (rs ++ rs') pending parked := by
  refine ⟨fun r hr => List.mem_append_left _ (h.pending r hr), fun q hq => ?_⟩
  obtain ⟨r, hr, hv⟩ := h.parked q hq
  exact ⟨r, List.mem_append_left _ hr, hv⟩

theorem Bound.admits (h : Bound rs g.pending parked)
    (admitted : g.Admits i e role r pending prompt) :
    Announced rs prompt ∧ Bound rs pending parked := by
  obtain ⟨hr, -, hrest⟩ := extract_mem admitted.request
  exact ⟨⟨r, h.pending r hr, admitted.bound⟩, fun r' hr' => h.pending r' (hrest r' hr'), h.parked⟩

theorem Bound.awaited (h : Bound rs pending g.parked) {p : Parked → Bool} {q : Parked}
    (awaited : extract p g.parked = some (q, parked)) :
    Announced rs q.prompt ∧ Bound rs pending parked := by
  obtain ⟨hq, -, hrest⟩ := extract_mem awaited
  exact ⟨h.parked q hq, h.pending, fun q' hq' => h.parked q' (hrest q' hq')⟩

theorem Bound.move (h : Bound rs g.pending g.parked) (hmove : Move g c answer g') :
    Bound (rs ++ (offered? ⟨g, c, answer, g'⟩).toList) g'.pending g'.parked := by
  cases hmove with
  | declines | ignores | refuses | overhears | releases => exact h.mono []
  | @offers r =>
    refine ⟨fun r' hr' => ?_, (h.mono _).parked⟩
    rcases mem_enqueue hr' with hr' | rfl
    · exact List.mem_append_left _ (h.pending r' hr')
    · exact List.mem_append_right _ (List.mem_singleton.mpr rfl)
  | starts admitted | lacksRoom admitted => exact (h.admits admitted).2.mono []
  | parks admitted =>
    obtain ⟨hprompt, hrest⟩ := h.admits admitted
    refine Bound.mono ⟨hrest.pending, fun q hq => ?_⟩ []
    rcases mem_enqueue hq with hq | rfl
    · exact hrest.parked q hq
    · exact hprompt
  | wakes _ _ awaited | sleepsOn _ _ awaited => exact (h.awaited awaited).2.mono []

/-- An assignment is for one of the two rounds, on a prompt that was announced. -/
theorem Bound.assignment (h : Bound rs g.pending g.parked) (hmove : Move g c answer g')
    (ha : answer.assignment? = some a) : (a.round = 1 ∨ a.round = 2) ∧ Announced rs a.prompt := by
  cases hmove with
  | declines | offers | ignores | refuses | lacksRoom | parks | overhears | sleepsOn | releases =>
    cases ha
  | starts admitted =>
    cases ha
    exact ⟨Or.inl rfl, (h.admits admitted).1⟩
  | wakes _ _ awaited =>
    cases ha
    exact ⟨Or.inr rfl, (h.awaited awaited).1⟩

theorem Move.of_fault {fault : GuardianFault} (h : Move g c (.joined (.error fault)) g') :
    g' = g := by
  cases h
  rfl

/-- What holds of an expert and of its turns so far. -/
structure Accounted (ts : List Turn) (g : Guardian) : Prop where
  joins : ∀ id, (ts.filterMap joined?).countP (·.requestId == id) +
    g.pending.countP (·.showsAs id) ≤ (ts.filterMap offered?).countP (·.showsAs id)
  assignments : (ts.filterMap assigned?).length + g.pending.length + g.parked.length ≤
    (ts.filterMap offered?).length
  bound : Bound (ts.filterMap offered?) g.pending g.parked

theorem Accounted.turn (ts : List Turn) (g : Guardian) (c : Call) (h : Accounted ts g) :
    Accounted (ts ++ [Machine.turn perform g c]) (g.perform c).1 := by
  have hmove := g.perform_moves c
  constructor
  case joins =>
    intro id
    have hbefore := h.joins id
    have hturn := hmove.joins_le id
    rw [Machine.filterMap_concat, Machine.filterMap_concat, List.countP_append, List.countP_append]
    unfold Machine.turn
    omega
  case assignments =>
    have hbefore := h.assignments
    have hturn := hmove.assigns_le
    rw [Machine.filterMap_concat, Machine.filterMap_concat, List.length_append, List.length_append]
    change _ + (g.perform c).2.assignment?.toList.length + _ + _ ≤ _
    unfold Machine.turn
    omega
  case bound =>
    rw [Machine.filterMap_concat]
    exact h.bound.move hmove

theorem accounted_start (p : Profile) : Accounted [] { profile := p } := by
  refine ⟨fun _ => Nat.le_refl 0, Nat.le_refl 0, ?_, ?_⟩
  · exact fun r hr => by cases hr
  · exact fun q hq => by cases hq

theorem accounted_turns (p : Profile) (cs : List Call) :
    Accounted (turns { profile := p } cs) (Machine.final perform { profile := p } cs) :=
  Machine.history Accounted.turn (accounted_start p) cs

/-- Under no identifier that a header can show does an expert join more sessions than it made
offers, and it is given no more assignments than it made offers. Each assignment is on a prompt
whose hash is that of a request it had offered on. An invitation that it refuses changes nothing. -/
theorem offers_are_single_use (p : Profile) (cs : List Call) :
    (∀ id, ((turns { profile := p } cs).filterMap joined?).countP (·.requestId == id) ≤
      ((turns { profile := p } cs).filterMap offered?).countP (·.showsAs id)) ∧
    ((turns { profile := p } cs).filterMap assigned?).length ≤
      ((turns { profile := p } cs).filterMap offered?).length ∧
    (∀ before t after a, turns { profile := p } cs = before ++ t :: after → assigned? t = some a →
      (a.round = 1 ∨ a.round = 2) ∧ ∃ r ∈ before.filterMap offered?,
        PayloadHash.sameIgnoringCase (PayloadHash.ofPrompt a.prompt) r.payloadHash = true) ∧
    ∀ t ∈ turns { profile := p } cs, ∀ fault, t.outcome = .joined (.error fault) →
      t.after = t.before := by
  have hend := accounted_turns p cs
  refine ⟨fun id => ?_, ?_, ?_, ?_⟩
  · exact Nat.le_trans (Nat.le_add_right _ _) (hend.joins id)
  · have hpaid := hend.assignments
    omega
  · intro before t after a hsplit ha
    obtain ⟨hbefore, ht⟩ := Machine.history_before Accounted.turn (accounted_start p) hsplit
    rw [ht] at ha
    exact hbefore.bound.assignment (perform_moves _ _) ha
  · intro t ht fault hfault
    have hmove := move_of_mem_turns ht
    rw [hfault] at hmove
    exact hmove.of_fault

/-- The coder offers on a request and is invited to propose. -/
def codeSession : List Call := [.offer (codeRequest "r"), .init codeInvitation .zero]

theorem turns_codeSession : (coder [] 0).turns codeSession =
    [⟨coder [] 0, .offer (codeRequest "r"),
        .offered (some (offer (coder [] 0).profile (codeRequest "r"))), coder [codeRequest "r"] 0⟩,
      ⟨coder [codeRequest "r"] 0, .init codeInvitation .zero,
        .joined (.ok (some codeAssignment)), coder [] 1⟩] := by
  have hoffers := coder_offers Nat.two_pos
  have hstarts := coder_starts Nat.two_pos
  simp only [turns, codeSession, Machine.turns, Machine.turn, hoffers, hstarts]

theorem offers_are_single_use_coder : ∃ before t after a,
    (coder [] 0).turns codeSession = before ++ t :: after ∧ assigned? t = some a ∧
    ∃ r ∈ before.filterMap offered?,
      PayloadHash.sameIgnoringCase (PayloadHash.ofPrompt a.prompt) r.payloadHash = true := by
  have hsplit : (coder [] 0).turns codeSession = [_] ++ _ :: [] := turns_codeSession
  obtain ⟨-, -, hbound, -⟩ := offers_are_single_use (coder [] 0).profile codeSession
  exact ⟨_, _, _, _, hsplit, rfl, (hbound _ _ _ _ hsplit rfl).2⟩

/-- The turn takes up a session for a request that waits. -/
def TakesUp (t : Turn) (r : RoutingRequest) : Prop :=
  ∃ i e role pending prompt, t.event = .init i e ∧ t.before.Admits i e role r pending prompt

/-- A request that nothing takes up stays, with one more behind it for each offer, as long as these
are fewer than the queue holds. -/
theorem Move.queued {n : Nat} (h : Move g c answer g') (hr : Queued g.pending r n)
    (hkept : ¬ TakesUp ⟨g, c, answer, g'⟩ r)
    (hfew : n + (offered? ⟨g, c, answer, g'⟩).toList.length < maxQueued) :
    Queued g'.pending r (n + (offered? ⟨g, c, answer, g'⟩).toList.length) := by
  cases h with
  | declines | ignores | refuses | overhears | wakes | sleepsOn | releases => exact hr
  | offers => exact hr.enqueue hfew _
  | starts admitted | lacksRoom admitted | parks admitted =>
    refine hr.extract admitted.request ?_
    rintro rfl
    exact hkept ⟨_, _, _, _, _, rfl, admitted⟩

theorem queued_turns {g : Guardian} {r : RoutingRequest} (hr : Queued g.pending r 0)
    (cs : List Call) (hkept : ∀ t ∈ g.turns cs, ¬ TakesUp t r)
    (hfew : ((g.turns cs).filterMap offered?).length < maxQueued) :
    r ∈ (Machine.final perform g cs).pending :=
  hr.final (fun g c _ h hkept hfew =>
    (perform_moves g c).queued h hkept hfew) cs hkept hfew

theorem Move.of_offered (h : Move g c answer g') (ho : offered? ⟨g, c, answer, g'⟩ = some r) :
    g.accepts r = true ∧ g'.pending = enqueue g.pending r := by
  cases h with
  | offers suited =>
    cases ho
    exact ⟨suited, rfl⟩
  | declines | ignores | refuses | starts | lacksRoom | parks | overhears | wakes | sleepsOn
  | releases => cases ho

/-- When an identifier is offered on a second time, a session was taken up in between for the
request of the first offer, or the queue was filled with others. -/
theorem offers_repeat_when_forgotten {before between after : List Turn} {t u : Turn}
    {r r' : RoutingRequest} (h : g.turns cs = before ++ t :: (between ++ u :: after))
    (ht : offered? t = some r) (hu : offered? u = some r') (hid : r'.id = r.id) :
    (∃ v ∈ between, TakesUp v r) ∨ maxQueued ≤ (between.filterMap offered?).length := by
  obtain ⟨fs, gs, -, -, -, hrest⟩ := Machine.turns_split h
  obtain ⟨ds, es, -, rfl, hlast, -⟩ := Machine.turns_split hrest
  have htmem : t ∈ g.turns cs := by simp [h]
  have humem : u ∈ g.turns cs := by simp [h]
  have hwaits : Queued t.after.pending r 0 := by
    rw [((move_of_mem_turns htmem).of_offered ht).2]
    exact queued_enqueue_self _ _
  rcases Nat.lt_or_ge ((Machine.turns perform t.after ds).filterMap offered?).length maxQueued with
    hfew | hmany
  · left
    by_contra hkept
    have hmem := queued_turns hwaits ds (fun v hv htakes => hkept ⟨v, hv, htakes⟩) hfew
    have hbefore : u.before = Machine.final perform t.after ds := congrArg Machine.Turn.before hlast
    rw [← hbefore] at hmem
    exact id_ne_of_accepts ((move_of_mem_turns humem).of_offered hu).1 r hmem hid.symm
  · exact Or.inr hmany

/-- The coder offers, takes up the session, and offers on the same identifier. -/
theorem turns_codeSession_again : (coder [] 0).turns (codeSession ++ [.offer (codeRequest "r")]) =
    (coder [] 0).turns codeSession ++ [⟨coder [] 1, .offer (codeRequest "r"),
      .offered (some (offer (coder [] 0).profile (codeRequest "r"))),
      coder [codeRequest "r"] 1⟩] := by
  have hoffers := coder_offers Nat.two_pos
  have hstarts := coder_starts Nat.two_pos
  have hagain := coder_offers Nat.one_lt_two
  simp only [turns, codeSession, List.cons_append, List.nil_append, Machine.turns, Machine.turn,
    hoffers, hstarts, hagain]

theorem offers_repeat_when_forgotten_coder : ∃ before t between u after,
    (coder [] 0).turns (codeSession ++ [.offer (codeRequest "r")]) =
      before ++ t :: (between ++ u :: after) ∧
    offered? t = some (codeRequest "r") ∧ offered? u = some (codeRequest "r") ∧
    ∃ v ∈ between, TakesUp v (codeRequest "r") := by
  have hsplit := turns_codeSession_again
  rw [turns_codeSession] at hsplit
  refine ⟨[], _, [_], _, [], hsplit, rfl, rfl, ?_⟩
  rcases @offers_repeat_when_forgotten (coder [] 0) _ [] [_] [] _ _ _ _ hsplit rfl rfl rfl with
    htaken | hmany
  · exact htaken
  · exact absurd hmany (by decide)

/-- Offers on as many other requests as the queue holds. -/
def otherOffers : List Call :=
  (List.range maxQueued).map fun n => .offer (codeRequest (String.ofList (List.replicate n 'x')))

/-- One identifier is offered on twice: after a session on it was taken up, and after the offers on
others have filled the queue. -/
theorem identifiers_are_offered_again :
    (((coder [] 0).turns (codeSession ++ [.offer (codeRequest "r")])).filterMap offered?).countP
      (·.id == "r") = 2 ∧
    (((coder [] 0).turns (.offer (codeRequest "r") :: otherOffers ++
      [.offer (codeRequest "r")])).filterMap offered?).countP (·.id == "r") = 2 := by
  constructor
  · rw [turns_codeSession_again, turns_codeSession]
    decide +kernel
  · decide +kernel

end DebateMesh.Guardian
