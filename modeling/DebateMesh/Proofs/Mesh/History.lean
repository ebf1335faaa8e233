import DebateMesh.Proofs.Datagram
import DebateMesh.Proofs.Envelope
import DebateMesh.Proofs.Mesh.System
import DebateMesh.Proofs.Session.Header

namespace DebateMesh

namespace Roster

/-- The guardian at this place has this identifier. -/
def Names (r : Roster) (k : Nat) (id : String) : Prop :=
  ∃ p, r.profiles[k]? = some p ∧ p.nodeId = id

variable {r : Roster}

theorem Names.fits {k : Nat} {id : String} (h : r.Names k id) : fitField nodeIdWidth id ≠ "" := by
  obtain ⟨p, hp, rfl⟩ := h
  exact r.named p (List.mem_of_getElem? hp)

theorem Names.unique {k l : Nat} {id id' : String} (hk : r.Names k id) (hl : r.Names l id')
    (h : fitField nodeIdWidth id = fitField nodeIdWidth id') : k = l ∧ id = id' := by
  obtain ⟨p, hp, rfl⟩ := hk
  obtain ⟨q, hq, rfl⟩ := hl
  obtain ⟨hkl, hpk⟩ := List.getElem?_eq_some_iff.mp hp
  obtain ⟨hll, hql⟩ := List.getElem?_eq_some_iff.mp hq
  have hpair := List.pairwise_iff_getElem.mp r.distinct
  rcases Nat.lt_trichotomy k l with hlt | rfl | hlt
  · exact absurd (by rw [hpk, hql]; exact h) (hpair k l hkl hll hlt)
  · rw [hp] at hq
    cases hq
    exact ⟨rfl, rfl⟩
  · exact absurd (by rw [hpk, hql]; exact h.symm) (hpair l k hll hkl hlt)

end Roster

/-- An invitation that was sent, and the text that it seals. -/
structure Invited (r : Roster) (sent : List Datagram) (place : Nat) (i : SessionInit)
    (text : String) : Prop where
  sent : sent[place]? = some (.sessionInit i.toBytes)
  fits : fitField sessionIdWidth i.sessionId = i.sessionId
  named : i.sessionId ≠ ""
  proposer : ∃ k, r.Names k i.proposerId
  critic : ∀ c, i.criticId = some c → ∃ k, r.Names k c
  seals : r.moderator.envelope.decryptText i.encryptedPrompt
    (Utf8.encode (fitField requestIdWidth i.requestId)) = some text

section Invitations

variable {r : Roster} {sent : List Datagram} {place : Nat} {i : SessionInit} {text : String}

theorem Invited.fitted_sessionId (hi : Invited r sent place i text) :
    i.fitted.sessionId = i.sessionId := hi.fits

theorem Invited.ofBytes (hi : Invited r sent place i text) :
    SessionInit.ofBytes i.toBytes = .ok i.fitted := by
  obtain ⟨k, hk⟩ := hi.proposer
  exact SessionInit.ofBytes_toBytes (by rw [hi.fits]; exact hi.named) hk.fits

/-- Only the node at the proposer's place takes the invitation for its own as a proposer. -/
theorem Invited.isProposer {k : Nat} {id : String} (hi : Invited r sent place i text)
    (hk : r.Names k id) (hrole : i.fitted.roleOf id = some .proposer) : r.Names k i.proposerId := by
  obtain ⟨l, hl⟩ := hi.proposer
  unfold SessionInit.roleOf SessionInit.fitted at hrole
  dsimp only at hrole
  split at hrole
  · rename_i heq
    obtain ⟨rfl, rfl⟩ := hl.unique hk heq
    exact hl
  · split at hrole <;> cases hrole

theorem fittedCritic_eq {c : Option String} {id : String}
    (hc : SessionInit.fittedCritic c = some (fitField nodeIdWidth id)) :
    ∃ x, c = some x ∧ fitField nodeIdWidth x = fitField nodeIdWidth id := by
  unfold SessionInit.fittedCritic at hc
  dsimp only at hc
  split at hc
  · cases hc
  · rename_i hne
    cases c with
    | none => exact absurd rfl hne
    | some x => exact ⟨x, rfl, Option.some.inj hc⟩

theorem Invited.isCritic {k : Nat} {id : String} (hi : Invited r sent place i text)
    (hk : r.Names k id) (hrole : i.fitted.roleOf id = some .critic) :
    ∃ c, i.criticId = some c ∧ r.Names k c := by
  unfold SessionInit.roleOf SessionInit.fitted at hrole
  dsimp only at hrole
  split at hrole
  · cases hrole
  split at hrole
  · rename_i heq
    obtain ⟨c, hc, hfit⟩ := fittedCritic_eq heq
    obtain ⟨l, hl⟩ := hi.critic c hc
    obtain ⟨rfl, rfl⟩ := hl.unique hk hfit
    exact ⟨c, hc, hl⟩
  · cases hrole

end Invitations

namespace History

variable {r : Roster} {h h' : History}

/-- Nothing is taken back. -/
structure Grows (h h' : History) : Prop where
  sent : h.sent <+: h'.sent
  jobs : h.jobs <+: h'.jobs
  delivered : ∀ x ∈ h.delivered, x ∈ h'.delivered
  done : ∀ x ∈ h.done, x ∈ h'.done

theorem Grows.refl (h : History) : Grows h h :=
  ⟨List.prefix_rfl, List.prefix_rfl, fun _ hx => hx, fun _ hx => hx⟩

theorem Grows.trans {h₁ h₂ h₃ : History} (h12 : Grows h₁ h₂) (h23 : Grows h₂ h₃) : Grows h₁ h₃ :=
  ⟨h12.sent.trans h23.sent, h12.jobs.trans h23.jobs,
    fun x hx => h23.delivered x (h12.delivered x hx), fun x hx => h23.done x (h12.done x hx)⟩

theorem grows_draw (h : History) (sessionId : String) : Grows h (h.draw sessionId) :=
  ⟨List.prefix_rfl, List.prefix_rfl, fun _ hx => hx, fun _ hx => hx⟩

theorem grows_post (h : History) (ds : List Datagram) : Grows h (h.post ds) :=
  ⟨List.prefix_append _ _, List.prefix_rfl, fun _ hx => hx, fun _ hx => hx⟩

theorem grows_deliver (h : History) (place : Nat) (address : Address) :
    Grows h (h.deliver place address) :=
  ⟨List.prefix_rfl, List.prefix_rfl, fun _ hx => List.mem_cons_of_mem _ hx, fun _ hx => hx⟩

theorem grows_assign (h : History) (js : List Job) : Grows h (h.assign js) :=
  ⟨List.prefix_rfl, List.prefix_append _ _, fun _ hx => hx, fun _ hx => hx⟩

theorem grows_settle (h : History) (job : Nat) (packet : Option DebatePacket) :
    Grows h (h.settle job packet) :=
  ⟨List.prefix_rfl, List.prefix_rfl, fun _ hx => hx, fun _ hx => List.mem_cons_of_mem _ hx⟩

@[simp] theorem post_nil (h : History) : h.post [] = h := by
  rw [post, List.append_nil]

@[simp] theorem assign_nil (h : History) : h.assign [] = h := by
  rw [assign, List.append_nil]

theorem getElem?_of_grown {α : Type} {xs ys : List α} (h : xs <+: ys) {k : Nat} {x : α}
    (hx : xs[k]? = some x) : ys[k]? = some x := by
  obtain ⟨hk, rfl⟩ := List.getElem?_eq_some_iff.mp hx
  exact List.prefix_iff_getElem?.mp h k hk

theorem Grows.invited (hg : Grows h h') {place : Nat} {i : SessionInit} {text : String}
    (hi : Invited r h.sent place i text) : Invited r h'.sent place i text :=
  { hi with sent := getElem?_of_grown hg.sent hi.sent }

/-- The packet answers an assignment of the guardian with this identifier. -/
def Answers (r : Roster) (h : History) (id : String) (a : Assignment) (p : DebatePacket) : Prop :=
  ∃ place j, h.jobs[place]? = some j ∧ r.Names j.node id ∧ j.assignment = a ∧
    (place, some p) ∈ h.done

theorem Answers.mono (hg : Grows h h') {id : String} {a : Assignment} {p : DebatePacket}
    (ha : h.Answers r id a p) : h'.Answers r id a p := by
  obtain ⟨place, j, hj, hn, hja, hdone⟩ := ha
  exact ⟨place, j, getElem?_of_grown hg.jobs hj, hn, hja, hg.done _ hdone⟩

/-- Where a datagram comes from. -/
inductive Origin (r : Roster) (h : History) (place : Nat) (d : Datagram) : Prop
  | request {layer : Layer} {q : RoutingRequest}
    (hd : Datagram.ofMessage? layer (.routing q) = some d)
  | offer {layer : Layer} {o : ExpertOffer} (hd : Datagram.ofMessage? layer (.offer o) = some d)
    (ho : ∃ k, r.Names k o.guardianId)
  | invitation {i : SessionInit} {text : String} (hd : d = .sessionInit i.toBytes)
    (hi : Invited r h.sent place i text)
  | packet {layer : Layer} {p : DebatePacket} {job : Nat}
    (hd : Datagram.ofMessage? layer (.debate p) = some d) (hp : (job, some p) ∈ h.done)

theorem Origin.mono (hg : Grows h h') {place : Nat} {d : Datagram} (ho : Origin r h place d) :
    Origin r h' place d := by
  cases ho with
  | request hd => exact .request hd
  | offer hd ho => exact .offer hd ho
  | invitation hd hi => exact .invitation hd (hg.invited hi)
  | packet hd hp => exact .packet hd (hg.done _ hp)

/-- Messages that anyone may send; no invitation is among them. -/
def Sendable (r : Roster) (h : History) (ds : List Datagram) : Prop :=
  ∀ d ∈ ds, (∀ place, Origin r h place d) ∧ ∀ bs, d ≠ .sessionInit bs

theorem sendable_nil (r : Roster) (h : History) : Sendable r h [] := by
  intro d hd
  cases hd

theorem sendable_message {layer : Layer} {m : Message} {d : Datagram}
    (hd : Datagram.ofMessage? layer m = some d) (ho : ∀ place, Origin r h place d) :
    Sendable r h [d] := by
  intro x hx
  cases List.mem_singleton.mp hx
  refine ⟨ho, ?_⟩
  rintro bs rfl
  exact Datagram.ofMessage?_ne_sessionInit hd

/-- Where a job comes from: the invitation to the proposer, or the proposer's packet. -/
inductive Cause (r : Roster) (h : History) (j : Job) : Prop
  | opening {place : Nat} {i : SessionInit} {text : String} (hi : Invited r h.sent place i text)
    (hnode : r.Names j.node i.proposerId) (hd : (place, .node j.node) ∈ h.delivered)
    (ha : j.assignment = ⟨i.sessionId, 1, .proposer, text, none⟩)
  | rebuttal {place first : Nat} {i : SessionInit} {text c : String} {p : DebatePacket}
    (hi : Invited r h.sent place i text) (hc : i.criticId = some c) (hnode : r.Names j.node c)
    (hp : (first, some p) ∈ h.done) (hround : p.round = 1) (hsession : p.sessionId = i.sessionId)
    (ha : j.assignment = ⟨i.sessionId, 2, .critic, text, some p.content⟩)

theorem Cause.mono (hg : Grows h h') {j : Job} (hc : Cause r h j) : Cause r h' j := by
  cases hc with
  | opening hi hnode hd ha => exact .opening (hg.invited hi) hnode (hg.delivered _ hd) ha
  | rebuttal hi hc hnode hp hround hsession ha =>
    exact .rebuttal (hg.invited hi) hc hnode (hg.done _ hp) hround hsession ha

/-- An honest history: every datagram and every job has a cause, and of each session there is one
invitation and one job for its proposer. -/
structure Honest (r : Roster) (h : History) : Prop where
  sent : ∀ {place : Nat} {d : Datagram}, h.sent[place]? = some d → Origin r h place d
  drawn : ∀ {place : Nat} {i : SessionInit} {text : String}, Invited r h.sent place i text →
    i.sessionId ∈ h.sessions
  invitedOnce : ∀ {place place' : Nat} {i i' : SessionInit} {text text' : String},
    Invited r h.sent place i text → Invited r h.sent place' i' text' → i.sessionId = i'.sessionId →
      place = place'
  jobs : ∀ {place : Nat} {j : Job}, h.jobs[place]? = some j → Cause r h j
  proposedOnce : ∀ {place place' : Nat} {j j' : Job}, h.jobs[place]? = some j →
    h.jobs[place']? = some j' → j.assignment.round = 1 → j'.assignment.round = 1 →
      j.assignment.sessionId = j'.assignment.sessionId → place = place'
  answers : ∀ {place : Nat} {p : DebatePacket}, (place, some p) ∈ h.done →
    ∃ j reply, h.jobs[place]? = some j ∧ p = j.packet reply
  doneOnce : ∀ {place : Nat} {p p' : Option DebatePacket}, (place, p) ∈ h.done →
    (place, p') ∈ h.done → p = p'

theorem fittedCritic_named {c : String} (hc : fitField nodeIdWidth c ≠ "") :
    SessionInit.fittedCritic (some c) = some (fitField nodeIdWidth c) := if_neg hc

/-- Two invitations to one session are one parcel, and seal the same text for the same experts. -/
structure Same (place place' : Nat) (i i' : SessionInit) (text text' : String) : Prop where
  place : place = place'
  text : text = text'
  proposer : i.proposerId = i'.proposerId
  critic : i.criticId = i'.criticId

theorem Honest.same (hh : Honest r h) {place place' : Nat} {i i' : SessionInit}
    {text text' : String} (hi : Invited r h.sent place i text)
    (hi' : Invited r h.sent place' i' text')
    (hs : i.sessionId = i'.sessionId) : Same place place' i i' text text' := by
  obtain rfl := hh.invitedOnce hi hi' hs
  have hbytes := hi.sent.symm.trans hi'.sent
  have hfitted : i.fitted = i'.fitted := by
    have h1 := hi.ofBytes
    rw [Datagram.sessionInit.inj (Option.some.inj hbytes), hi'.ofBytes] at h1
    exact (Except.ok.inj h1).symm
  unfold SessionInit.fitted at hfitted
  obtain ⟨-, hrequest, hproposer, hcritic, hsealed⟩ := SessionInit.mk.inj hfitted
  refine ⟨rfl, ?_, ?_, ?_⟩
  · have h1 := hi.seals
    rw [hsealed, hrequest, hi'.seals] at h1
    exact (Option.some.inj h1).symm
  · obtain ⟨k, hk⟩ := hi.proposer
    obtain ⟨l, hl⟩ := hi'.proposer
    exact (hk.unique hl hproposer).2
  · have h1 := hi.critic
    have h2 := hi'.critic
    cases hc : i.criticId with
    | none =>
      cases hc' : i'.criticId with
      | none => rfl
      | some c' =>
        obtain ⟨l, hl⟩ := h2 c' hc'
        rw [hc, hc', fittedCritic_named hl.fits] at hcritic
        cases hcritic
    | some c =>
      obtain ⟨k, hk⟩ := h1 c hc
      rw [hc, fittedCritic_named hk.fits] at hcritic
      obtain ⟨c', hc', hfit⟩ := fittedCritic_eq hcritic.symm
      obtain ⟨l, hl⟩ := h2 c' hc'
      rw [hc', (hk.unique hl hfit.symm).2]

theorem honest_empty (r : Roster) : Honest r {} where
  sent h := by cases h
  drawn h := by cases h.sent
  invitedOnce h := by cases h.sent
  jobs h := by cases h
  proposedOnce h := by cases h
  answers h := by cases h
  doneOnce h := by cases h

theorem Honest.draw (hh : Honest r h) (sessionId : String) : Honest r (h.draw sessionId) where
  sent hd := (hh.sent hd).mono (grows_draw h sessionId)
  drawn hi := List.mem_cons_of_mem _ (hh.drawn hi)
  invitedOnce hi hi' := hh.invitedOnce hi hi'
  jobs hj := (hh.jobs hj).mono (grows_draw h sessionId)
  proposedOnce := hh.proposedOnce
  answers := hh.answers
  doneOnce := hh.doneOnce

theorem Honest.deliver (hh : Honest r h) (place : Nat) (address : Address) :
    Honest r (h.deliver place address) where
  sent hd := (hh.sent hd).mono (grows_deliver h place address)
  drawn hi := hh.drawn hi
  invitedOnce hi hi' := hh.invitedOnce hi hi'
  jobs hj := (hh.jobs hj).mono (grows_deliver h place address)
  proposedOnce := hh.proposedOnce
  answers := hh.answers
  doneOnce := hh.doneOnce

/-- A job ends once, with its own packet. -/
theorem Honest.settle (hh : Honest r h) {place : Nat} {j : Job} (hj : h.job? place = some j)
    (reply : Option Reply) : Honest r (h.settle place (reply.map j.packet)) := by
  have hg := grows_settle h place (reply.map j.packet)
  unfold job? at hj
  split at hj
  · cases hj
  rename_i hnew
  have hold {p : Option DebatePacket} : (place, p) ∉ h.done := fun hp =>
    hnew (List.mem_map.mpr ⟨_, hp, rfl⟩)
  constructor
  case sent => exact fun hd => (hh.sent hd).mono hg
  case drawn => exact fun hi => hh.drawn hi
  case invitedOnce => exact fun hi hi' => hh.invitedOnce hi hi'
  case jobs => exact fun hj => (hh.jobs hj).mono hg
  case proposedOnce => exact hh.proposedOnce
  case answers =>
    intro place' p hp
    rcases List.mem_cons.mp hp with heq | hp
    · obtain ⟨rfl, hreply⟩ := Prod.mk.inj heq
      obtain ⟨reply, -, rfl⟩ := Option.map_eq_some_iff.mp hreply.symm
      exact ⟨j, reply, hj, rfl⟩
    · exact hh.answers hp
  case doneOnce =>
    intro place' p p' hp hp'
    rcases List.mem_cons.mp hp with heq | hp <;> rcases List.mem_cons.mp hp' with heq' | hp'
    · exact (Prod.mk.inj heq).2.trans (Prod.mk.inj heq').2.symm
    · exact absurd ((Prod.mk.inj heq).1 ▸ hp') hold
    · exact absurd ((Prod.mk.inj heq').1 ▸ hp) hold
    · exact hh.doneOnce hp hp'

theorem getElem?_append_cases {α : Type} {xs ys : List α} {k : Nat} {x : α}
    (hx : (xs ++ ys)[k]? = some x) : xs[k]? = some x ∨ (xs.length ≤ k ∧ x ∈ ys) := by
  rcases Nat.lt_or_ge k xs.length with hk | hk
  · left
    rwa [List.getElem?_append_left hk] at hx
  · right
    rw [List.getElem?_append_right hk] at hx
    exact ⟨hk, List.mem_of_getElem? hx⟩

theorem Honest.post (hh : Honest r h) {ds : List Datagram} (hds : Sendable r h ds) :
    Honest r (h.post ds) := by
  have hg := grows_post h ds
  have hold {place : Nat} {i : SessionInit} {text : String}
      (hi : Invited r (h.post ds).sent place i text) : Invited r h.sent place i text := by
    rcases getElem?_append_cases hi.sent with hs | ⟨-, hd⟩
    · exact { hi with sent := hs }
    · exact absurd rfl ((hds _ hd).2 _)
  constructor
  case sent =>
    intro place d hd
    rcases getElem?_append_cases hd with hd | ⟨-, hd⟩
    · exact (hh.sent hd).mono hg
    · exact ((hds d hd).1 place).mono hg
  case drawn => exact fun hi => hh.drawn (hold hi)
  case invitedOnce => exact fun hi hi' => hh.invitedOnce (hold hi) (hold hi')
  case jobs => exact fun hj => (hh.jobs hj).mono hg
  case proposedOnce => exact hh.proposedOnce
  case answers => exact hh.answers
  case doneOnce => exact hh.doneOnce

/-- The invitation to a session that has none yet. -/
theorem Honest.invite (hh : Honest r h) {i : SessionInit} {text : String}
    (hi : Invited r (h.post [.sessionInit i.toBytes]).sent h.sent.length i text)
    (hdrawn : i.sessionId ∈ h.sessions)
    (hnew : ∀ place i' text', Invited r h.sent place i' text' → i'.sessionId ≠ i.sessionId) :
    Honest r (h.post [.sessionInit i.toBytes]) := by
  have hg := grows_post h [.sessionInit i.toBytes]
  have hcases {place : Nat} {i' : SessionInit} {text' : String}
      (hi' : Invited r (h.post [.sessionInit i.toBytes]).sent place i' text') :
      Invited r h.sent place i' text' ∨ (place = h.sent.length ∧ i'.sessionId = i.sessionId) := by
    rcases getElem?_append_cases hi'.sent with hs | ⟨hle, hd⟩
    · exact Or.inl { hi' with sent := hs }
    · right
      have hlt := (List.getElem?_eq_some_iff.mp hi'.sent).1
      have hfitted := hi'.ofBytes
      rw [Datagram.sessionInit.inj (List.mem_singleton.mp hd), hi.ofBytes] at hfitted
      have hsession : i.fitted.sessionId = i'.fitted.sessionId := by rw [Except.ok.inj hfitted]
      refine ⟨?_, ?_⟩
      · unfold History.post at hlt
        rw [List.length_append, List.length_singleton] at hlt
        omega
      · exact (hi'.fits.symm.trans hsession.symm).trans hi.fits
  constructor
  case sent =>
    intro place d hd
    rcases getElem?_append_cases hd with hs | ⟨hle, hmem⟩
    · exact (hh.sent hs).mono hg
    · have hlt := (List.getElem?_eq_some_iff.mp hd).1
      unfold History.post at hlt
      rw [List.length_append, List.length_singleton] at hlt
      obtain rfl : place = h.sent.length := by omega
      exact .invitation (List.mem_singleton.mp hmem) hi
  case drawn =>
    intro place i' text' hi'
    rcases hcases hi' with hi' | ⟨-, hs⟩
    · exact hh.drawn hi'
    · exact hs ▸ hdrawn
  case invitedOnce =>
    intro place place' i₁ i₂ text₁ text₂ h1 h2 hs
    rcases hcases h1 with h1 | ⟨rfl, hs1⟩ <;> rcases hcases h2 with h2 | ⟨rfl, hs2⟩
    · exact hh.invitedOnce h1 h2 hs
    · exact absurd (hs.trans hs2) (hnew _ _ _ h1)
    · exact absurd (hs.symm.trans hs1) (hnew _ _ _ h2)
    · rfl
  case jobs => exact fun hj => (hh.jobs hj).mono hg
  case proposedOnce => exact hh.proposedOnce
  case answers => exact hh.answers
  case doneOnce => exact hh.doneOnce

/-- A job with a cause, which for a proposer is the first one of its session. -/
theorem Honest.assign (hh : Honest r h) {j : Job} (hc : Cause r h j)
    (hnew : j.assignment.round = 1 → ∀ (place : Nat) (j' : Job), h.jobs[place]? = some j' →
      j'.assignment.round = 1 → j'.assignment.sessionId ≠ j.assignment.sessionId) :
    Honest r (h.assign [j]) := by
  have hg := grows_assign h [j]
  have hcases {place : Nat} {j' : Job} (hj' : (h.assign [j]).jobs[place]? = some j') :
      h.jobs[place]? = some j' ∨ (place = h.jobs.length ∧ j' = j) := by
    rcases getElem?_append_cases hj' with hj | ⟨hle, hmem⟩
    · exact Or.inl hj
    · have hlt := (List.getElem?_eq_some_iff.mp hj').1
      unfold History.assign at hlt
      rw [List.length_append, List.length_singleton] at hlt
      exact Or.inr ⟨by omega, List.mem_singleton.mp hmem⟩
  constructor
  case sent => exact fun hd => (hh.sent hd).mono hg
  case drawn => exact hh.drawn
  case invitedOnce => exact hh.invitedOnce
  case jobs =>
    intro place j' hj'
    rcases hcases hj' with hj' | ⟨-, rfl⟩
    · exact (hh.jobs hj').mono hg
    · exact hc.mono hg
  case proposedOnce =>
    intro place place' j₁ j₂ h1 h2 hr1 hr2 hs
    rcases hcases h1 with hj1 | ⟨rfl, rfl⟩ <;> rcases hcases h2 with hj2 | ⟨rfl, rfl⟩
    · exact hh.proposedOnce hj1 hj2 hr1 hr2 hs
    · exact absurd hs (hnew hr2 _ _ hj1 hr1)
    · exact absurd hs.symm (hnew hr1 _ _ hj2 hr2)
    · rfl
  case answers =>
    intro place p hp
    obtain ⟨j', reply, hj', hpacket⟩ := hh.answers hp
    exact ⟨j', reply, getElem?_of_grown hg.jobs hj', hpacket⟩
  case doneOnce => exact hh.doneOnce

theorem parcel?_of_new {place : Nat} {address : Address} {d : Datagram}
    (hsent : h.sent[place]? = some d) (hsize : d.body.length < 2 ^ 64)
    (hnew : (place, address) ∉ h.delivered) : h.parcel? place address = some d := by
  unfold parcel?
  rw [hsent]
  exact if_pos ⟨hsize, hnew⟩

theorem job?_of_new {place : Nat} {j : Job} (hj : h.jobs[place]? = some j)
    (hnew : place ∉ h.done.map Prod.fst) : h.job? place = some j := by
  rw [job?, if_neg hnew, hj]

theorem parcel?_eq_some {place : Nat} {address : Address} {d : Datagram}
    (hd : h.parcel? place address = some d) :
    h.sent[place]? = some d ∧ d.body.length < 2 ^ 64 ∧ (place, address) ∉ h.delivered := by
  unfold parcel? at hd
  split at hd
  · cases hd
  rename_i d' hsent
  split at hd
  · rename_i hnew
    cases hd
    exact ⟨hsent, hnew⟩
  · cases hd

/-- What an honest parcel can say. -/
theorem Honest.message (hh : Honest r h) {place : Nat} {address : Address} {d : Datagram}
    (hd : h.parcel? place address = some d) {layer : Layer} {m : Message}
    (hm : d.message? = some (layer, m)) :
    (∃ q, m = .routing q) ∨ (∃ o, m = .offer o ∧ ∃ k, r.Names k o.guardianId) ∨
      ∃ p job, m = .debate p ∧ (job, some p) ∈ h.done := by
  obtain ⟨hsent, hsize, -⟩ := parcel?_eq_some hd
  cases hh.sent hsent with
  | request hq =>
    obtain ⟨-, rfl⟩ := Datagram.message?_of_ofMessage? hq hsize hm
    exact Or.inl ⟨_, rfl⟩
  | offer ho hn =>
    obtain ⟨-, rfl⟩ := Datagram.message?_of_ofMessage? ho hsize hm
    exact Or.inr (Or.inl ⟨_, rfl, hn⟩)
  | invitation hi =>
    subst hi
    cases hm
  | packet hp hdone =>
    obtain ⟨-, rfl⟩ := Datagram.message?_of_ofMessage? hp hsize hm
    exact Or.inr (Or.inr ⟨_, _, rfl, hdone⟩)

theorem Honest.offer (hh : Honest r h) {place : Nat} {address : Address} {d : Datagram}
    (hd : h.parcel? place address = some d) {layer : Layer} {o : ExpertOffer}
    (ho : d.message? = some (layer, .offer o)) : ∃ k, r.Names k o.guardianId := by
  rcases hh.message hd ho with ⟨q, hq⟩ | ⟨o', ho', hk⟩ | ⟨p, job, hp, -⟩
  · cases hq
  · cases ho'
    exact hk
  · cases hp

theorem Honest.packet (hh : Honest r h) {place : Nat} {address : Address} {d : Datagram}
    (hd : h.parcel? place address = some d) {layer : Layer} {p : DebatePacket}
    (hp : d.message? = some (layer, .debate p)) : ∃ job, (job, some p) ∈ h.done := by
  rcases hh.message hd hp with ⟨q, hq⟩ | ⟨o, ho, -⟩ | ⟨p', job, hp', hdone⟩
  · cases hq
  · cases ho
  · cases hp'
    exact ⟨job, hdone⟩

/-- An honest invitation is one that the moderator sent. -/
theorem Honest.invitation (hh : Honest r h) {place : Nat} {address : Address} {bs : Bytes}
    (hd : h.parcel? place address = some (.sessionInit bs)) {i : SessionInit}
    (hi : SessionInit.ofBytes bs = .ok i) :
    ∃ i' text, Invited r h.sent place i' text ∧ i = i'.fitted := by
  cases hh.sent (parcel?_eq_some hd).1 with
  | request hq => exact absurd hq Datagram.ofMessage?_ne_sessionInit
  | offer ho => exact absurd ho Datagram.ofMessage?_ne_sessionInit
  | packet hp => exact absurd hp Datagram.ofMessage?_ne_sessionInit
  | invitation heq hinv =>
    rename_i i' text
    rw [Datagram.sessionInit.inj heq, hinv.ofBytes] at hi
    exact ⟨i', text, hinv, (Except.ok.inj hi).symm⟩

/-- A first packet of a session answers the assignment that its invitation gave the proposer. -/
theorem Honest.opening (hh : Honest r h) {place job : Nat} {i : SessionInit} {text : String}
    {p : DebatePacket} (hi : Invited r h.sent place i text) (hp : (job, some p) ∈ h.done)
    (hround : p.round = 1) (hs : p.sessionId = i.sessionId) :
    h.Answers r i.proposerId ⟨i.sessionId, 1, .proposer, text, none⟩ p := by
  obtain ⟨j, reply, hj, rfl⟩ := hh.answers hp
  rw [Job.packet_round] at hround
  rw [Job.packet_sessionId] at hs
  cases hh.jobs hj with
  | opening hi' hnode hd ha =>
    rw [ha] at hs
    dsimp only at hs
    have same := hh.same hi' hi hs
    exact ⟨job, j, hj, same.proposer ▸ hnode, by rw [ha, hs, same.text], hp⟩
  | rebuttal hi' hc hnode hp' hround' hs' ha =>
    rw [ha] at hround
    cases hround

/-- A second packet of a session answers the critic's assignment, with the first one as prior: that
is the packet that woke the critic, as the session has one proposer's job. -/
theorem Honest.rebuttal (hh : Honest r h) {place job : Nat} {i : SessionInit} {text : String}
    {p q : DebatePacket} (hi : Invited r h.sent place i text)
    (hp : h.Answers r i.proposerId ⟨i.sessionId, 1, .proposer, text, none⟩ p)
    (hq : (job, some q) ∈ h.done) (hround : q.round = 2) (hs : q.sessionId = i.sessionId) :
    ∃ c, i.criticId = some c ∧
      h.Answers r c ⟨i.sessionId, 2, .critic, text, some p.content⟩ q := by
  obtain ⟨j, reply, hj, rfl⟩ := hh.answers hq
  rw [Job.packet_round] at hround
  rw [Job.packet_sessionId] at hs
  cases hh.jobs hj with
  | opening hi' hnode hd ha =>
    rw [ha] at hround
    cases hround
  | rebuttal hi' hc hnode hp' hround' hs' ha =>
    rename_i place' first i' text' c p'
    rw [ha] at hs
    dsimp only at hs
    have same := hh.same hi' hi hs
    obtain ⟨place₁, j₁, hj₁, -, ha₁, hdone⟩ := hp
    obtain ⟨j₂, reply₂, hj₂, hp₂⟩ := hh.answers hp'
    have hfirst : place₁ = first := by
      apply hh.proposedOnce hj₁ hj₂
      · rw [ha₁]
      · rw [hp₂, Job.packet_round] at hround'
        exact hround'
      · rw [hp₂, Job.packet_sessionId] at hs'
        rw [ha₁]
        exact (hs'.trans hs).symm
    subst hfirst
    have hpp := Option.some.inj (hh.doneOnce hdone hp')
    refine ⟨c, same.critic ▸ hc, job, j, hj, hnode, ?_, hq⟩
    rw [ha, hs, same.text, hpp]

end History

end DebateMesh
