import DebateMesh.Proofs.Datagram
import DebateMesh.Proofs.Moderator.Accounting
import DebateMesh.Proofs.Moderator.Foreign

namespace DebateMesh

theorem isValid_of_encodeFor {layer : Layer} {m : Message} {bs : Bytes}
    (h : encodeFor layer m = .ok bs) : m.isValid = true := by
  cases layer with
  | mesh =>
    obtain ⟨_, he, -⟩ := Datagram.ofMessage?_mesh (Datagram.ofMessage?_of_encodeFor h)
    exact (Message.encode_ok he).1
  | backbone =>
    obtain ⟨_, he, -⟩ := Datagram.ofMessage?_backbone (Datagram.ofMessage?_of_encodeFor h)
    exact Option.isNone_iff_eq_none.mpr (Frame.encode_ok he).1

namespace Moderator

/-- The offer for a request that arrives, on either layer. -/
def Event.offer? (requestId : String) (e : Event) : Option ExpertOffer :=
  match e.message? with
  | some (.offer o) => if o.requestId = requestId then some o else none
  | _ => none

/-- The offers for a request that arrive, in their order. -/
def offersFor (requestId : String) (es : List Event) : List ExpertOffer :=
  es.filterMap (Event.offer? requestId)

/-- The search for a request's experts after some events. The first timeout takes it to the
backbone, unless it started there. -/
def searchAfter (m : Moderator) (r : RoutingRequest) (es : List Event) : Discovery where
  settings := m.settings
  offers := offersFor r.id es
  phase := if es.any Event.isTimeout then .backbone else (openDiscovery m.settings r).phase

variable {m m' : Moderator} {e : Event} {o : Outcome} {es : List Event} {a : Active}
  {requestId : String} {offer : ExpertOffer}

theorem message?_of_offer? (h : e.offer? requestId = some offer) :
    e.message? = some (.offer offer) ∧ offer.requestId = requestId := by
  unfold Event.offer? at h
  split at h
  · rename_i sent harrived
    split at h
    · rename_i hid
      cases h
      exact ⟨harrived, hid⟩
    · cases h
  · cases h

theorem ignores_of_offer? (he : e.isTraffic = true) (ha : m.active = some a) (hs : a.session = none)
    (h : e.offer? a.request.id = none) : m.ignores e = true := by
  rw [ignores, he, stage_searching ha hs]
  cases hm : e.message? with
  | none => rfl
  | some msg =>
    cases msg with
    | routing | debate => rfl
    | offer sent =>
      have hid : sent.requestId ≠ a.request.id := by
        intro hid
        simp [Event.offer?, hm, hid] at h
      simpa [Stage.ignores] using hid

/-- What arrives in a search adds the offer that it is for the request, and does nothing else. -/
theorem step_searching (he : e.isTraffic = true) (ha : m.active = some a) (hs : a.session = none) :
    m.step e = ({ m with active := some { a with discovery :=
      { a.discovery with
        offers := a.discovery.offers ++ (e.offer? a.request.id).toList } } }, .ok []) := by
  cases h : e.offer? a.request.id with
  | none =>
    rw [step_of_ignores (ignores_of_offer? he ha hs h)]
    simp [← ha]
  | some offer =>
    obtain ⟨harrived, hid⟩ := message?_of_offer? h
    rw [m.step_of_message harrived, handle_offer ha hs hid]
    rfl

/-- The request under way passes every check. -/
def Valid (m : Moderator) : Prop :=
  ∀ a, m.active = some a → (Message.routing a.request).isValid = true

theorem Valid.of_idle (h : m.active = none) : m.Valid := by
  simp [Valid, h]

theorem Valid.of_active {b : Active} (hm : m.Valid) (ha : m.active = some a)
    (hr : b.request = a.request) : Valid { m with active := some b } := by
  intro c hc
  cases hc
  rw [hr]
  exact hm a ha

theorem Valid.move (hm : m.Valid) (h : Move m e o m') : m'.Valid := by
  cases h with
  | refuses | concludes | expires | fails | cancels => exact Valid.of_idle rfl
  | ignores | rests | cannotSeal => exact hm
  | accepts _ encoded =>
    intro a ha
    cases ha
    exact isValid_of_encodeFor encoded
  | hears active | records active | opens active | escalates active | cannotBroadcast active =>
    exact hm.of_active active rfl

theorem Valid.run (hm : m.Valid) : (m.run es).1.Valid :=
  run_keeps (P := Valid) (A := fun _ => True) (fun _ _ _ _ hv hmove _ => hv.move hmove) hm
    fun _ _ => trivial

/-- What a timeout makes of a search. It opens a session with the experts that are selected when it
finds any; else it goes on to the backbone, where the request is sent as a frame if it fits one, and
from the backbone it fails. -/
structure Decision (reputation : Option Reputation) (a : Active) (o : Outcome) (m' : Moderator) :
    Prop where
  opens : a.discovery.Finds a.request.intent → ∃ proposer bytes d,
    (a.discovery.select a.request reputation).proposer = some proposer ∧
    o = .ok [.sendInit a.discovery.phase.layer (proposer.guardianId ::
        ((a.discovery.select a.request reputation).critic.map (·.guardianId)).toList) bytes,
      .armTimer roundTimeout] ∧
    m'.active = some { a with session := some d }
  escalates : ¬ a.discovery.Finds a.request.intent → a.discovery.phase = .local →
    m'.active = some { a with discovery := a.discovery.escalate } ∧
    ((Frame.payload (.routing a.request)).length ≤ Frame.maxPayload → ∃ bytes,
      o = .ok [.broadcast .backbone bytes, .armTimer a.discovery.settings.backboneTimeout] ∧
      Frame.decode bytes = .ok (.routing a.request, bytes.length))
  fails : ¬ a.discovery.Finds a.request.intent → a.discovery.phase = .backbone →
    o = .ok [.failed a.request.id] ∧ m'.active = none

theorem onTimeout_of_finds (fresh : Fresh) (ha : m.active = some a) (hs : a.session = none)
    (hfinds : a.discovery.Finds a.request.intent) : ∃ proposer,
      (a.discovery.select a.request m.reputation).proposer = some proposer ∧
      m.onTimeout fresh =
        m.startSession a (a.discovery.select a.request m.reputation) proposer fresh := by
  obtain ⟨hsuff, hsome⟩ := (a.discovery.finds_iff a.request m.reputation).mp hfinds
  obtain ⟨proposer, hchosen⟩ := Option.isSome_iff_exists.mp hsome
  exact ⟨proposer, hchosen, onTimeout_of_select fresh ha hs hsuff hchosen⟩

theorem onTimeout_of_not_finds (fresh : Fresh) (ha : m.active = some a) (hs : a.session = none)
    (hnone : ¬ a.discovery.Finds a.request.intent) : m.onTimeout fresh = m.escalate a := by
  rw [a.discovery.finds_iff a.request m.reputation] at hnone
  rcases m.onTimeout_cases fresh with ⟨idle, -⟩ | ⟨b, d, active, debating, -⟩ |
    ⟨b, proposer, active, -, sufficient, chosen, -⟩ | ⟨b, active, -, -, heq⟩
  · simp [ha] at idle
  all_goals obtain rfl : a = b := by simpa [ha] using active
  · simp [hs] at debating
  · simp [sufficient, chosen] at hnone
  · exact heq

/-- When the text can be sealed the session opens. -/
theorem startSession_of_sealed {fresh : Fresh} (s : Selection) (proposer : ExpertOffer)
    (hseals : ∃ blob, m.envelope.encryptText fresh.nonce a.prompt
      (Utf8.encode (fitField requestIdWidth a.request.id)) = .ok blob) : ∃ bytes d,
      m.startSession a s proposer fresh = (m.withSession a d,
        .ok [.sendInit s.phase.layer
            (proposer.guardianId :: (s.critic.map (·.guardianId)).toList) bytes,
          .armTimer roundTimeout]) := by
  obtain ⟨blob, hblob⟩ := hseals
  obtain ⟨i, hi⟩ := invitation_of_sealed proposer s.critic hblob
  obtain ⟨-, -, hproposer, hcritic, -⟩ := invitation_ok hi
  refine ⟨i.toBytes, Debate.ofInit i, ?_⟩
  rw [startSession, hi]
  dsimp only
  rw [SessionInit.recipients, hproposer, hcritic]

theorem escalate_active (hphase : a.discovery.phase = .local) :
    (m.escalate a).1.active = some { a with discovery := a.discovery.escalate } := by
  rcases m.escalate_cases a with ⟨-, outcome, heq, -⟩ | ⟨hbackbone, -⟩
  · rw [heq]
  · simp [hphase] at hbackbone

/-- A request that fits a frame is sent as it is. -/
theorem escalate_sends (hphase : a.discovery.phase = .local)
    (hv : (Message.routing a.request).isValid = true)
    (hfits : (Frame.payload (.routing a.request)).length ≤ Frame.maxPayload) : ∃ bytes,
      (m.escalate a).2 =
        .ok [.broadcast .backbone bytes, .armTimer a.discovery.settings.backboneTimeout] ∧
      Frame.decode bytes = .ok (.routing a.request, bytes.length) := by
  obtain ⟨bytes, he, hread⟩ := Frame.decode_encode_append hv hfits []
  rw [List.append_nil] at hread
  refine ⟨bytes, ?_, hread⟩
  simp [escalate, hphase, encodeFor, he, Except.mapError, Discovery.escalate, Discovery.timeout]

theorem escalate_of_backbone (hphase : a.discovery.phase = .backbone) :
    m.escalate a = (m.drop, .ok [.failed a.request.id]) := by
  rw [escalate, hphase]

theorem timeout_decides (fresh : Fresh) (ha : m.active = some a) (hs : a.session = none)
    (hv : (Message.routing a.request).isValid = true)
    (hseals : ∃ blob, m.envelope.encryptText fresh.nonce a.prompt
      (Utf8.encode (fitField requestIdWidth a.request.id)) = .ok blob) :
    Decision m.reputation a (m.onTimeout fresh).2 (m.onTimeout fresh).1 := by
  constructor
  · intro hfinds
    obtain ⟨proposer, hchosen, heq⟩ := onTimeout_of_finds fresh ha hs hfinds
    obtain ⟨bytes, d, hopens⟩ := startSession_of_sealed
      (a.discovery.select a.request m.reputation) proposer hseals
    rw [heq, hopens]
    exact ⟨proposer, bytes, d, hchosen, rfl, rfl⟩
  · intro hnone hphase
    rw [onTimeout_of_not_finds fresh ha hs hnone]
    exact ⟨escalate_active hphase, escalate_sends hphase hv⟩
  · intro hnone hphase
    rw [onTimeout_of_not_finds fresh ha hs hnone, escalate_of_backbone hphase]
    exact ⟨rfl, rfl⟩

/-- The action that ends a search. -/
def endsSearch (x : Action) : Bool := x.isInvitation || x.isFailed

/-- How far a request has come after some events: its search goes on as `searchAfter` says, or an
action that ended it was ordered. -/
inductive Reached (m : Moderator) (r : RoutingRequest) (text : String) (past : List Event)
    (ordered : List Action) (now : Moderator) : Prop
  | searching (active : now.active = some ⟨r, text, m.searchAfter r past, none⟩)
      (quiet : ordered.any endsSearch = false)
  | closed (active : ∀ a, now.active = some a → a.session ≠ none)
      (ended : ordered.any endsSearch = true)

theorem offersFor_concat (requestId : String) (es : List Event) (e : Event) :
    offersFor requestId (es ++ [e]) = offersFor requestId es ++ (e.offer? requestId).toList := by
  cases h : e.offer? requestId <;> simp [offersFor, h]

theorem searchAfter_traffic (m : Moderator) (r : RoutingRequest) (past : List Event)
    (he : e.isTraffic = true) : m.searchAfter r (past ++ [e]) =
      { m.searchAfter r past with
        offers := (m.searchAfter r past).offers ++ (e.offer? r.id).toList } := by
  simp [searchAfter, offersFor_concat, Event.isTimeout_of_traffic he]

theorem searchAfter_timeout (m : Moderator) (r : RoutingRequest) (past : List Event)
    (fresh : Fresh) :
    m.searchAfter r (past ++ [.timeout fresh]) = (m.searchAfter r past).escalate := by
  simp [searchAfter, offersFor_concat, Event.offer?, Event.message?, Event.isTimeout,
    Discovery.escalate]

theorem searchAfter_nil (m : Moderator) (r : RoutingRequest) :
    m.searchAfter r [] = openDiscovery m.settings r := by
  unfold openDiscovery
  by_cases hlocal : r.constraints.preferLocal = true <;>
    simp [searchAfter, openDiscovery, offersFor, hlocal]

section Reached

variable {r : RoutingRequest} {text : String} {past : List Event} {ordered : List Action}
  {now next : Moderator} {fresh : Fresh}

/-- Without a search at hand there is none until the next submission. -/
theorem Move.starts_no_search (h : Move now e o next) (he : e.isTraffic = true ∨ e.isTimeout = true)
    (hover : ∀ a, now.active = some a → a.session ≠ none) :
    ∀ a, next.active = some a → a.session ≠ none := by
  cases h with
  | refuses | accepts | cancels => simp [Event.isTraffic, Event.isTimeout] at he
  | ignores | rests => exact hover
  | hears active searching | opens active searching | cannotSeal active searching
    | escalates active searching | cannotBroadcast active searching | fails active searching =>
    exact absurd searching (hover _ active)
  | records | concludes | expires => simp [withSession, drop]

theorem Reached.traffic (h : Reached m r text past ordered now) (he : e.isTraffic = true) :
    Reached m r text (past ++ [e]) (ordered ++ (now.step e).2.actions) (now.step e).1 := by
  cases h with
  | searching active quiet =>
    rw [step_searching he active rfl, Outcome.actions, List.append_nil]
    exact .searching (by rw [searchAfter_traffic m r past he]) quiet
  | closed active ended =>
    exact .closed ((now.step_moves e).starts_no_search (.inl he) active) (by simp [ended])

theorem Reached.timeout (h : Reached m r text past ordered now)
    (hmove : Move now (.timeout fresh) o next)
    (hseals : ∃ blob, now.envelope.encryptText fresh.nonce text
      (Utf8.encode (fitField requestIdWidth r.id)) = .ok blob) :
    Reached m r text (past ++ [.timeout fresh]) (ordered ++ o.actions) next := by
  cases h with
  | closed active ended => exact .closed (hmove.starts_no_search (.inr rfl) active) (by simp [ended])
  | searching active quiet =>
    cases hmove with
    | ignores traffic | hears _ _ traffic | records _ _ traffic | concludes _ _ traffic =>
      simp [Event.isTraffic] at traffic
    | rests idle => simp [active] at idle
    | expires h debating =>
      rw [active] at h
      cases h
      cases debating
    | opens =>
      refine .closed (fun a ha => ?_) ?_
      · cases ha
        exact Option.some_ne_none _
      · simp [Outcome.actions, endsSearch, Action.isInvitation]
    | @cannotSeal _ a proposer _ h _ _ _ unsealed =>
      have ha := Option.some.inj (h.symm.trans active)
      obtain ⟨blob, hblob⟩ := hseals
      obtain ⟨i, hi⟩ := invitation_of_sealed (a := a) proposer
        (a.discovery.select a.request now.reputation).critic (by rw [ha]; exact hblob)
      simp [hi] at unsealed
    | escalates h =>
      rw [active] at h
      cases h
      refine .searching (by rw [searchAfter_timeout]) ?_
      simp [quiet, Outcome.actions, endsSearch, Action.isInvitation, Action.isFailed]
    | cannotBroadcast h =>
      rw [active] at h
      cases h
      refine .searching (by rw [searchAfter_timeout]) ?_
      simp [quiet, Outcome.actions]
    | fails =>
      refine .closed (fun a ha => by cases ha) ?_
      simp [Outcome.actions, endsSearch, Action.isFailed]

theorem Reached.submit {requestId : String} {constraints : Option Constraints} {time : UInt64}
    {first : List Action} (h : m.submit text requestId constraints time = (now, .ok first)) :
    Reached m (m.requestOf text requestId constraints time) text [] [] now ∧
      (Message.routing (m.requestOf text requestId constraints time)).isValid = true ∧
      ∃ x, now = { m with active := x } := by
  rcases m.submit_cases text requestId constraints time with ⟨f, heq⟩ | ⟨bytes, he, heq⟩
  · simp [heq] at h
  · rw [heq] at h
    cases h
    exact ⟨.searching (by rw [searchAfter_nil]) rfl, isValid_of_encodeFor he, _, rfl⟩

/-- Every run from a search leads as far as its events tell. -/
theorem Reached.run (h : Reached m r text past ordered now) (henvelope : now.envelope = m.envelope)
    (hseals : ∀ nonce, ∃ blob, m.envelope.encryptText nonce text
      (Utf8.encode (fitField requestIdWidth r.id)) = .ok blob)
    (hes : ∀ e ∈ es, e.isTraffic = true ∨ e.isTimeout = true) :
    Reached m r text (past ++ es) (ordered ++ (now.turns es).flatMap Turn.actions)
      (now.run es).1 := by
  induction es generalizing past ordered now with
  | nil => simpa [turns, Machine.turns, Moderator.run] using h
  | cons e es ih =>
    rw [List.forall_mem_cons] at hes
    have hmove := now.step_moves e
    have hnext : Reached m r text (past ++ [e]) (ordered ++ (now.step e).2.actions)
        (now.step e).1 := by
      rcases hes.1 with htraffic | htimeout
      · exact h.traffic htraffic
      · cases e with
        | submit | message | frame | cancel => simp [Event.isTimeout] at htimeout
        | timeout fresh =>
          refine h.timeout hmove ?_
          rw [henvelope]
          exact hseals fresh.nonce
    obtain ⟨x, hx⟩ := hmove.fixed
    have hrest := ih hnext (by rw [hx, ← henvelope]) hes.2
    rw [run_cons, turns_cons]
    simpa [Turn.actions] using hrest

theorem Move.keeps_backbone (h : Move now e o next) (he : e.isTraffic = true ∨ e.isTimeout = true)
    (hphase : ∀ a, now.active = some a → a.discovery.phase = .backbone) :
    ∀ a, next.active = some a → a.discovery.phase = .backbone := by
  cases h with
  | refuses | accepts | cancels => simp [Event.isTraffic, Event.isTimeout] at he
  | ignores | rests | cannotSeal => exact hphase
  | concludes | expires | fails => simp [drop]
  | @hears _ a _ active | @records _ a _ _ active | @opens _ a _ _ active =>
    intro b hb
    cases hb
    exact hphase a active
  | escalates | cannotBroadcast =>
    intro b hb
    cases hb
    rfl

theorem run_keeps_backbone (hes : ∀ e ∈ es, e.isTraffic = true ∨ e.isTimeout = true)
    (hphase : ∀ a, now.active = some a → a.discovery.phase = .backbone) :
    ∀ a, (now.run es).1.active = some a → a.discovery.phase = .backbone :=
  run_keeps (P := fun m => ∀ a, m.active = some a → a.discovery.phase = .backbone)
    (fun _ _ _ _ hbefore hmove he => hmove.keeps_backbone he hbefore) hphase hes

end Reached

/-- From a submission until the next one or a cancellation, the search goes on until a session opens
or the search fails. All the while it holds the offers for the request that have arrived, in their
order and from either layer, and a timeout decides it by them. The request never goes back from the
backbone to the mesh. -/
theorem offers_decide_the_search {m m' : Moderator} {text requestId : String}
    {constraints : Option Constraints} {now : UInt64} {first : List Action} {es : List Event}
    (hsubmit : m.submit text requestId constraints now = (m', .ok first))
    (hseals : ∀ nonce, ∃ blob, m.envelope.encryptText nonce text
      (Utf8.encode (fitField requestIdWidth requestId)) = .ok blob)
    (hes : ∀ e ∈ es, e.isTraffic = true ∨ e.isTimeout = true) :
    (((m'.turns es).flatMap Turn.actions).any endsSearch = false ↔
      ∃ a, (m'.run es).1.active = some a ∧ a.session = none) ∧
    (∀ a, (m'.run es).1.active = some a → a.session = none →
      a.request = m.requestOf text requestId constraints now ∧
      a.discovery = m.searchAfter a.request es ∧
      a.discovery.offers = offersFor requestId es ∧
      ∀ fresh, Decision m.reputation a ((m'.run es).1.onTimeout fresh).2
        ((m'.run es).1.onTimeout fresh).1) ∧
    ∀ fs a b, (∀ e ∈ fs, e.isTraffic = true ∨ e.isTimeout = true) →
      (m'.run es).1.active = some a → (m'.run (es ++ fs)).1.active = some b →
      a.discovery.phase = .backbone → b.discovery.phase = .backbone := by
  obtain ⟨hstart, hvalid, x, hx⟩ := Reached.submit hsubmit
  have hreached := hstart.run (by rw [hx]) hseals hes
  rw [List.nil_append, List.nil_append] at hreached
  obtain ⟨y, hy⟩ := m'.run_fixed es
  refine ⟨?_, ?_, ?_⟩
  · cases hreached with
    | searching active quiet => exact iff_of_true quiet ⟨_, active, rfl⟩
    | closed active ended =>
      refine iff_of_false (by simp [ended]) fun h => ?_
      obtain ⟨a, ha, hs⟩ := h
      exact active a ha hs
  · intro a ha hs
    cases hreached with
    | closed active ended => exact absurd hs (active a ha)
    | searching active quiet =>
      obtain rfl := Option.some.inj (ha.symm.trans active)
      refine ⟨rfl, rfl, rfl, fun fresh => ?_⟩
      have hdecides := timeout_decides fresh ha hs hvalid (by
        rw [hy, hx]
        exact hseals fresh.nonce)
      rw [hy, hx] at hdecides ⊢
      exact hdecides
  · intro fs a b hfs ha hb hphase
    rw [run_append] at hb
    refine run_keeps_backbone hfs (fun c hc => ?_) b hb
    obtain rfl := Option.some.inj (ha.symm.trans hc)
    exact hphase

/-- One expert is heard on the mesh; after the escalation another request's expert is heard, and
then the second one on the backbone. -/
def splitOffers : List Event :=
  let offer (id guardian skill : String) : Message :=
    .offer ⟨id, guardian, "", [skill], ⟨Binary64.zero, 10⟩, ""⟩
  let frame (m : Message) : Bytes := (Frame.encode m).toOption.getD []
  [.message (offer "r" "!c" "math").toJson.encode,
    .timeout ⟨sessionIdOf (List.replicate 16 0), List.replicate 12 0⟩,
    .message (offer "q" "!late" "code").toJson.encode,
    .frame (frame (offer "r" "!p" "code"))]

theorem offers_decide_the_search_split : ∃ m' first a bytes,
    asker.submit "solve code" "r" none 0 = (m', .ok first) ∧
    (∀ e ∈ splitOffers, e.isTraffic = true ∨ e.isTimeout = true) ∧
    (m'.run splitOffers).1.active = some a ∧ a.session = none ∧
    a.discovery.offers.map (·.guardianId) = ["!c", "!p"] ∧
    ((m'.run splitOffers).1.onTimeout
      ⟨sessionIdOf (List.replicate 16 1), List.replicate 12 1⟩).2 =
        .ok [.sendInit .backbone ["!p", "!c"] bytes, .armTimer roundTimeout] := by
  have hes : ∀ e ∈ splitOffers, e.isTraffic = true ∨ e.isTimeout = true := by
    simp [splitOffers, Event.isTraffic, Event.isTimeout]
  have hseals (nonce : Bytes) : ∃ blob, asker.envelope.encryptText nonce "solve code"
      (Utf8.encode (fitField requestIdWidth "r")) = .ok blob :=
    Envelope.encryptText_isOk (by decide +kernel)
      (Nat.le_trans (length_fitField _ _) (by decide))
  have hquiet : (((asker.submit "solve code" "r" none 0).1.turns splitOffers).flatMap
      Turn.actions).any endsSearch = false := by
    decide +kernel
  rcases hsubmit : asker.submit "solve code" "r" none 0 with ⟨m', fault | first⟩
  · have hok : (asker.submit "solve code" "r" none 0).2.isOk = true := by decide +kernel
    simp [hsubmit, Except.isOk, Except.toBool] at hok
  · rw [hsubmit] at hquiet
    obtain ⟨hgoes, hsearch, -⟩ := offers_decide_the_search hsubmit hseals hes
    obtain ⟨a, ha, hs⟩ := hgoes.mp hquiet
    obtain ⟨hrequest, hdiscovery, hoffers, hdecides⟩ := hsearch a ha hs
    rw [hrequest] at hdiscovery
    have hfound : a.discovery.isSufficient = true ∧
        (a.discovery.select a.request none).proposer.map (·.guardianId) = some "!p" ∧
        (a.discovery.select a.request none).critic.map (·.guardianId) = some "!c" := by
      rw [hrequest, hdiscovery]
      decide +kernel
    obtain ⟨hsuff, hproposer, hcritic⟩ := hfound
    have hfinds : a.discovery.Finds a.request.intent :=
      (a.discovery.finds_iff a.request none).mpr ⟨hsuff, by
        rw [← Option.isSome_map, hproposer]
        rfl⟩
    obtain ⟨proposer, bytes, d, hchosen, hsent, -⟩ := (hdecides _).opens hfinds
    refine ⟨m', first, a, bytes, rfl, hes, ha, hs, ?_, ?_⟩
    · rw [hoffers]
      decide +kernel
    · have hphase : a.discovery.phase = .backbone := by
        rw [hdiscovery]
        rfl
      have hname : proposer.guardianId = "!p" := by
        change (a.discovery.select a.request none).proposer = some proposer at hchosen
        simpa [hchosen] using hproposer
      rw [hsent, hphase, hname]
      change Except.ok [Action.sendInit _ ("!p" ::
        ((a.discovery.select a.request none).critic.map _).toList) bytes, _] = _
      rw [hcritic]
      rfl

end Moderator

end DebateMesh
