import DebateMesh.Proofs.Guardian.Queue
import DebateMesh.Proofs.GuardianNode.Run

namespace DebateMesh

/-- A request waits that waited before, or that was just offered on. -/
theorem Guardian.Move.pending {g g' : Guardian} {c : Guardian.Call} {answer : Guardian.Answer}
    {r : RoutingRequest} (h : Guardian.Move g c answer g') (hr : r ∈ g'.pending) :
    r ∈ g.pending ∨ c = .offer r := by
  cases h with
  | declines | ignores | refuses | overhears | wakes | sleepsOn | releases => exact Or.inl hr
  | offers =>
    rcases mem_enqueue hr with hr | rfl
    · exact Or.inl hr
    · exact Or.inr rfl
  | starts admitted | lacksRoom admitted | parks admitted =>
    exact Or.inl ((extract_mem admitted.request).2.2 r hr)

namespace GuardianNode

variable {n n' : GuardianNode} {e : Event} {d : Datagram} {works : List Work} {t : Entry}
  {ts : List Entry} {r : RoutingRequest} {layer : Layer} {headerId : String}

/-- The request that the expert offers on, and the layer on which it came. -/
def offered? (t : Entry) : Option (RoutingRequest × Layer) :=
  match t.event with
  | .generated .. => none
  | .datagram d =>
    match d.message? with
    | some (layer, .routing r) => if t.before.guardian.accepts r then some (r, layer) else none
    | _ => none

/-- The offer, by its identifier and its layer, if it is sent. -/
def sent? (t : Entry) : Option (String × Layer) :=
  if t.outcome.isEmpty then none else (offered? t).map fun (r, layer) => (r.id, layer)

theorem offered?_eq_some (reads : d.message? = some (layer, .routing r))
    (suited : n.guardian.accepts r = true) :
    offered? ⟨n, .datagram d, works, n'⟩ = some (r, layer) := by
  unfold offered?
  dsimp only
  rw [reads]
  exact if_pos suited

theorem offered?_eq_none (unsuited : ∀ layer r, d.message? = some (layer, .routing r) →
    n.guardian.accepts r = false) : offered? ⟨n, .datagram d, works, n'⟩ = none := by
  unfold offered?
  dsimp only
  split
  · rename_i layer r reads
    rw [unsuited layer r reads]
    rfl
  · rfl

theorem offered?_of_debate {q : DebatePacket} (reads : d.message? = some (layer, .debate q)) :
    offered? ⟨n, .datagram d, works, n'⟩ = none := by
  refine offered?_eq_none fun layer r hr => ?_
  rw [reads] at hr
  cases hr

theorem offered?_of_mute (mute : ∀ layer m, d.message? = some (layer, m) → ∃ o, m = .offer o) :
    offered? ⟨n, .datagram d, works, n'⟩ = none := by
  refine offered?_eq_none fun layer r hr => ?_
  obtain ⟨o, ho⟩ := mute layer _ hr
  cases ho

theorem offered?_of_unsuited (reads : d.message? = some (layer, .routing r))
    (unsuited : n.guardian.accepts r = false) :
    offered? ⟨n, .datagram d, works, n'⟩ = none := by
  refine offered?_eq_none fun layer r' hr' => ?_
  rw [reads] at hr'
  cases hr'
  exact unsuited

theorem sent?_eq_none (h : offered? t = none) : sent? t = none := by
  rw [sent?, h]
  split <;> rfl

/-- The offers that are sent are remembered with their layers, and only these. -/
theorem Move.offerLayers (h : Move n e works n') : n'.offerLayers =
    (sent? ⟨n, e, works, n'⟩).elim n.offerLayers (enqueue n.offerLayers) := by
  cases h with
  | passes | declines | cannotOffer => rfl
  | offers reads suited =>
    rw [sent?, offered?_eq_some reads suited]
    rfl
  | meets | answers =>
    rw [sent?_eq_none rfl]
    rfl
  | hears reads =>
    rw [sent?_eq_none (offered?_of_debate reads)]
    rfl

/-- A request that waits was just offered on, or it waited before and its identifier was not. -/
theorem Move.pending (h : Move n e works n') (hr : r ∈ n'.guardian.pending) :
    (∃ layer, offered? ⟨n, e, works, n'⟩ = some (r, layer)) ∨
      r ∈ n.guardian.pending ∧ ∀ o, offered? ⟨n, e, works, n'⟩ = some o → o.1.id ≠ r.id := by
  have hquiet (hnone : offered? ⟨n, e, works, n'⟩ = none) (hmem : r ∈ n.guardian.pending) :
      r ∈ n.guardian.pending ∧ ∀ o, offered? ⟨n, e, works, n'⟩ = some o → o.1.id ≠ r.id := by
    refine ⟨hmem, fun o ho => ?_⟩
    rw [hnone] at ho
    cases ho
  cases h with
  | passes _ mute => exact Or.inr (hquiet (offered?_of_mute mute) hr)
  | declines reads unsuited => exact Or.inr (hquiet (offered?_of_unsuited reads unsuited) hr)
  | offers reads suited | cannotOffer reads suited =>
    rcases mem_enqueue hr with hr | rfl
    · refine Or.inr ⟨hr, fun o ho => ?_⟩
      rw [offered?_eq_some reads suited] at ho
      cases ho
      exact (Guardian.id_ne_of_accepts suited r hr).symm
    · exact Or.inl ⟨_, offered?_eq_some reads suited⟩
  | meets _ move =>
    rcases move.pending hr with hr | hoffer
    · exact Or.inr (hquiet rfl hr)
    · cases hoffer
  | hears reads move =>
    rcases move.pending hr with hr | hoffer
    · exact Or.inr (hquiet (offered?_of_debate reads) hr)
    · cases hoffer
  | answers => exact Or.inr (hquiet rfl hr)

/-- The request that waits came on this layer: that of the last offer on its identifier. -/
def Carried (ts : List Entry) (r : RoutingRequest) (layer : Layer) : Prop :=
  ∃ front t back, ts = front ++ t :: back ∧ offered? t = some (r, layer) ∧
    ∀ u ∈ back, ∀ o, offered? u = some o → o.1.id ≠ r.id

theorem carried_self (h : offered? t = some (r, layer)) : Carried (ts ++ [t]) r layer :=
  ⟨ts, t, [], rfl, h, fun u hu => by cases hu⟩

theorem Carried.concat (h : Carried ts r layer)
    (ht : ∀ o, offered? t = some o → o.1.id ≠ r.id) : Carried (ts ++ [t]) r layer := by
  obtain ⟨front, u, back, rfl, hu, hback⟩ := h
  refine ⟨front, u, back ++ [t], by rw [List.append_assoc, List.cons_append], hu, ?_⟩
  rw [List.forall_mem_append, List.forall_mem_singleton]
  exact ⟨hback, ht⟩

theorem Carried.unique {layer' : Layer} (h : Carried ts r layer) (h' : Carried ts r layer') :
    layer = layer' := by
  obtain ⟨front, t, back, rfl, ht, hback⟩ := h
  obtain ⟨front', t', back', hsplit, ht', hback'⟩ := h'
  rcases Machine.places_cases hsplit with rfl | hbehind | hbehind
  · rw [ht] at ht'
    cases ht'
    rfl
  · exact absurd rfl (hback t' hbehind _ ht')
  · exact absurd rfl (hback' t hbehind _ ht)

/-- What holds of a node and of its entries so far. -/
structure Tracked (ts : List Entry) (n : GuardianNode) : Prop where
  offerLayers : n.offerLayers = (ts.filterMap sent?).rtake maxQueued
  pending : ∀ r ∈ n.guardian.pending, ∃ layer, Carried ts r layer

theorem tracked_fresh (p : Profile) (e : Envelope) : Tracked [] (fresh p e) :=
  ⟨rfl, fun r hr => by cases hr⟩

theorem Tracked.entry (ts : List Entry) (n : GuardianNode) (e : Event) (h : Tracked ts n) :
    Tracked (ts ++ [Machine.turn step n e]) (n.step e).1 := by
  have hmove := n.step_moves e
  constructor
  case offerLayers =>
    rw [hmove.offerLayers, Machine.filterMap_concat, h.offerLayers]
    change Option.elim (sent? (Machine.turn step n e)) _ _ = _
    cases sent? (Machine.turn step n e) with
    | none =>
      rw [Option.toList_none, List.append_nil]
      rfl
    | some o => exact enqueue_rtake _ o
  case pending =>
    intro r hr
    rcases hmove.pending hr with ⟨layer, hoffered⟩ | ⟨hr, hother⟩
    · exact ⟨layer, carried_self hoffered⟩
    · obtain ⟨layer, hcarried⟩ := h.pending r hr
      exact ⟨layer, hcarried.concat hother⟩

/-- The oldest of the last offers whose identifier the header could mean. -/
def remembered? (ts : List Entry) (headerId : String) : Option (String × Layer) :=
  ((ts.filterMap sent?).rtake maxQueued).find? fun o => fitField requestIdWidth o.1 == headerId

theorem Tracked.offerLayer (h : Tracked ts n) (headerId : String) :
    n.offerLayer headerId = ((remembered? ts headerId).map Prod.snd).getD .mesh := by
  rw [GuardianNode.offerLayer, h.offerLayers, remembered?]
  split
  · rename_i hfound
    rw [hfound]
    rfl
  · rename_i hnone
    rw [hnone]
    rfl

/-- All offers that the header could mean went out on the layer. A node that does not remember any
of them takes the mesh, so on the backbone one must be among the last. -/
structure Unmistakable (ts : List Entry) (headerId : String) (layer : Layer) : Prop where
  alike : ∀ o ∈ ts.filterMap sent?, fitField requestIdWidth o.1 = headerId → o.2 = layer
  kept : layer = .backbone →
    ∃ o ∈ (ts.filterMap sent?).rtake maxQueued, fitField requestIdWidth o.1 = headerId

theorem Unmistakable.remembered? (h : Unmistakable ts headerId layer) :
    ((remembered? ts headerId).map Prod.snd).getD .mesh = layer := by
  unfold GuardianNode.remembered?
  cases hfound : ((ts.filterMap sent?).rtake maxQueued).find?
      fun o => fitField requestIdWidth o.1 == headerId with
  | some o =>
    have hsent := List.mem_of_mem_drop (List.mem_of_find?_eq_some hfound)
    have hshown := @List.find?_some _ _ _ _ hfound
    exact h.alike o hsent (beq_iff_eq.mp hshown)
  | none =>
    cases layer with
    | mesh => rfl
    | backbone =>
      obtain ⟨o, ho, hshown⟩ := h.kept rfl
      exact absurd (beq_iff_eq.mpr hshown) (List.find?_eq_none.mp hfound o ho)

/-- A session that starts takes a request out, and its answer goes to the layer of an offer. -/
theorem Move.of_generate {bs : Bytes} {i : SessionInit} {a : Assignment}
    (h : Move n (.datagram (.sessionInit bs)) works n') (reads : SessionInit.ofBytes bs = .ok i)
    (hw : .generate layer a ∈ works) : layer = n.offerLayer i.requestId ∧ ∃ r pending,
      extract (·.showsAs i.requestId) n.guardian.pending = some (r, pending) ∧
      n'.guardian.pending = pending := by
  cases h with
  | passes | declines | cannotOffer => cases hw
  | offers hd => cases hd
  | hears hd => cases hd
  | meets hreads move =>
    rw [reads] at hreads
    cases hreads
    obtain ⟨a', ha', hw⟩ := List.mem_map.mp hw
    cases hw
    refine ⟨rfl, ?_⟩
    cases move with
    | starts admitted => exact ⟨_, _, admitted.request, rfl⟩
    | ignores | refuses | lacksRoom | parks => cases ha'

/-- A session that starts consumes a request, and is answered on the layer of the oldest offer that
is remembered and its header could mean. That is the layer on which the request came, if no such
offer went out on another layer and, for the backbone, one is remembered. -/
theorem answers_follow_remembered_offers {p : Profile} {e : Envelope} {es : List Event}
    {before after : List Entry} {bs : Bytes} {i : SessionInit} {a : Assignment}
    (h : (fresh p e).log es = before ++ t :: after)
    (hevent : t.event = .datagram (.sessionInit bs)) (hreads : SessionInit.ofBytes bs = .ok i)
    (hw : .generate layer a ∈ t.outcome) : ∃ r pending came,
      extract (·.showsAs i.requestId) t.before.guardian.pending = some (r, pending) ∧
      t.after.guardian.pending = pending ∧ Carried before r came ∧
      layer = ((remembered? before i.requestId).map Prod.snd).getD .mesh ∧
      (Unmistakable before i.requestId came → layer = came) := by
  obtain ⟨htracked, ht⟩ := Machine.history_before Tracked.entry (tracked_fresh p e) h
  have hmove : Move t.before t.event t.outcome t.after := by
    rw [ht]
    exact step_moves _ _
  rw [hevent] at hmove
  obtain ⟨hlayer, r, pending, hrequest, hafter⟩ := hmove.of_generate hreads hw
  obtain ⟨came, hcarried⟩ := htracked.pending r (extract_mem hrequest).1
  rw [htracked.offerLayer] at hlayer
  exact ⟨r, pending, came, hrequest, hafter, hcarried, hlayer,
    fun hclear => hlayer.trans hclear.remembered?⟩

theorem coder_offered {inFlight : Nat} (hfree : inFlight < 2) (offerLayers : List (String × Layer))
    (layer : Layer) (works : List Work) (n' : GuardianNode) :
    offered? ⟨coder [] inFlight offerLayers, .datagram (codeRequest layer), works, n'⟩ =
      some (Guardian.codeRequest "r", layer) :=
  offered?_eq_some (codeRequest_message layer) (Guardian.coder_accepts hfree)

theorem unmistakable_singleton (h : sent? t = some ("r", layer)) : Unmistakable [t] "r" layer := by
  have hsent : [t].filterMap sent? = [("r", layer)] := by
    rw [List.filterMap_cons, h]
    rfl
  have hshown : fitField requestIdWidth "r" = "r" := by decide
  constructor
  case alike =>
    rw [hsent, List.forall_mem_singleton]
    exact fun _ => rfl
  case kept =>
    rw [hsent]
    exact fun _ => ⟨_, List.mem_singleton.mpr rfl, hshown⟩

theorem answers_follow_remembered_offers_coder : ∃ before t after,
    (coder [] 0 []).log (codeSession .backbone) = before ++ t :: after ∧
    .generate .backbone Guardian.codeAssignment ∈ t.outcome ∧
    Carried before (Guardian.codeRequest "r") .backbone ∧ Unmistakable before "r" .backbone := by
  obtain ⟨d, hlog, -⟩ := coder_codeSession Nat.two_pos [] .backbone
  have hlayer : (coder [] 0 (enqueue [] ("r", .backbone))).offerLayer "r" = .backbone := by decide
  rw [hlayer] at hlog
  have hsplit : (coder [] 0 []).log (codeSession .backbone) = [_] ++ _ :: [] := hlog
  obtain ⟨r, pending, came, hrequest, -, hcarried, -, -⟩ :=
    @answers_follow_remembered_offers _ .backbone (Guardian.coder [] 0).profile .zero _ _ _ _ _ _
      hsplit rfl codeInvitation_reads (List.mem_singleton.mpr rfl)
  obtain ⟨rfl, rfl⟩ : Guardian.codeRequest "r" = r ∧ [] = pending := by
    rw [← Prod.mk.injEq, ← Option.some.injEq, ← hrequest]
    exact (if_pos (by decide)).symm
  have hoffered := coder_offered Nat.two_pos [] .backbone
  obtain rfl : came = .backbone := hcarried.unique (@carried_self _ [] _ _ (hoffered _ _))
  refine ⟨_, _, _, hsplit, List.mem_singleton.mpr rfl, hcarried, unmistakable_singleton ?_⟩
  rw [sent?, hoffered]
  rfl

/-- The same identifier is used for a session on the mesh and then for one on the backbone. -/
def codeSessions : List Event := codeSession .mesh ++ codeSession .backbone

/-- The second session is answered on the mesh, although its request came on the backbone. -/
theorem reused_identifiers_change_layers : ∃ before t after r pending,
    (coder [] 0 []).log codeSessions = before ++ t :: after ∧
    t.event = .datagram codeInvitation ∧
    t.outcome = [.generate .mesh Guardian.codeAssignment] ∧
    extract (·.showsAs "r") t.before.guardian.pending = some (r, pending) ∧
    Carried before r .backbone := by
  obtain ⟨d, hmesh, hrun⟩ := coder_codeSession Nat.two_pos [] .mesh
  obtain ⟨d', hbackbone, -⟩ :=
    coder_codeSession (Nat.add_one_lt_add_one_iff.mpr Nat.one_pos) (enqueue [] ("r", .mesh))
      .backbone
  have hlog := log_append (coder [] 0 []) (codeSession .mesh) (codeSession .backbone)
  rw [hrun, hmesh, hbackbone, List.cons_append, List.cons_append, List.nil_append] at hlog
  have hlayer : (coder [] (0 + 1) (enqueue (enqueue [] ("r", .mesh)) ("r", .backbone))).offerLayer
    "r" = .mesh := by decide
  rw [hlayer] at hlog
  have hsplit : (coder [] 0 []).log codeSessions = [_, _, _] ++ _ :: [] := hlog
  refine ⟨_, _, _, Guardian.codeRequest "r", [], hsplit, rfl, rfl, if_pos (by decide), ?_⟩
  exact @carried_self _ [_, _] _ _ (coder_offered Nat.one_lt_two _ _ _ _)

end GuardianNode

end DebateMesh
