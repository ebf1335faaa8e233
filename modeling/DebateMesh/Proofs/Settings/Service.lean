import DebateMesh.Proofs.Completion
import DebateMesh.Proofs.GuardianNode.Capacity
import DebateMesh.Proofs.Moderator.Limits
import DebateMesh.Proofs.Session.Canonical
import DebateMesh.Settings.File

namespace DebateMesh

/-- The offer is valid, keeps the limits of the request, and is about what the request is about. -/
structure ExpertOffer.Suits (o : ExpertOffer) (r : RoutingRequest) : Prop where
  valid : (Message.offer o).isValid = true
  within : o.Within r.constraints
  capable : ∃ x ∈ o.capabilities, x = r.intent.primary ∨ x ∈ r.intent.secondary

theorem Intent.mentions_iff {i : Intent} {x : String} :
    i.mentions x = true ↔ x = i.primary ∨ x ∈ i.secondary := by
  rw [mentions, Bool.or_eq_true, beq_iff_eq, List.contains_iff_mem, eq_comm]

theorem Guardian.capable_of_accepts {g : Guardian} {r : RoutingRequest}
    (h : g.accepts r = true) :
    ∃ x ∈ g.profile.capabilities, x = r.intent.primary ∨ x ∈ r.intent.secondary := by
  rw [accepts, serves] at h
  simp only [Bool.and_eq_true, List.any_eq_true, Intent.mentions_iff] at h
  exact h.2.1.1

/-- What an expert with an accepted profile offers on a valid request suits it. -/
theorem Profile.Accepted.suits {g g' : Guardian} {r : RoutingRequest} {o : ExpertOffer}
    (hp : g.profile.Accepted) (hr : (Message.routing r).isValid = true)
    (h : g.offerFor r = (g', some o)) : o.Suits r := by
  obtain ⟨haccepts, -, heq⟩ := Guardian.offerFor_some h
  obtain ⟨⟨hid, -, -⟩, -, -, -, hcap⟩ := (Message.isValid_routing r).mp hr
  have hvalid : (Message.offer o).isValid = true := by
    rw [heq]
    exact hp.isValid_offer hid
  obtain ⟨-, hcost, -⟩ := (Message.isValid_offer o).mp hvalid
  refine ⟨hvalid, within_of_offerFor h hcost hcap, ?_⟩
  rw [heq]
  exact Guardian.capable_of_accepts haccepts

namespace GuardianNode

variable {n n' : GuardianNode} {e : Event} {works : List Work} {layer : Layer}

theorem profile_of_mem_log {p : Profile} {env : Envelope} {es : List Event} {t : Entry}
    (ht : t ∈ (fresh p env).log es) : t.before.guardian.profile = p := by
  obtain ⟨front, back, hsplit⟩ := List.append_of_mem ht
  exact (Machine.history_before (I := fun _ n => n.guardian.profile = p)
    (fun _ n e hn => (n.step_moves e).profile.trans hn) rfl hsplit).1

theorem step_of_offerFor {d : Datagram} {r : RoutingRequest} {g : Guardian} {o : ExpertOffer}
    (reads : d.message? = some (layer, .routing r)) (offers : n.guardian.offerFor r = (g, some o))
    (hvalid : (Message.offer o).isValid = true) (hfits : layer.Fits (.offer o)) :
    ∃ d', (n.step (.datagram d)).2 = [.send layer d'] ∧ d'.message? = some (layer, .offer o) := by
  obtain ⟨suited, -, rfl⟩ := Guardian.offerFor_some offers
  obtain ⟨d', hsent, hread⟩ := Datagram.ofMessage?_of_fits hvalid hfits
  exact ⟨d', congrArg Prod.snd (step_offers reads suited hsent), hread⟩

/-- Every assignment belongs to a session with a name. -/
theorem Move.named (h : Move n e works n') {a : Assignment} (ha : .generate layer a ∈ works) :
    a.sessionId ≠ "" := by
  cases h with
  | passes | declines | cannotOffer => cases ha
  | offers => cases List.mem_singleton.mp ha
  | answers sends =>
    obtain ⟨p, d, -, -, heq⟩ := sends _ ha
    cases heq
  | meets reads move =>
    cases move with
    | ignores | refuses | lacksRoom | parks => cases ha
    | starts =>
      cases List.mem_singleton.mp ha
      exact SessionInit.named_of_ofBytes reads
  | hears reads move =>
    cases move with
    | overhears | sleepsOn => cases ha
    | wakes =>
      cases List.mem_singleton.mp ha
      exact ((Message.isValid_debate _).mp (Datagram.isValid_of_message? reads)).1

theorem answerConfidence_isNumber : answerConfidence.isNaN = false := by decide +kernel

/-- The reply to such an assignment can be sent, whatever the model wrote. -/
theorem isValid_reply {a : Assignment} (ha : a.sessionId ≠ "") (content : String) :
    (Message.debate (reply a content)).isValid = true :=
  Assignment.isValid_respond ha answerConfidence_isNumber

end GuardianNode

namespace Settings

variable {file : Option Bytes} {env : Environment} {name : String} {c : CheckedSettings}

theorem check_of_load (h : load file env name = .ok c) : ∃ s : Settings, s.check = .ok c := by
  unfold load at h
  split at h
  · cases h
  split at h
  · cases h
  rename_i hcheck
  cases h
  exact ⟨_, hcheck⟩

theorem opens_of_check {s : Settings} (h : s.check = .ok c) :
    ∃ text key, c.networkKey = some text ∧
      Hex.decode (Utf8.encode (Text.trim text)) = .ok key ∧
      Envelope.ofKey key = .ok c.envelope := by
  obtain ⟨-, hopens, hchecked⟩ := check_ok h
  rw [checkRole_networkKey hchecked]
  exact openKey_ok hopens

/-- Settings that are loaded open an envelope with their key. Those of a guardian give it a profile
with which, in every run of its node, offers suit the requests that they answer and are sent if the
layer can carry them, and replies to assignments are valid and, on the mesh, are sent. -/
theorem accepted_settings_serve (h : load file env name = .ok c) :
    (∃ text key, c.networkKey = some text ∧
      Hex.decode (Utf8.encode (Text.trim text)) = .ok key ∧
      Envelope.ofKey key = .ok c.envelope) ∧
    (c.role = .guardian → ∃ p, c.guardian = some p ∧
      ∀ e es, ∀ t ∈ (GuardianNode.fresh p e).log es,
        (∀ d layer r g o, t.event = .datagram d → d.message? = some (layer, .routing r) →
          t.before.guardian.offerFor r = (g, some o) → o.Suits r ∧
          ((layer = .backbone → (Frame.payload (.offer o)).length ≤ 65536) →
            ∃ d', t.outcome = [.send layer d'] ∧ d'.message? = some (layer, .offer o))) ∧
        ∀ layer a, .generate layer a ∈ t.outcome → ∀ content,
          (Message.debate (GuardianNode.reply a content)).isValid = true ∧
          ∀ n : GuardianNode, ∃ d,
            (n.step (.generated .mesh a (some (GuardianNode.reply a content)))).2 =
              [.send .mesh d] ∧
            d.message? = some (.mesh, .debate (GuardianNode.reply a content))) := by
  obtain ⟨s, hcheck⟩ := check_of_load h
  refine ⟨opens_of_check hcheck, fun hrole => ?_⟩
  obtain ⟨p, hguardian, haccepted⟩ := Profile.accepted_of_check hcheck hrole
  refine ⟨p, hguardian, fun e es t ht => ⟨?_, ?_⟩⟩
  · intro d layer r g o hevent hread hoffers
    rw [← GuardianNode.profile_of_mem_log ht] at haccepted
    have hsuits := haccepted.suits (Datagram.isValid_of_message? hread) hoffers
    refine ⟨hsuits, fun hfits => ?_⟩
    rw [Machine.turn_of_mem_turns ht, hevent]
    exact GuardianNode.step_of_offerFor hread hoffers hsuits.valid hfits
  · intro layer a hgiven content
    rw [Machine.turn_of_mem_turns ht] at hgiven
    have hnamed := (t.before.step_moves t.event).named hgiven
    refine ⟨GuardianNode.isValid_reply hnamed content, fun n => ?_⟩
    have hfits : Layer.Fits .mesh (.debate (GuardianNode.reply a content)) :=
      fun hmesh => by cases hmesh
    obtain ⟨d, hsent, hread⟩ :=
      Assignment.sent_of_fits hnamed GuardianNode.answerConfidence_isNumber hfits n
    exact ⟨d, congrArg Prod.snd hsent, hread⟩

/-- The settings of the coder; there are blanks around the key. -/
def coderFile : Bytes := Utf8.encode
  "role = \"guardian\"
    network_key = \" 00000000000000000000000000000000 \"
    cortex_url = \"http://localhost\"
    [guardian]
    expert_type = \"\"
    capabilities = [\"code\"]
    est_latency_ms = 10"

theorem load_coderFile : ∃ c, load (some coderFile) (fun _ => none) "!p" = .ok c ∧
    c.role = .guardian ∧ c.guardian = some (Guardian.coder [] 0).profile := by
  have hloads : ((load (some coderFile) (fun _ => none) "!p").toOption.map
      fun c => (c.role, c.guardian)) = some (.guardian, some (Guardian.coder [] 0).profile) := by
    decide +kernel
  obtain ⟨c, hload, hparts⟩ := Option.map_eq_some_iff.mp hloads
  exact ⟨c, toOption_eq_some_iff.mp hload, congrArg Prod.fst hparts, congrArg Prod.snd hparts⟩

theorem accepted_settings_serve_coder : ∃ c,
    load (some coderFile) (fun _ => none) "!p" = .ok c ∧ c.role = .guardian ∧
    (∃ key, Envelope.ofKey key = .ok c.envelope) ∧
    (∃ t ∈ (GuardianNode.coder [] 0 []).log (GuardianNode.codeSession .mesh), ∃ o d,
      t.outcome = [.send .mesh d] ∧ d.message? = some (.mesh, .offer o) ∧
      o.Suits (Guardian.codeRequest "r")) ∧
    ∀ content,
      (Message.debate (GuardianNode.reply Guardian.codeAssignment content)).isValid = true := by
  obtain ⟨c, hload, hrole, hguardian⟩ := load_coderFile
  obtain ⟨⟨-, key, -, -, hkey⟩, hserves⟩ := accepted_settings_serve hload
  obtain ⟨p, hp, hruns⟩ := hserves hrole
  obtain rfl := Option.some.inj (hp.symm.trans hguardian)
  obtain ⟨d, hlog, -⟩ := GuardianNode.coder_codeSession Nat.two_pos [] .mesh
  have hturns := hruns .zero (GuardianNode.codeSession .mesh)
  rw [GuardianNode.fresh_coder, hlog] at hturns
  refine ⟨c, hload, hrole, ⟨key, hkey⟩, ?_, fun content => ?_⟩
  · have hoffers : (Guardian.coder [] 0).offerFor (Guardian.codeRequest "r") = _ :=
      if_pos (Guardian.coder_accepts Nat.two_pos)
    obtain ⟨hsuits, hsent⟩ := (hturns _ List.mem_cons_self).1 _ _ _ _ _ rfl
      (GuardianNode.codeRequest_message .mesh) hoffers
    obtain ⟨d', houtcome, hread⟩ := hsent fun hmesh => by cases hmesh
    refine ⟨_, ?_, _, d', houtcome, hread, hsuits⟩
    rw [hlog]
    exact List.mem_cons_self
  · have hstarts := hturns _ (List.mem_cons_of_mem _ List.mem_cons_self)
    exact (hstarts.2 _ _ List.mem_cons_self content).1

end Settings

end DebateMesh
