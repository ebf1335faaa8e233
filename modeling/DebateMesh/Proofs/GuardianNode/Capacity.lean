import DebateMesh.Proofs.Guardian.Queue
import DebateMesh.Proofs.GuardianNode.Run
import Mathlib.Data.List.Perm.Subperm

namespace DebateMesh

namespace Guardian

variable {g g' : Guardian} {c : Call} {answer : Answer}

theorem accepts_of_saturated (h : g.isSaturated = true) (r : RoutingRequest) :
    g.accepts r = false := by
  rw [accepts, h]
  simp

/-- Every assignment takes a slot. -/
theorem Move.inFlight (h : Move g c answer g') (hc : c ≠ .release) :
    g'.inFlight = g.inFlight + answer.assignment?.toList.length := by
  cases h with
  | declines | offers | ignores | refuses | starts | lacksRoom | parks | overhears | wakes
  | sleepsOn => rfl
  | releases => exact absurd rfl hc

theorem Move.of_saturated (h : Move g c answer g') (hs : g.isSaturated = true) :
    answer.assignment? = none := by
  cases h with
  | declines | offers | ignores | refuses | lacksRoom | parks | overhears | sleepsOn | releases =>
    rfl
  | starts _ free | wakes _ _ _ free =>
    rw [hs] at free
    cases free

/-- The slots suffice, and the queues are no longer than they may be. -/
structure WithinBounds (g : Guardian) : Prop where
  inFlight : g.inFlight ≤ g.profile.maxConcurrent.toNat
  pending : g.pending.length ≤ maxQueued
  parked : g.parked.length ≤ maxQueued

theorem WithinBounds.move (hg : g.WithinBounds) (h : Move g c answer g') : g'.WithinBounds := by
  obtain ⟨hslots, hpending, hparked⟩ := hg
  cases h with
  | declines | ignores | refuses | overhears => exact ⟨hslots, hpending, hparked⟩
  | releases => exact ⟨Nat.le_trans (Nat.sub_le _ _) hslots, hpending, hparked⟩
  | offers => exact ⟨hslots, length_enqueue_le_max hpending _, hparked⟩
  | starts admitted free =>
    have hlength := extract_length admitted.request
    exact ⟨not_isSaturated_iff.mp free, by dsimp only; omega, hparked⟩
  | lacksRoom admitted =>
    have hlength := extract_length admitted.request
    exact ⟨hslots, by dsimp only; omega, hparked⟩
  | parks admitted =>
    have hlength := extract_length admitted.request
    exact ⟨hslots, by dsimp only; omega, length_enqueue_le_max hparked _⟩
  | wakes _ _ awaited free =>
    have hlength := extract_length awaited
    exact ⟨not_isSaturated_iff.mp free, hpending, by dsimp only; omega⟩
  | sleepsOn _ _ awaited =>
    have hlength := extract_length awaited
    exact ⟨hslots, hpending, by dsimp only; omega⟩

end Guardian

namespace GuardianNode

variable {n n' : GuardianNode} {e : Event} {works : List Work} {ts : List Entry} {p : Profile}

/-- An assignment for the model, with the layer of its answer. -/
def assignment? : Work → Option (Layer × Assignment)
  | .send _ _ => none
  | .generate layer a => some (layer, a)

def given (t : Entry) : List (Layer × Assignment) := t.outcome.filterMap assignment?

def done? (t : Entry) : Option (Layer × Assignment) :=
  match t.event with
  | .datagram _ => none
  | .generated layer a _ => some (layer, a)

/-- The model is done only with what it was given, and with each assignment once. -/
def Answered (ts : List Entry) : Prop :=
  ∀ front, front <+: ts → (front.filterMap done?).Subperm (front.flatMap given)

theorem answered_nil : Answered [] := by
  intro front hfront
  rw [List.prefix_nil.mp hfront]
  exact List.nil_subperm

theorem answered_concat {t : Entry} : Answered (ts ++ [t]) ↔
    Answered ts ∧ ((ts ++ [t]).filterMap done?).Subperm ((ts ++ [t]).flatMap given) := by
  constructor
  · intro h
    exact ⟨fun front hfront => h front (hfront.trans (List.prefix_append _ _)), h _ List.prefix_rfl⟩
  · rintro ⟨hts, hall⟩ front hfront
    rcases List.prefix_concat_iff.mp hfront with rfl | hfront
    · exact hall
    · exact hts front hfront

theorem Move.profile (h : Move n e works n') : n'.guardian.profile = n.guardian.profile := by
  cases h with
  | passes | declines | offers | cannotOffer | answers => rfl
  | meets _ move | hears _ move => exact move.profile

theorem filterMap_generate (layer : Layer) (as : List Assignment) :
    (as.map (.generate layer)).filterMap assignment? = as.map (layer, ·) := by
  rw [List.filterMap_map]
  exact congrFun List.filterMap_eq_map as

theorem filterMap_sends {ws : List Work} (h : ∀ w ∈ ws, ∃ layer d, w = .send layer d) :
    ws.filterMap assignment? = [] := by
  rw [List.filterMap_eq_nil_iff]
  intro w hw
  obtain ⟨layer, d, rfl⟩ := h w hw
  rfl

/-- Slots are taken for what is given to the model and free again when it is done. -/
theorem Move.inFlight (h : Move n e works n') (hdone : (done? ⟨n, e, works, n'⟩).toList.length ≤
      n.guardian.inFlight + (given ⟨n, e, works, n'⟩).length) :
    n'.guardian.inFlight + (done? ⟨n, e, works, n'⟩).toList.length =
      n.guardian.inFlight + (given ⟨n, e, works, n'⟩).length := by
  cases h with
  | passes | declines | offers | cannotOffer => rfl
  | meets _ move | hears _ move =>
    have hslots := move.inFlight (by simp)
    rw [given, filterMap_generate, List.length_map]
    exact hslots
  | answers sends =>
    have hnothing : works.filterMap assignment? = [] := by
      refine filterMap_sends fun w hw => ?_
      obtain ⟨p, d, -, -, rfl⟩ := sends w hw
      exact ⟨_, d, rfl⟩
    rw [given, hnothing] at hdone ⊢
    exact Nat.sub_add_cancel hdone

/-- Without a free slot all that is sent are packets of the model's. -/
theorem Move.of_saturated (h : Move n e works n') (hs : n.guardian.isSaturated = true) :
    ∀ w ∈ works, ∃ layer a q d, e = .generated layer a (some q) ∧
      Datagram.ofMessage? layer (.debate q) = some d ∧ w = .send layer d := by
  cases h with
  | passes | declines | cannotOffer =>
    intro w hw
    cases hw
  | @offers _ _ _ r _ suited =>
    rw [Guardian.accepts_of_saturated hs r] at suited
    cases suited
  | meets _ move =>
    rw [move.of_saturated hs]
    intro w hw
    cases hw
  | @hears _ _ _ a _ _ move =>
    obtain rfl : a = none := move.of_saturated hs
    intro w hw
    cases hw
  | answers sends =>
    intro w hw
    obtain ⟨q, d, rfl, hd, rfl⟩ := sends w hw
    exact ⟨_, _, q, d, rfl, hd, rfl⟩

structure WithinBounds (n : GuardianNode) : Prop where
  guardian : n.guardian.WithinBounds
  offerLayers : n.offerLayers.length ≤ maxQueued

theorem WithinBounds.move (hn : n.WithinBounds) (h : Move n e works n') : n'.WithinBounds := by
  obtain ⟨hguardian, hlayers⟩ := hn
  cases h with
  | passes | declines => exact ⟨hguardian, hlayers⟩
  | offers _ suited => exact ⟨hguardian.move (.offers suited), length_enqueue_le_max hlayers _⟩
  | cannotOffer _ suited => exact ⟨hguardian.move (.offers suited), hlayers⟩
  | meets _ move | hears _ move => exact ⟨hguardian.move move, hlayers⟩
  | answers => exact ⟨hguardian.move .releases, hlayers⟩

/-- What holds of a node and of its entries so far. -/
structure Accounted (p : Profile) (ts : List Entry) (n : GuardianNode) : Prop where
  profile : n.guardian.profile = p
  slots : n.guardian.inFlight + (ts.filterMap done?).length = (ts.flatMap given).length
  bounds : n.WithinBounds

theorem accounted_fresh (p : Profile) (e : Envelope) : Accounted p [] (fresh p e) :=
  ⟨rfl, rfl, ⟨Nat.zero_le _, Nat.zero_le _, Nat.zero_le _⟩, Nat.zero_le _⟩

theorem Accounted.entry (ts : List Entry) (n : GuardianNode) (e : Event)
    (h : Answered ts → Accounted p ts n) (hall : Answered (ts ++ [Machine.turn step n e])) :
    Accounted p (ts ++ [Machine.turn step n e]) (n.step e).1 := by
  obtain ⟨hts, hdone⟩ := answered_concat.mp hall
  obtain ⟨hprofile, hslots, hbounds⟩ := h hts
  have hmove := n.step_moves e
  refine ⟨hmove.profile.trans hprofile, ?_, hbounds.move hmove⟩
  have hcount := hdone.length_le
  rw [Machine.filterMap_concat, List.flatMap_append, List.flatMap_singleton, List.length_append,
    List.length_append] at hcount ⊢
  have hturn := hmove.inFlight
  unfold Machine.turn at hcount ⊢
  omega

theorem accounted_run {e : Envelope} {es : List Event} (h : Answered ((fresh p e).log es)) :
    Accounted p ((fresh p e).log es) ((fresh p e).run es) :=
  Machine.history Accounted.entry (fun _ => accounted_fresh p e) es h

/-- As long as the model is done only with what it was given, the slots in use are the assignments
that it is not done with, and no more than the profile has. When these are all in use, the node
sends nothing but the model's packets. No queue holds more than 64 entries. -/
theorem capacity_is_accounted {e : Envelope} {es : List Event}
    (h : Answered ((fresh p e).log es)) :
    let n := (fresh p e).run es
    n.guardian.inFlight + (((fresh p e).log es).filterMap done?).length =
      (((fresh p e).log es).flatMap given).length ∧
    n.guardian.inFlight ≤ p.maxConcurrent.toNat ∧
    (n.guardian.inFlight = p.maxConcurrent.toNat → ∀ x, ∀ w ∈ (n.step x).2,
      ∃ layer a q d, x = .generated layer a (some q) ∧
        Datagram.ofMessage? layer (.debate q) = some d ∧ w = .send layer d) ∧
    n.guardian.pending.length ≤ 64 ∧ n.guardian.parked.length ≤ 64 ∧
    n.offerLayers.length ≤ 64 := by
  intro n
  obtain ⟨hprofile, hslots, ⟨hroom, hpending, hparked⟩, hlayers⟩ := accounted_run h
  rw [hprofile] at hroom
  refine ⟨hslots, hroom, fun hfull x => ?_, hpending, hparked, hlayers⟩
  refine (step_moves _ _).of_saturated (Guardian.isSaturated_iff.mpr ?_)
  rw [hprofile]
  exact hfull.ge

/-- The coder's model works on a session and fails. -/
def codeFailure : List Event := codeSession .mesh ++ [.generated .mesh Guardian.codeAssignment none]

theorem answered_codeFailure : Answered ((coder [] 0 []).log codeFailure) := by
  obtain ⟨d, hlog, -⟩ := coder_codeSession Nat.two_pos [] .mesh
  have hsplit : (coder [] 0 []).log codeFailure = [] ++ [_] ++ [_] ++ [_] :=
    (Machine.turns_append _ _ _ _).trans (congrArg (· ++ [_]) hlog)
  rw [hsplit, answered_concat, answered_concat, answered_concat]
  exact ⟨⟨⟨answered_nil, List.nil_subperm⟩, List.nil_subperm⟩, List.Subperm.refl _⟩

theorem capacity_is_accounted_coder : Answered ((coder [] 0 []).log codeFailure) ∧
    ((coder [] 0 []).run codeFailure).guardian.inFlight +
      (((coder [] 0 []).log codeFailure).filterMap done?).length =
        (((coder [] 0 []).log codeFailure).flatMap given).length := by
  have haccounted := @capacity_is_accounted (Guardian.coder [] 0).profile .zero codeFailure
  rw [fresh_coder] at haccounted
  exact ⟨answered_codeFailure, (haccounted answered_codeFailure).1⟩

end GuardianNode

end DebateMesh
