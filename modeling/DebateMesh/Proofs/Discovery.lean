import DebateMesh.Discovery

namespace DebateMesh

section Ranking

variable {α : Type} {leads : α → α → Bool} {R : α → α → Prop} {p : α → Bool} {x : α} {xs ys : List α}

/-- An entry comes before those that it leads; those that lead it too stand behind it in the order
`R`. -/
def Precedes (leads : α → α → Bool) (R : α → α → Prop) (x y : α) : Prop :=
  leads x y = true ∧ (leads y x = true → R x y)

section Order

variable (htrans : ∀ x y z, leads x y = true → leads y z = true → leads x z = true)
  (htotal : ∀ x y, leads x y = true ∨ leads y x = true)

include htrans htotal

theorem pairwise_rankInto (hx : ∀ y ∈ ys, R x y) (hys : ys.Pairwise (Precedes leads R)) :
    (rankInto leads x ys).Pairwise (Precedes leads R) := by
  induction ys with
  | nil => simp [rankInto]
  | cons y ys ih =>
    rw [List.forall_mem_cons] at hx
    obtain ⟨hy, hrest⟩ := List.pairwise_cons.mp hys
    unfold rankInto
    by_cases hlead : leads x y = true
    · rw [if_pos hlead, List.pairwise_cons, List.forall_mem_cons]
      refine ⟨⟨⟨hlead, fun _ => hx.1⟩, fun z hz => ?_⟩, hys⟩
      exact ⟨htrans x y z hlead (hy z hz).1, fun _ => hx.2 z hz⟩
    · rw [if_neg hlead, List.pairwise_cons]
      refine ⟨fun z hz => ?_, ih hx.2 hrest⟩
      rcases List.mem_cons.mp ((perm_rankInto leads x ys).mem_iff.mp hz) with rfl | hz
      · exact ⟨(htotal z y).resolve_left hlead, fun h => absurd h hlead⟩
      · exact hy z hz

/-- A ranking keeps the order of those that lead each other. -/
theorem pairwise_rankBy (hxs : xs.Pairwise R) : (rankBy leads xs).Pairwise (Precedes leads R) := by
  induction xs with
  | nil => simp [rankBy]
  | cons x xs ih =>
    obtain ⟨hx, hrest⟩ := List.pairwise_cons.mp hxs
    refine pairwise_rankInto htrans htotal (fun y hy => ?_) (ih hrest)
    exact hx y ((perm_rankBy leads xs).mem_iff.mp hy)

end Order

/-- The first entry that satisfies a test precedes the others that do. -/
theorem related_of_find? (h : xs.Pairwise R) (hx : xs.find? p = some x) {y : α} (hy : y ∈ xs)
    (hp : p y = true) : y = x ∨ R x y := by
  obtain ⟨-, front, back, rfl, hfront⟩ := List.find?_eq_some_iff_append.mp hx
  rw [List.mem_append, List.mem_cons] at hy
  rcases hy with hy | rfl | hy
  · have hnot := hfront y hy
    simp [hp] at hnot
  · exact .inl rfl
  · rw [List.pairwise_append, List.pairwise_cons] at h
    exact .inr (h.2.1.1 y hy)

end Ranking

namespace Discovery

variable {d : Discovery} {reputation : Option Reputation} {request : RoutingRequest}
  {r r' : Ranked} {o : ExpertOffer}

/-- What an offer scores in the search. -/
def scoreOf (d : Discovery) (reputation : Option Reputation) (o : ExpertOffer) : Binary64 :=
  score d.settings o (reputationOf reputation o.guardianId)

theorem mem_ranked_iff : r ∈ d.ranked reputation ↔
    d.offers[r.place]? = some r.offer ∧ r.score = d.scoreOf reputation r.offer := by
  have hscored : r ∈ d.ranked reputation ↔ r ∈ d.scored reputation := (perm_rankBy _ _).mem_iff
  rw [hscored, scored, List.mem_map]
  unfold scoreOf
  constructor
  · rintro ⟨⟨o, i⟩, hmem, rfl⟩
    dsimp only
    exact ⟨List.mk_mem_zipIdx_iff_getElem?.mp hmem, rfl⟩
  · rintro ⟨hplace, hscore⟩
    refine ⟨(r.offer, r.place), List.mk_mem_zipIdx_iff_getElem?.mpr hplace, ?_⟩
    dsimp only
    rw [← hscore]

theorem mem_of_ranked (h : r ∈ d.ranked reputation) : r.offer ∈ d.offers :=
  List.mem_of_getElem? (mem_ranked_iff.mp h).1

theorem exists_ranked (reputation : Option Reputation) (h : o ∈ d.offers) :
    ∃ r ∈ d.ranked reputation, r.offer = o := by
  obtain ⟨i, hi⟩ := List.mem_iff_getElem?.mp h
  refine ⟨⟨i, o, d.scoreOf reputation o⟩, mem_ranked_iff.mpr ⟨hi, ?_⟩, rfl⟩
  dsimp only

/-- A higher score, or the same one and an earlier place. -/
def Outranks (r r' : Ranked) : Prop :=
  r'.score.totalRank ≤ r.score.totalRank ∧
    (r.score.totalRank ≤ r'.score.totalRank → r.place < r'.place)

theorem scored_places (d : Discovery) (reputation : Option Reputation) :
    (d.scored reputation).Pairwise fun r r' => r.place < r'.place := by
  have hplaces : (d.scored reputation).map Ranked.place = List.range' 0 d.offers.length := by
    rw [scored, List.map_map, ← List.zipIdx_map_snd 0 d.offers]
    rfl
  rw [← List.pairwise_map, hplaces]
  exact List.pairwise_lt_range'

theorem ranked_pairwise (d : Discovery) (reputation : Option Reputation) :
    (d.ranked reputation).Pairwise Outranks := by
  have hranked := @pairwise_rankBy _ (fun a b : Ranked => decide (b.score.totalRank ≤
    a.score.totalRank)) _ _ (by simp; omega) (by simp; omega) (d.scored_places reputation)
  apply hranked.imp
  intro r r' h
  simpa [Precedes, Outranks] using h

theorem mem_of_select (d : Discovery) (request : RoutingRequest) (reputation : Option Reputation) :
    (∀ o, (d.select request reputation).proposer = some o → o ∈ d.offers) ∧
      ∀ o, (d.select request reputation).critic = some o → o ∈ d.offers := by
  constructor
  · intro o h
    obtain ⟨r, hr, rfl⟩ := Option.map_eq_some_iff.mp h
    exact mem_of_ranked (List.mem_of_find?_eq_some hr)
  · intro o h
    obtain ⟨r, hr, rfl⟩ := Option.map_eq_some_iff.mp h
    exact mem_of_ranked (List.mem_of_find?_eq_some hr)

/-- The search finds experts: there are enough offers, and one of them is on the primary intent. -/
def Finds (d : Discovery) (i : Intent) : Prop :=
  d.settings.minOffers.toNat ≤ d.offers.length ∧ ∃ o ∈ d.offers, o.hasCapability i.primary = true

theorem select_proposer_isSome (d : Discovery) (request : RoutingRequest)
    (reputation : Option Reputation) : (d.select request reputation).proposer.isSome = true ↔
      ∃ o ∈ d.offers, o.hasCapability request.intent.primary = true := by
  have hpick : (d.select request reputation).proposer.isSome =
      ((d.ranked reputation).find? fun r => r.offer.hasCapability request.intent.primary).isSome :=
    Option.isSome_map
  rw [hpick, List.find?_isSome]
  constructor
  · rintro ⟨r, hr, hskill⟩
    exact ⟨r.offer, mem_of_ranked hr, hskill⟩
  · rintro ⟨o, ho, hskill⟩
    obtain ⟨r, hr, rfl⟩ := exists_ranked reputation ho
    exact ⟨r, hr, hskill⟩

theorem finds_iff (d : Discovery) (request : RoutingRequest) (reputation : Option Reputation) :
    d.Finds request.intent ↔ d.isSufficient = true ∧
      (d.select request reputation).proposer.isSome = true := by
  rw [Finds, select_proposer_isSome, isSufficient, decide_eq_true_eq]

end Discovery

end DebateMesh
