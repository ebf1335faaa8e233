import DebateMesh.Guardian

namespace DebateMesh

/-- The entry taken out is the first that satisfies the test; the others stay in their order. -/
theorem extract_eq_some {α : Type} {p : α → Bool} {xs ys : List α} {x : α}
    (h : extract p xs = some (x, ys)) :
    ∃ front back, xs = front ++ x :: back ∧ ys = front ++ back ∧ p x = true ∧
      ∀ y ∈ front, p y = false := by
  induction xs generalizing ys with
  | nil => cases h
  | cons z xs ih =>
    rw [extract] at h
    split at h
    · rename_i hz
      cases h
      exact ⟨[], xs, rfl, rfl, hz, fun y hy => by cases hy⟩
    · rename_i hz
      obtain ⟨⟨w, zs⟩, hw, heq⟩ := Option.map_eq_some_iff.mp h
      cases heq
      obtain ⟨front, back, hxs, hzs, hx, hfront⟩ := ih hw
      refine ⟨z :: front, back, by rw [hxs]; rfl, by rw [hzs]; rfl, hx, ?_⟩
      rw [List.forall_mem_cons]
      exact ⟨Bool.eq_false_iff.mpr hz, hfront⟩

theorem extract_of_first {α : Type} {p : α → Bool} {front back : List α} {x : α}
    (hfront : ∀ y ∈ front, p y = false) (hx : p x = true) :
    extract p (front ++ x :: back) = some (x, front ++ back) := by
  induction front with
  | nil => exact if_pos hx
  | cons y front ih =>
    rw [List.forall_mem_cons] at hfront
    rw [List.cons_append, extract, if_neg (by rw [hfront.1]; decide), ih hfront.2]
    rfl

theorem extract_eq_none_iff {α : Type} {p : α → Bool} {xs : List α} :
    extract p xs = none ↔ ∀ x ∈ xs, p x = false := by
  induction xs with
  | nil => exact ⟨fun _ => List.forall_mem_nil _, fun _ => rfl⟩
  | cons z xs ih =>
    rw [extract, List.forall_mem_cons]
    split
    · rename_i hz
      rw [hz]
      constructor
      · intro h
        cases h
      · rintro ⟨h, -⟩
        cases h
    · rename_i hz
      rw [Option.map_eq_none_iff, ih]
      exact ⟨fun h => ⟨Bool.eq_false_iff.mpr hz, h⟩, fun h => h.2⟩

theorem extract_mem {α : Type} {p : α → Bool} {xs ys : List α} {x : α}
    (h : extract p xs = some (x, ys)) : x ∈ xs ∧ p x = true ∧ ∀ y ∈ ys, y ∈ xs := by
  obtain ⟨front, back, rfl, rfl, hx, -⟩ := extract_eq_some h
  refine ⟨List.mem_append_right _ List.mem_cons_self, hx, fun y hy => ?_⟩
  rcases List.mem_append.mp hy with hy | hy
  · exact List.mem_append_left _ hy
  · exact List.mem_append_right _ (List.mem_cons_of_mem _ hy)

/-- When the entries that satisfy the test are all the same, that one is taken out. -/
theorem extract_of_unique {α : Type} {p : α → Bool} {xs : List α} {x : α} (hx : x ∈ xs)
    (hp : p x = true) (hu : ∀ y ∈ xs, p y = true → y = x) :
    ∃ ys, extract p xs = some (x, ys) := by
  cases h : extract p xs with
  | none =>
    rw [extract_eq_none_iff.mp h x hx] at hp
    cases hp
  | some r =>
    obtain ⟨y, ys⟩ := r
    obtain ⟨hy, hpy, -⟩ := extract_mem h
    exact ⟨ys, by rw [hu y hy hpy]⟩

theorem mem_enqueue {α : Type} {xs : List α} {x y : α} (h : y ∈ enqueue xs x) : y ∈ xs ∨ y = x := by
  unfold enqueue at h
  rcases List.mem_append.mp h with h | h
  · left
    split at h
    · exact List.mem_of_mem_tail h
    · exact h
  · exact Or.inr (List.mem_singleton.mp h)

theorem mem_enqueue_self {α : Type} (xs : List α) (x : α) : x ∈ enqueue xs x :=
  List.mem_append_right _ (List.mem_singleton.mpr rfl)

namespace PayloadHash

theorem verify_ofPrompt (prompt : String) : verify prompt (ofPrompt prompt) = true := by
  simp [verify, sameIgnoringCase]

end PayloadHash

namespace Guardian

theorem acquire_of_free {g : Guardian} (h : g.isSaturated = false) :
    g.acquire = some { g with inFlight := g.inFlight + 1 } := by
  rw [acquire, h]
  rfl

theorem offerFor_some {g g' : Guardian} {r : RoutingRequest} {o : ExpertOffer}
    (h : g.offerFor r = (g', some o)) :
    g.accepts r = true ∧ g' = { g with pending := enqueue g.pending r } ∧
      o = offer g.profile r := by
  unfold offerFor at h
  split at h
  · rename_i ha
    cases h
    exact ⟨ha, rfl, rfl⟩
  · cases h

theorem offerFor_none {g g' : Guardian} {r : RoutingRequest} (h : g.offerFor r = (g', none)) :
    g' = g := by
  unfold offerFor at h
  split at h <;> cases h
  rfl

/-- What an invitation does: nothing at a node it does not name; at one that it names it takes out
the first pending request that the header shows, and the node joins with the prompt. -/
theorem onInit_ok {g g' : Guardian} {i : SessionInit} {e : Envelope} {a : Option Assignment}
    (h : g.onInit i e = .ok (g', a)) :
    (i.roleOf g.nodeId = none ∧ g' = g ∧ a = none) ∨
    ∃ role r pending prompt, i.roleOf g.nodeId = some role ∧
      extract (·.showsAs i.requestId) g.pending = some (r, pending) ∧
      e.decryptText i.encryptedPrompt (Utf8.encode i.requestId) = some prompt ∧
      PayloadHash.verify prompt r.payloadHash = true ∧
      { g with pending }.join i.sessionId prompt role = (g', a) := by
  unfold onInit at h
  split at h
  · rename_i hrole
    cases h
    exact Or.inl ⟨hrole, rfl, rfl⟩
  rename_i role hrole
  split at h
  · cases h
  rename_i r pending hex
  split at h
  · cases h
  rename_i prompt hdec
  split at h
  · rename_i hv
    exact Or.inr ⟨role, r, pending, prompt, hrole, hex, hdec, hv, Except.ok.inj h⟩
  · cases h

theorem onInit_eq {g : Guardian} {i : SessionInit} {e : Envelope} {role : Role}
    {r : RoutingRequest} {pending : List RoutingRequest} {prompt : String}
    (hrole : i.roleOf g.nodeId = some role)
    (hex : extract (·.showsAs i.requestId) g.pending = some (r, pending))
    (hdec : e.decryptText i.encryptedPrompt (Utf8.encode i.requestId) = some prompt)
    (hv : PayloadHash.verify prompt r.payloadHash = true) :
    g.onInit i e = .ok ({ g with pending }.join i.sessionId prompt role) := by
  unfold onInit
  rw [hrole]
  dsimp only
  rw [hex]
  dsimp only
  rw [hdec]
  dsimp only
  rw [if_pos hv]

theorem onPacket_eq {g : Guardian} {p : DebatePacket} {q : Parked} {parked : List Parked}
    (hround : p.round = 1) (hrole : p.role = .proposer)
    (hex : extract (fun q => q.sessionId == p.sessionId) g.parked = some (q, parked))
    (hfree : g.isSaturated = false) :
    g.onPacket p = ({ g with parked, inFlight := g.inFlight + 1 },
      some ⟨p.sessionId, 2, .critic, q.prompt, some p.content⟩) := by
  have hacquire := acquire_of_free (g := { g with parked }) hfree
  unfold onPacket
  rw [if_pos ⟨hround, hrole⟩, hex]
  dsimp only
  rw [hacquire]

end Guardian

end DebateMesh
