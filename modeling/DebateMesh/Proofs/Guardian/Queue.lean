import DebateMesh.Proofs.Guardian
import DebateMesh.Proofs.Run
import Mathlib.Data.List.DropRight

namespace DebateMesh

variable {α : Type} {p q : α → Bool} {xs ys : List α} {x y : α} {n : Nat}

theorem enqueue_eq (xs : List α) (x : α) :
    enqueue xs x = xs ++ [x] ∨ xs.length = maxQueued ∧ enqueue xs x = xs.tail ++ [x] := by
  unfold enqueue
  split
  · rename_i hfull
    exact Or.inr ⟨hfull, rfl⟩
  · exact Or.inl rfl

theorem length_enqueue_le (xs : List α) (x : α) : (enqueue xs x).length ≤ xs.length + 1 := by
  rcases enqueue_eq xs x with h | ⟨-, h⟩
  · rw [h, List.length_append, List.length_singleton]
  · rw [h, List.length_append, List.length_tail, List.length_singleton]
    omega

theorem length_enqueue_le_max (h : xs.length ≤ maxQueued) (x : α) :
    (enqueue xs x).length ≤ maxQueued := by
  unfold enqueue
  split
  · rename_i hfull
    rw [List.length_append, List.length_tail, hfull, List.length_singleton]
    decide
  · rename_i hroom
    rw [List.length_append, List.length_singleton]
    omega

theorem enqueue_sublist (xs : List α) (x : α) : (enqueue xs x).Sublist (xs ++ [x]) := by
  rcases enqueue_eq xs x with h | ⟨-, h⟩
  · rw [h]
  · rw [h]
    exact xs.tail_sublist.append (List.Sublist.refl _)

theorem countP_enqueue_le (p : α → Bool) (xs : List α) (x : α) :
    (enqueue xs x).countP p ≤ xs.countP p + [x].countP p := by
  rcases enqueue_eq xs x with h | ⟨-, h⟩
  · rw [h, List.countP_append]
  · rw [h, List.countP_append]
    exact Nat.add_le_add_right xs.tail_sublist.countP_le _

/-- Entries are added one by one, and the last of them are left. -/
theorem enqueue_rtake (xs : List α) (x : α) :
    enqueue (xs.rtake maxQueued) x = (xs ++ [x]).rtake maxQueued := by
  have hpos : 0 < maxQueued := by decide
  have hdrop : xs.length + 1 - maxQueued ≤ xs.length := by omega
  unfold enqueue List.rtake
  rw [List.length_drop, List.length_append, List.length_singleton,
    List.drop_append_of_le_length hdrop]
  congr 1
  split
  · rename_i hfull
    rw [List.tail_drop]
    congr 1
    omega
  · rename_i hroom
    congr 1
    omega

theorem extract_perm (h : extract p xs = some (x, ys)) : xs.Perm (x :: ys) := by
  obtain ⟨front, back, rfl, rfl, -⟩ := extract_eq_some h
  exact List.perm_middle

theorem extract_sublist (h : extract p xs = some (x, ys)) : ys.Sublist xs := by
  obtain ⟨front, back, rfl, rfl, -⟩ := extract_eq_some h
  exact (List.Sublist.refl front).append (List.sublist_cons_self x back)

theorem extract_length (h : extract p xs = some (x, ys)) : xs.length = ys.length + 1 :=
  (extract_perm h).length_eq

/-- An entry waits with at most `n` others behind it. -/
def Queued (xs : List α) (x : α) (n : Nat) : Prop :=
  ∃ front back, xs = front ++ x :: back ∧ back.length ≤ n

theorem Queued.mem (h : Queued xs x n) : x ∈ xs := by
  obtain ⟨front, back, rfl, -⟩ := h
  exact List.mem_append_right _ List.mem_cons_self

theorem Queued.mono {m : Nat} (h : Queued xs x n) (hnm : n ≤ m) : Queued xs x m := by
  obtain ⟨front, back, hxs, hback⟩ := h
  exact ⟨front, back, hxs, hback.trans hnm⟩

theorem queued_enqueue_self (xs : List α) (x : α) : Queued (enqueue xs x) x 0 :=
  ⟨_, [], rfl, Nat.le_refl 0⟩

/-- Only an entry with a full queue behind it is forgotten. -/
theorem Queued.enqueue (h : Queued xs x n) (hn : n + 1 < maxQueued) (y : α) :
    Queued (enqueue xs y) x (n + 1) := by
  obtain ⟨front, back, rfl, hback⟩ := h
  have hbehind : (back ++ [y]).length ≤ n + 1 := by
    rw [List.length_append, List.length_singleton]
    exact Nat.add_le_add_right hback 1
  rcases enqueue_eq (front ++ x :: back) y with h | ⟨hfull, h⟩
  · exact ⟨front, back ++ [y], by rw [h, List.append_assoc, List.cons_append], hbehind⟩
  · cases front with
    | nil =>
      rw [List.nil_append, List.length_cons] at hfull
      omega
    | cons z front =>
      exact ⟨front, back ++ [y], by rw [h]; simp, hbehind⟩

theorem Queued.extract (h : Queued xs x n) (he : extract p xs = some (y, ys)) (hne : y ≠ x) :
    Queued ys x n := by
  obtain ⟨front, back, rfl, hback⟩ := h
  obtain ⟨front', back', hsplit, rfl, -⟩ := extract_eq_some he
  rcases List.append_eq_append_iff.mp hsplit with ⟨zs, rfl, hzs⟩ | ⟨zs, rfl, hzs⟩
  · cases zs with
    | nil => exact absurd (List.cons.inj hzs).1.symm hne
    | cons z zs =>
      rw [List.cons_append, List.cons.injEq] at hzs
      obtain ⟨rfl, rfl⟩ := hzs
      rw [List.length_append, List.length_cons] at hback
      refine ⟨front, zs ++ back', by simp, ?_⟩
      rw [List.length_append]
      omega
  · cases zs with
    | nil => exact absurd (List.cons.inj hzs).1 hne
    | cons z zs =>
      rw [List.cons_append, List.cons.injEq] at hzs
      obtain ⟨rfl, rfl⟩ := hzs
      exact ⟨front' ++ zs, back, by simp, hback⟩

/-- An entry that no turn takes out is still there after a run, unless the run adds as many others
as the queue holds. -/
theorem Queued.final {σ ε ω β : Type} {step : σ → ε → σ × ω} {queue : σ → List α}
    {taken : Machine.Turn σ ε ω → Prop} {added : Machine.Turn σ ε ω → Option β}
    (keep : ∀ s e n, Queued (queue s) x n → ¬ taken (Machine.turn step s e) →
      n + (added (Machine.turn step s e)).toList.length < maxQueued →
      Queued (queue (step s e).1) x (n + (added (Machine.turn step s e)).toList.length))
    {s : σ} (h : Queued (queue s) x 0) (es : List ε)
    (hkept : ∀ t ∈ Machine.turns step s es, ¬ taken t)
    (hfew : ((Machine.turns step s es).filterMap added).length < maxQueued) :
    x ∈ queue (Machine.final step s es) := by
  let I (ts : List (Machine.Turn σ ε ω)) (s : σ) : Prop := (∀ t ∈ ts, ¬ taken t) →
    (ts.filterMap added).length < maxQueued → Queued (queue s) x (ts.filterMap added).length
  have hstep : ∀ ts s e, I ts s → I (ts ++ [Machine.turn step s e]) (step s e).1 := by
    intro ts s e hbefore hkept hfew
    rw [Machine.filterMap_concat, List.length_append] at hfew ⊢
    rw [List.forall_mem_append, List.forall_mem_singleton] at hkept
    exact keep s e _ (hbefore hkept.1 (by omega)) hkept.2 hfew
  exact (Machine.history hstep (fun _ _ => h) es hkept hfew).mem

end DebateMesh
