namespace DebateMesh.Machine

variable {σ ε ω : Type}

/-- One event of a run, with the state before and after it. -/
structure Turn (σ ε ω : Type) where
  before : σ
  event : ε
  outcome : ω
  after : σ

/-- The turn that an event leads to. -/
def turn (step : σ → ε → σ × ω) (s : σ) (e : ε) : Turn σ ε ω := ⟨s, e, (step s e).2, (step s e).1⟩

def turns (step : σ → ε → σ × ω) (s : σ) : List ε → List (Turn σ ε ω)
  | [] => []
  | e :: es => turn step s e :: turns step (step s e).1 es

/-- The state after the last event. -/
def final (step : σ → ε → σ × ω) (s : σ) : List ε → σ
  | [] => s
  | e :: es => final step (step s e).1 es

variable {step : σ → ε → σ × ω} {s : σ} {es : List ε} {t : Turn σ ε ω}
  {front back : List (Turn σ ε ω)}

theorem turns_append (step : σ → ε → σ × ω) (s : σ) (es fs : List ε) :
    turns step s (es ++ fs) = turns step s es ++ turns step (final step s es) fs := by
  induction es generalizing s with
  | nil => rfl
  | cons e es ih => exact congrArg (List.cons _) (ih _)

theorem final_append (step : σ → ε → σ × ω) (s : σ) (es fs : List ε) :
    final step s (es ++ fs) = final step (final step s es) fs := by
  induction es generalizing s with
  | nil => rfl
  | cons e es ih => exact ih _

/-- What every event of some kind keeps holds after a run of them. -/
theorem final_keeps {P : σ → Prop} {A : ε → Prop} (keep : ∀ s e, P s → A e → P (step s e).1)
    (start : P s) (hes : ∀ e ∈ es, A e) : P (final step s es) := by
  induction es generalizing s with
  | nil => exact start
  | cons e es ih =>
    rw [List.forall_mem_cons] at hes
    exact ih (keep s e start hes.1) hes.2

/-- What every event keeps of the state and of the events so far holds after a run. -/
theorem final_past {P : List ε → σ → Prop}
    (keep : ∀ past s e, P past s → P (past ++ [e]) (step s e).1) {past : List ε}
    (start : P past s) (es : List ε) : P (past ++ es) (final step s es) := by
  induction es generalizing past s with
  | nil => rwa [List.append_nil]
  | cons e es ih =>
    have hrest := ih (keep past s e start)
    rwa [List.append_assoc] at hrest

/-- A run can be cut anywhere: what is behind the cut is a run of its own. -/
theorem turns_cut (h : turns step s es = front ++ back) : ∃ fs gs, es = fs ++ gs ∧
    turns step s fs = front ∧ turns step (final step s fs) gs = back := by
  induction front generalizing s es with
  | nil => exact ⟨[], es, rfl, rfl, h⟩
  | cons u front ih =>
    cases es with
    | nil => cases h
    | cons e es =>
      obtain ⟨hu, hrest⟩ := List.cons.inj h
      obtain ⟨fs, gs, hes, hfs, hgs⟩ := ih hrest
      exact ⟨e :: fs, gs, congrArg (List.cons e) hes, by rw [← hu, ← hfs]; rfl, hgs⟩

/-- A turn stands where the turns before it lead, and those behind it go on from there. -/
theorem turns_split (h : turns step s es = front ++ t :: back) : ∃ fs gs, es = fs ++ t.event :: gs ∧
    turns step s fs = front ∧ t = turn step (final step s fs) t.event ∧
    turns step t.after gs = back := by
  obtain ⟨fs, gs, hes, hfs, hgs⟩ := turns_cut h
  cases gs with
  | nil => cases hgs
  | cons e gs =>
    cases hgs
    exact ⟨fs, gs, hes, hfs, rfl, rfl⟩

/-- What comes behind a turn leads from the state after it to where the run ends. -/
theorem final_of_split (h : turns step s es = front ++ t :: back) :
    ∃ gs, turns step t.after gs = back ∧ final step t.after gs = final step s es := by
  obtain ⟨fs, gs, rfl, -, ht, hgs⟩ := turns_split h
  have hafter : t.after = (step (final step s fs) t.event).1 := congrArg Turn.after ht
  exact ⟨gs, hgs, by rw [final_append, final, ← hafter]⟩

theorem final_of_last (front : List (Turn σ ε ω)) (h : turns step s es = front ++ [t]) :
    final step s es = t.after := by
  obtain ⟨gs, hgs, hend⟩ := final_of_split h
  cases gs with
  | nil => exact hend.symm
  | cons e gs => cases hgs

section History

variable {I : List (Turn σ ε ω) → σ → Prop}

theorem history_from (keep : ∀ ts s e, I ts s → I (ts ++ [turn step s e]) (step s e).1)
    {ts : List (Turn σ ε ω)} (start : I ts s) (es : List ε) :
    I (ts ++ turns step s es) (final step s es) := by
  induction es generalizing ts s with
  | nil => rwa [turns, List.append_nil]
  | cons e es ih =>
    have hrest := ih (keep ts s e start)
    rwa [List.append_assoc] at hrest

/-- What holds at the start and is kept by every turn holds after every run, of its turns and of the
state. -/
theorem history (keep : ∀ ts s e, I ts s → I (ts ++ [turn step s e]) (step s e).1)
    (start : I [] s) (es : List ε) : I (turns step s es) (final step s es) :=
  history_from keep start es

/-- It holds before every turn of a run, of the turns so far. -/
theorem history_before (keep : ∀ ts s e, I ts s → I (ts ++ [turn step s e]) (step s e).1)
    (start : I [] s) (h : turns step s es = front ++ t :: back) :
    I front t.before ∧ t = turn step t.before t.event := by
  obtain ⟨fs, gs, -, hfs, ht, -⟩ := turns_split h
  have hbefore : t.before = final step s fs := congrArg Turn.before ht
  rw [hbefore, ← hfs]
  exact ⟨history keep start fs, ht⟩

end History

/-- Of two places in a list one is behind the other, unless they are the same. -/
theorem places_cases {α : Type} {front back front' back' : List α} {x y : α}
    (h : front ++ x :: back = front' ++ y :: back') : x = y ∨ y ∈ back ∨ x ∈ back' := by
  rcases List.append_eq_append_iff.mp h with ⟨zs, -, hzs⟩ | ⟨zs, -, hzs⟩
  · rcases List.cons_eq_append_iff.mp hzs with ⟨-, hcons⟩ | ⟨zs, -, rfl⟩
    · exact Or.inl (List.cons.inj hcons).1.symm
    · exact Or.inr (Or.inl (List.mem_append_right _ List.mem_cons_self))
  · rcases List.cons_eq_append_iff.mp hzs with ⟨-, hcons⟩ | ⟨zs, -, rfl⟩
    · exact Or.inl (List.cons.inj hcons).1
    · exact Or.inr (Or.inr (List.mem_append_right _ List.mem_cons_self))

theorem filterMap_concat {α β : Type} (f : α → Option β) (xs : List α) (x : α) :
    (xs ++ [x]).filterMap f = xs.filterMap f ++ (f x).toList := by
  rw [List.filterMap_append]
  cases h : f x <;> simp [h]

theorem turn_of_mem_turns (h : t ∈ turns step s es) : t = turn step t.before t.event := by
  obtain ⟨front, back, hsplit⟩ := List.append_of_mem h
  obtain ⟨fs, gs, -, -, ht, -⟩ := turns_split hsplit
  rw [congrArg Turn.before ht]
  exact ht

end DebateMesh.Machine
