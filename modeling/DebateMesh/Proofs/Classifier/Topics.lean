import DebateMesh.Proofs.Classifier
import DebateMesh.Proofs.Discovery
import DebateMesh.Proofs.Text.Pattern

namespace DebateMesh

/-- Sensitivities in their order. -/
def Sensitivity.level : Sensitivity → Nat
  | low => 0
  | medium => 1
  | high => 2

/-- The topics that a classification names, the primary one first. -/
def Classification.named (c : Classification) : List Topic := c.primary :: c.secondary

namespace Topic

variable {t : Topic} {cs : List Char}

theorem mem_scored_iff : t ∈ scored ↔ t ≠ .general := by
  cases t <;> decide

theorem hits_pos_iff : 0 < t.hits cs ↔ ∃ p ∈ t.patterns, p.Occurs cs := by
  simp only [hits, List.length_pos_iff_exists_mem, List.mem_filter, Text.Pattern.occursIn_iff]

/-- One hit is enough to pass both thresholds, and to outrank a topic without any. -/
theorem score_spec (ht : t ∈ scored) (cs : List Char) :
    ((t.score cs).lt fallbackThreshold = true ↔ t.hits cs = 0) ∧
    (secondaryThreshold.lt (t.score cs) = true ↔ 0 < t.hits cs) ∧
    (0 < (t.score cs).totalRank ↔ 0 < t.hits cs) := by
  have hshares : ∀ t ∈ scored, ∀ hits < t.patterns.length + 1,
      let share := (Binary64.ofRatio false hits (Nat.max t.patterns.length 1)).min Binary64.one
      (share.lt fallbackThreshold = true ↔ hits = 0) ∧
      (secondaryThreshold.lt share = true ↔ 0 < hits) ∧ (0 < share.totalRank ↔ 0 < hits) := by
    decide +kernel
  exact hshares t ht (t.hits cs) (Nat.lt_succ_of_le (t.hits_le cs))

/-- A topic with its score in the text. -/
def scoredIn (cs : List Char) (t : Topic) : Scored := (t, t.score cs)

/-- All scored topics are ranked, and none outranks the first. -/
theorem ranking (cs : List Char) : ∃ best rest,
    rankTopics (scored.map (scoredIn cs)) = (best :: rest).map (scoredIn cs) ∧
    (best :: rest).Perm scored ∧
    ∀ t ∈ rest, (t.score cs).totalRank ≤ (best.score cs).totalRank := by
  let leads (a b : Scored) : Bool := decide (b.2.totalRank ≤ a.2.totalRank)
  have hperm : (rankTopics (scored.map (scoredIn cs))).Perm (scored.map (scoredIn cs)) :=
    perm_rankBy leads _
  have horder : (rankTopics (scored.map (scoredIn cs))).Pairwise
      (Precedes leads fun _ _ => True) :=
    pairwise_rankBy (by simp [leads]; omega) (by simp [leads]; omega)
      (List.pairwise_of_forall fun _ _ => trivial)
  generalize rankTopics (scored.map (scoredIn cs)) = ranked at hperm horder
  obtain ⟨ts, rfl⟩ : ∃ ts : List Topic, ranked = ts.map (scoredIn cs) := by
    refine ⟨ranked.map Prod.fst, ?_⟩
    rw [List.map_map]
    refine (List.map_id ranked).symm.trans (List.map_congr_left fun s hs => ?_)
    obtain ⟨t, -, rfl⟩ := List.mem_map.mp (hperm.mem_iff.mp hs)
    rfl
  have htopics : ts.Perm scored := by
    have hback := hperm.map Prod.fst
    rw [List.map_map, List.map_map] at hback
    simpa only [Function.comp_def, scoredIn, List.map_id'] using hback
  cases ts with
  | nil => cases htopics.length_eq
  | cons best rest =>
    refine ⟨best, rest, rfl, htopics, fun t ht => ?_⟩
    rw [List.map_cons, List.pairwise_cons] at horder
    have hlead := (horder.1 _ (List.mem_map_of_mem ht)).1
    simpa only [leads, scoredIn, decide_eq_true_iff] using hlead

end Topic

open Topic

/-- The best topic is primary if its score is good enough, and the others follow it. -/
theorem named_classifyRanked (best : Topic) (score : Binary64) (rest : List Scored) :
    (classifyRanked ((best, score) :: rest)).named =
      (if score.lt fallbackThreshold then .general else best) ::
        (rest.filter fun s => secondaryThreshold.lt s.2).map Prod.fst := by
  by_cases hlow : score.lt fallbackThreshold = true
  · simp only [classifyRanked, Classification.named, if_pos hlow]
  · simp only [classifyRanked, Classification.named, if_neg hlow]

theorem classify_eq (text : String) :
    classify text = classifyRanked (rankTopics (scored.map (scoredIn text.toList))) := rfl

/-- The best topic leads if it is hit at all, and the others that are hit follow it. -/
theorem named_classify (text : String) : ∃ best rest, (best :: rest).Perm scored ∧
    (best.hits text.toList = 0 → ∀ t ∈ rest, t.hits text.toList = 0) ∧
    (classify text).named = (if best.hits text.toList = 0 then .general else best) ::
      rest.filter fun t => 0 < t.hits text.toList := by
  obtain ⟨best, rest, hranked, hperm, hlead⟩ := ranking text.toList
  have hscores (t : Topic) (ht : t ∈ best :: rest) := score_spec (hperm.mem_iff.mp ht) text.toList
  have hbest := hscores best List.mem_cons_self
  refine ⟨best, rest, hperm, fun hzero t ht => ?_, ?_⟩
  · have hpos := (hscores t (List.mem_cons_of_mem best ht)).2.2
    have hle := hlead t ht
    have hbest := hbest.2.2
    omega
  · have hfirst : (if (best.score text.toList).lt fallbackThreshold then Topic.general else best) =
        if best.hits text.toList = 0 then .general else best := if_congr hbest.1 rfl rfl
    have hsecond : rest.filter (fun t => secondaryThreshold.lt (t.score text.toList)) =
        rest.filter fun t => 0 < t.hits text.toList := by
      refine List.filter_congr fun t ht => ?_
      have hpass := (hscores t (List.mem_cons_of_mem best ht)).2.1
      rw [Bool.eq_iff_iff, decide_eq_true_iff]
      exact hpass
    rw [classify_eq, hranked, List.map_cons, scoredIn, named_classifyRanked, hfirst, ← hsecond,
      List.filter_map, List.map_map]
    simp only [Function.comp_def, scoredIn, List.map_id']

/-- A topic is named just when one of its patterns occurs. -/
theorem mem_named_iff (text : String) {t : Topic} (ht : t ≠ .general) :
    t ∈ (classify text).named ↔ ∃ p ∈ t.patterns, p.Occurs text.toList := by
  obtain ⟨best, rest, hperm, -, hnamed⟩ := named_classify text
  have hmem : t = best ∨ t ∈ rest :=
    List.mem_cons.mp (hperm.mem_iff.mpr (mem_scored_iff.mpr ht))
  rw [← hits_pos_iff, hnamed, List.mem_cons, List.mem_filter, decide_eq_true_iff]
  split <;> grind

theorem nodup_named (text : String) : (classify text).named.Nodup := by
  obtain ⟨best, rest, hperm, -, hnamed⟩ := named_classify text
  have hnodup : (best :: rest).Nodup := hperm.nodup_iff.mpr (by decide)
  have hgeneral : .general ∉ best :: rest := fun h => mem_scored_iff.mp (hperm.mem_iff.mp h) rfl
  rw [List.nodup_cons] at hnodup
  rw [List.mem_cons, not_or] at hgeneral
  rw [hnamed, List.nodup_cons, List.mem_filter]
  refine ⟨?_, hnodup.2.filter _⟩
  split
  · exact fun h => hgeneral.2 h.1
  · exact fun h => hnodup.1 h.1

/-- A prompt is about no topic just when no pattern of any occurs. -/
theorem general_mem_named_iff (text : String) : .general ∈ (classify text).named ↔
    ∀ t : Topic, ¬ ∃ p ∈ t.patterns, p.Occurs text.toList := by
  obtain ⟨best, rest, hperm, hlead, hnamed⟩ := named_classify text
  have hgeneral : .general ∉ best :: rest := fun h => mem_scored_iff.mp (hperm.mem_iff.mp h) rfl
  rw [List.mem_cons, not_or] at hgeneral
  simp only [← hits_pos_iff, Nat.not_lt, Nat.le_zero]
  rw [hnamed, List.mem_cons, List.mem_filter]
  constructor
  · rintro (hfirst | ⟨hrest, -⟩)
    · split at hfirst
      · rename_i hzero
        intro t
        by_cases ht : t = .general
        · rw [ht]
          rfl
        rcases List.mem_cons.mp (hperm.mem_iff.mpr (mem_scored_iff.mpr ht)) with rfl | hrest
        · exact hzero
        · exact hlead hzero t hrest
      · exact absurd hfirst hgeneral.1
    · exact absurd hrest hgeneral.2
  · intro hnone
    exact .inl (if_pos (hnone best)).symm

/-- What is named decides how sensitive the prompt is. -/
theorem sensitivity_classifyRanked (scores : List Scored) :
    (classifyRanked scores).sensitivity = sensitivityOf (classifyRanked scores).named := by
  cases scores with
  | nil => decide
  | cons s rest =>
    by_cases hlow : s.2.lt fallbackThreshold = true
    · simp only [classifyRanked, Classification.named, if_pos hlow]
    · simp only [classifyRanked, Classification.named, if_neg hlow]

theorem sensitivity_classify (text : String) :
    (classify text).sensitivity = sensitivityOf (classify text).named := by
  rw [classify_eq, sensitivity_classifyRanked]

/-- More topics are no less sensitive. -/
theorem sensitivityOf_mono {ts us : List Topic} (h : ∀ t ≠ .general, t ∈ ts → t ∈ us) :
    (sensitivityOf ts).level ≤ (sensitivityOf us).level := by
  have hsecurity := h .security (by decide)
  have hcode := h .code (by decide)
  unfold sensitivityOf
  split
  · rename_i hmem
    rw [if_pos (hsecurity hmem)]
  split
  · rename_i hmem
    rw [if_pos (hcode hmem)]
    split <;> decide
  · exact Nat.zero_le _

/-- A topic of one of two texts is a topic of their lines together. -/
theorem named_lines (a b : String) {t : Topic} (ht : t ≠ .general)
    (h : t ∈ (classify a).named ∨ t ∈ (classify b).named) :
    t ∈ (classify (a ++ "\n" ++ b)).named := by
  have hlines : (a ++ "\n" ++ b).toList = a.toList ++ '\n' :: b.toList := by
    simp [String.toList_append]
  rw [mem_named_iff _ ht] at h ⊢
  rw [mem_named_iff _ ht] at h
  rw [hlines]
  rcases h with ⟨p, hp, h⟩ | ⟨p, hp, h⟩
  · exact ⟨p, hp, h.line_behind b.toList⟩
  · exact ⟨p, hp, h.line_before a.toList⟩

/-- A prompt is about the topics of which a pattern occurs, each named once, and it is said to be
about none only when there is no such topic. Lines that are added to a prompt take no topic from it
and do not make it less sensitive. -/
theorem lines_keep_topics :
    (∀ text : String, (classify text).named.Nodup ∧
      (∀ t ≠ .general, t ∈ (classify text).named ↔
        ∃ p ∈ t.patterns, p.Occurs text.toList) ∧
      (.general ∈ (classify text).named ↔
        ∀ t : Topic, ¬ ∃ p ∈ t.patterns, p.Occurs text.toList)) ∧
    ∀ a b : String,
      (∀ t ≠ .general, t ∈ (classify a).named ∨ t ∈ (classify b).named →
        t ∈ (classify (a ++ "\n" ++ b)).named) ∧
      (classify a).sensitivity.level ≤ (classify (a ++ "\n" ++ b)).sensitivity.level ∧
      (classify b).sensitivity.level ≤ (classify (a ++ "\n" ++ b)).sensitivity.level := by
  refine ⟨fun text => ⟨nodup_named text, fun t ht => mem_named_iff text ht,
    general_mem_named_iff text⟩, fun a b => ?_⟩
  rw [sensitivity_classify, sensitivity_classify, sensitivity_classify]
  exact ⟨fun t ht => named_lines a b ht,
    sensitivityOf_mono fun t ht h => named_lines a b ht (.inl h),
    sensitivityOf_mono fun t ht h => named_lines a b ht (.inr h)⟩

theorem lines_keep_topics_poem :
    (.creative ∈ (classify "write a poem").named ∧ .security ∈ (classify "my password").named) ∧
    (.creative ∈ (classify ("write a poem" ++ "\n" ++ "my password")).named ∧
      .security ∈ (classify ("write a poem" ++ "\n" ++ "my password")).named) := by
  have hpoem : .creative ∈ (classify "write a poem").named := by decide +kernel
  have hpassword : .security ∈ (classify "my password").named := by decide +kernel
  have hkeep := (lines_keep_topics.2 "write a poem" "my password").1
  exact ⟨⟨hpoem, hpassword⟩, hkeep .creative (by decide) (.inl hpoem),
    hkeep .security (by decide) (.inr hpassword)⟩

end DebateMesh
