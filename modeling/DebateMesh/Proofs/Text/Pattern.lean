import DebateMesh.Text.Pattern

namespace DebateMesh.Text.Pattern

/-- Whether a word character stands in front of the place behind the characters, when `previous`
says so for the place before them. -/
def behind (previous : Bool) : List Char → Bool
  | [] => previous
  | c :: cs => behind (isWord c) cs

/-- Whether a word character stands behind the place before the characters, when `next` says so for
the place behind them. -/
def ahead (next : Bool) : List Char → Bool
  | [] => next
  | c :: _ => isWord c

/-- The pattern matches exactly these characters, between `previous` and `next`. -/
inductive Matches : Pattern → (previous : Bool) → List Char → (next : Bool) → Prop
  | empty {b n : Bool} : Matches .empty b [] n
  | one {s : CharSet} {c : Char} {b n : Bool} (has : s.has c = true) : Matches (.one s) b [c] n
  | edge {b n : Bool} (differs : (b != n) = true) : Matches .edge b [] n
  | seq {p q : Pattern} {b n : Bool} {xs ys : List Char} (first : Matches p b xs (ahead n ys))
      (second : Matches q (behind b xs) ys n) : Matches (.seq p q) b (xs ++ ys) n
  | altLeft {p q : Pattern} {b n : Bool} {xs : List Char} (left : Matches p b xs n) :
      Matches (.alt p q) b xs n
  | altRight {p q : Pattern} {b n : Bool} {xs : List Char} (right : Matches q b xs n) :
      Matches (.alt p q) b xs n
  | done {p : Pattern} {b n : Bool} : Matches (.many p) b [] n
  | more {p : Pattern} {b n : Bool} {xs ys : List Char} (first : Matches p b xs (ahead n ys))
      (rest : Matches (.many p) (behind b xs) ys n) : Matches (.many p) b (xs ++ ys) n

/-- The pattern matches somewhere in the characters, with `previous` in front of them and no word
character behind. -/
def OccursAfter (p : Pattern) (previous : Bool) (cs : List Char) : Prop :=
  ∃ front piece back, cs = front ++ (piece ++ back) ∧
    p.Matches (behind previous front) piece (ahead false back)

/-- The pattern matches somewhere in the text. No word character stands at either end of it. -/
def Occurs (p : Pattern) (text : List Char) : Prop := p.OccursAfter false text

/-- The pattern matches a front of the characters. -/
def Begins (p : Pattern) (previous : Bool) (cs : List Char) : Prop :=
  ∃ piece back, cs = piece ++ back ∧ p.Matches previous piece (ahead false back)

variable {p q : Pattern} {b n : Bool} {c : Char} {cs xs ys : List Char}

@[simp] theorem behind_append (b : Bool) (xs ys : List Char) :
    behind b (xs ++ ys) = behind (behind b xs) ys := by
  induction xs generalizing b with
  | nil => rfl
  | cons x xs ih => exact ih (isWord x)

@[simp] theorem ahead_append (n : Bool) (xs ys : List Char) :
    ahead n (xs ++ ys) = ahead (ahead n ys) xs := by
  cases xs <;> rfl

theorem matches_one_iff {s : CharSet} :
    Matches (.one s) b cs n ↔ ∃ c, cs = [c] ∧ s.has c = true := by
  constructor
  · rintro ⟨⟩
    rename_i c has
    exact ⟨c, rfl, has⟩
  · rintro ⟨c, rfl, has⟩
    exact .one has

theorem matches_seq_iff : Matches (.seq p q) b cs n ↔
    ∃ xs ys, cs = xs ++ ys ∧ Matches p b xs (ahead n ys) ∧ Matches q (behind b xs) ys n := by
  constructor
  · intro h
    cases h with
    | seq first second => exact ⟨_, _, rfl, first, second⟩
  · rintro ⟨xs, ys, rfl, first, second⟩
    exact .seq first second

theorem matches_alt_iff : Matches (.alt p q) b cs n ↔ Matches p b cs n ∨ Matches q b cs n := by
  constructor
  · intro h
    cases h with
    | altLeft left => exact .inl left
    | altRight right => exact .inr right
  · rintro (left | right)
    · exact .altLeft left
    · exact .altRight right

theorem Matches.many_cases {r : Pattern} (h : Matches r b cs n) (hr : r = .many p) :
    cs = [] ∨ ∃ x xs ys, cs = x :: xs ++ ys ∧ Matches p b (x :: xs) (ahead n ys) ∧
      Matches (.many p) (behind b (x :: xs)) ys n := by
  induction h with
  | empty | one | edge | seq | altLeft | altRight => cases hr
  | done => exact .inl rfl
  | @more _ b n xs ys first rest _ ih =>
    cases hr
    cases xs with
    | nil => exact ih rfl
    | cons x xs => exact .inr ⟨x, xs, ys, rfl, first, rest⟩

theorem matches_many_cons_iff : Matches (.many p) b (c :: cs) n ↔
    ∃ xs ys, cs = xs ++ ys ∧ Matches p b (c :: xs) (ahead n ys) ∧
      Matches (.many p) (behind b (c :: xs)) ys n := by
  constructor
  · intro h
    rcases h.many_cases rfl with hnil | ⟨x, xs, ys, hcons, first, rest⟩
    · cases hnil
    · cases hcons
      exact ⟨xs, ys, rfl, first, rest⟩
  · rintro ⟨xs, ys, rfl, first, rest⟩
    exact .more first rest

/-- No character is matched just where the test of the place says so. -/
theorem matches_nil_iff : Matches p b [] n ↔ matchesEmpty (b != n) p = true := by
  induction p generalizing b n with
  | empty => exact iff_of_true .empty rfl
  | one s =>
    refine iff_of_false (fun h => ?_) Bool.false_ne_true
    cases h
  | edge =>
    constructor
    · intro h
      cases h with
      | edge differs => exact differs
    · exact .edge
  | seq p q ihp ihq =>
    rw [matches_seq_iff, matchesEmpty, Bool.and_eq_true, ← ihp, ← ihq]
    constructor
    · rintro ⟨xs, ys, hnil, first, second⟩
      obtain ⟨rfl, rfl⟩ := List.append_eq_nil_iff.mp hnil.symm
      exact ⟨first, second⟩
    · rintro ⟨first, second⟩
      exact ⟨[], [], rfl, first, second⟩
  | alt p q ihp ihq => rw [matches_alt_iff, matchesEmpty, Bool.or_eq_true, ihp, ihq]
  | many p => exact iff_of_true .done rfl

theorem matches_followedBy_iff :
    Matches (followedBy q p) b cs n ↔ Matches (.seq p q) b cs n := by
  unfold followedBy
  split
  · rename_i hempty
    rw [hempty, matches_seq_iff]
    constructor
    · intro h
      exact ⟨[], cs, rfl, .empty, h⟩
    · rintro ⟨xs, ys, rfl, first, second⟩
      cases first
      exact second
  · exact Iff.rfl

/-- What is left of a first part behind a character, and then the second part. -/
theorem exists_followedBy_iff {rs : List Pattern} :
    (∃ r ∈ rs.map (followedBy q), Matches r b cs n) ↔ ∃ xs ys, cs = xs ++ ys ∧
      (∃ r ∈ rs, Matches r b xs (ahead n ys)) ∧ Matches q (behind b xs) ys n := by
  constructor
  · rintro ⟨r', hr', h⟩
    obtain ⟨r, hr, rfl⟩ := List.mem_map.mp hr'
    obtain ⟨xs, ys, hcs, first, second⟩ := matches_seq_iff.mp (matches_followedBy_iff.mp h)
    exact ⟨xs, ys, hcs, ⟨r, hr, first⟩, second⟩
  · rintro ⟨xs, ys, hcs, ⟨r, hr, first⟩, second⟩
    have h := matches_seq_iff.mpr ⟨xs, ys, hcs, first, second⟩
    exact ⟨_, List.mem_map_of_mem hr, matches_followedBy_iff.mpr h⟩

/-- A character is matched and then the rest just where the rest is matched by something that the
pattern leaves behind the character. -/
theorem matches_cons_iff : Matches p b (c :: cs) n ↔
    ∃ r ∈ after (b != isWord c) c p, Matches r (isWord c) cs n := by
  induction p generalizing cs n with
  | empty | edge =>
    refine iff_of_false (fun h => ?_) (fun ⟨r, hr, _⟩ => ?_)
    · cases h
    · cases hr
  | one s =>
    rw [matches_one_iff, after]
    constructor
    · rintro ⟨d, heq, has⟩
      obtain ⟨rfl, rfl⟩ := List.cons.inj heq
      rw [if_pos has]
      exact ⟨.empty, List.mem_singleton.mpr rfl, .empty⟩
    · rintro ⟨r, hr, h⟩
      split at hr
      · rename_i has
        rw [List.mem_singleton.mp hr] at h
        cases h
        exact ⟨c, rfl, has⟩
      · cases hr
  | seq p q ihp ihq =>
    rw [matches_seq_iff, after]
    simp only [List.mem_append, or_and_right, exists_or, exists_followedBy_iff, ← ihp]
    constructor
    · rintro ⟨xs, ys, heq, first, second⟩
      cases xs with
      | nil =>
        rw [List.nil_append] at heq
        subst heq
        have hempty : matchesEmpty (b != isWord c) p = true := matches_nil_iff.mp first
        rw [if_pos hempty]
        exact .inr (ihq.mp second)
      | cons x xs =>
        obtain ⟨rfl, rfl⟩ := List.cons.inj heq
        exact .inl ⟨xs, ys, rfl, first, second⟩
    · rintro (⟨xs, ys, rfl, first, second⟩ | ⟨r, hr, h⟩)
      · exact ⟨c :: xs, ys, rfl, first, second⟩
      · split at hr
        · rename_i hempty
          exact ⟨[], c :: cs, rfl, matches_nil_iff.mpr hempty, ihq.mpr ⟨r, hr, h⟩⟩
        · cases hr
  | alt p q ihp ihq =>
    simp only [matches_alt_iff, after, List.mem_append, or_and_right, exists_or, ihp, ihq]
  | many p ih =>
    simp only [matches_many_cons_iff, after, exists_followedBy_iff, ← ih]
    exact Iff.rfl

theorem begins_nil_iff : p.Begins b [] ↔ matchesEmpty b p = true := by
  have hplace : (b != false) = b := Bool.bne_false b
  constructor
  · rintro ⟨piece, back, hnil, h⟩
    obtain ⟨rfl, rfl⟩ := List.append_eq_nil_iff.mp hnil.symm
    rwa [ahead, matches_nil_iff, hplace] at h
  · intro h
    refine ⟨[], [], rfl, ?_⟩
    rwa [ahead, matches_nil_iff, hplace]

theorem begins_cons_iff : p.Begins b (c :: cs) ↔ matchesEmpty (b != isWord c) p = true ∨
    ∃ r ∈ after (b != isWord c) c p, r.Begins (isWord c) cs := by
  constructor
  · rintro ⟨piece, back, heq, h⟩
    cases piece with
    | nil =>
      rw [List.nil_append] at heq
      subst heq
      exact .inl (matches_nil_iff.mp h)
    | cons x xs =>
      obtain ⟨rfl, rfl⟩ := List.cons.inj heq
      obtain ⟨r, hr, hrest⟩ := matches_cons_iff.mp h
      exact .inr ⟨r, hr, xs, back, rfl, hrest⟩
  · rintro (hempty | ⟨r, hr, piece, back, rfl, hrest⟩)
    · exact ⟨[], c :: cs, rfl, matches_nil_iff.mpr hempty⟩
    · exact ⟨c :: piece, back, rfl, matches_cons_iff.mpr ⟨r, hr, hrest⟩⟩

/-- The pattern matches behind the first character. -/
def OccursLater (p : Pattern) : List Char → Prop
  | [] => False
  | c :: cs => p.OccursAfter (isWord c) cs

theorem occursAfter_iff : p.OccursAfter b cs ↔ p.Begins b cs ∨ p.OccursLater cs := by
  constructor
  · rintro ⟨front, piece, back, rfl, h⟩
    cases front with
    | nil => exact .inl ⟨piece, back, rfl, h⟩
    | cons x front => exact .inr ⟨front, piece, back, rfl, h⟩
  · rintro (⟨piece, back, heq, h⟩ | h)
    · exact ⟨[], piece, back, heq, h⟩
    · cases cs with
      | nil => exact h.elim
      | cons c cs =>
        obtain ⟨front, piece, back, rfl, h⟩ := h
        exact ⟨c :: front, piece, back, rfl, h⟩

/-- The search says whether an open pattern matches from here on, or `p` from a later place. -/
theorem search_iff {opened : List Pattern} :
    search p b opened cs = true ↔ (∃ r ∈ opened, r.Begins b cs) ∨ p.OccursLater cs := by
  induction cs generalizing b opened with
  | nil =>
    rw [search, List.any_eq_true, OccursLater, or_false]
    simp only [begins_nil_iff]
  | cons c cs ih =>
    have hopen : (∃ r ∈ opened, r.Begins b (c :: cs)) ↔
        opened.any (matchesEmpty (b != isWord c)) = true ∨
          ∃ r ∈ (opened.flatMap (after (b != isWord c) c)).eraseDups, r.Begins (isWord c) cs := by
      simp only [List.mem_eraseDups, List.mem_flatMap, List.any_eq_true, begins_cons_iff]
      grind
    rw [search, hopen, OccursLater, occursAfter_iff]
    split
    · rename_i hnow
      exact iff_of_true rfl (.inl (.inl hnow))
    · rename_i hnow
      rw [ih]
      grind

theorem occursIn_iff {text : List Char} : p.occursIn text = true ↔ p.Occurs text := by
  rw [occursIn, search_iff, Occurs, occursAfter_iff]
  simp only [List.mem_singleton, exists_eq_left]

theorem isWord_newline : isWord '\n' = false := by decide

/-- What occurs in a text still occurs when a line is added behind it. -/
theorem Occurs.line_behind {text : List Char} (h : p.Occurs text) (line : List Char) :
    p.Occurs (text ++ '\n' :: line) := by
  obtain ⟨front, piece, back, rfl, hpiece⟩ := h
  refine ⟨front, piece, back ++ '\n' :: line, by simp only [List.append_assoc], ?_⟩
  rwa [ahead_append, ahead, isWord_newline]

/-- What occurs in a text still occurs when a line is added before it. -/
theorem Occurs.line_before {text : List Char} (h : p.Occurs text) (line : List Char) :
    p.Occurs (line ++ '\n' :: text) := by
  obtain ⟨front, piece, back, rfl, hpiece⟩ := h
  have hsplit : line ++ '\n' :: (front ++ (piece ++ back)) =
      (line ++ '\n' :: front) ++ (piece ++ back) := by
    simp only [List.append_assoc, List.cons_append]
  refine ⟨line ++ '\n' :: front, piece, back, hsplit, ?_⟩
  rwa [behind_append, behind, isWord_newline]

end DebateMesh.Text.Pattern
