import DebateMesh.Proofs.Json.Token

namespace DebateMesh.Json

def Blanks (cs : List Char) : Prop := ∀ c ∈ cs, isBlank c = true

/-- A text behind blanks. -/
def Led {α : Type} (P : α → List Char → Prop) (x : α) (cs : List Char) : Prop :=
  ∃ bs ds, Blanks bs ∧ cs = bs ++ ds ∧ P x ds

/-- One or more items with commas between them, and blanks behind each. -/
inductive Row {α : Type} (P : α → List Char → Prop) : List α → List Char → Prop
  | single {x : α} {cs bs : List Char} (item : P x cs) (blanks : Blanks bs) : Row P [x] (cs ++ bs)
  | cons {x : α} {xs : List α} {cs bs ds : List Char} (item : P x cs) (blanks : Blanks bs)
      (rest : Row P xs ds) : Row P (x :: xs) (cs ++ (bs ++ ',' :: ds))

/-- What stands between brackets or braces. -/
inductive Listed {α : Type} (P : α → List Char → Prop) : List α → List Char → Prop
  | empty {bs : List Char} (blanks : Blanks bs) : Listed P [] bs
  | row {xs : List α} {cs : List Char} (items : Row P xs cs) : Listed P xs cs

/-- A name, a colon and a value. -/
def Entry (P : Json → List Char → Prop) (m : String × Json) (cs : List Char) : Prop :=
  ∃ name bs value, Led Quoted m.1 name ∧ Blanks bs ∧ P m.2 value ∧ cs = name ++ (bs ++ ':' :: value)

/-- A value that is no array and no object. -/
inductive Scalar : Json → List Char → Prop
  | null : Scalar null ['n', 'u', 'l', 'l']
  | true : Scalar (bool true) ['t', 'r', 'u', 'e']
  | false : Scalar (bool false) ['f', 'a', 'l', 's', 'e']
  | number (n : Numeral) {v : Json} (value : n.value? = some v) : Scalar v n.text
  | str {s : String} {cs : List Char} (quoted : Quoted s cs) : Scalar (str s) cs

/-- A value whose items and members are written as `P` says. -/
inductive Level (P : Json → List Char → Prop) : Json → List Char → Prop
  | scalar {v : Json} {cs : List Char} (h : Scalar v cs) : Level P v cs
  | list {vs : List Json} {cs : List Char} (items : Listed P vs cs) :
      Level P (arr vs) ('[' :: (cs ++ [']']))
  | object {ms : Members} {cs : List Char} (members : Listed (Entry P) ms cs) :
      Level P (obj ms) ('{' :: (cs ++ ['}']))

/-- The texts of a value in which at most so many arrays and objects stand around one another. -/
def Written : (depth : Nat) → Json → List Char → Prop
  | 0 => Scalar
  | depth + 1 => Level (Led (Written depth))

/-- A whole text: a value among blanks. -/
def Document (v : Json) (cs : List Char) : Prop :=
  ∃ ds bs, Led (Written maxDepth) v ds ∧ Blanks bs ∧ cs = ds ++ bs

theorem ends_cons {c : Char} (h : isDigit c = false ∧ c ≠ '.' ∧ c ≠ 'e' ∧ c ≠ 'E')
    (cs : List Char) : Ends (c :: cs) := by
  intro x hx
  cases hx
  exact h

@[simp] theorem skipBlanks_cons {c : Char} (h : isBlank c = false) (cs : List Char) :
    skipBlanks (c :: cs) = c :: cs := by
  rw [skipBlanks, List.dropWhile_cons, h]
  rfl

@[simp] theorem skipBlanks_skipBlanks (cs : List Char) :
    skipBlanks (skipBlanks cs) = skipBlanks cs := by
  induction cs with
  | nil => rfl
  | cons c cs ih =>
    by_cases hc : isBlank c = true
    · have hskip : skipBlanks (c :: cs) = skipBlanks cs := by
        rw [skipBlanks, List.dropWhile_cons, if_pos hc]
        rfl
      rw [hskip]
      exact ih
    · rw [Bool.not_eq_true] at hc
      rw [skipBlanks_cons hc, skipBlanks_cons hc]

theorem skipBlanks_append {bs : List Char} (h : Blanks bs) (cs : List Char) :
    skipBlanks (bs ++ cs) = skipBlanks cs :=
  List.dropWhile_append_of_pos h

theorem exists_blanks (cs : List Char) : ∃ bs, Blanks bs ∧ cs = bs ++ skipBlanks cs :=
  ⟨cs.takeWhile isBlank, fun c hc => List.all_eq_true.mp List.all_takeWhile c hc,
    List.takeWhile_append_dropWhile.symm⟩

theorem skipBlanks_eq_nil_iff {cs : List Char} : skipBlanks cs = [] ↔ Blanks cs := by
  constructor
  · intro h
    obtain ⟨bs, hbs, hcs⟩ := exists_blanks cs
    rw [h, List.append_nil] at hcs
    rwa [hcs]
  · intro h
    have hskip := skipBlanks_append h []
    rwa [List.append_nil] at hskip

theorem Blanks.ends {bs cs : List Char} (h : Blanks bs) (hcs : Ends cs) : Ends (bs ++ cs) := by
  cases bs with
  | nil => exact hcs
  | cons b bs =>
    have hb := h b List.mem_cons_self
    simp only [isBlank, Bool.or_eq_true, beq_iff_eq] at hb
    refine ends_cons ?_ _
    rcases hb with ((rfl | rfl) | rfl) | rfl <;> decide

variable {α : Type} {P : α → List Char → Prop} {read : List Char → Option (α × List Char)}
  {fuel n : Nat} {close : Char}

/-- The reader takes exactly the texts that `P` allows off the front, of which it finds those of at
most `n` characters. Blanks in front do not count, and the end of a list is no item. -/
structure Exact (P : α → List Char → Prop) (read : List Char → Option (α × List Char))
    (n : Nat) : Prop where
  skips : ∀ cs, read (skipBlanks cs) = read cs
  closing : ∀ {c : Char} (cs : List Char), c = ']' ∨ c = '}' → read (c :: cs) = none
  sound : ∀ {cs rest : List Char} {x : α}, read cs = some (x, rest) →
    ∃ text, cs = text ++ rest ∧ P x text
  complete : ∀ {x : α} {text rest : List Char}, P x text → text.length ≤ n → Ends rest →
    read (text ++ rest) = some (x, rest)

/-- Items up to the closing character, of which there is at least one. -/
def row? (read : List Char → Option (α × List Char)) (close : Char) :
    (fuel : Nat) → List Char → List α → Option (List α × List Char)
  | 0, _, _ => none
  | fuel + 1, cs, acc => do
    let (x, cs) ← read cs
    if (skipBlanks cs).head? = some ',' then row? read close fuel (skipBlanks cs).tail (x :: acc)
    else if (skipBlanks cs).head? = some close then some ((x :: acc).reverse, (skipBlanks cs).tail)
    else none

def listed? (read : List Char → Option (α × List Char)) (close : Char) (fuel : Nat)
    (cs : List Char) : Option (List α × List Char) :=
  if (skipBlanks cs).head? = some close then some ([], (skipBlanks cs).tail)
  else row? read close fuel (skipBlanks cs) []

theorem head?_ne {cs : List Char} {c : Char} (h : ∀ ds, cs = c :: ds → False) :
    cs.head? ≠ some c := by
  intro hc
  obtain ⟨ds, hds⟩ := List.head?_eq_some_iff.mp hc
  exact h ds hds

theorem items?_eq (read : ReadValue) (fuel : Nat) (cs : List Char) (acc : List Json) :
    items? read fuel cs acc = row? read ']' fuel cs acc := by
  induction fuel generalizing cs acc with
  | zero => rfl
  | succ fuel ih =>
    rw [items?, row?]
    cases read cs with
    | none => rfl
    | some r =>
      dsimp only [Option.bind_eq_bind, Option.bind_some]
      split
      · rename_i h
        rw [h, ih]
        rfl
      · rename_i h
        rw [h]
        rfl
      · rename_i hcomma hclose
        rw [if_neg (head?_ne hcomma), if_neg (head?_ne hclose)]

theorem members?_eq (read : ReadValue) (fuel : Nat) (cs : List Char) (acc : Members) :
    members? read fuel cs acc = row? (member read) '}' fuel cs acc := by
  induction fuel generalizing cs acc with
  | zero => rfl
  | succ fuel ih =>
    rw [members?, row?]
    cases member read cs with
    | none => rfl
    | some r =>
      dsimp only [Option.bind_eq_bind, Option.bind_some]
      split
      · rename_i h
        rw [h, ih]
        rfl
      · rename_i h
        rw [h]
        rfl
      · rename_i hcomma hclose
        rw [if_neg (head?_ne hcomma), if_neg (head?_ne hclose)]

theorem list?_eq (read : ReadValue) (fuel : Nat) (cs : List Char) :
    list? read fuel cs = (listed? read ']' fuel cs).map fun r => (arr r.1, r.2) := by
  unfold list? listed?
  split
  · rename_i h
    rw [h]
    rfl
  · rename_i hclose
    rw [if_neg (head?_ne hclose), items?_eq]

theorem object?_eq (read : ReadValue) (fuel : Nat) (cs : List Char) :
    object? read fuel cs = (listed? (member read) '}' fuel cs).map fun r => (obj r.1, r.2) := by
  unfold object? listed?
  split
  · rename_i h
    rw [h]
    rfl
  · rename_i hclose
    rw [if_neg (head?_ne hclose), members?_eq]

theorem Row.length_le {xs : List α} {cs : List Char} (h : Row P xs cs) :
    xs.length ≤ cs.length + 1 := by
  induction h with
  | single => exact Nat.le_add_left _ _
  | cons _ _ _ ih =>
    simp only [List.length_append, List.length_cons]
    omega

def Closes (close : Char) : Prop := close = ']' ∨ close = '}'

theorem Closes.ends (h : Closes close) (cs : List Char) : Ends (close :: cs) := by
  rcases h with rfl | rfl <;> exact ends_cons (by decide) cs

theorem Closes.isBlank (h : Closes close) : isBlank close = false := by
  rcases h with rfl | rfl <;> rfl

theorem Closes.ne_comma (h : Closes close) : close ≠ ',' := by
  rcases h with rfl | rfl <;> decide

theorem Exact.row?_complete (h : Exact P read n) (hclose : Closes close) {xs : List α}
    {cs : List Char} (hrow : Row P xs cs) (hlen : cs.length ≤ n) (hfuel : xs.length ≤ fuel)
    (acc : List α) (rest : List Char) :
    row? read close fuel (cs ++ close :: rest) acc = some (acc.reverse ++ xs, rest) := by
  induction hrow generalizing fuel acc with
  | @single x cs bs item blanks =>
    obtain ⟨fuel, rfl⟩ := Nat.exists_eq_succ_of_ne_zero (Nat.ne_of_gt hfuel)
    rw [List.length_append] at hlen
    have hread := h.complete item (by omega) (blanks.ends (hclose.ends rest))
    have hskip : skipBlanks (bs ++ close :: rest) = close :: rest := by
      rw [skipBlanks_append blanks, skipBlanks_cons hclose.isBlank]
    rw [List.append_assoc, row?, hread]
    simp [hskip, hclose.ne_comma]
  | @cons x xs cs bs ds item blanks _ ih =>
    obtain ⟨fuel, rfl⟩ := Nat.exists_eq_succ_of_ne_zero
      (Nat.ne_of_gt (Nat.lt_of_lt_of_le (Nat.succ_pos _) hfuel))
    simp only [List.length_append, List.length_cons] at hlen
    have hread := h.complete item (by omega)
      (blanks.ends (ends_cons (c := ',') (by decide) (ds ++ close :: rest)))
    have hskip : skipBlanks (bs ++ ',' :: (ds ++ close :: rest)) =
        ',' :: (ds ++ close :: rest) := by
      rw [skipBlanks_append blanks, skipBlanks_cons rfl]
    have hrest := ih (by omega) (Nat.le_of_succ_le_succ hfuel) (x :: acc)
    rw [List.append_assoc, List.append_assoc, List.cons_append, row?, hread]
    simp [hskip, hrest]

/-- Nothing is an item that a list's end comes first in. -/
theorem Exact.head?_ne (h : Exact P read n) (hclose : Closes close) {cs rest : List Char} {x : α}
    (hread : read cs = some (x, rest)) : (skipBlanks cs).head? ≠ some close := by
  intro hc
  obtain ⟨ds, hds⟩ := List.head?_eq_some_iff.mp hc
  rw [← h.skips, hds, h.closing ds hclose] at hread
  cases hread

theorem row?_skipBlanks (h : Exact P read n) (close : Char) (fuel : Nat) (cs : List Char)
    (acc : List α) : row? read close fuel (skipBlanks cs) acc = row? read close fuel cs acc := by
  cases fuel with
  | zero => rfl
  | succ fuel => rw [row?, row?, h.skips]

theorem read_of_row? {cs : List Char} {acc : List α} {r : List α × List Char}
    (h : row? read close fuel cs acc = some r) : ∃ x rest, read cs = some (x, rest) := by
  cases fuel with
  | zero => cases h
  | succ fuel =>
    obtain ⟨⟨x, rest⟩, hread, -⟩ := Option.bind_eq_some_iff.mp h
    exact ⟨x, rest, hread⟩

/-- A list is read up to its end, whatever comes after it. -/
theorem Exact.listed?_complete (h : Exact P read n) (hclose : Closes close) {xs : List α}
    {cs : List Char} (hxs : Listed P xs cs) (hlen : cs.length < n) (rest : List Char) :
    listed? read close n (cs ++ close :: rest) = some (xs, rest) := by
  unfold listed?
  cases hxs with
  | empty blanks =>
    rw [skipBlanks_append blanks, skipBlanks_cons hclose.isBlank]
    exact if_pos rfl
  | row items =>
    have hcount := items.length_le
    have hread := h.row?_complete hclose items (by omega) (by omega : xs.length ≤ n) [] rest
    obtain ⟨x, rest', hfirst⟩ := read_of_row? hread
    rw [if_neg (h.head?_ne hclose hfirst), row?_skipBlanks h, hread]
    rfl

theorem Exact.row?_sound (h : Exact P read n) {xs acc : List α} {cs rest : List Char}
    (hrow : row? read close fuel cs acc = some (xs, rest)) :
    ∃ ys text, xs = acc.reverse ++ ys ∧ cs = text ++ close :: rest ∧ Row P ys text := by
  induction fuel generalizing cs acc with
  | zero => cases hrow
  | succ fuel ih =>
    obtain ⟨⟨x, cs'⟩, hread, hrest⟩ := Option.bind_eq_some_iff.mp hrow
    obtain ⟨text, rfl, hx⟩ := h.sound hread
    obtain ⟨bs, hbs, hcs⟩ := exists_blanks cs'
    dsimp only at hrest
    split at hrest
    · rename_i hcomma
      obtain ⟨ds, hds⟩ := List.head?_eq_some_iff.mp hcomma
      rw [hds] at hcs
      rw [hds, List.tail_cons] at hrest
      obtain ⟨ys, text', rfl, rfl, hys⟩ := ih hrest
      refine ⟨x :: ys, text ++ (bs ++ ',' :: text'), ?_, ?_, .cons hx hbs hys⟩
      · rw [List.reverse_cons, List.append_assoc]
        rfl
      · rw [hcs]
        simp
    split at hrest
    · rename_i hclose
      obtain ⟨ds, hds⟩ := List.head?_eq_some_iff.mp hclose
      rw [hds] at hcs
      rw [hds, List.tail_cons] at hrest
      cases hrest
      exact ⟨[x], text ++ bs, List.reverse_cons, by rw [hcs, List.append_assoc], .single hx hbs⟩
    · cases hrest

theorem Exact.listed?_sound (h : Exact P read n) {xs : List α} {cs rest : List Char}
    (hxs : listed? read close fuel cs = some (xs, rest)) :
    ∃ text, cs = text ++ close :: rest ∧ Listed P xs text := by
  unfold listed? at hxs
  split at hxs
  · rename_i hclose
    obtain ⟨bs, hbs, hcs⟩ := exists_blanks cs
    obtain ⟨ds, hds⟩ := List.head?_eq_some_iff.mp hclose
    rw [hds] at hcs
    rw [hds, List.tail_cons] at hxs
    cases hxs
    exact ⟨bs, hcs, .empty hbs⟩
  · rw [row?_skipBlanks h] at hxs
    obtain ⟨ys, text, rfl, hcs, hys⟩ := h.row?_sound hxs
    exact ⟨text, hcs, .row hys⟩

theorem value?_skipBlanks (fuel depth : Nat) (cs : List Char) :
    value? fuel depth (skipBlanks cs) = value? fuel depth cs := by
  cases depth <;> simp only [value?, skipBlanks_skipBlanks]

theorem value?_scalar (fuel depth : Nat) {c : Char} (cs : List Char) (hb : isBlank c = false)
    (ha : c ≠ '[') (ho : c ≠ '{') : value? fuel depth (c :: cs) = scalar? (c :: cs) := by
  cases depth <;>
  · rw [value?, skipBlanks_cons hb]
    split
    · rename_i h
      cases h
      exact absurd rfl ha
    · rename_i h
      cases h
      exact absurd rfl ho
    · rfl

/-- A number starts with a digit or a minus sign, and so is not taken for another value. -/
theorem value?_number (fuel depth : Nat) {cs : List Char} {r : Json × List Char}
    (h : number? cs = some r) : value? fuel depth cs = some r := by
  obtain ⟨c, rest, rfl, hc⟩ : ∃ c rest, cs = c :: rest ∧ (c = '-' ∨ isDigit c = true) := by
    unfold number? at h
    split at h
    · exact ⟨_, _, rfl, Or.inl rfl⟩
    · obtain ⟨c, hc, hd⟩ := head_of_unsigned? h
      obtain ⟨rest, hrest⟩ := List.head?_eq_some_iff.mp hc
      exact ⟨c, rest, hrest, Or.inr hd⟩
  have hother : ∀ x, x ≠ '-' → isDigit x = false → c ≠ x := by
    intro x hx hd hcx
    rcases hc with hc | hc
    · exact hx (hcx ▸ hc)
    · rw [hcx, hd] at hc
      cases hc
  have hb : isBlank c = false := by
    simp [isBlank, hother ' ' (by decide) (by decide), hother '\t' (by decide) (by decide),
      hother '\n' (by decide) (by decide), hother '\r' (by decide) (by decide)]
  rw [value?_scalar fuel depth rest hb (hother '[' (by decide) (by decide))
    (hother '{' (by decide) (by decide))]
  unfold scalar?
  split
  · rename_i heq
    cases heq
    exact absurd rfl (hother '"' (by decide) (by decide))
  · rename_i heq
    cases heq
    exact absurd rfl (hother 'n' (by decide) (by decide))
  · rename_i heq
    cases heq
    exact absurd rfl (hother 't' (by decide) (by decide))
  · rename_i heq
    cases heq
    exact absurd rfl (hother 'f' (by decide) (by decide))
  · exact h

/-- No value starts with a closing bracket or brace. -/
theorem value?_closing (fuel depth : Nat) {c : Char} (cs : List Char) (h : c = ']' ∨ c = '}') :
    value? fuel depth (c :: cs) = none := by
  rcases h with rfl | rfl <;>
  · rw [value?_scalar fuel depth cs rfl (by decide) (by decide)]
    rfl

theorem Exact.member {Q : Json → List Char → Prop} {read : ReadValue} (h : Exact Q read n) :
    Exact (Entry Q) (Json.member read) n where
  skips cs := by rw [Json.member, Json.member, skipBlanks_skipBlanks]
  closing cs hc := by
    rcases hc with rfl | rfl <;> rfl
  sound := by
    intro cs rest m hm
    unfold Json.member at hm
    split at hm
    · rename_i cs₁ hquote
      obtain ⟨bs, hbs, hcs⟩ := exists_blanks cs
      rw [hquote] at hcs
      obtain ⟨⟨name, cs₂⟩, hname, hrest⟩ := Option.bind_eq_some_iff.mp hm
      obtain ⟨body, hcs₁, hbody⟩ := stringBody_iff.mp hname
      obtain ⟨gap, hgap, hcs₂⟩ := exists_blanks cs₂
      dsimp only at hrest
      split at hrest
      · rename_i cs₃ hcolon
        rw [hcolon] at hcs₂
        obtain ⟨⟨v, cs₄⟩, hv, hpure⟩ := Option.bind_eq_some_iff.mp hrest
        cases hpure
        obtain ⟨value, rfl, hvalue⟩ := h.sound hv
        refine ⟨bs ++ '"' :: (body ++ ['"']) ++ (gap ++ ':' :: value), ?_, _, gap, value,
          ⟨bs, _, hbs, rfl, body, rfl, hbody⟩, hgap, hvalue, rfl⟩
        rw [hcs, hcs₁, hcs₂]
        simp
      · cases hrest
    · cases hm
  complete := by
    rintro m - rest ⟨-, gap, value, ⟨bs, -, hbs, rfl, body, rfl, hbody⟩, hgap, hvalue, rfl⟩ hlen hr
    simp only [List.length_append, List.length_cons] at hlen
    have hv := h.complete hvalue (by omega) hr
    have hname : stringBody (body ++ '"' :: (gap ++ ':' :: (value ++ rest))) [] =
        some (m.1, gap ++ ':' :: (value ++ rest)) := stringBody_iff.mpr ⟨body, rfl, hbody⟩
    have hshape : bs ++ '"' :: (body ++ ['"']) ++ (gap ++ ':' :: value) ++ rest =
        bs ++ '"' :: (body ++ '"' :: (gap ++ ':' :: (value ++ rest))) := by simp
    rw [hshape, Json.member, skipBlanks_append hbs, skipBlanks_cons rfl]
    simp only [hname, skipBlanks_append hgap, skipBlanks_cons (c := ':') rfl, hv,
      Option.bind_eq_bind, Option.bind_some]
    rfl

theorem word?_sound {word cs rest : List Char} {v v' : Json}
    (h : word? word v cs = some (v', rest)) : cs = word ++ rest ∧ v' = v := by
  unfold word? at h
  split at h
  · rename_i hword
    cases h
    obtain ⟨tail, rfl⟩ := List.isPrefixOf_iff_prefix.mp hword
    exact ⟨by rw [List.drop_left], rfl⟩
  · cases h

theorem scalar?_sound {cs rest : List Char} {v : Json} (h : scalar? cs = some (v, rest)) :
    ∃ text, cs = text ++ rest ∧ Scalar v text := by
  unfold scalar? at h
  split at h
  · obtain ⟨⟨s, cs'⟩, hs, hpair⟩ := Option.map_eq_some_iff.mp h
    cases hpair
    obtain ⟨body, rfl, hbody⟩ := stringBody_iff.mp hs
    exact ⟨'"' :: (body ++ ['"']), by simp, .str ⟨body, rfl, hbody⟩⟩
  · obtain ⟨hcs, rfl⟩ := word?_sound h
    exact ⟨_, hcs, .null⟩
  · obtain ⟨hcs, rfl⟩ := word?_sound h
    exact ⟨_, hcs, .true⟩
  · obtain ⟨hcs, rfl⟩ := word?_sound h
    exact ⟨_, hcs, .false⟩
  · obtain ⟨n, hcs, hv⟩ := numeral_of_number? h
    exact ⟨n.text, hcs, .number n hv⟩

theorem value?_of_scalar {v : Json} {text rest : List Char} (h : Scalar v text) (hr : Ends rest)
    (fuel depth : Nat) : value? fuel depth (text ++ rest) = some (v, rest) := by
  cases h with
  | null | true | false => exact value?_scalar fuel depth _ rfl (by decide) (by decide)
  | number n hv => exact value?_number fuel depth (number?_numeral n hv hr)
  | @str s _ quoted =>
    obtain ⟨body, rfl, hbody⟩ := quoted
    have hs : stringBody (body ++ '"' :: rest) [] = some (s, rest) :=
      stringBody_iff.mpr ⟨body, rfl, hbody⟩
    have hshape : '"' :: (body ++ ['"']) ++ rest = '"' :: (body ++ '"' :: rest) := by simp
    rw [hshape, value?_scalar fuel depth _ rfl (by decide) (by decide), scalar?, hs]
    rfl

theorem Exact.list?_complete {Q : Json → List Char → Prop} {read : ReadValue} (h : Exact Q read n)
    {vs : List Json} {cs : List Char} (hvs : Listed Q vs cs) (hlen : cs.length < n)
    (rest : List Char) : list? read n (cs ++ ']' :: rest) = some (arr vs, rest) := by
  rw [list?_eq, h.listed?_complete (Or.inl rfl) hvs hlen]
  rfl

theorem Exact.object?_complete {Q : Json → List Char → Prop} {read : ReadValue}
    (h : Exact Q read n) {ms : Members} {cs : List Char} (hms : Listed (Entry Q) ms cs)
    (hlen : cs.length < n) (rest : List Char) :
    object? read n (cs ++ '}' :: rest) = some (obj ms, rest) := by
  rw [object?_eq, h.member.listed?_complete (Or.inr rfl) hms hlen]
  rfl

/-- Whatever comes after an object, it is read up to its closing brace. -/
theorem Exact.value?_object {depth : Nat} (h : Exact (Led (Written depth)) (value? fuel depth) fuel)
    {ms : Members} {cs : List Char} (hms : Listed (Entry (Led (Written depth))) ms cs)
    (hlen : cs.length < fuel) (rest : List Char) :
    value? fuel (depth + 1) ('{' :: (cs ++ '}' :: rest)) = some (obj ms, rest) := by
  rw [value?, skipBlanks_cons rfl]
  exact h.object?_complete hms hlen rest

theorem Exact.level_complete {depth : Nat}
    (h : Exact (Led (Written depth)) (value? fuel depth) fuel) {v : Json} {text rest : List Char}
    (hv : Level (Led (Written depth)) v text) (hlen : text.length ≤ fuel) (hr : Ends rest) :
    value? fuel (depth + 1) (text ++ rest) = some (v, rest) := by
  cases hv with
  | scalar hv => exact value?_of_scalar hv hr fuel (depth + 1)
  | @list vs cs items =>
    simp only [List.length_append, List.length_cons] at hlen
    have hlist := h.list?_complete items (by omega) rest
    have hshape : '[' :: (cs ++ [']']) ++ rest = '[' :: (cs ++ ']' :: rest) := by simp
    rw [hshape, value?, skipBlanks_cons rfl]
    exact hlist
  | @object ms cs members =>
    simp only [List.length_append, List.length_cons] at hlen
    have hshape : '{' :: (cs ++ ['}']) ++ rest = '{' :: (cs ++ '}' :: rest) := by simp
    rw [hshape]
    exact h.value?_object members (by omega) rest

theorem Exact.level_sound {depth : Nat} (h : Exact (Led (Written depth)) (value? fuel depth) fuel)
    {v : Json} {cs rest : List Char} (hv : value? fuel (depth + 1) cs = some (v, rest)) :
    ∃ text, skipBlanks cs = text ++ rest ∧ Level (Led (Written depth)) v text := by
  rw [value?] at hv
  split at hv
  · rename_i ds hopen
    rw [list?_eq] at hv
    obtain ⟨⟨vs, cs'⟩, hvs, hpair⟩ := Option.map_eq_some_iff.mp hv
    cases hpair
    obtain ⟨text, rfl, hlisted⟩ := h.listed?_sound hvs
    exact ⟨'[' :: (text ++ [']']), by rw [hopen]; simp, .list hlisted⟩
  · rename_i ds hopen
    rw [object?_eq] at hv
    obtain ⟨⟨ms, cs'⟩, hms, hpair⟩ := Option.map_eq_some_iff.mp hv
    cases hpair
    obtain ⟨text, rfl, hlisted⟩ := h.member.listed?_sound hms
    exact ⟨'{' :: (text ++ ['}']), by rw [hopen]; simp, .object hlisted⟩
  · obtain ⟨text, hcs, hscalar⟩ := scalar?_sound hv
    exact ⟨text, hcs, .scalar hscalar⟩

/-- A reader that takes what is written off the front of a text is exact behind blanks. -/
theorem exact_of_behind {depth : Nat}
    (sound : ∀ {cs rest : List Char} {v : Json}, value? fuel depth cs = some (v, rest) →
      ∃ text, skipBlanks cs = text ++ rest ∧ Written depth v text)
    (complete : ∀ {v : Json} {text rest : List Char}, Written depth v text → text.length ≤ fuel →
      Ends rest → value? fuel depth (text ++ rest) = some (v, rest)) :
    Exact (Led (Written depth)) (value? fuel depth) fuel where
  skips := value?_skipBlanks fuel depth
  closing cs hc := value?_closing fuel depth cs hc
  sound := by
    intro cs rest v h
    obtain ⟨bs, hbs, hcs⟩ := exists_blanks cs
    obtain ⟨text, htext, hv⟩ := sound h
    rw [htext, ← List.append_assoc] at hcs
    exact ⟨bs ++ text, hcs, bs, text, hbs, rfl, hv⟩
  complete := by
    rintro v - rest ⟨bs, text, hbs, rfl, hv⟩ hlen hr
    rw [List.length_append] at hlen
    rw [List.append_assoc, ← value?_skipBlanks, skipBlanks_append hbs, value?_skipBlanks]
    exact complete hv (by omega) hr

/-- The reader of values is exact for what is written, behind blanks. -/
theorem exact_value? (fuel depth : Nat) :
    Exact (Led (Written depth)) (value? fuel depth) fuel := by
  induction depth with
  | zero =>
    refine exact_of_behind ?_ fun hv _ hr => value?_of_scalar hv hr fuel 0
    intro cs rest v h
    rw [value?] at h
    split at h
    · cases h
    · cases h
    · exact scalar?_sound h
  | succ depth ih => exact exact_of_behind ih.level_sound ih.level_complete

theorem ofChars_iff {v : Json} {cs : List Char} : ofChars cs = some v ↔ Document v cs := by
  have hexact := exact_value? cs.length maxDepth
  constructor
  · intro h
    obtain ⟨⟨v', rest⟩, hread, hend⟩ := Option.bind_eq_some_iff.mp h
    dsimp only at hend
    split at hend
    · rename_i hempty
      cases hend
      obtain ⟨text, hcs, hv⟩ := hexact.sound hread
      exact ⟨text, rest, hv, skipBlanks_eq_nil_iff.mp (List.isEmpty_iff.mp hempty), hcs⟩
    · cases hend
  · rintro ⟨text, bs, hv, hbs, rfl⟩
    have hends : Ends bs := by
      rw [← List.append_nil bs]
      exact hbs.ends ends_nil
    have hread := hexact.complete hv (by simp) hends
    unfold ofChars
    simp only [hread, Option.bind_eq_bind, Option.bind_some, skipBlanks_eq_nil_iff.mpr hbs,
      List.isEmpty_nil, if_true]

/-- Behind an opening brace nothing but an object is read. -/
theorem object_of_value? {depth : Nat} {cs rest : List Char} {v : Json}
    (h : value? fuel (depth + 1) ('{' :: cs) = some (v, rest)) :
    ∃ ms text, cs = text ++ '}' :: rest ∧ Listed (Entry (Led (Written depth))) ms text := by
  rw [value?, skipBlanks_cons rfl] at h
  have hobject : object? (value? fuel depth) fuel cs = some (v, rest) := h
  rw [object?_eq] at hobject
  obtain ⟨⟨ms, rest'⟩, hms, hpair⟩ := Option.map_eq_some_iff.mp hobject
  cases hpair
  obtain ⟨text, hcs, hlisted⟩ := (exact_value? fuel depth).member.listed?_sound hms
  exact ⟨ms, text, hcs, hlisted⟩

/-- No text that goes on behind the object it starts with is a text of an object. -/
theorem ofChars_cut {ms : Members} {body cs es : List Char}
    (h : Listed (Entry (Led (Written 126))) ms body) (hcut : '{' :: (body ++ ['}']) = cs ++ es)
    (hes : es ≠ []) : ofChars cs = none := by
  by_contra hsome
  obtain ⟨v, hv⟩ := Option.ne_none_iff_exists'.mp hsome
  obtain ⟨⟨v', rest⟩, hread, -⟩ := Option.bind_eq_some_iff.mp hv
  cases cs with
  | nil => cases hv
  | cons c cs =>
    rw [List.cons_append] at hcut
    obtain ⟨rfl, hbody⟩ := List.cons.inj hcut
    obtain ⟨ms', body', rfl, h'⟩ := object_of_value? hread
    have hlen := congrArg List.length hbody
    simp only [List.length_append, List.length_cons, List.length_nil] at hlen
    have hexact := exact_value? (body.length + 1) 126
    have hwhole := hexact.value?_object h (Nat.lt_succ_self _) []
    have hpart := hexact.value?_object h' (by omega) (rest ++ es)
    have hshape : body' ++ '}' :: (rest ++ es) = body ++ '}' :: [] := by
      rw [hbody]
      simp
    rw [hshape, hwhole] at hpart
    have hrest := (Prod.mk.inj (Option.some.inj hpart)).2
    exact hes (List.append_eq_nil_iff.mp hrest.symm).2

end DebateMesh.Json
