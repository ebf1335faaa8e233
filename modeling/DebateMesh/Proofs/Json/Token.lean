import DebateMesh.Proofs.Json.Number

namespace DebateMesh.Json

/-- A character of a string, and a way to write it. -/
inductive Spelling : Char → List Char → Prop
  | plain {c : Char} (quote : c ≠ '"') (slash : c ≠ '\\') (control : ' ' ≤ c) : Spelling c [c]
  | simple {e x : Char} (named : simpleEscape? e = some x) : Spelling x ['\\', e]
  | unit {a b c d : Char} {n : Nat} (digits : unit? a b c d = some n)
      (alone : isSurrogate n = false) : Spelling (Char.ofNat n) ['\\', 'u', a, b, c, d]
  | pair {a b c d a' b' c' d' x : Char} {high low : Nat} (first : unit? a b c d = some high)
      (second : unit? a' b' c' d' = some low) (paired : pair? high low = some x) :
      Spelling x ['\\', 'u', a, b, c, d, '\\', 'u', a', b', c', d']

/-- Characters, each in one of its spellings. -/
inductive Spelled : List Char → List Char → Prop
  | nil : Spelled [] []
  | cons {c : Char} {cs w ws : List Char} (h : Spelling c w) (rest : Spelled cs ws) :
      Spelled (c :: cs) (w ++ ws)

/-- A string between its quotes. -/
def Quoted (s : String) (cs : List Char) : Prop :=
  ∃ body, cs = '"' :: (body ++ ['"']) ∧ Spelled s.toList body

theorem stringBody_plain {c : Char} {cs acc : List Char} (hq : c ≠ '"') (hb : c ≠ '\\')
    (hc : ' ' ≤ c) : stringBody (c :: cs) acc = stringBody cs (c :: acc) := by
  have hnot : ¬ c < ' ' := Char.not_lt.mpr hc
  rw [stringBody.eq_def]
  simp only [if_neg hq, if_neg hb, if_neg hnot]

theorem stringBody_simple {e x : Char} {cs acc : List Char} (hu : e ≠ 'u')
    (hx : simpleEscape? e = some x) :
    stringBody ('\\' :: e :: cs) acc = stringBody cs (x :: acc) := by
  rw [stringBody.eq_def]
  simp [hu, hx]

theorem stringBody_unit {a b c d : Char} {n : Nat} (hn : unit? a b c d = some n)
    (hs : isSurrogate n = false) (cs acc : List Char) :
    stringBody ('\\' :: 'u' :: a :: b :: c :: d :: cs) acc =
      stringBody cs (Char.ofNat n :: acc) := by
  rw [stringBody.eq_def]
  simp [hn, hs]

theorem isSurrogate_of_pair? {high low : Nat} {x : Char} (h : pair? high low = some x) :
    isSurrogate high = true := by
  unfold pair? at h
  split at h
  · rename_i hrange
    rw [isSurrogate, decide_eq_true_eq]
    omega
  · cases h

theorem stringBody_pair {a b c d a' b' c' d' x : Char} {high low : Nat}
    (first : unit? a b c d = some high) (second : unit? a' b' c' d' = some low)
    (paired : pair? high low = some x) (cs acc : List Char) :
    stringBody ('\\' :: 'u' :: a :: b :: c :: d :: '\\' :: 'u' :: a' :: b' :: c' :: d' :: cs) acc =
      stringBody cs (x :: acc) := by
  rw [stringBody.eq_def]
  simp [first, isSurrogate_of_pair? paired, second, paired]

theorem stringBody_spelling {c : Char} {w : List Char} (h : Spelling c w) (cs acc : List Char) :
    stringBody (w ++ cs) acc = stringBody cs (c :: acc) := by
  cases h with
  | plain quote slash control => exact stringBody_plain quote slash control
  | @simple e x named =>
    have hu : e ≠ 'u' := by
      rintro rfl
      cases named
    exact stringBody_simple hu named
  | unit digits alone => exact stringBody_unit digits alone cs acc
  | pair first second paired => exact stringBody_pair first second paired cs acc

theorem stringBody_spelled {xs body : List Char} (h : Spelled xs body) (rest acc : List Char) :
    stringBody (body ++ '"' :: rest) acc = some (String.ofList (acc.reverse ++ xs), rest) := by
  induction h generalizing acc with
  | nil =>
    rw [List.nil_append, stringBody.eq_def, List.append_nil]
    simp
  | cons h _ ih =>
    rw [List.append_assoc, stringBody_spelling h, ih, List.reverse_cons, List.append_assoc]
    rfl

/-- The text holds the rest of the string `s` behind what is in `acc`, and `rest` behind its closing
quote. -/
def EndsString (s : String) (cs acc rest : List Char) : Prop :=
  ∃ xs body, Spelled xs body ∧ cs = body ++ '"' :: rest ∧ s = String.ofList (acc.reverse ++ xs)

theorem EndsString.cons {s : String} {x : Char} {w cs acc rest : List Char} (hx : Spelling x w)
    (h : EndsString s cs (x :: acc) rest) : EndsString s (w ++ cs) acc rest := by
  obtain ⟨xs, body, hbody, rfl, rfl⟩ := h
  refine ⟨x :: xs, w ++ body, .cons hx hbody, (List.append_assoc _ _ _).symm, ?_⟩
  rw [List.reverse_cons, List.append_assoc]
  rfl

theorem endsString_of_stringBody {cs acc rest : List Char} {s : String}
    (h : stringBody cs acc = some (s, rest)) : EndsString s cs acc rest := by
  fun_induction stringBody cs acc with
  | case2 cs acc =>
    cases h
    exact ⟨[], [], .nil, rfl, by rw [List.append_nil]⟩
  | case5 acc a b c d high first _ s u a' b' c' d' cs hu x second _ ih =>
    obtain ⟨rfl, rfl⟩ := hu
    obtain ⟨low, hlow, paired⟩ := Option.bind_eq_some_iff.mp second
    exact (ih h).cons (.pair first hlow paired)
  | case9 acc a b c d cs n digits alone _ ih =>
    exact (ih h).cons (.unit digits (Bool.eq_false_iff.mpr alone))
  | case11 acc e cs _ x named _ ih => exact (ih h).cons (.simple named)
  | case14 c cs acc quote slash control ih =>
    exact (ih h).cons (.plain quote slash (Char.not_lt.mp control))
  | _ => cases h

/-- A string is what is spelled up to the first quote that no spelling takes. -/
theorem stringBody_iff {cs rest : List Char} {s : String} : stringBody cs [] = some (s, rest) ↔
    ∃ body, cs = body ++ '"' :: rest ∧ Spelled s.toList body := by
  constructor
  · intro h
    obtain ⟨xs, body, hbody, hcs, hs⟩ := endsString_of_stringBody h
    refine ⟨body, hcs, ?_⟩
    rw [hs, String.toList_ofList]
    exact hbody
  · rintro ⟨body, rfl, hbody⟩
    rw [stringBody_spelled hbody]
    simp

/-- One or more digits. -/
structure Digits (ds : List Char) : Prop where
  nonempty : ds ≠ []
  digits : ∀ c ∈ ds, isDigit c = true

/-- A signed power of ten. -/
structure Exponent where
  letter : Char
  sign : Option Char
  digits : List Char
  letter_ok : letter = 'e' ∨ letter = 'E'
  sign_ok : ∀ c ∈ sign, c = '-' ∨ c = '+'
  digits_ok : Digits digits

/-- A number in its parts; an empty fraction has no point. -/
structure Numeral where
  negative : Bool
  whole : List Char
  fraction : List Char
  exponent : Option Exponent
  whole_ok : Digits whole
  leading : whole.head? = some '0' → whole.length = 1
  fraction_ok : ∀ c ∈ fraction, isDigit c = true

namespace Exponent

def text (e : Exponent) : List Char := e.letter :: (e.sign.toList ++ e.digits)

def value (e : Exponent) : Int :=
  if e.sign = some '-' then -(natOf e.digits : Int) else natOf e.digits

end Exponent

/-- The value of a number's parts. Without fraction or exponent it is whole, and of no more than 400
digits. -/
def numberOf? (negative : Bool) (ds fs : List Char) (e : Option Int) : Option Json :=
  if fs.isEmpty ∧ e.isNone then
    if 400 < ds.length then none else finite? (wholeNumber negative (natOf ds))
  else
    finite? (double (Binary64.ofDecimal negative (decimalOf ds fs (e.getD 0))))

/-- The digits behind a point, if there are any. -/
def pointed (fs : List Char) : List Char := if fs.isEmpty then [] else '.' :: fs

namespace Numeral

/-- What stands behind the sign. -/
def magnitudeText (n : Numeral) : List Char :=
  n.whole ++ (pointed n.fraction ++ (n.exponent.map Exponent.text).getD [])

def text (n : Numeral) : List Char :=
  if n.negative then '-' :: n.magnitudeText else n.magnitudeText

def value? (n : Numeral) : Option Json :=
  numberOf? n.negative n.whole n.fraction (n.exponent.map Exponent.value)

end Numeral

theorem digits?_split {cs ds rest : List Char} (h : digits? cs = some (ds, rest)) :
    cs = ds ++ rest ∧ Digits ds := by
  unfold digits? at h
  split at h
  · cases h
  · rename_i hne
    cases h
    exact ⟨List.takeWhile_append_dropWhile.symm, hne,
      fun c hc => List.all_eq_true.mp List.all_takeWhile c hc⟩

theorem whole?_split {cs ds rest : List Char} (h : whole? cs = some (ds, rest)) :
    cs = ds ++ rest ∧ Digits ds ∧ (ds.head? = some '0' → ds.length = 1) := by
  obtain ⟨⟨ds', rest'⟩, hd, hif⟩ := Option.bind_eq_some_iff.mp h
  dsimp only at hif
  split at hif
  · cases hif
  · rename_i hleading
    cases hif
    obtain ⟨hcs, hds⟩ := digits?_split hd
    exact ⟨hcs, hds, fun h0 => by_contra fun hlen => hleading ⟨h0, hlen⟩⟩

theorem fraction?_split {cs fs rest : List Char} (h : fraction? cs = some (fs, rest)) :
    cs = pointed fs ++ rest ∧ ∀ c ∈ fs, isDigit c = true := by
  unfold fraction? at h
  split at h
  · obtain ⟨rfl, hfs⟩ := digits?_split h
    have hne : fs.isEmpty = false := List.isEmpty_eq_false_iff.mpr hfs.nonempty
    exact ⟨by rw [pointed, hne]; rfl, hfs.digits⟩
  · cases h
    exact ⟨rfl, List.forall_mem_nil _⟩

theorem exponent_of_digits {c : Char} {sign : Option Char} {negative : Bool}
    {cs rest : List Char} {e : Option Int} (hc : c = 'e' ∨ c = 'E')
    (hsign : ∀ s ∈ sign, s = '-' ∨ s = '+') (hneg : negative = true ↔ sign = some '-')
    (h : ((digits? cs).bind fun r =>
      some (some (if negative = true then -(natOf r.1 : Int) else natOf r.1), r.2)) =
        some (e, rest)) :
    ∃ x : Option Exponent, x.map Exponent.value = e ∧
      c :: (sign.toList ++ cs) = (x.map Exponent.text).getD [] ++ rest := by
  obtain ⟨⟨ds, rest'⟩, hd, hpure⟩ := Option.bind_eq_some_iff.mp h
  obtain ⟨rfl, hds⟩ := digits?_split hd
  cases hpure
  refine ⟨some ⟨c, sign, ds, hc, hsign, hds⟩, ?_, ?_⟩
  · simp only [Option.map_some, Exponent.value, hneg]
  · simp [Exponent.text]

theorem exponent?_split {cs rest : List Char} {e : Option Int} (h : exponent? cs = some (e, rest)) :
    ∃ x : Option Exponent, x.map Exponent.value = e ∧
      cs = (x.map Exponent.text).getD [] ++ rest := by
  cases cs with
  | nil =>
    cases h
    exact ⟨none, rfl, rfl⟩
  | cons c cs =>
    unfold exponent? at h
    dsimp only at h
    split at h
    · rename_i hc
      split at h
      · exact @exponent_of_digits c (some '-') true _ _ _ hc (by simp) (by simp) h
      · exact @exponent_of_digits c (some '+') false _ _ _ hc (by simp) (by simp) h
      · exact @exponent_of_digits c none false _ _ _ hc (by simp) (by simp) h
    · cases h
      exact ⟨none, rfl, rfl⟩

theorem unsigned?_of_parts {cs cs₁ cs₂ rest ds fs : List Char} {e : Option Int}
    (hw : whole? cs = some (ds, cs₁)) (hf : fraction? cs₁ = some (fs, cs₂))
    (he : exponent? cs₂ = some (e, rest)) (negative : Bool) :
    unsigned? negative cs = (numberOf? negative ds fs e).map fun v => (v, rest) := by
  unfold unsigned? numberOf?
  simp only [hw, hf, he, Option.bind_eq_bind, Option.bind_some]
  split
  · split
    · rfl
    · cases finite? (wholeNumber negative (natOf ds)) <;> rfl
  · cases finite? (double (Binary64.ofDecimal negative (decimalOf ds fs (e.getD 0)))) <;> rfl

/-- What is read as a number is the text of one. -/
theorem numeral_of_unsigned? {negative : Bool} {cs rest : List Char} {v : Json}
    (h : unsigned? negative cs = some (v, rest)) :
    ∃ n : Numeral, n.negative = negative ∧ cs = n.magnitudeText ++ rest ∧ n.value? = some v := by
  obtain ⟨⟨ds, cs₁⟩, hw, hrest⟩ := Option.bind_eq_some_iff.mp h
  obtain ⟨⟨fs, cs₂⟩, hf, hrest⟩ := Option.bind_eq_some_iff.mp hrest
  obtain ⟨⟨e, cs₃⟩, he, -⟩ := Option.bind_eq_some_iff.mp hrest
  rw [unsigned?_of_parts hw hf he] at h
  obtain ⟨v', hv, hpair⟩ := Option.map_eq_some_iff.mp h
  cases hpair
  obtain ⟨rfl, hds, hleading⟩ := whole?_split hw
  obtain ⟨rfl, hfs⟩ := fraction?_split hf
  obtain ⟨x, rfl, rfl⟩ := exponent?_split he
  refine ⟨⟨negative, ds, fs, x, hds, hleading, hfs⟩, rfl, ?_, hv⟩
  simp only [Numeral.magnitudeText, List.append_assoc]

theorem numeral_of_number? {cs rest : List Char} {v : Json} (h : number? cs = some (v, rest)) :
    ∃ n : Numeral, cs = n.text ++ rest ∧ n.value? = some v := by
  unfold number? at h
  split at h
  · obtain ⟨n, hn, rfl, hv⟩ := numeral_of_unsigned? h
    exact ⟨n, by rw [Numeral.text, hn]; rfl, hv⟩
  · obtain ⟨n, hn, rfl, hv⟩ := numeral_of_unsigned? h
    exact ⟨n, by rw [Numeral.text, hn]; rfl, hv⟩

theorem fraction?_pointed {fs rest : List Char} (hfs : ∀ c ∈ fs, isDigit c = true)
    (hr : ∀ c ∈ rest.head?, isDigit c = false ∧ c ≠ '.') :
    fraction? (pointed fs ++ rest) = some (fs, rest) := by
  cases fs with
  | nil => exact fraction?_none fun c hc => (hr c hc).2
  | cons f fs => exact fraction?_point (List.cons_ne_nil _ _) hfs fun c hc => (hr c hc).1

theorem exponent?_text (x : Exponent) {rest : List Char}
    (hr : ∀ c ∈ rest.head?, isDigit c = false) :
    exponent? (x.text ++ rest) = some (some x.value, rest) := by
  obtain ⟨letter, sign, ds, hletter, hsign, hds⟩ := x
  have hd := digits?_append hds.nonempty hds.digits hr
  cases sign with
  | some s =>
    rcases hsign s rfl with rfl | rfl <;>
    · simp [exponent?, hletter, hd, Exponent.text, Exponent.value]
  | none =>
    have hfirst : ∀ c cs, ds ++ rest = c :: cs → isDigit c = true := by
      intro c cs heq
      cases ds with
      | nil => exact absurd rfl hds.nonempty
      | cons d ds =>
        cases heq
        exact hds.digits _ List.mem_cons_self
    unfold exponent? Exponent.text
    simp only [Option.toList_none, List.nil_append, List.cons_append, if_pos hletter]
    split
    · rename_i heq
      exact absurd (hfirst _ _ heq) (by decide)
    · rename_i heq
      exact absurd (hfirst _ _ heq) (by decide)
    · simp [hd, Exponent.value]

/-- A number is read with its value, in front of anything that does not go on with it. -/
theorem unsigned?_numeral (n : Numeral) {v : Json} (hv : n.value? = some v) {rest : List Char}
    (hr : Ends rest) : unsigned? n.negative (n.magnitudeText ++ rest) = some (v, rest) := by
  have he : exponent? ((n.exponent.map Exponent.text).getD [] ++ rest) =
      some (n.exponent.map Exponent.value, rest) := by
    cases n.exponent with
    | none => exact exponent?_none fun c hc => (hr c hc).2.2
    | some x => exact exponent?_text x hr.notDigit
  have hx : ∀ c ∈ ((n.exponent.map Exponent.text).getD [] ++ rest).head?,
      isDigit c = false ∧ c ≠ '.' := by
    cases n.exponent with
    | none => exact fun c hc => ⟨(hr c hc).1, (hr c hc).2.1⟩
    | some x =>
      intro c hc
      cases hc
      rcases x.letter_ok with h | h <;> rw [h] <;> decide
  have hf := fraction?_pointed n.fraction_ok hx
  have hw : whole? (n.whole ++ (pointed n.fraction ++
      ((n.exponent.map Exponent.text).getD [] ++ rest))) = some (n.whole, pointed n.fraction ++
        ((n.exponent.map Exponent.text).getD [] ++ rest)) := by
    refine whole?_append n.whole_ok.nonempty n.whole_ok.digits n.leading ?_
    cases n.fraction with
    | nil => exact fun c hc => (hx c hc).1
    | cons f fs =>
      intro c hc
      cases hc
      rfl
  rw [Numeral.magnitudeText, List.append_assoc, List.append_assoc, unsigned?_of_parts hw hf he]
  exact congrArg (Option.map _) hv

theorem number?_numeral (n : Numeral) {v : Json} (hv : n.value? = some v) {rest : List Char}
    (hr : Ends rest) : number? (n.text ++ rest) = some (v, rest) := by
  have hread := unsigned?_numeral n hv hr
  unfold Numeral.text
  cases hn : n.negative with
  | true =>
    rw [hn] at hread
    exact hread
  | false =>
    rw [hn] at hread
    exact number?_of_unsigned hread

end DebateMesh.Json
