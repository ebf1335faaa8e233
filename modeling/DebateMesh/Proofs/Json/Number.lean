import DebateMesh.Json.Printer
import DebateMesh.Json.Reader
import DebateMesh.Proofs.Binary64.Decimal
import Mathlib.Tactic.FieldSimp

namespace DebateMesh.Json

open Decimal (digitChars)

/-- Nothing that goes on with a number. -/
def Ends (rest : List Char) : Prop :=
  ∀ c ∈ rest.head?, isDigit c = false ∧ c ≠ '.' ∧ c ≠ 'e' ∧ c ≠ 'E'

theorem ends_nil : Ends [] := by
  intro c hc
  cases hc

theorem Ends.notDigit {rest : List Char} (h : Ends rest) : ∀ c ∈ rest.head?, isDigit c = false :=
  fun c hc => (h c hc).1

theorem isDigit_eq (c : Char) : isDigit c = c.isDigit := by
  rw [Bool.eq_iff_iff]
  simp [isDigit, Char.isDigit, Char.le_def]

theorem isDigit_of_mem {n : Nat} {c : Char} (h : c ∈ digitChars n) : isDigit c = true := by
  rw [isDigit_eq]
  exact Nat.isDigit_of_mem_toDigits (by decide) (by decide) h

theorem toNat_of_isDigit {c : Char} (h : isDigit c = true) : 48 ≤ c.toNat ∧ c.toNat ≤ 57 := by
  simp only [isDigit, decide_eq_true_eq, Char.le_def] at h
  exact h

theorem natOf_eq (ds : List Char) : natOf ds = Nat.ofDigitChars 10 ds 0 := by
  rw [Nat.ofDigitChars_eq_foldl, natOf]
  congr
  funext n c
  rw [Nat.mul_comm]
  rfl

@[simp] theorem natOf_digitChars (n : Nat) : natOf (digitChars n) = n := by
  rw [natOf_eq]
  exact Nat.ofDigitChars_ten_toDigits

theorem natOf_append (as bs : List Char) :
    natOf (as ++ bs) = natOf as * 10 ^ bs.length + natOf bs := by
  simp only [natOf_eq]
  rw [Nat.ofDigitChars_append, Nat.ofDigitChars_eq_ofDigitChars_zero, Nat.mul_comm]

@[simp] theorem natOf_zeros (n : Nat) : natOf (List.replicate n '0') = 0 := by
  rw [natOf_eq, Nat.ofDigitChars_replicate_zero]
  rfl

theorem natOf_cons_zero (ds : List Char) : natOf ('0' :: ds) = natOf ds := by
  have h := natOf_append ['0'] ds
  have h0 : natOf ['0'] = 0 := rfl
  rw [h0, Nat.zero_mul, Nat.zero_add] at h
  exact h

theorem natOf_dropWhile (ds : List Char) : natOf (ds.dropWhile (· == '0')) = natOf ds := by
  induction ds with
  | nil => rfl
  | cons c ds ih =>
    rw [List.dropWhile_cons]
    split
    · rename_i hc
      rw [beq_iff_eq] at hc
      rw [ih, hc, natOf_cons_zero]
    · rfl

theorem natOf_lt {ds : List Char} (h : ∀ c ∈ ds, isDigit c = true) : natOf ds < 10 ^ ds.length := by
  induction ds with
  | nil => exact Nat.one_pos
  | cons c ds ih =>
    have hc := toNat_of_isDigit (h c List.mem_cons_self)
    have hds := ih fun x hx => h x (List.mem_cons_of_mem _ hx)
    have happ := natOf_append [c] ds
    have hone : natOf [c] ≤ 9 := by
      simp only [natOf, List.foldl_cons, List.foldl_nil]
      omega
    have hmul : natOf [c] * 10 ^ ds.length ≤ 9 * 10 ^ ds.length := Nat.mul_le_mul_right _ hone
    rw [List.singleton_append] at happ
    rw [happ, List.length_cons, Nat.pow_succ]
    omega

theorem head_digitChars {n : Nat} (h : 0 < n) : (digitChars n).head? ≠ some '0' := by
  intro h0
  obtain ⟨ds, hds⟩ := List.head?_eq_some_iff.mp h0
  have hall : ∀ c ∈ ds, isDigit c = true := fun c hc =>
    isDigit_of_mem (n := n) (by rw [hds]; exact List.mem_cons_of_mem _ hc)
  have hlt := natOf_lt hall
  have hle := Decimal.pow_length_le h
  have hn := natOf_digitChars n
  rw [hds, natOf_cons_zero] at hn
  rw [hds, List.length_cons, Nat.add_sub_cancel] at hle
  omega

theorem digits?_append {ds rest : List Char} (hne : ds ≠ []) (hd : ∀ c ∈ ds, isDigit c = true)
    (hr : ∀ c ∈ rest.head?, isDigit c = false) : digits? (ds ++ rest) = some (ds, rest) := by
  have htake : rest.takeWhile isDigit = [] := by
    cases rest with
    | nil => rfl
    | cons c rest => rw [List.takeWhile_cons, hr c rfl]; rfl
  have hdrop : rest.dropWhile isDigit = rest := by
    cases rest with
    | nil => rfl
    | cons c rest => rw [List.dropWhile_cons, hr c rfl]; rfl
  unfold digits?
  rw [List.takeWhile_append_of_pos hd, List.dropWhile_append_of_pos hd, htake, hdrop,
    List.append_nil]
  cases ds with
  | nil => exact absurd rfl hne
  | cons d ds => rfl

theorem whole?_append {ds rest : List Char} (hne : ds ≠ []) (hd : ∀ c ∈ ds, isDigit c = true)
    (h0 : ds.head? = some '0' → ds.length = 1) (hr : ∀ c ∈ rest.head?, isDigit c = false) :
    whole? (ds ++ rest) = some (ds, rest) := by
  unfold whole?
  rw [digits?_append hne hd hr]
  exact if_neg fun h => h.2 (h0 h.1)

theorem fraction?_point {fs rest : List Char} (hne : fs ≠ []) (hf : ∀ c ∈ fs, isDigit c = true)
    (hr : ∀ c ∈ rest.head?, isDigit c = false) :
    fraction? ('.' :: (fs ++ rest)) = some (fs, rest) :=
  digits?_append hne hf hr

theorem fraction?_none {cs : List Char} (h : ∀ c ∈ cs.head?, c ≠ '.') :
    fraction? cs = some ([], cs) := by
  unfold fraction?
  split
  · exact absurd rfl (h '.' rfl)
  · rfl

theorem exponent?_none {cs : List Char} (h : ∀ c ∈ cs.head?, c ≠ 'e' ∧ c ≠ 'E') :
    exponent? cs = some (none, cs) := by
  cases cs with
  | nil => rfl
  | cons c cs =>
    obtain ⟨h1, h2⟩ := h c rfl
    unfold exponent?
    exact if_neg fun hc => hc.elim h1 h2

/-- The signed power of ten that `Decimal.scientific` writes. -/
theorem exponent?_signed (e : Int) {rest : List Char} (hr : ∀ c ∈ rest.head?, isDigit c = false) :
    exponent? ('e' :: (if e < 0 then '-' else '+') :: (digitChars e.natAbs ++ rest)) =
      some (some e, rest) := by
  have hd := @digits?_append (digitChars e.natAbs) rest Nat.toDigits_ne_nil
    (fun c hc => isDigit_of_mem hc) hr
  by_cases hneg : e < 0
  · rw [if_pos hneg]
    simp [exponent?, hd, abs_of_neg hneg]
  · rw [if_neg hneg]
    simp [exponent?, hd, abs_of_nonneg (not_lt.mp hneg)]

theorem eq_zeros_append (cs : List Char) :
    ∃ n, cs = List.replicate n '0' ++ cs.dropWhile (· == '0') := by
  induction cs with
  | nil => exact ⟨0, rfl⟩
  | cons c cs ih =>
    rw [List.dropWhile_cons]
    split
    · rename_i hc
      obtain ⟨n, hn⟩ := ih
      refine ⟨n + 1, ?_⟩
      rw [List.replicate_succ, List.cons_append, ← hn, beq_iff_eq.mp hc]
    · exact ⟨0, rfl⟩

/-- Dropping the zeros at the end of a fraction leaves the value as it is. -/
theorem decimalOf_value {ds fs : List Char} {e : Int} (h : (ds ++ fs).length ≤ maxDigits) :
    (decimalOf ds fs e).value = natOf (ds ++ fs) * (10 : ℚ) ^ (e - fs.length) := by
  obtain ⟨kept, hk⟩ : ∃ kept, kept = (fs.reverse.dropWhile (· == '0')).reverse := ⟨_, rfl⟩
  obtain ⟨n, hn⟩ : ∃ n, fs = kept ++ List.replicate n '0' := by
    obtain ⟨n, hn⟩ := eq_zeros_append fs.reverse
    refine ⟨n, ?_⟩
    rw [← List.reverse_reverse fs, hn, List.reverse_append, List.reverse_replicate, hk]
  have hlen : ((ds ++ kept).dropWhile (· == '0')).length ≤ (ds ++ kept).length :=
    (List.dropWhile_suffix _).length_le
  have hle : (ds ++ kept).length ≤ (ds ++ fs).length := by
    rw [hn, ← List.append_assoc, @List.length_append _ (ds ++ kept)]
    omega
  have hval : natOf (ds ++ fs) = natOf (ds ++ kept) * 10 ^ n := by
    rw [hn, ← List.append_assoc, natOf_append, natOf_zeros, List.length_replicate, Nat.add_zero]
  have hexp : e - (kept.length : Int) = e - (fs.length : Int) + (n : Int) := by
    have hf : fs.length = kept.length + n := by rw [hn, List.length_append, List.length_replicate]
    omega
  unfold decimalOf
  dsimp only
  rw [← hk, if_pos (by omega), Decimal.value, natOf_dropWhile, hval, hexp,
    zpow_add₀ (by norm_num), zpow_natCast]
  push_cast
  ring

/-- The characters up to `rest` are read as a double, from a decimal of this value. -/
def Spells (cs rest : List Char) (v : ℚ) : Prop :=
  ∃ d : Decimal, d.value = v ∧ ∀ negative, unsigned? negative cs =
    (finite? (double (Binary64.ofDecimal negative d))).map fun x => (x, rest)

/-- A fraction or an exponent makes a number a double. -/
theorem spells_of_parts {cs cs₁ cs₂ rest ds fs : List Char} {e : Option Int}
    (hw : whole? cs = some (ds, cs₁)) (hf : fraction? cs₁ = some (fs, cs₂))
    (he : exponent? cs₂ = some (e, rest)) (hdouble : ¬ (fs.isEmpty = true ∧ e.isNone = true))
    (hlen : (ds ++ fs).length ≤ maxDigits) :
    Spells cs rest (natOf (ds ++ fs) * (10 : ℚ) ^ (e.getD 0 - fs.length)) := by
  refine ⟨_, decimalOf_value hlen, fun negative => ?_⟩
  unfold unsigned?
  simp only [hw, hf, he, Option.bind_eq_bind, Option.bind_some, if_neg hdouble]
  cases finite? (double (Binary64.ofDecimal negative (decimalOf ds fs (e.getD 0)))) <;> rfl

theorem zero_isDigit : ∀ c ∈ ['0'], isDigit c = true := by
  intro c hc
  rw [List.mem_singleton.mp hc]
  rfl

theorem spells_point (ds fs : List Char) {rest : List Char} (hne : ds ≠ [])
    (hd : ∀ c ∈ ds, isDigit c = true) (h0 : ds.head? = some '0' → ds.length = 1)
    (hf : fs ≠ []) (hfd : ∀ c ∈ fs, isDigit c = true)
    (hlen : (ds ++ fs).length ≤ maxDigits) (hr : Ends rest) :
    Spells (ds ++ '.' :: (fs ++ rest)) rest
      (natOf (ds ++ fs) * (10 : ℚ) ^ (-(fs.length : Int))) := by
  have hw := @whole?_append ds ('.' :: (fs ++ rest)) hne hd h0 (by
    intro c hc
    cases hc
    rfl)
  have hx := exponent?_none fun c hc => (hr c hc).2.2
  have h := spells_of_parts hw (fraction?_point hf hfd hr.notDigit) hx (by simp [hf]) hlen
  rwa [Option.getD_none, zero_sub] at h

theorem mem_zeros {n : Nat} {c : Char} (h : c ∈ List.replicate n '0') : isDigit c = true := by
  rw [List.eq_of_mem_replicate h]
  rfl

/-- A whole number with its zeros and `.0`. -/
theorem spells_whole {n k : Nat} (hn : 0 < n) (hlen : (digitChars n).length + k < maxDigits)
    {rest : List Char} (hr : Ends rest) :
    Spells (digitChars n ++ List.replicate k '0' ++ ['.', '0'] ++ rest) rest
      (n * (10 : ℚ) ^ (k : Int)) := by
  have hne : digitChars n ≠ [] := Nat.toDigits_ne_nil
  have h := spells_point (digitChars n ++ List.replicate k '0') ['0']
    (List.append_ne_nil_of_left_ne_nil hne _)
    (fun c hc => (List.mem_append.mp hc).elim isDigit_of_mem mem_zeros)
    (by
      rw [List.head?_append_of_ne_nil _ hne]
      exact fun h => absurd h (head_digitChars hn))
    (by decide) zero_isDigit
    (by
      simp only [List.length_append, List.length_replicate, List.length_singleton]
      omega) hr
  have hval : natOf (digitChars n ++ List.replicate k '0' ++ ['0']) = n * 10 ^ (k + 1) := by
    rw [List.append_assoc, natOf_append, natOf_digitChars, natOf_append, natOf_zeros]
    simp [natOf]
  have hv : ((n * 10 ^ (k + 1) : Nat) : ℚ) * 10 ^ (-((1 : Nat) : Int)) = n * 10 ^ (k : Int) := by
    rw [zpow_natCast, zpow_neg, zpow_natCast]
    push_cast
    field_simp
    ring
  rw [hval, List.length_singleton, hv] at h
  rwa [List.append_assoc _ ['.', '0']]

/-- A number with its point among its digits. -/
theorem spells_among {n k : Nat} (hn : 0 < n) (hk0 : 0 < k) (hk : k < (digitChars n).length)
    (hlen : (digitChars n).length ≤ maxDigits) {rest : List Char} (hr : Ends rest) :
    Spells ((digitChars n).take k ++ '.' :: (digitChars n).drop k ++ rest) rest
      (n * (10 : ℚ) ^ ((k : Int) - (digitChars n).length)) := by
  have hne : digitChars n ≠ [] := Nat.toDigits_ne_nil
  have h := spells_point ((digitChars n).take k) ((digitChars n).drop k)
    (by simp [hne, Nat.pos_iff_ne_zero.mp hk0])
    (fun c hc => isDigit_of_mem (List.mem_of_mem_take hc))
    (by
      rw [List.head?_take, if_neg (Nat.pos_iff_ne_zero.mp hk0)]
      exact fun h => absurd h (head_digitChars hn))
    (by
      rw [← List.length_pos_iff, List.length_drop]
      omega)
    (fun c hc => isDigit_of_mem (List.mem_of_mem_drop hc))
    (by rwa [List.take_append_drop]) hr
  have he : -(((digitChars n).length - k : Nat) : Int) = k - (digitChars n).length := by omega
  rw [List.take_append_drop, natOf_digitChars, List.length_drop, he] at h
  rwa [List.append_assoc, List.cons_append]

/-- A number below one, with zeros behind the point. -/
theorem spells_below {n k : Nat} (hlen : (digitChars n).length + k < maxDigits)
    {rest : List Char} (hr : Ends rest) :
    Spells ('0' :: '.' :: List.replicate k '0' ++ digitChars n ++ rest) rest
      (n * (10 : ℚ) ^ (-((k + (digitChars n).length : Nat) : Int))) := by
  have h := spells_point ['0'] (List.replicate k '0' ++ digitChars n)
    (by decide) zero_isDigit (fun _ => rfl)
    (List.append_ne_nil_of_right_ne_nil _ Nat.toDigits_ne_nil)
    (fun c hc => (List.mem_append.mp hc).elim mem_zeros isDigit_of_mem)
    (by
      simp only [List.length_append, List.length_replicate, List.length_singleton]
      omega) hr
  have hval : natOf (['0'] ++ (List.replicate k '0' ++ digitChars n)) = n := by
    rw [List.singleton_append, natOf_cons_zero, natOf_append, natOf_zeros, Nat.zero_mul,
      Nat.zero_add, natOf_digitChars]
  rwa [hval, List.length_append, List.length_replicate] at h

/-- What is written without an exponent has the decimal's value. -/
theorem spells_positional {d : Decimal} (hd : 0 < d.digits) (hlow : -5 ≤ d.leading)
    (hhigh : d.leading < 16) (hexp : -417 ≤ d.exponent) {rest : List Char} (hr : Ends rest) :
    Spells (d.positional ['.', '0'] ++ rest) rest d.value := by
  have hpos := Decimal.length_digitChars_pos d.digits
  have hlead : d.leading = d.exponent + (digitChars d.digits).length - 1 := rfl
  unfold Decimal.positional Decimal.value
  dsimp only
  split
  · have h := spells_whole (k := d.exponent.toNat) hd (by unfold maxDigits; omega) hr
    have he : (d.exponent.toNat : Int) = d.exponent := by omega
    rwa [he] at h
  split
  · have h := spells_among (k := d.leading.toNat + 1) hd (by omega) (by omega)
      (by unfold maxDigits; omega) hr
    have he : ((d.leading.toNat + 1 : Nat) : Int) - (digitChars d.digits).length = d.exponent := by
      omega
    rwa [he] at h
  · have h := spells_below (n := d.digits) (k := (-d.leading - 1).toNat)
      (by unfold maxDigits; omega) hr
    have he : -(((-d.leading - 1).toNat + (digitChars d.digits).length : Nat) : Int) =
        d.exponent := by omega
    rwa [he] at h

/-- What is written with an exponent has the decimal's value. -/
theorem spells_scientific {d : Decimal} (hlen : (digitChars d.digits).length ≤ maxDigits)
    {rest : List Char} (hr : Ends rest) :
    Spells (d.scientific ++ rest) rest d.value := by
  obtain ⟨tail, htail⟩ : ∃ tail, tail =
    'e' :: (if d.leading < 0 then '-' else '+') :: (digitChars d.leading.natAbs ++ rest) := ⟨_, rfl⟩
  have hx : exponent? tail = some (some d.leading, rest) := by
    rw [htail]
    exact exponent?_signed d.leading hr.notDigit
  have hstart : ∀ c ∈ tail.head?, c = 'e' := by
    intro c hc
    rw [htail] at hc
    exact (Option.some.inj hc).symm
  have hlead : d.leading = d.exponent + (digitChars d.digits).length - 1 := rfl
  have hall : ∀ c ∈ digitChars d.digits, isDigit c = true := fun c hc => isDigit_of_mem hc
  have hn := natOf_digitChars d.digits
  rw [Decimal.value]
  rcases hds : digitChars d.digits with - | ⟨x, - | ⟨y, ys⟩⟩
  · exact absurd hds Nat.toDigits_ne_nil
  · have hshape : d.scientific ++ rest = [x] ++ tail := by
      rw [htail, Decimal.scientific, hds, List.append_assoc]
      rfl
    rw [hds] at hall hn hlen hlead
    have hw := @whole?_append [x] tail (by simp) hall (fun _ => rfl)
      (fun c hc => by rw [hstart c hc]; rfl)
    have hf := @fraction?_none tail fun c hc => by rw [hstart c hc]; decide
    have h := spells_of_parts hw hf hx (by simp) hlen
    rw [List.append_nil, hn, List.length_nil, Option.getD_some] at h
    have he : d.exponent = d.leading - ((0 : Nat) : Int) := by
      rw [hlead, List.length_singleton]
      omega
    rwa [hshape, he]
  · have hshape : d.scientific ++ rest = [x] ++ '.' :: (y :: ys ++ tail) := by
      rw [htail, Decimal.scientific, hds, List.append_assoc]
      rfl
    rw [hds] at hall hn hlen hlead
    have hw := @whole?_append [x] ('.' :: (y :: ys ++ tail)) (by simp)
      (fun c hc => hall c (List.mem_cons.mpr (Or.inl (List.mem_singleton.mp hc)))) (fun _ => rfl)
      (fun c hc => by cases hc; rfl)
    have hf := @fraction?_point (y :: ys) tail (by simp)
      (fun c hc => hall c (List.mem_cons_of_mem _ hc)) (fun c hc => by rw [hstart c hc]; rfl)
    have h := spells_of_parts hw hf hx (by simp) hlen
    have hval : natOf ([x] ++ y :: ys) = d.digits := hn
    rw [hval, Option.getD_some] at h
    have he : d.exponent = d.leading - ((y :: ys).length : Int) := by
      rw [hlead, List.length_cons]
      omega
    rwa [hshape, he]

theorem finite?_ofMagnitude {negative : Bool} {m : Nat} (hm : m < Binary64.infinite) :
    finite? (double (Binary64.ofMagnitude negative m)) =
      some (double (Binary64.ofMagnitude negative m)) := by
  have hf : (Binary64.ofMagnitude negative m).isFinite = true := by
    rw [Binary64.isFinite, Binary64.magnitude_ofMagnitude (Nat.le_of_lt hm), decide_eq_true_eq]
    exact hm
  exact if_pos hf

theorem Spells.unsigned {cs rest : List Char} {v : ℚ} {m : Nat} (h : Spells cs rest v)
    (hm0 : 0 < m) (hm : m < Binary64.infinite) (hv : Binary64.Rounds (v * 2 ^ 1074) m)
    (negative : Bool) :
    unsigned? negative cs = some (double (Binary64.ofMagnitude negative m), rest) := by
  obtain ⟨d, hd, hread⟩ := h
  rw [hread, Binary64.ofDecimal_eq hm0 hm (hd ▸ hv), finite?_ofMagnitude hm]
  rfl

theorem Spells.unsigned_zero {cs rest : List Char} (h : Spells cs rest 0) (negative : Bool) :
    unsigned? negative cs = some (double (Binary64.ofMagnitude negative 0), rest) := by
  obtain ⟨d, hd, hread⟩ := h
  have hz : d.digits = 0 := by
    rw [Decimal.value, mul_eq_zero] at hd
    rcases hd with hd | hd
    · exact_mod_cast hd
    · exact absurd hd (zpow_ne_zero _ (by norm_num))
  rw [hread, Binary64.ofDecimal, if_pos hz, finite?_ofMagnitude (by decide)]
  rfl

theorem head_of_unsigned? {negative : Bool} {cs : List Char} {r : Json × List Char}
    (h : unsigned? negative cs = some r) : ∃ c ∈ cs.head?, isDigit c = true := by
  cases cs with
  | nil => cases h
  | cons c cs =>
    refine ⟨c, rfl, ?_⟩
    by_contra hc
    rw [Bool.not_eq_true] at hc
    have hd : digits? (c :: cs) = none := by
      unfold digits?
      rw [List.takeWhile_cons, hc]
      rfl
    rw [unsigned?, whole?, hd] at h
    cases h

theorem number?_of_unsigned {cs : List Char} {r : Json × List Char}
    (h : unsigned? false cs = some r) : number? cs = some r := by
  obtain ⟨c, hc, hd⟩ := head_of_unsigned? h
  unfold number?
  split
  · cases hc
    exact absurd hd (by decide)
  · exact h

/-- The text of a magnitude without its sign. -/
def magnitudeText (m : Nat) : List Char :=
  let d := Binary64.shortest .toEven m
  if -5 ≤ d.leading ∧ d.leading < 16 then d.positional ['.', '0'] else d.scientific

theorem text_eq (x : Binary64) :
    x.text = if x.isNegative then '-' :: magnitudeText x.magnitude else magnitudeText x.magnitude :=
  rfl

theorem unsigned?_magnitudeText {m : Nat} (hm : m < Binary64.infinite) (negative : Bool)
    {rest : List Char} (hr : Ends rest) : unsigned? negative (magnitudeText m ++ rest) =
      some (double (Binary64.ofMagnitude negative m), rest) := by
  rcases Nat.eq_zero_or_pos m with h0 | hm0
  · have htext : magnitudeText 0 = ['0', '.', '0'] := by decide
    have h := spells_point ['0'] ['0'] (by decide) zero_isDigit (fun _ => rfl)
      (by decide) zero_isDigit (by decide) hr
    have hzero : natOf (['0'] ++ ['0']) = 0 := rfl
    rw [hzero, Nat.cast_zero, zero_mul] at h
    rw [h0, htext]
    exact h.unsigned_zero negative
  · obtain ⟨hround, hexp⟩ := @Binary64.shortest_rounds .toEven m hm0
    obtain ⟨hd, hhigh, -⟩ := Binary64.leading_bounds hm0 hm hround
    obtain ⟨d, hdef⟩ : ∃ d, d = Binary64.shortest .toEven m := ⟨_, rfl⟩
    unfold magnitudeText
    rw [← hdef] at hround hexp hd hhigh ⊢
    have hlead : d.leading = d.exponent + (digitChars d.digits).length - 1 := rfl
    dsimp only
    split
    · rename_i hp
      exact (spells_positional hd hp.1 hp.2 hexp hr).unsigned hm0 hm hround negative
    · have hlen : (digitChars d.digits).length ≤ maxDigits := by unfold maxDigits; omega
      exact (spells_scientific hlen hr).unsigned hm0 hm hround negative

/-- What is written of a finite number is read back, to its last bit. -/
theorem number?_text {x : Binary64} (h : x.isFinite = true) {rest : List Char} (hr : Ends rest) :
    number? (x.text ++ rest) = some (double x, rest) := by
  rw [Binary64.isFinite, decide_eq_true_eq] at h
  have hu := unsigned?_magnitudeText h x.isNegative hr
  rw [Binary64.ofMagnitude_magnitude] at hu
  rw [text_eq]
  cases hs : x.isNegative with
  | true =>
    rw [hs] at hu
    exact hu
  | false =>
    rw [hs] at hu
    exact number?_of_unsigned hu

/-- What 64 bits hold, signed or not. -/
def IsWord (n : Int) : Prop := -2 ^ 63 ≤ n ∧ n < 2 ^ 64

theorem unsigned?_digitChars {n : Nat} (hlen : (digitChars n).length ≤ 400) (negative : Bool)
    {rest : List Char} (hr : Ends rest) : unsigned? negative (digitChars n ++ rest) =
      (finite? (wholeNumber negative n)).map fun v => (v, rest) := by
  have h0 : (digitChars n).head? = some '0' → (digitChars n).length = 1 := by
    intro h
    rcases Nat.eq_zero_or_pos n with hz | hp
    · rw [hz]
      rfl
    · exact absurd h (head_digitChars hp)
  have hw := @whole?_append (digitChars n) rest Nat.toDigits_ne_nil (fun c hc => isDigit_of_mem hc)
    h0 hr.notDigit
  have hf := fraction?_none fun c hc => (hr c hc).2.1
  have hx := exponent?_none fun c hc => (hr c hc).2.2
  unfold unsigned?
  simp only [hw, hf, hx, Option.bind_eq_bind, Option.bind_some, List.isEmpty_nil,
    Option.isNone_none, and_self, if_true, natOf_digitChars, if_neg (Nat.not_lt.mpr hlen)]
  cases finite? (wholeNumber negative n) <;> rfl

theorem number?_wholeText {n : Int} (h : IsWord n) {rest : List Char} (hr : Ends rest) :
    number? (wholeText n ++ rest) = some (int n, rest) := by
  obtain ⟨hlow, hhigh⟩ := h
  have h20 : (digitChars n.natAbs).length ≤ 20 :=
    (Nat.length_toDigits_le_iff (by decide) (by decide)).mpr (by omega)
  have hlen : (digitChars n.natAbs).length ≤ 400 := h20.trans (by decide)
  unfold wholeText
  split
  · have hw : wholeNumber true n.natAbs = int n := by
      have hn : -(n.natAbs : Int) = n := by omega
      rw [wholeNumber, if_pos rfl, if_neg (by omega), hn]
    have hu := unsigned?_digitChars hlen true hr
    rw [hw] at hu
    exact hu
  · have hw : wholeNumber false n.natAbs = int n := by
      have hsize : n.natAbs < UInt64.size := by
        unfold UInt64.size
        omega
      have hn : (n.natAbs : Int) = n := by omega
      rw [wholeNumber, if_neg (by decide), if_pos hsize, hn]
    have hu := unsigned?_digitChars hlen false hr
    rw [hw] at hu
    exact number?_of_unsigned hu

end DebateMesh.Json
