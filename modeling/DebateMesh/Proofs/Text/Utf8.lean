import DebateMesh.Text.Utf8

namespace DebateMesh.Utf8

/-- Scalar values leave out the surrogates. -/
theorem char_bounds (c : Char) :
    c.toNat < 0x110000 ∧ ¬ (0xD800 ≤ c.toNat ∧ c.toNat < 0xE000) := by
  have h := c.valid
  simp only [UInt32.isValidChar, Nat.isValidChar] at h
  change c.toNat < 0xd800 ∨ (0xdfff < c.toNat ∧ c.toNat < 0x110000) at h
  omega

theorem toNat_ofNat_char {n : Nat} (h : n < 0x110000) (hs : ¬ (0xD800 ≤ n ∧ n < 0xE000)) :
    (Char.ofNat n).toNat = n := by
  have hv : n.isValidChar := by
    simp only [Nat.isValidChar]
    omega
  rw [Char.ofNat, dif_pos hv]
  rfl

theorem toNat_octet {n : Nat} (h : n < 256) : (UInt8.ofNat n).toNat = n :=
  UInt8.toNat_ofNat_of_lt' h

theorem octet_eq {a : UInt8} {n : Nat} (h : n = a.toNat) : UInt8.ofNat n = a := by
  subst h
  simp

@[simp] theorem tail?_mod (n : Nat) :
    tail? (UInt8.ofNat (0x80 + n % 64)) = some (n % 64) := by
  have hb := toNat_octet (n := 0x80 + n % 64) (by omega)
  rw [tail?, hb, if_pos (by omega), Nat.add_sub_cancel_left]

theorem tail?_eq_some_iff {b : UInt8} {t : Nat} :
    tail? b = some t ↔ b.toNat = 0x80 + t ∧ t < 64 := by
  unfold tail?
  split
  · simp only [Option.some.injEq]
    omega
  · simp only [reduceCtorEq, false_iff]
    omega

/-- An octet that starts a longer character starts no shorter one. -/
theorem two?_eq_none {a : UInt8} (h : 0xE0 ≤ a.toNat) (b : UInt8) : two? a b = none := by
  unfold two?
  cases tail? b with
  | none => rfl
  | some t => simp only [Option.bind_some, bind]; rw [if_neg (by omega)]

theorem three?_eq_none {a : UInt8} (h : 0xF0 ≤ a.toNat) (b c : UInt8) : three? a b c = none := by
  unfold three?
  cases tail? b with
  | none => rfl
  | some t =>
    cases tail? c with
    | none => rfl
    | some u => simp only [Option.bind_some, bind]; rw [if_neg (by omega)]

theorem encodeChar_of_two? {a b : UInt8} {x : Char} (h : two? a b = some x) :
    encodeChar x = [a, b] := by
  unfold two? at h
  cases ht : tail? b with
  | none => simp [ht, bind] at h
  | some t =>
    obtain ⟨hb, htl⟩ := tail?_eq_some_iff.mp ht
    simp only [ht, bind, Option.bind_some] at h
    split at h
    · rename_i ha
      have hx := Option.some.inj h
      have hn := toNat_ofNat_char (n := (a.toNat - 0xC0) * 64 + t) (by omega) (by omega)
      rw [hx] at hn
      unfold encodeChar
      simp only [hn]
      rw [if_neg (by omega), if_pos (by omega)]
      congr 1
      · exact octet_eq (by omega)
      · exact congrArg (· :: []) (octet_eq (by omega))
    · cases h

theorem encodeChar_of_three? {a b c : UInt8} {x : Char} (h : three? a b c = some x) :
    encodeChar x = [a, b, c] := by
  unfold three? at h
  cases ht : tail? b with
  | none => simp [ht, bind] at h
  | some t =>
    cases hu : tail? c with
    | none => simp [ht, hu, bind] at h
    | some u =>
      obtain ⟨hb, htl⟩ := tail?_eq_some_iff.mp ht
      obtain ⟨hc, hul⟩ := tail?_eq_some_iff.mp hu
      simp only [ht, hu, bind, Option.bind_some] at h
      split at h
      · rename_i ha
        have hx := Option.some.inj h
        have hn := toNat_ofNat_char (n := (a.toNat - 0xE0) * 4096 + t * 64 + u)
          (by omega) (by omega)
        rw [hx] at hn
        unfold encodeChar
        simp only [hn]
        rw [if_neg (by omega), if_neg (by omega), if_pos (by omega)]
        rw [octet_eq (a := a) (by omega), octet_eq (a := b) (by omega),
          octet_eq (a := c) (by omega)]
      · cases h

theorem encodeChar_of_four? {a b c d : UInt8} {x : Char} (h : four? a b c d = some x) :
    encodeChar x = [a, b, c, d] := by
  unfold four? at h
  cases ht : tail? b with
  | none => simp [ht, bind] at h
  | some t =>
    cases hu : tail? c with
    | none => simp [ht, hu, bind] at h
    | some u =>
      cases hv : tail? d with
      | none => simp [ht, hu, hv, bind] at h
      | some v =>
        obtain ⟨hb, htl⟩ := tail?_eq_some_iff.mp ht
        obtain ⟨hc, hul⟩ := tail?_eq_some_iff.mp hu
        obtain ⟨hd, hvl⟩ := tail?_eq_some_iff.mp hv
        simp only [ht, hu, hv, bind, Option.bind_some] at h
        split at h
        · rename_i ha
          have hx := Option.some.inj h
          have hn := toNat_ofNat_char
            (n := (a.toNat - 0xF0) * 262144 + t * 4096 + u * 64 + v) (by omega) (by omega)
          rw [hx] at hn
          unfold encodeChar
          simp only [hn]
          rw [if_neg (by omega), if_neg (by omega), if_neg (by omega)]
          rw [octet_eq (a := a) (by omega), octet_eq (a := b) (by omega),
            octet_eq (a := c) (by omega), octet_eq (a := d) (by omega)]
        · cases h

theorem two?_octets {c : Char} (hlow : ¬ c.toNat < 0x80) (h : c.toNat < 0x800) :
    two? (UInt8.ofNat (0xC0 + c.toNat / 64)) (UInt8.ofNat (0x80 + c.toNat % 64)) = some c := by
  have ha := toNat_octet (n := 0xC0 + c.toNat / 64) (by omega)
  have hn : (0xC0 + c.toNat / 64 - 0xC0) * 64 + c.toNat % 64 = c.toNat := by omega
  simp only [two?, tail?_mod, ha, bind, Option.bind_some]
  rw [if_pos (by omega), hn, Char.ofNat_toNat]

theorem three?_octets {c : Char} (hlow : ¬ c.toNat < 0x800) (h : c.toNat < 0x10000) :
    three? (UInt8.ofNat (0xE0 + c.toNat / 4096)) (UInt8.ofNat (0x80 + c.toNat / 64 % 64))
      (UInt8.ofNat (0x80 + c.toNat % 64)) = some c := by
  obtain ⟨hmax, hsur⟩ := char_bounds c
  have ha := toNat_octet (n := 0xE0 + c.toNat / 4096) (by omega)
  have hn : (0xE0 + c.toNat / 4096 - 0xE0) * 4096 + c.toNat / 64 % 64 * 64 + c.toNat % 64 =
      c.toNat := by omega
  simp only [three?, tail?_mod, ha, bind, Option.bind_some]
  rw [if_pos (by omega), hn, Char.ofNat_toNat]

theorem four?_octets {c : Char} (hlow : ¬ c.toNat < 0x10000) :
    four? (UInt8.ofNat (0xF0 + c.toNat / 262144)) (UInt8.ofNat (0x80 + c.toNat / 4096 % 64))
      (UInt8.ofNat (0x80 + c.toNat / 64 % 64)) (UInt8.ofNat (0x80 + c.toNat % 64)) = some c := by
  obtain ⟨hmax, hsur⟩ := char_bounds c
  have ha := toNat_octet (n := 0xF0 + c.toNat / 262144) (by omega)
  have hn : (0xF0 + c.toNat / 262144 - 0xF0) * 262144 + c.toNat / 4096 % 64 * 4096 +
      c.toNat / 64 % 64 * 64 + c.toNat % 64 = c.toNat := by omega
  simp only [four?, tail?_mod, ha, bind, Option.bind_some]
  rw [if_pos (by omega), hn, Char.ofNat_toNat]

theorem encode_empty : encode "" = [] := rfl

theorem encodeChars_append (cs ds : List Char) :
    encodeChars (cs ++ ds) = encodeChars cs ++ encodeChars ds := List.flatMap_append

theorem length_encodeChars_cons (c : Char) (cs : List Char) :
    (encodeChars (c :: cs)).length = width c + (encodeChars cs).length := by
  rw [encodeChars, List.flatMap_cons, List.length_append]
  rfl

theorem length_le_of_front {cs ds : List Char} (h : cs <+: ds) :
    (encodeChars cs).length ≤ (encodeChars ds).length := by
  obtain ⟨rest, rfl⟩ := h
  rw [encodeChars_append, List.length_append]
  exact Nat.le_add_right _ _

/-- The scan takes one character off its written form. -/
theorem scan_encodeChar (c : Char) (bs : Bytes) (acc : List Char) :
    scan (encodeChar c ++ bs) acc = scan bs (c :: acc) := by
  obtain ⟨hmax, hsur⟩ := char_bounds c
  unfold encodeChar
  dsimp only
  split
  · rename_i h1
    have ha := toNat_octet (n := c.toNat) (by omega)
    simp only [List.cons_append, List.nil_append]
    rw [scan.eq_def]
    simp only [ha, h1, ↓reduceIte, Char.ofNat_toNat]
  split
  · rename_i h1 h2
    have ha := toNat_octet (n := 0xC0 + c.toNat / 64) (by omega)
    simp only [List.cons_append, List.nil_append]
    rw [scan.eq_def]
    simp only [ha, two?_octets h1 h2]
    rw [if_neg (by omega)]
  split
  · rename_i h1 h2 h3
    have ha := toNat_octet (n := 0xE0 + c.toNat / 4096) (by omega)
    have htwo := two?_eq_none (a := UInt8.ofNat (0xE0 + c.toNat / 4096)) (by omega)
    simp only [List.cons_append, List.nil_append]
    rw [scan.eq_def]
    simp only [ha, htwo, three?_octets h2 h3]
    rw [if_neg (by omega)]
  · rename_i h1 h2 h3
    have ha := toNat_octet (n := 0xF0 + c.toNat / 262144) (by omega)
    have htwo := two?_eq_none (a := UInt8.ofNat (0xF0 + c.toNat / 262144)) (by omega)
    have hthree := three?_eq_none (a := UInt8.ofNat (0xF0 + c.toNat / 262144)) (by omega)
    simp only [List.cons_append, List.nil_append]
    rw [scan.eq_def]
    simp only [ha, htwo, hthree, four?_octets h3]
    rw [if_neg (by omega)]

theorem scan_encodeChars (cs : List Char) (bs : Bytes) (acc : List Char) :
    scan (encodeChars cs ++ bs) acc = scan bs (cs.reverse ++ acc) := by
  induction cs generalizing acc with
  | nil => rfl
  | cons c cs ih =>
    simp only [encodeChars, List.flatMap_cons, List.append_assoc] at ih ⊢
    rw [scan_encodeChar, ih]
    simp

/-- Whatever the scan reads is the written form of the characters it adds. -/
theorem scan_sound {bs : Bytes} {acc cs : List Char} (h : scan bs acc = some cs) :
    ∃ ds, bs = encodeChars ds ∧ cs = acc.reverse ++ ds := by
  induction bs, acc using scan.induct generalizing cs with
  | case1 acc =>
    simp only [scan, Option.some.injEq] at h
    exact ⟨[], rfl, by simp [h]⟩
  | case2 a r acc ha ih =>
    rw [scan.eq_def] at h
    simp only [ha, ↓reduceIte] at h
    obtain ⟨ds, rfl, rfl⟩ := ih h
    have hn := toNat_ofNat_char (n := a.toNat) (by omega) (by omega)
    refine ⟨Char.ofNat a.toNat :: ds, ?_, by simp⟩
    simp only [encodeChars, List.flatMap_cons, encodeChar, hn, ha, ↓reduceIte]
    simp
  | case3 a acc ha b r x hx ih =>
    rw [scan.eq_def] at h
    simp only [ha, ↓reduceIte, hx] at h
    obtain ⟨ds, rfl, rfl⟩ := ih h
    exact ⟨x :: ds, by simp [encodeChars, encodeChar_of_two? hx], by simp⟩
  | case4 a acc ha b hb c r x hx ih =>
    rw [scan.eq_def] at h
    simp only [ha, ↓reduceIte, hb, hx] at h
    obtain ⟨ds, rfl, rfl⟩ := ih h
    exact ⟨x :: ds, by simp [encodeChars, encodeChar_of_three? hx], by simp⟩
  | case5 a acc ha b hb c hc d r x hx ih =>
    rw [scan.eq_def] at h
    simp only [ha, ↓reduceIte, hb, hc, hx] at h
    obtain ⟨ds, rfl, rfl⟩ := ih h
    exact ⟨x :: ds, by simp [encodeChars, encodeChar_of_four? hx], by simp⟩
  | case6 a acc ha b hb c hc d r hd =>
    rw [scan.eq_def] at h
    simp [ha, hb, hc, hd] at h
  | case7 a acc ha b hb c hc =>
    rw [scan.eq_def] at h
    simp [ha, hb, hc] at h
  | case8 a acc ha b hb =>
    rw [scan.eq_def] at h
    simp [ha, hb] at h
  | case9 a acc ha =>
    rw [scan.eq_def] at h
    simp [ha] at h

@[simp] theorem decodeChars_encodeChars (cs : List Char) :
    decodeChars (encodeChars cs) = some cs := by
  have h := scan_encodeChars cs [] []
  simpa [decodeChars, scan] using h

theorem encodeChars_of_decodeChars {bs : Bytes} {cs : List Char}
    (h : decodeChars bs = some cs) : encodeChars cs = bs := by
  obtain ⟨ds, hb, hc⟩ := scan_sound h
  simp_all

/-- A text that starts as another does goes on with whole characters. -/
theorem decodeChars_append {p q : Bytes} {cs ds : List Char} (hp : decodeChars p = some cs)
    (h : decodeChars (p ++ q) = some ds) : ∃ es, ds = cs ++ es ∧ q = encodeChars es := by
  rw [← encodeChars_of_decodeChars hp, decodeChars, scan_encodeChars, List.append_nil] at h
  obtain ⟨es, hq, hds⟩ := scan_sound h
  exact ⟨es, by rw [hds, List.reverse_reverse], hq⟩

@[simp] theorem decode_encode (s : String) : decode (encode s) = some s := by
  simp [decode, encode]

theorem encode_of_decode {bs : Bytes} {s : String} (h : decode bs = some s) : encode s = bs := by
  obtain ⟨cs, hc, rfl⟩ := Option.map_eq_some_iff.mp h
  simpa [encode] using encodeChars_of_decodeChars hc

theorem encode_inj {s t : String} (h : encode s = encode t) : s = t := by
  have hd := congrArg decode h
  simpa using hd

end DebateMesh.Utf8
