import DebateMesh.Message.Frame
import DebateMesh.Proofs.Bytes
import DebateMesh.Proofs.Text.Utf8

namespace DebateMesh

theorem toOption_eq_some_iff {ε α : Type} {x : Except ε α} {a : α} :
    x.toOption = some a ↔ x = .ok a := by
  cases x <;> simp [Except.toOption]

namespace Frame

theorem bind_ok {ε α β : Type} {x : Except ε α} {f : α → Except ε β} {b : β}
    (h : (x >>= f) = .ok b) : ∃ a, x = .ok a ∧ f a = .ok b := by
  cases x with
  | error e => cases h
  | ok a => exact ⟨a, rfl, h⟩

theorem ok_bind {ε α β : Type} (a : α) (f : α → Except ε β) :
    ((Except.ok a : Except ε α) >>= f) = f a := rfl

/-- A reader and a writer that undo each other. Lengths are written in 64 bits, so a text beyond
them has no written form. -/
structure Inverse {α : Type} (get : Read α) (put : α → Bytes) : Prop where
  get_put : ∀ a rest, (put a).length < 2 ^ 64 → get (put a ++ rest) = .ok (a, rest)
  put_get : ∀ {bs a rest}, get bs = .ok (a, rest) → bs = put a ++ rest

theorem take_append (front rest : Bytes) :
    take front.length (front ++ rest) = .ok (front, rest) := by
  simp [take]

theorem take_ok {n : Nat} {bs front rest : Bytes} (h : take n bs = .ok (front, rest)) :
    front.length = n ∧ bs = front ++ rest := by
  unfold take at h
  dsimp only at h
  split at h
  · rename_i hl
    simp only [Except.ok.injEq, Prod.mk.injEq] at h
    obtain ⟨rfl, rfl⟩ := h
    exact ⟨hl, (List.take_append_drop n bs).symm⟩
  · cases h

theorem getNat_append (w n : Nat) (rest : Bytes) (h : n < 256 ^ w) :
    getNat w (Bytes.ofNatLE w n ++ rest) = .ok (n, rest) := by
  have ht := take_append (Bytes.ofNatLE w n) rest
  rw [Bytes.length_ofNatLE] at ht
  unfold getNat
  rw [ht, ok_bind]
  dsimp only
  rw [Bytes.toNatLE_ofNatLE, Nat.mod_eq_of_lt h]
  rfl

theorem getNat_ok {w n : Nat} {bs rest : Bytes} (h : getNat w bs = .ok (n, rest)) :
    n < 256 ^ w ∧ bs = Bytes.ofNatLE w n ++ rest := by
  obtain ⟨⟨front, rest'⟩, ht, h⟩ := bind_ok h
  obtain ⟨hl, hbs⟩ := take_ok ht
  simp only [pure, Except.pure, Except.ok.injEq, Prod.mk.injEq] at h
  obtain ⟨rfl, rfl⟩ := h
  subst hl hbs
  exact ⟨Bytes.toNatLE_lt front, by rw [Bytes.ofNatLE_toNatLE]⟩

theorem uint32_inverse : Inverse getUInt32 putUInt32 where
  get_put n rest _ := by
    unfold getUInt32 putUInt32
    rw [getNat_append 4 n.toNat rest n.toNat_lt, ok_bind]
    dsimp only
    rw [UInt32.ofNat_toNat]
    rfl
  put_get h := by
    obtain ⟨⟨n, bs⟩, hn, h⟩ := bind_ok h
    obtain ⟨hlt, hbs⟩ := getNat_ok hn
    simp only [pure, Except.pure, Except.ok.injEq, Prod.mk.injEq] at h
    obtain ⟨rfl, rfl⟩ := h
    have hlt' : n < 2 ^ 32 := hlt
    rw [hbs, putUInt32, UInt32.toNat_ofNat', Nat.mod_eq_of_lt hlt']

theorem uint64_inverse : Inverse getUInt64 putUInt64 where
  get_put n rest _ := by
    unfold getUInt64 putUInt64
    rw [getNat_append 8 n.toNat rest n.toNat_lt, ok_bind]
    dsimp only
    rw [UInt64.ofNat_toNat]
    rfl
  put_get h := by
    obtain ⟨⟨n, bs⟩, hn, h⟩ := bind_ok h
    obtain ⟨hlt, hbs⟩ := getNat_ok hn
    simp only [pure, Except.pure, Except.ok.injEq, Prod.mk.injEq] at h
    obtain ⟨rfl, rfl⟩ := h
    have hlt' : n < 2 ^ 64 := hlt
    rw [hbs, putUInt64, UInt64.toNat_ofNat', Nat.mod_eq_of_lt hlt']

theorem double_inverse : Inverse getDouble putDouble where
  get_put x rest h := by
    unfold getDouble
    have hx : putDouble x = putUInt64 x.bits := rfl
    rw [hx, uint64_inverse.get_put x.bits rest h, ok_bind]
    rfl
  put_get h := by
    obtain ⟨⟨n, bs⟩, hn, h⟩ := bind_ok h
    cases h
    exact uint64_inverse.put_get hn

theorem uint8_inverse : Inverse getUInt8 fun b => [b] where
  get_put _ _ _ := rfl
  put_get {bs b rest} h := by
    cases bs with
    | nil => cases h
    | cons c bs =>
      simp only [getUInt8, Except.ok.injEq, Prod.mk.injEq] at h
      obtain ⟨rfl, rfl⟩ := h
      rfl

theorem bool_inverse : Inverse getBool putBool where
  get_put b rest _ := by cases b <;> rfl
  put_get h := by
    obtain ⟨⟨b, bs⟩, hb, h⟩ := bind_ok h
    have hbs := uint8_inverse.put_get hb
    dsimp only at h
    split at h
    · rename_i he
      cases h
      simpa [he, putBool] using hbs
    split at h
    · rename_i he
      cases h
      simpa [he, putBool] using hbs
    · cases h

theorem text_inverse : Inverse getText putText where
  get_put s rest h := by
    simp only [putText, List.length_append, Bytes.length_ofNatLE] at h
    unfold getText putText
    simp only
    rw [List.append_assoc, getNat_append 8 _ _ (by omega), ok_bind, take_append, ok_bind]
    simp only [Utf8.decode_encode]
    rfl
  put_get h := by
    obtain ⟨⟨n, bs⟩, hn, h⟩ := bind_ok h
    obtain ⟨⟨front, rest⟩, ht, h⟩ := bind_ok h
    obtain ⟨_, hbs⟩ := getNat_ok hn
    obtain ⟨hl, hbs'⟩ := take_ok ht
    dsimp only at h
    split at h
    · rename_i s hs
      cases h
      rw [hbs, hbs', putText, Utf8.encode_of_decode hs, hl, List.append_assoc]
    · cases h

theorem getTextsFrom_append (ss : List String) (rest : Bytes)
    (h : (ss.flatMap putText).length < 2 ^ 64) :
    getTextsFrom ss.length (ss.flatMap putText ++ rest) = .ok (ss, rest) := by
  induction ss with
  | nil => rfl
  | cons s ss ih =>
    simp only [List.flatMap_cons, List.length_append] at h
    simp only [List.length_cons, List.flatMap_cons, List.append_assoc, getTextsFrom]
    rw [text_inverse.get_put s _ (by omega), ok_bind]
    dsimp only
    rw [ih (by omega), ok_bind]
    rfl

theorem getTextsFrom_ok {n : Nat} {bs rest : Bytes} {ss : List String}
    (h : getTextsFrom n bs = .ok (ss, rest)) :
    ss.length = n ∧ bs = ss.flatMap putText ++ rest := by
  induction n generalizing bs ss with
  | zero => cases h; exact ⟨rfl, rfl⟩
  | succ n ih =>
    obtain ⟨⟨s, bs1⟩, hs, h⟩ := bind_ok h
    obtain ⟨⟨ss1, bs2⟩, hss, h⟩ := bind_ok h
    cases h
    obtain ⟨hl, he⟩ := ih hss
    have hb := text_inverse.put_get hs
    exact ⟨by simp [hl], by rw [hb, he]; simp⟩

theorem length_le_flatMap_putText (ss : List String) :
    ss.length ≤ (ss.flatMap putText).length := by
  induction ss with
  | nil => exact Nat.le_refl 0
  | cons s ss ih =>
    simp only [List.flatMap_cons, List.length_append, List.length_cons, putText,
      Bytes.length_ofNatLE] at ih ⊢
    omega

theorem texts_inverse : Inverse getTexts putTexts where
  get_put ss rest h := by
    simp only [putTexts, List.length_append, Bytes.length_ofNatLE] at h
    have hl := length_le_flatMap_putText ss
    unfold getTexts putTexts
    rw [List.append_assoc, getNat_append 8 _ _ (by omega), ok_bind]
    exact getTextsFrom_append ss rest (by omega)
  put_get h := by
    obtain ⟨⟨n, bs⟩, hn, h⟩ := bind_ok h
    obtain ⟨_, hbs⟩ := getNat_ok hn
    obtain ⟨hl, hrest⟩ := getTextsFrom_ok h
    rw [hbs, hrest, putTexts, hl, List.append_assoc]

theorem intent_inverse : Inverse getIntent putIntent where
  get_put i rest h := by
    simp only [putIntent, List.length_append] at h
    simp only [getIntent, putIntent, List.append_assoc]
    rw [text_inverse.get_put _ _ (by omega), ok_bind]
    dsimp only
    rw [texts_inverse.get_put _ _ (by omega), ok_bind]
    dsimp only
    rw [double_inverse.get_put _ _ (by omega), ok_bind]
    rfl
  put_get h := by
    obtain ⟨⟨primary, bs1⟩, h1, h⟩ := bind_ok h
    obtain ⟨⟨secondary, bs2⟩, h2, h⟩ := bind_ok h
    obtain ⟨⟨confidence, bs3⟩, h3, h⟩ := bind_ok h
    cases h
    rw [text_inverse.put_get h1, texts_inverse.put_get h2, double_inverse.put_get h3]
    simp [putIntent]

theorem constraints_inverse : Inverse getConstraints putConstraints where
  get_put c rest h := by
    simp only [putConstraints, List.length_append, List.length_cons] at h
    simp only [getConstraints, putConstraints, List.append_assoc, List.cons_append]
    rw [uint32_inverse.get_put _ _ (by omega), ok_bind]
    dsimp only [getUInt8]
    rw [ok_bind]
    dsimp only
    rw [double_inverse.get_put _ _ (by omega), ok_bind]
    dsimp only
    rw [bool_inverse.get_put _ _ (by omega), ok_bind]
    rfl
  put_get h := by
    obtain ⟨⟨maxLatency, bs1⟩, h1, h⟩ := bind_ok h
    obtain ⟨⟨minReputation, bs2⟩, h2, h⟩ := bind_ok h
    obtain ⟨⟨costCap, bs3⟩, h3, h⟩ := bind_ok h
    obtain ⟨⟨preferLocal, bs4⟩, h4, h⟩ := bind_ok h
    cases h
    rw [uint32_inverse.put_get h1, uint8_inverse.put_get h2, double_inverse.put_get h3,
      bool_inverse.put_get h4]
    simp [putConstraints]

theorem request_inverse : Inverse getRequest putRequest where
  get_put r rest h := by
    simp only [putRequest, List.length_append] at h
    simp only [getRequest, putRequest, List.append_assoc]
    rw [text_inverse.get_put _ _ (by omega), ok_bind]
    dsimp only
    rw [text_inverse.get_put _ _ (by omega), ok_bind]
    dsimp only
    rw [intent_inverse.get_put _ _ (by omega), ok_bind]
    dsimp only
    rw [constraints_inverse.get_put _ _ (by omega), ok_bind]
    dsimp only
    rw [uint64_inverse.get_put _ _ (by omega), ok_bind]
    dsimp only
    rw [text_inverse.get_put _ _ (by omega), ok_bind]
    rfl
  put_get h := by
    obtain ⟨⟨id, bs1⟩, h1, h⟩ := bind_ok h
    obtain ⟨⟨origin, bs2⟩, h2, h⟩ := bind_ok h
    obtain ⟨⟨intent, bs3⟩, h3, h⟩ := bind_ok h
    obtain ⟨⟨constraints, bs4⟩, h4, h⟩ := bind_ok h
    obtain ⟨⟨timestamp, bs5⟩, h5, h⟩ := bind_ok h
    obtain ⟨⟨payloadHash, bs6⟩, h6, h⟩ := bind_ok h
    cases h
    rw [text_inverse.put_get h1, text_inverse.put_get h2, intent_inverse.put_get h3,
      constraints_inverse.put_get h4, uint64_inverse.put_get h5, text_inverse.put_get h6]
    simp [putRequest]

theorem bid_inverse : Inverse getBid putBid where
  get_put b rest h := by
    simp only [putBid, List.length_append] at h
    simp only [getBid, putBid, List.append_assoc]
    rw [double_inverse.get_put _ _ (by omega), ok_bind]
    dsimp only
    rw [uint32_inverse.get_put _ _ (by omega), ok_bind]
    rfl
  put_get h := by
    obtain ⟨⟨cost, bs1⟩, h1, h⟩ := bind_ok h
    obtain ⟨⟨latency, bs2⟩, h2, h⟩ := bind_ok h
    cases h
    rw [double_inverse.put_get h1, uint32_inverse.put_get h2]
    simp [putBid]

theorem offer_inverse : Inverse getOffer putOffer where
  get_put o rest h := by
    simp only [putOffer, List.length_append] at h
    simp only [getOffer, putOffer, List.append_assoc]
    rw [text_inverse.get_put _ _ (by omega), ok_bind]
    dsimp only
    rw [text_inverse.get_put _ _ (by omega), ok_bind]
    dsimp only
    rw [text_inverse.get_put _ _ (by omega), ok_bind]
    dsimp only
    rw [texts_inverse.get_put _ _ (by omega), ok_bind]
    dsimp only
    rw [bid_inverse.get_put _ _ (by omega), ok_bind]
    dsimp only
    rw [text_inverse.get_put _ _ (by omega), ok_bind]
    rfl
  put_get h := by
    obtain ⟨⟨requestId, bs1⟩, h1, h⟩ := bind_ok h
    obtain ⟨⟨guardianId, bs2⟩, h2, h⟩ := bind_ok h
    obtain ⟨⟨expertType, bs3⟩, h3, h⟩ := bind_ok h
    obtain ⟨⟨capabilities, bs4⟩, h4, h⟩ := bind_ok h
    obtain ⟨⟨bid, bs5⟩, h5, h⟩ := bind_ok h
    obtain ⟨⟨signature, bs6⟩, h6, h⟩ := bind_ok h
    cases h
    rw [text_inverse.put_get h1, text_inverse.put_get h2, text_inverse.put_get h3,
      texts_inverse.put_get h4, bid_inverse.put_get h5, text_inverse.put_get h6]
    simp [putOffer]

theorem metadata_inverse : Inverse getMetadata putMetadata where
  get_put m rest h := by
    simp only [putMetadata, List.length_append] at h
    simp only [getMetadata, putMetadata, List.append_assoc]
    rw [double_inverse.get_put _ _ (by omega), ok_bind]
    dsimp only
    rw [texts_inverse.get_put _ _ (by omega), ok_bind]
    rfl
  put_get h := by
    obtain ⟨⟨confidence, bs1⟩, h1, h⟩ := bind_ok h
    obtain ⟨⟨citations, bs2⟩, h2, h⟩ := bind_ok h
    cases h
    rw [double_inverse.put_get h1, texts_inverse.put_get h2]
    simp [putMetadata]

theorem role_inverse : Inverse getRole fun r => putUInt32 (roleIndex r) where
  get_put r rest h := by
    unfold getRole
    rw [uint32_inverse.get_put _ _ h, ok_bind]
    cases r <;> rfl
  put_get h := by
    obtain ⟨⟨i, bs⟩, hi, h⟩ := bind_ok h
    have hbs := uint32_inverse.put_get hi
    dsimp only at h
    split at h
    · rename_i he
      cases h
      rw [hbs, he]
      rfl
    split at h
    · rename_i he
      cases h
      rw [hbs, he]
      rfl
    · cases h

theorem packet_inverse : Inverse getPacket putPacket where
  get_put p rest h := by
    simp only [putPacket, List.length_append] at h
    simp only [getPacket, putPacket, List.append_assoc]
    rw [text_inverse.get_put _ _ (by omega), ok_bind]
    dsimp only
    rw [uint32_inverse.get_put _ _ (by omega), ok_bind]
    dsimp only
    rw [role_inverse.get_put _ _ (by omega), ok_bind]
    dsimp only
    rw [text_inverse.get_put _ _ (by omega), ok_bind]
    dsimp only
    rw [metadata_inverse.get_put _ _ (by omega), ok_bind]
    rfl
  put_get h := by
    obtain ⟨⟨sessionId, bs1⟩, h1, h⟩ := bind_ok h
    obtain ⟨⟨round, bs2⟩, h2, h⟩ := bind_ok h
    obtain ⟨⟨role, bs3⟩, h3, h⟩ := bind_ok h
    obtain ⟨⟨content, bs4⟩, h4, h⟩ := bind_ok h
    obtain ⟨⟨metadata, bs5⟩, h5, h⟩ := bind_ok h
    cases h
    rw [text_inverse.put_get h1, uint32_inverse.put_get h2, role_inverse.put_get h3,
      text_inverse.put_get h4, metadata_inverse.put_get h5]
    simp [putPacket]

theorem message_inverse : Inverse getMessage payload where
  get_put m rest h := by
    unfold getMessage
    cases m with
    | routing r =>
      simp only [payload, List.length_append] at h
      simp only [payload, List.append_assoc]
      rw [uint32_inverse.get_put _ _ (by omega), ok_bind]
      dsimp only
      rw [if_pos rfl, request_inverse.get_put _ _ (by omega), ok_bind]
      rfl
    | offer o =>
      simp only [payload, List.length_append] at h
      simp only [payload, List.append_assoc]
      rw [uint32_inverse.get_put _ _ (by omega), ok_bind]
      dsimp only
      rw [if_neg (by decide), if_pos rfl, offer_inverse.get_put _ _ (by omega), ok_bind]
      rfl
    | debate p =>
      simp only [payload, List.length_append] at h
      simp only [payload, List.append_assoc]
      rw [uint32_inverse.get_put _ _ (by omega), ok_bind]
      dsimp only
      rw [if_neg (by decide), if_neg (by decide), if_pos rfl, packet_inverse.get_put _ _ (by omega),
        ok_bind]
      rfl
  put_get h := by
    obtain ⟨⟨i, bs⟩, hi, h⟩ := bind_ok h
    have hbs := uint32_inverse.put_get hi
    dsimp only at h
    split at h
    · obtain ⟨⟨r, bs1⟩, hr, h⟩ := bind_ok h
      cases h
      simp_all [payload, request_inverse.put_get hr]
    split at h
    · obtain ⟨⟨o, bs1⟩, ho, h⟩ := bind_ok h
      cases h
      simp_all [payload, offer_inverse.put_get ho]
    split at h
    · obtain ⟨⟨p, bs1⟩, hp, h⟩ := bind_ok h
      cases h
      simp_all [payload, packet_inverse.put_get hp]
    · cases h

theorem length_putUInt32 (n : UInt32) : (putUInt32 n).length = lengthWidth :=
  Bytes.length_ofNatLE 4 n.toNat

theorem toNatLE_putUInt32 (n : UInt32) : Bytes.toNatLE (putUInt32 n) = n.toNat := by
  rw [putUInt32, Bytes.toNatLE_ofNatLE]
  exact Nat.mod_eq_of_lt n.toNat_lt

/-- What a frame is, when it can be written at all. -/
theorem encode_ok {m : Message} {f : Bytes} (h : encode m = .ok f) :
    m.fault? = none ∧ (UInt32.ofNat (payload m).length).toNat ≤ maxPayload ∧
      f = putUInt32 (UInt32.ofNat (payload m).length) ++ payload m := by
  unfold encode at h
  cases hm : m.fault? with
  | some _ => simp [hm] at h
  | none =>
    simp only [hm] at h
    split at h
    · cases h
    · rename_i hle
      exact ⟨rfl, Nat.le_of_not_lt hle, (Except.ok.inj h).symm⟩

theorem encode_of_length {m : Message} (hv : m.isValid = true)
    (hl : (payload m).length ≤ maxPayload) :
    encode m = .ok (putUInt32 (UInt32.ofNat (payload m).length) ++ payload m) := by
  have hs : (UInt32.ofNat (payload m).length).toNat = (payload m).length :=
    UInt32.toNat_ofNat_of_lt' (Nat.lt_of_le_of_lt hl (by decide))
  have hm : m.fault? = none := Option.isNone_iff_eq_none.mp hv
  simp only [encode, hm, hs]
  rw [if_neg (Nat.not_lt.mpr hl)]

/-- A payload that can be read is that of a valid message, with ignored octets behind it. -/
theorem readPayload_ok {body : Bytes} {m : Message} (h : readPayload body = .ok m) :
    m.fault? = none ∧ ∃ rest, body = payload m ++ rest := by
  unfold readPayload at h
  split at h
  · cases h
  · rename_i m' rest hg
    split at h
    · cases h
    · rename_i hm
      cases h
      exact ⟨hm, rest, message_inverse.put_get hg⟩

theorem readPayload_payload {m : Message} (hv : m.fault? = none)
    (hl : (payload m).length < 2 ^ 64) (rest : Bytes) :
    readPayload (payload m ++ rest) = .ok m := by
  simp only [readPayload, message_inverse.get_put m rest hl, hv]

/-- How a frame in front is cut into its length and its payload. -/
theorem decode_ok {bs : Bytes} {m : Message} {used : Nat} (h : decode bs = .ok (m, used)) :
    ∃ stated ≤ maxPayload, stated = Bytes.toNatLE (bs.take lengthWidth) ∧
      used = lengthWidth + stated ∧ used ≤ bs.length ∧
      readPayload ((bs.drop lengthWidth).take stated) = .ok m := by
  have hu := (decode_used h).2
  unfold decode at h
  dsimp only at h
  split at h
  · cases h
  split at h
  · cases h
  rename_i hcap
  split at h
  · cases h
  · cases hp : readPayload ((bs.drop lengthWidth).take (Bytes.toNatLE (bs.take lengthWidth))) with
    | error f => simp [hp, Except.map] at h
    | ok m' =>
      simp only [hp, Except.map, Except.ok.injEq, Prod.mk.injEq] at h
      obtain ⟨rfl, rfl⟩ := h
      exact ⟨_, Nat.le_of_not_lt hcap, rfl, rfl, hu, hp⟩

theorem decode_of_stated {n : UInt32} {body rest : Bytes} (hn : n.toNat ≤ maxPayload)
    (hl : n.toNat ≤ body.length) :
    decode (putUInt32 n ++ body ++ rest) =
      (readPayload (body.take n.toNat)).map fun m => (m, lengthWidth + n.toNat) := by
  have ht : (putUInt32 n ++ body ++ rest).take lengthWidth = putUInt32 n := by
    rw [List.append_assoc]
    exact List.take_left' (length_putUInt32 n)
  have hd : (putUInt32 n ++ body ++ rest).drop lengthWidth = body ++ rest := by
    rw [List.append_assoc]
    exact List.drop_left' (length_putUInt32 n)
  have hb : (body ++ rest).take n.toNat = body.take n.toNat := List.take_append_of_le_length hl
  unfold decode
  simp only [ht, hd, length_putUInt32, toNatLE_putUInt32, hb, List.length_take]
  rw [if_neg (Nat.lt_irrefl _), if_neg (Nat.not_lt.mpr hn), if_neg (by omega)]

theorem decode_encode_append {m : Message} (hv : m.isValid = true)
    (hl : (payload m).length ≤ maxPayload) (rest : Bytes) :
    ∃ f, encode m = .ok f ∧ decode (f ++ rest) = .ok (m, f.length) := by
  refine ⟨_, encode_of_length hv hl, ?_⟩
  have hs : (UInt32.ofNat (payload m).length).toNat = (payload m).length :=
    UInt32.toNat_ofNat_of_lt' (Nat.lt_of_le_of_lt hl (by decide))
  have hr := readPayload_payload (Option.isNone_iff_eq_none.mp hv)
    (Nat.lt_of_le_of_lt hl (by decide)) []
  rw [List.append_nil] at hr
  rw [decode_of_stated (by omega) (by omega), hs, List.take_length, hr, List.length_append,
    length_putUInt32]
  rfl

theorem lengthWidth_le_payload (m : Message) : lengthWidth ≤ (payload m).length := by
  cases m <;> simp only [payload, List.length_append, length_putUInt32] <;> omega

theorem encode_of_decode {bs : Bytes} {m : Message} {used : Nat}
    (h : decode bs = .ok (m, used)) :
    lengthWidth < used ∧ used ≤ bs.length ∧ m.isValid = true ∧
      ∃ f, encode m = .ok f ∧ f.drop lengthWidth <+: (bs.take used).drop lengthWidth := by
  obtain ⟨stated, hcap, -, rfl, hu, hp⟩ := decode_ok h
  obtain ⟨hm, rest, hbody⟩ := readPayload_ok hp
  have hv : m.isValid = true := Option.isNone_iff_eq_none.mpr hm
  have hlen := congrArg List.length hbody
  have hpos := lengthWidth_le_payload m
  simp only [List.length_take, List.length_drop, List.length_append] at hlen
  refine ⟨?_, hu, hv, _, encode_of_length hv (by omega), ?_⟩
  · simp only [lengthWidth] at hpos ⊢
    omega
  · rw [List.drop_left' (length_putUInt32 _), List.drop_take, Nat.add_sub_cancel_left, hbody]
    exact List.prefix_append _ _

/-- Reading a frame that was written reads as much of its payload as its length states. -/
theorem decode_of_encode {m : Message} {f : Bytes} (he : encode m = .ok f) :
    decode f = (readPayload ((payload m).take (UInt32.ofNat (payload m).length).toNat)).map
      fun m' => (m', lengthWidth + (UInt32.ofNat (payload m).length).toNat) := by
  obtain ⟨-, hcap, rfl⟩ := encode_ok he
  have hle : (UInt32.ofNat (payload m).length).toNat ≤ (payload m).length := by
    rw [UInt32.toNat_ofNat']
    exact Nat.mod_le _ _
  have hread := @decode_of_stated _ (payload m) [] hcap hle
  rwa [List.append_nil] at hread

/-- No message stands in front of another one's payload. -/
theorem payload_front {m m' : Message} {rest : Bytes} (hl : (payload m).length < 2 ^ 64)
    (h : payload m = payload m' ++ rest) : m' = m ∧ rest = [] := by
  have hm := message_inverse.get_put m [] hl
  have hm' := message_inverse.get_put m' rest (by simp [h] at hl; omega)
  rw [List.append_nil, h, hm'] at hm
  simpa using hm

/-- A written frame is read as nothing but its message, even when its length was cut to 32 bits:
then what the length leaves of the payload cannot be read. -/
theorem decode_encode_eq {m m' : Message} {f : Bytes} {used : Nat} (he : encode m = .ok f)
    (hl : (payload m).length < 2 ^ 64) (hd : decode f = .ok (m', used)) : m' = m := by
  rw [decode_of_encode he] at hd
  generalize (UInt32.ofNat (payload m).length).toNat = stated at hd
  cases hp : readPayload ((payload m).take stated) with
  | error e => simp [hp, Except.map] at hd
  | ok m'' =>
    simp only [hp, Except.map, Except.ok.injEq, Prod.mk.injEq] at hd
    obtain ⟨rfl, -⟩ := hd
    obtain ⟨-, rest, hbody⟩ := readPayload_ok hp
    have hwhole : payload m = payload m'' ++ (rest ++ (payload m).drop stated) := by
      rw [← List.append_assoc, ← hbody, List.take_append_drop]
    exact (payload_front hl hwhole).1

/-- A frame is read as its message whatever follows it. What can be read is a valid message that has
a frame, and the only freedom is what stands behind the message inside the stated length. -/
theorem frames_are_messages :
    (∀ (m : Message) (rest : Bytes), m.isValid = true → (payload m).length ≤ maxPayload →
      ∃ f, encode m = .ok f ∧ decode (f ++ rest) = .ok (m, f.length)) ∧
    (∀ (bs : Bytes) (m : Message) (used : Nat), decode bs = .ok (m, used) →
      lengthWidth < used ∧ used ≤ bs.length ∧ m.isValid = true ∧
        ∃ f, encode m = .ok f ∧ f.drop lengthWidth <+: (bs.take used).drop lengthWidth) := by
  constructor
  · intro m rest hv hl
    exact decode_encode_append hv hl rest
  · intro bs m used h
    exact encode_of_decode h

/-- A critic's packet with a confidence of `-0`. -/
def objection : Message := .debate ⟨"s", 1, .critic, "né", ⟨⟨0x8000000000000000⟩, ["a"]⟩⟩

/-- Its frame with a length that takes in two more octets, and an octet behind the frame. -/
def paddedObjection : Bytes := putUInt32 59 ++ (payload objection ++ [7, 7]) ++ [9]

theorem frames_are_messages_objection :
    (objection.isValid = true ∧ (payload objection).length ≤ maxPayload ∧
      ∃ f, encode objection = .ok f ∧ decode (f ++ [9]) = .ok (objection, f.length)) ∧
    (decode paddedObjection = .ok (objection, 63) ∧
      lengthWidth < 63 ∧ 63 ≤ paddedObjection.length ∧ objection.isValid = true ∧
        ∃ f, encode objection = .ok f ∧
          f.drop lengthWidth <+: (paddedObjection.take 63).drop lengthWidth) := by
  have hv : objection.isValid = true := by decide +kernel
  have hl : (payload objection).length ≤ maxPayload := by decide
  have hd : decode paddedObjection = .ok (objection, 63) := by
    have hr := readPayload_payload (Option.isNone_iff_eq_none.mp hv) (by decide) [7, 7]
    rw [paddedObjection, decode_of_stated (by decide) (by decide),
      List.take_of_length_le (by decide), hr]
    rfl
  exact ⟨⟨hv, hl, frames_are_messages.1 objection [9] hv hl⟩,
    hd, frames_are_messages.2 paddedObjection objection 63 hd⟩

end Frame

end DebateMesh
