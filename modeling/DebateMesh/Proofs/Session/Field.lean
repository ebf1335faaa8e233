import DebateMesh.Guardian
import DebateMesh.Proofs.Envelope.Associated
import DebateMesh.Proofs.Session.Canonical
import DebateMesh.Proofs.Text.Boundary

namespace DebateMesh

open Utf8 (encodeChars width encodeChars_append length_encodeChars_cons length_le_of_front)

variable {w v : Nat} {cs front : List Char} {a b : String}

/-- The longest start of a text that fits in `w` octets and splits no character. -/
structure LongestFit (w : Nat) (cs front : List Char) : Prop where
  start : front <+: cs
  fits : (encodeChars front).length ≤ w
  longest : ∀ other, other <+: cs → (encodeChars other).length ≤ w → other <+: front

theorem takeWidth_front (w : Nat) (cs : List Char) : takeWidth w cs <+: cs := by
  induction cs generalizing w with
  | nil => exact List.prefix_refl _
  | cons c cs ih =>
    rw [takeWidth]
    split
    · exact List.cons_prefix_cons.mpr ⟨rfl, ih _⟩
    · exact List.nil_prefix

theorem takeWidth_longest (hstart : front <+: cs) (hfits : (encodeChars front).length ≤ w) :
    front <+: takeWidth w cs := by
  induction cs generalizing w front with
  | nil => exact hstart
  | cons c cs ih =>
    rcases List.prefix_cons_iff.mp hstart with rfl | ⟨rest, rfl, hrest⟩
    · exact List.nil_prefix
    · rw [length_encodeChars_cons] at hfits
      rw [takeWidth, if_pos (by omega)]
      exact List.cons_prefix_cons.mpr ⟨rfl, ih hrest (by omega)⟩

theorem longestFit_takeWidth (w : Nat) (cs : List Char) : LongestFit w cs (takeWidth w cs) where
  start := takeWidth_front w cs
  fits := length_takeWidth w cs
  longest _ := takeWidth_longest

/-- The way back from the width ends behind the characters that fit. -/
theorem backToBoundary?_encode (w : Nat) (s : String) :
    Utf8.backToBoundary? (Utf8.encode s) (min (Utf8.encode s).length w) =
      some (encodeChars (takeWidth w s.toList)).length := by
  obtain ⟨n, hn, hgreatest⟩ :=
    Utf8.backToBoundary?_eq_some (Utf8.encode s) (min (Utf8.encode s).length w)
  rw [hn]
  congr 1
  apply hgreatest.unique
  have hfit := longestFit_takeWidth w s.toList
  constructor
  · exact ⟨Nat.le_min.mpr ⟨length_le_of_front hfit.start, hfit.fits⟩,
      (Utf8.isBoundary_encodeChars _ _).mpr ⟨_, hfit.start, rfl⟩⟩
  · rintro k ⟨hk, hcut⟩
    obtain ⟨front, hstart, rfl⟩ := (Utf8.isBoundary_encodeChars _ _).mp hcut
    exact length_le_of_front (hfit.longest front hstart (Nat.le_min.mp hk).2)

/-- What is found on octets are the characters that fit. -/
theorem front?_encode (w : Nat) (s : String) :
    Utf8.front? w (Utf8.encode s) = some (takeWidth w s.toList) := by
  obtain ⟨rest, hrest⟩ := takeWidth_front w s.toList
  have hsplit : Utf8.encode s = encodeChars (takeWidth w s.toList) ++ encodeChars rest := by
    rw [← encodeChars_append, hrest, Utf8.encode]
  rw [Utf8.front?, backToBoundary?_encode, Option.bind_some, hsplit, List.take_left,
    Utf8.decodeChars_encodeChars]

theorem takeWidth_append (w : Nat) (cs ds : List Char) : takeWidth w (cs ++ ds) =
    if (encodeChars cs).length ≤ w then cs ++ takeWidth (w - (encodeChars cs).length) ds
    else takeWidth w cs := by
  induction cs generalizing w with
  | nil => rfl
  | cons c cs ih =>
    rw [List.cons_append, takeWidth, takeWidth, length_encodeChars_cons]
    by_cases hc : width c ≤ w
    · rw [if_pos hc, if_pos hc, ih]
      by_cases hrest : (encodeChars cs).length ≤ w - width c
      · rw [if_pos hrest, if_pos (by omega), Nat.sub_add_eq, List.cons_append]
      · rw [if_neg hrest, if_neg (by omega)]
    · rw [if_neg hc, if_neg hc, if_neg (by omega)]

theorem trimNuls_takeWidth_append (w : Nat) (cs : List Char) (n : Nat) :
    trimNuls (takeWidth w (cs ++ List.replicate n '\x00')) = trimNuls (takeWidth w cs) := by
  rw [takeWidth_append]
  split
  · rename_i hfits
    obtain ⟨-, hnuls⟩ := List.prefix_replicate_iff.mp
      (takeWidth_front (w - (encodeChars cs).length) (List.replicate n '\x00'))
    rw [hnuls, takeWidth_of_length hfits]
    exact rdropWhile_append_replicate rfl cs _
  · rfl

theorem takeWidth_takeWidth (hv : v ≤ w) (cs : List Char) :
    takeWidth v (takeWidth w cs) = takeWidth v cs := by
  have hw := longestFit_takeWidth w cs
  have hwv := longestFit_takeWidth v (takeWidth w cs)
  have hfit := longestFit_takeWidth v cs
  have hle := hfit.longest _ (hwv.start.trans hw.start) hwv.fits
  have hge := hwv.longest _ (hw.longest _ hfit.start (hfit.fits.trans hv)) hfit.fits
  exact hle.eq_of_length_le hge.length_le

/-- A wider field on the way changes nothing. -/
theorem fitField_fitField_of_le (hv : v ≤ w) (s : String) :
    fitField v (fitField w s) = fitField v s := by
  have hfilling := rdropWhile_append_filling '\x00' (takeWidth w s.toList)
  rw [fitField, toList_fitField, ← trimNuls_takeWidth_append v _ _, trimNuls_eq (takeWidth w _),
    hfilling, takeWidth_takeWidth hv, fitField]

theorem putField_eq_iff : putField w a = putField w b ↔ fitField w a = fitField w b := by
  constructor
  · intro h
    have hread := congrArg (readField .requestId) h
    rw [readField_putField, readField_putField] at hread
    exact Except.ok.inj hread
  · intro h
    rw [putField, h, putField]

namespace SessionInit

/-- An invitation that names a request and a proposer can be read. -/
theorem exists_shown (requestId : String) {proposerId : String}
    (hp : fitField nodeIdWidth proposerId ≠ "") : ∃ bs i, ofBytes bs = .ok i ∧
      i.requestId = fitField requestIdWidth requestId ∧
      i.proposerId = fitField nodeIdWidth proposerId := by
  let i : SessionInit := ⟨"s", requestId, proposerId, none, []⟩
  have hs : fitField sessionIdWidth "s" ≠ "" := by decide
  exact ⟨i.toBytes, i.fitted, ofBytes_toBytes hs hp, rfl, rfl⟩

/-- A node that a field can name is told apart by an invitation in which it is the proposer. -/
theorem fitField_of_roleOf (ha : fitField nodeIdWidth a ≠ "")
    (h : ∀ bs i, ofBytes bs = .ok i → i.roleOf a = i.roleOf b) :
    fitField nodeIdWidth a = fitField nodeIdWidth b := by
  obtain ⟨bs, i, hread, -, hproposer⟩ := exists_shown "r" ha
  have hrole := (roleOf_eq_proposer_iff i a).mpr hproposer.symm
  rw [h bs i hread, roleOf_eq_proposer_iff, hproposer] at hrole
  exact hrole.symm

theorem roleOf_eq_iff : (∀ bs i, ofBytes bs = .ok i → i.roleOf a = i.roleOf b) ↔
    fitField nodeIdWidth a = fitField nodeIdWidth b := by
  refine ⟨fun h => ?_, fun h _ i _ => by rw [roleOf, h, roleOf]⟩
  by_cases ha : fitField nodeIdWidth a = ""
  · by_cases hb : fitField nodeIdWidth b = ""
    · rw [ha, hb]
    · exact (fitField_of_roleOf hb fun bs i hread => (h bs i hread).symm).symm
  · exact fitField_of_roleOf ha h

end SessionInit

/-- Requests look alike in every header just when their identifiers fill the field alike. -/
theorem showsAs_eq_iff {r r' : RoutingRequest} :
    (∀ bs i, SessionInit.ofBytes bs = .ok i → r.showsAs i.requestId = r'.showsAs i.requestId) ↔
      fitField requestIdWidth r.id = fitField requestIdWidth r'.id := by
  constructor
  · intro h
    obtain ⟨bs, i, hread, hrequest, -⟩ := SessionInit.exists_shown r.id
      (by decide : fitField nodeIdWidth "p" ≠ "")
    have hshown := h bs i hread
    rw [hrequest, RoutingRequest.showsAs, beq_self_eq_true] at hshown
    exact (beq_iff_eq.mp hshown.symm).symm
  · intro h bs i _
    rw [RoutingRequest.showsAs, h, RoutingRequest.showsAs]

/-- A prompt is bound to just what the header shows of the request. -/
theorem decryptText_eq_iff : (∀ (e : Envelope) (blob : Bytes),
    e.decryptText blob (Utf8.encode (fitField requestIdWidth a)) =
      e.decryptText blob (Utf8.encode (fitField requestIdWidth b))) ↔
    fitField requestIdWidth a = fitField requestIdWidth b := by
  refine ⟨fun h => ?_, fun h e blob => by rw [h]⟩
  apply Utf8.encode_inj
  refine Envelope.associated_of_opens (length_fitField _ a) (length_fitField _ b) ?_
  intro e blob s hopen
  rw [← h e blob, hopen]

theorem getLast?_fitField (w : Nat) (s : String) :
    (fitField w s).toList.getLast? ≠ some '\x00' := by
  intro h
  obtain ⟨hne, hlast⟩ := List.mem_getLast?_eq_getLast h
  exact trimmed_iff.mp (trimmed_fitField w s) hne hlast.symm

/-- The way back from a field's width does not pass the front: it ends behind the longest start of
the text that fits, and the field carries that start without the NULs at its end. What it carries
has no more octets than the field, which is filled exactly and read back as that; a field as wide or
narrower carries the same of it as of the text. Two identifiers fill a field alike, are bound to
prompts alike, are found among the requests that wait and among the nodes that are named alike, each
just when their fields carry the same. -/
theorem fields_are_canonical :
    (∀ (w : Nat) (s : String), ∃ n front filling,
      Utf8.backToBoundary? (Utf8.encode s) (min (Utf8.encode s).length w) = some n ∧
      Utf8.front? w (Utf8.encode s) = some front ∧ (encodeChars front).length = n ∧
      LongestFit w s.toList front ∧
      front = (fitField w s).toList ++ List.replicate filling '\x00' ∧
      (fitField w s).toList.getLast? ≠ some '\x00') ∧
    (∀ (w : Nat) (s : String), (Utf8.encode (fitField w s)).length ≤ w ∧
      (putField w s).length = w ∧ (∀ f, readField f (putField w s) = .ok (fitField w s)) ∧
      fitField w (fitField w s) = fitField w s ∧
      ∀ v ≤ w, fitField v (fitField w s) = fitField v s) ∧
    (∀ (w : Nat) (a b : String), (putField w a = putField w b ↔ fitField w a = fitField w b) ∧
      (Utf8.encode (fitField w a) = Utf8.encode (fitField w b) ↔ fitField w a = fitField w b)) ∧
    (∀ r r' : RoutingRequest, (∀ bs i, SessionInit.ofBytes bs = .ok i →
        r.showsAs i.requestId = r'.showsAs i.requestId) ↔
      fitField requestIdWidth r.id = fitField requestIdWidth r'.id) ∧
    (∀ a b : String, (∀ (e : Envelope) (blob : Bytes),
        e.decryptText blob (Utf8.encode (fitField requestIdWidth a)) =
          e.decryptText blob (Utf8.encode (fitField requestIdWidth b))) ↔
      fitField requestIdWidth a = fitField requestIdWidth b) ∧
    ∀ a b : String, (∀ bs i, SessionInit.ofBytes bs = .ok i → i.roleOf a = i.roleOf b) ↔
      fitField nodeIdWidth a = fitField nodeIdWidth b := by
  refine ⟨fun w s => ?_, fun w s => ?_,
    fun w a b => ⟨putField_eq_iff, Utf8.encode_inj, congrArg Utf8.encode⟩,
    fun r r' => showsAs_eq_iff, fun a b => decryptText_eq_iff,
    fun a b => SessionInit.roleOf_eq_iff⟩
  · have hfilling := rdropWhile_append_filling '\x00' (takeWidth w s.toList)
    rw [← trimNuls_eq, ← toList_fitField] at hfilling
    exact ⟨_, _, _, backToBoundary?_encode w s, front?_encode w s, rfl,
      longestFit_takeWidth w s.toList, hfilling.symm, getLast?_fitField w s⟩
  · exact ⟨length_fitField w s, length_putField w s, fun f => readField_putField f w s,
      fitField_fitField w s, fun v hv => fitField_fitField_of_le hv s⟩

/-- The field's width falls into the last character, and without it a NUL is at the end. -/
def exposedId : String := "0123456789abcd\x00é"

theorem fields_are_canonical_exposed : 8 ≤ 16 ∧
    Utf8.backToBoundary? (Utf8.encode exposedId) (min (Utf8.encode exposedId).length 16) = some 15 ∧
    fitField 16 exposedId = "0123456789abcd" ∧
    fitField 8 (fitField 16 exposedId) = fitField 8 exposedId ∧
    ∃ bs i, SessionInit.ofBytes bs = .ok i ∧ i.roleOf exposedId = some .proposer ∧
      i.roleOf "0123456789abcd" = some .proposer := by
  obtain ⟨-, hfield, -, -, -, hrole⟩ := fields_are_canonical
  obtain ⟨-, -, -, -, hnarrow⟩ := hfield 16 exposedId
  refine ⟨by decide, by decide, by decide, hnarrow 8 (by decide), ?_⟩
  obtain ⟨bs, i, hread, -, hproposer⟩ := SessionInit.exists_shown "r"
    (by decide : fitField nodeIdWidth exposedId ≠ "")
  have hnamed := (i.roleOf_eq_proposer_iff exposedId).mpr hproposer.symm
  have hsame := (hrole exposedId "0123456789abcd").mpr (by decide) bs i hread
  exact ⟨bs, i, hread, hnamed, hsame.symm.trans hnamed⟩

end DebateMesh
