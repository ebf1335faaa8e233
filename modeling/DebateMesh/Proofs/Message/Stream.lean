import DebateMesh.Proofs.Message.Frame
import Mathlib.Algebra.Ring.Nat
import Mathlib.Data.List.Forall2

namespace DebateMesh.Frame

variable {bs more : Bytes} {m : Message} {used : Nat} {f : ReadFault}

/-- Only a buffer that needs more is read otherwise once there is more. -/
theorem decode_append (h : decode bs ≠ .error .needMore) (more : Bytes) :
    decode (bs ++ more) = decode bs := by
  unfold decode at h ⊢
  dsimp only at h ⊢
  split at h
  · exact absurd rfl h
  rename_i hl
  have hwidth : lengthWidth ≤ bs.length := by
    rw [List.length_take] at hl
    omega
  rw [List.take_append_of_le_length hwidth, List.drop_append_of_le_length hwidth]
  split at h
  · rename_i hcap
    simp only [if_neg hl, if_pos hcap]
  rename_i hcap
  split at h
  · exact absurd rfl h
  rename_i hbody
  have hstated : Bytes.toNatLE (bs.take lengthWidth) ≤ (bs.drop lengthWidth).length := by
    rw [List.length_take] at hbody
    omega
  rw [List.take_append_of_le_length hstated]

theorem drain_of_error (h : decode bs = .error f) : drain bs = ⟨[], f, bs⟩ := by
  rw [drain]
  split
  · rename_i f' h'
    rw [h] at h'
    cases h'
    rfl
  · rename_i h'
    rw [h] at h'
    cases h'

theorem drain_of_ok (h : decode bs = .ok (m, used)) :
    drain bs = { drain (bs.drop used) with
      frames := (m, used) :: (drain (bs.drop used)).frames } := by
  conv => lhs; rw [drain]
  split
  · rename_i h'
    rw [h] at h'
    cases h'
  · rename_i h'
    rw [h] at h'
    cases h'
    rfl

/-- A drain ends where no frame can be read, and for the reason that it gives. -/
theorem decode_left (bs : Bytes) : decode (drain bs).left = .error (drain bs).stop := by
  induction bs using drain.induct with
  | case1 bs f hd =>
    rw [drain_of_error hd]
    exact hd
  | case2 bs m used hd ih =>
    rw [drain_of_ok hd]
    exact ih

/-- Every octet is either part of a frame or left over, and no frame is empty. -/
theorem length_drain (bs : Bytes) : (drain bs).frames.length ≤ bs.length ∧
    ((drain bs).frames.map Prod.snd).sum + (drain bs).left.length = bs.length := by
  induction bs using drain.induct with
  | case1 bs f hd =>
    rw [drain_of_error hd]
    exact ⟨Nat.zero_le _, by rw [List.map_nil, List.sum_nil, Nat.zero_add]⟩
  | case2 bs m used hd ih =>
    obtain ⟨hcount, hsum⟩ := ih
    have hu := decode_used hd
    rw [drain_of_ok hd]
    dsimp only
    rw [List.length_cons, List.map_cons, List.sum_cons]
    rw [List.length_drop] at hcount hsum
    simp only [lengthWidth] at hu
    omega

/-- Draining goes on where it stopped when more arrives. -/
theorem drain_append (bs more : Bytes) : drain (bs ++ more) =
    { drain ((drain bs).left ++ more) with
      frames := (drain bs).frames ++ (drain ((drain bs).left ++ more)).frames } := by
  induction bs using drain.induct with
  | case1 bs f hd =>
    rw [drain_of_error hd]
    rfl
  | case2 bs m used hd ih =>
    have hmore : decode (bs ++ more) = .ok (m, used) := by
      rw [decode_append (by rw [hd]; exact fun h => by cases h), hd]
    rw [drain_of_ok hmore, drain_of_ok hd, List.drop_append_of_le_length (decode_used hd).2, ih]
    rfl

/-- What all drains of a stream come to: their frames in turn, and how the last one ended. -/
def Drained.joined : List Drained → Option Drained
  | [] => none
  | d :: ds => some <|
    match joined ds with
    | none => d
    | some e => { e with frames := d.frames ++ e.frames }

/-- What a stream comes to that arrives in these pieces. -/
def reassemble (chunks : List Bytes) : Option Drained := Drained.joined (drainChunks [] chunks)

theorem joined_drainChunks (left chunk : Bytes) (chunks : List Bytes) :
    Drained.joined (drainChunks left (chunk :: chunks)) =
      some (drain (left ++ (chunk :: chunks).flatten)) := by
  induction chunks generalizing left chunk with
  | nil => rw [List.flatten_singleton]; rfl
  | cons next rest ih =>
    have hwhole : left ++ (chunk :: next :: rest).flatten =
        (left ++ chunk) ++ (next :: rest).flatten := by
      rw [List.flatten_cons, List.append_assoc]
    rw [drainChunks, Drained.joined, ih, hwhole, drain_append (left ++ chunk)]

/-- Pieces come to what the whole comes to. -/
theorem reassemble_eq {chunks : List Bytes} (h : chunks ≠ []) :
    reassemble chunks = some (drain chunks.flatten) := by
  cases chunks with
  | nil => exact absurd rfl h
  | cons chunk rest => exact joined_drainChunks [] chunk rest

/-- A frame of the message that is not too large to be read. -/
def IsFrame (m : Message) (f : Bytes) : Prop :=
  (payload m).length ≤ maxPayload ∧ encode m = .ok f

theorem IsFrame.decode_append {f : Bytes} (h : IsFrame m f) (rest : Bytes) :
    decode (f ++ rest) = .ok (m, f.length) := by
  obtain ⟨f', hf', hd⟩ :=
    decode_encode_append (Option.isNone_iff_eq_none.mpr (encode_ok h.2).1) h.1 rest
  rw [h.2] at hf'
  cases hf'
  exact hd

/-- Frames one behind the other are taken off in turn, and nothing is left. -/
theorem drain_frames {ms : List Message} {fs : List Bytes} (h : List.Forall₂ IsFrame ms fs) :
    drain fs.flatten = ⟨ms.zip (fs.map List.length), .needMore, []⟩ := by
  induction h with
  | nil => exact drain_of_error rfl
  | cons hf _ ih =>
    rw [List.flatten_cons, drain_of_ok (hf.decode_append _), List.drop_left, ih]
    rfl

/-- However a stream is cut, the same frames are read, reading stops for the same reason, and the
same octets are left. Each frame takes up something, so every drain ends; and a stream of frames
gives its messages and leaves nothing. -/
theorem reassembly_ignores_cuts :
    (∀ cs ds : List Bytes, cs ≠ [] → ds ≠ [] → cs.flatten = ds.flatten →
      ∃ d, reassemble cs = some d ∧ reassemble ds = some d) ∧
    (∀ (bs : Bytes) (m : Message) (used : Nat), decode bs = .ok (m, used) →
      1 ≤ used ∧ used ≤ bs.length) ∧
    (∀ bs : Bytes, decode (drain bs).left = .error (drain bs).stop ∧
      (drain bs).frames.length ≤ bs.length ∧
      ((drain bs).frames.map Prod.snd).sum + (drain bs).left.length = bs.length) ∧
    ∀ (ms : List Message) (fs cs : List Bytes), List.Forall₂ IsFrame ms fs → cs ≠ [] →
      cs.flatten = fs.flatten → ∃ d, reassemble cs = some d ∧ d.frames.map Prod.fst = ms ∧
        d.stop = .needMore ∧ d.left = [] := by
  refine ⟨fun cs ds hcs hds heq => ?_, fun bs m used h => ?_, fun bs => ?_, ?_⟩
  · exact ⟨drain cs.flatten, reassemble_eq hcs, by rw [reassemble_eq hds, heq]⟩
  · have hu := decode_used h
    simp only [lengthWidth] at hu
    omega
  · exact ⟨decode_left bs, length_drain bs⟩
  · intro ms fs cs hframes hcs heq
    have hlen : ms.length ≤ (fs.map List.length).length := by
      rw [List.length_map]
      exact Nat.le_of_eq hframes.length_eq
    have hd := reassemble_eq hcs
    rw [heq, drain_frames hframes] at hd
    exact ⟨_, hd, List.map_fst_zip hlen, rfl, rfl⟩

def objectionFrame : Bytes := putUInt32 57 ++ payload objection

/-- Two frames of an objection; the first is cut inside its length and inside a character. -/
def objectionPieces : List Bytes :=
  [objectionFrame.take 2, (objectionFrame.drop 2).take 33, objectionFrame.drop 35 ++ objectionFrame]

theorem reassembly_ignores_cuts_objections :
    (∃ d, reassemble objectionPieces = some d ∧
      reassemble [objectionFrame, objectionFrame] = some d) ∧
    (decode objectionFrame = .ok (objection, 61) ∧ 1 ≤ 61 ∧ 61 ≤ objectionFrame.length) ∧
    List.Forall₂ IsFrame [objection, objection] [objectionFrame, objectionFrame] ∧
    ∃ d, reassemble objectionPieces = some d ∧ d.frames.map Prod.fst = [objection, objection] ∧
      d.stop = .needMore ∧ d.left = [] := by
  obtain ⟨hcuts, hused, -, hframes⟩ := reassembly_ignores_cuts
  have hwhole : objectionPieces.flatten = [objectionFrame, objectionFrame].flatten := by decide
  have hframe : IsFrame objection objectionFrame := by
    have hl : (payload objection).length ≤ maxPayload := by decide
    exact ⟨hl, encode_of_length (by decide +kernel) hl⟩
  have hdecode := hframe.decode_append []
  rw [List.append_nil] at hdecode
  have hall : List.Forall₂ IsFrame [objection, objection] [objectionFrame, objectionFrame] :=
    .cons hframe (.cons hframe .nil)
  exact ⟨hcuts _ _ (by decide) (by decide) hwhole, ⟨hdecode, hused _ _ _ hdecode⟩, hall,
    hframes _ _ _ hall (by decide) hwhole⟩

end DebateMesh.Frame
