import DebateMesh.Proofs.Datagram
import DebateMesh.Proofs.Json.Text
import DebateMesh.Proofs.Message.Stream

namespace DebateMesh

/-- The front of some octets, but not all of them. -/
def Cut (p bs : Bytes) : Prop := p <+: bs ∧ p ≠ bs

theorem Cut.split {p bs : Bytes} (h : Cut p bs) : ∃ q, bs = p ++ q ∧ q ≠ [] := by
  obtain ⟨⟨q, rfl⟩, hne⟩ := h
  refine ⟨q, rfl, ?_⟩
  rintro rfl
  exact hne (List.append_nil p).symm

theorem Cut.length_lt {p bs : Bytes} (h : Cut p bs) : p.length < bs.length := by
  obtain ⟨q, rfl, hq⟩ := h.split
  rw [List.length_append]
  exact Nat.lt_add_of_pos_right (List.length_pos_iff.mpr hq)

theorem cut_take {bs : Bytes} {n : Nat} (h : n < bs.length) : Cut (bs.take n) bs := by
  refine ⟨List.take_prefix n bs, fun heq => ?_⟩
  have hlen := congrArg List.length heq
  rw [List.length_take] at hlen
  omega

/-- What is cut loses either everything or something behind its first octet. -/
theorem cut_cons_iff {p bs : Bytes} {b : UInt8} :
    Cut p (b :: bs) ↔ p = [] ∨ ∃ p', p = b :: p' ∧ Cut p' bs := by
  unfold Cut
  rw [List.prefix_cons_iff]
  constructor
  · rintro ⟨rfl | ⟨p', rfl, hprefix⟩, hne⟩
    · exact Or.inl rfl
    · exact Or.inr ⟨p', rfl, hprefix, fun h => hne (congrArg (List.cons b) h)⟩
  · rintro (rfl | ⟨p', rfl, hprefix, hne⟩)
    · exact ⟨Or.inl rfl, (List.cons_ne_nil _ _).symm⟩
    · exact ⟨Or.inr ⟨p', rfl, hprefix⟩, fun h => hne (List.cons.inj h).2⟩

theorem Message.ofBytes_cut {m : Message} {bs p : Bytes} (h : encode m = .ok bs) (hcut : Cut p bs)
    (choose : String → Except ReadFault Kind) : ofBytes choose p = .error .notJson := by
  obtain ⟨hv, rfl⟩ := encode_ok h
  obtain ⟨q, hbs, hq⟩ := hcut.split
  obtain ⟨ms, hms, -⟩ := ofMembers_record m.varies_toJson
  have hreadable := readable_toJson hv
  rw [hms] at hbs hreadable
  rw [ofBytes, Json.decode_cut hreadable hbs hq]

/-- If less than the whole frame could be read, the frame would be read as no more than that. -/
theorem Frame.decode_cut {m : Message} {f p : Bytes} (h : encode m = .ok f)
    (hl : (payload m).length ≤ maxPayload) (hcut : Cut p f) : decode p = .error .needMore := by
  by_contra hread
  have hv : m.isValid = true := Option.isNone_iff_eq_none.mpr (encode_ok h).1
  obtain ⟨f', hf', hwhole⟩ := decode_encode_append hv hl []
  obtain rfl : f' = f := Except.ok.inj (hf'.symm.trans h)
  obtain ⟨q, hq, -⟩ := hcut.split
  rw [List.append_nil, hq, decode_append hread, ← hq] at hwhole
  exact absurd hcut.length_lt (Nat.not_lt.mpr (decode_used hwhole).2)

/-- What is cut of a message's datagram has no message. -/
theorem Datagram.message?_cut {layer : Layer} {m : Message} {d d' : Datagram} {p : Bytes}
    (hf : layer.Fits m) (hd : ofMessage? layer m = some d) (hcut : Cut p d.encode)
    (hd' : decode p = some d') : d'.message? = none ∧ ∀ bs, d' ≠ .sessionInit bs := by
  rcases cut_cons_iff.mp hcut with rfl | ⟨p', rfl, hbody⟩
  · cases hd'
  cases layer with
  | mesh =>
    obtain ⟨bs, he, rfl⟩ := ofMessage?_mesh hd
    cases hd'
    refine ⟨?_, by simp⟩
    rw [message?, Message.decode, Message.ofBytes_cut he hbody]
    rfl
  | backbone =>
    obtain ⟨f, he, rfl⟩ := ofMessage?_backbone hd
    cases hd'
    refine ⟨?_, by simp⟩
    rw [message?, Frame.decode_cut he (hf rfl) hbody]
    rfl

theorem GuardianNode.onDatagram_of_unreadable {d : Datagram} (hd : d.message? = none)
    (hinit : ∀ bs, d ≠ .sessionInit bs) (n : GuardianNode) : n.onDatagram d = (n, []) := by
  unfold onDatagram
  split
  · exact absurd rfl (hinit _)
  · rw [hd]

theorem ModeratorLoop.onDatagram_of_unreadable {d : Datagram} (hd : d.message? = none)
    (g : Moderator) : onDatagram g d = (g, []) := by
  cases d with
  | sessionInit bs => rfl
  | json bs =>
    cases hread : Message.decode bs with
    | error fault => simp [onDatagram, Moderator.onMessage, hread]
    | ok m => simp [Datagram.message?, hread, Except.toOption] at hd
  | frame bs =>
    cases hread : Frame.decode bs with
    | error fault => simp [onDatagram, Moderator.onFrame, hread]
    | ok r => simp [Datagram.message?, hread, Except.toOption] at hd

/-- No cut text of a valid message is read as JSON, and of a cut frame more is asked for. A node
that gets a cut datagram of it drops it. -/
theorem cut_messages_are_refused {m : Message} (hv : m.isValid = true) :
    (∃ bs, Message.encode m = .ok bs ∧ ∀ p, Cut p bs →
      Message.decode p = .error .notJson ∧ (∀ k, Message.decodeAs k p = .error .notJson) ∧
      ∀ g : Moderator, g.onMessage p = (g, [])) ∧
    ((Frame.payload m).length ≤ Frame.maxPayload →
      ∃ f, Frame.encode m = .ok f ∧ ∀ p, Cut p f →
        Frame.decode p = .error .needMore ∧ ∀ g : Moderator, g.onFrame p = (g, [])) ∧
    (∀ layer : Layer, layer.Fits m →
      ∃ d, Datagram.ofMessage? layer m = some d ∧ ∀ p, Cut p d.encode →
        ∀ d', Datagram.decode p = some d' → (∀ n : GuardianNode, n.onDatagram d' = (n, [])) ∧
          ∀ g : Moderator, ModeratorLoop.onDatagram g d' = (g, [])) := by
  refine ⟨?_, fun hl => ?_, fun layer hf => ?_⟩
  · have he := Message.encode_of_isValid hv
    refine ⟨_, he, fun p hcut => ?_⟩
    have hread : Message.decode p = .error .notJson := Message.ofBytes_cut he hcut _
    refine ⟨hread, fun k => Message.ofBytes_cut he hcut _, fun g => ?_⟩
    rw [Moderator.onMessage, hread]
  · have he := Frame.encode_of_length hv hl
    refine ⟨_, he, fun p hcut => ?_⟩
    have hread := Frame.decode_cut he hl hcut
    exact ⟨hread, fun g => by rw [Moderator.onFrame, hread]⟩
  · obtain ⟨d, hd, -⟩ := Datagram.ofMessage?_of_fits hv hf
    refine ⟨d, hd, fun p hcut d' hd' => ?_⟩
    obtain ⟨hnone, hinit⟩ := Datagram.message?_cut hf hd hcut hd'
    exact ⟨GuardianNode.onDatagram_of_unreadable hnone hinit,
      ModeratorLoop.onDatagram_of_unreadable hnone⟩

/-- The text cut within a character and within an escape, and the frame within its length. -/
theorem cut_messages_are_refused_remark : Message.remark.isValid = true ∧
    Message.decode (Message.remark.toJson.encode.take 14) = .error .notJson ∧
    Message.decode (Message.remark.toJson.encode.take 16) = .error .notJson ∧
    ∃ f, Frame.encode Message.remark = .ok f ∧ Frame.decode (f.take 3) = .error .needMore := by
  have hv : Message.remark.isValid = true := by decide +kernel
  obtain ⟨⟨bs, he, htext⟩, hframe, -⟩ := cut_messages_are_refused hv
  obtain rfl := Except.ok.inj ((Message.encode_of_isValid hv).symm.trans he)
  obtain ⟨f, hf, hcut⟩ := hframe (by decide)
  have hlong : 3 < f.length := by
    obtain ⟨-, -, rfl⟩ := Frame.encode_ok hf
    decide
  exact ⟨hv, (htext _ (cut_take (by decide +kernel))).1, (htext _ (cut_take (by decide +kernel))).1,
    f, hf, (hcut _ (cut_take hlong)).1⟩

end DebateMesh
