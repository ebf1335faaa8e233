import DebateMesh.Daemon.GuardianNode
import DebateMesh.Daemon.ModeratorLoop
import DebateMesh.Proofs.Message.Frame
import DebateMesh.Proofs.Message.Json

namespace DebateMesh

/-- The layer can carry the message: frames are bounded, texts are not. -/
def Layer.Fits (layer : Layer) (m : Message) : Prop :=
  layer = .backbone → (Frame.payload m).length ≤ Frame.maxPayload

namespace Datagram

/-- The moderator encodes for a layer as nodes do. -/
theorem ofMessage?_eq (layer : Layer) (m : Message) :
    ofMessage? layer m = (encodeFor layer m).toOption.map (message layer) := by
  cases layer with
  | mesh =>
    unfold ofMessage? encodeFor
    cases m.encode <;> rfl
  | backbone =>
    unfold ofMessage? encodeFor
    cases Frame.encode m <;> rfl

theorem ofMessage?_of_encodeFor {layer : Layer} {m : Message} {bs : Bytes}
    (h : encodeFor layer m = .ok bs) : ofMessage? layer m = some (message layer bs) := by
  rw [ofMessage?_eq, h]
  rfl

theorem ofMessage?_mesh {m : Message} {d : Datagram} (h : ofMessage? .mesh m = some d) :
    ∃ bs, Message.encode m = .ok bs ∧ d = .json bs := by
  obtain ⟨bs, he, rfl⟩ := Option.map_eq_some_iff.mp h
  exact ⟨bs, toOption_eq_some_iff.mp he, rfl⟩

theorem ofMessage?_backbone {m : Message} {d : Datagram} (h : ofMessage? .backbone m = some d) :
    ∃ bs, Frame.encode m = .ok bs ∧ d = .frame bs := by
  obtain ⟨bs, he, rfl⟩ := Option.map_eq_some_iff.mp h
  exact ⟨bs, toOption_eq_some_iff.mp he, rfl⟩

/-- A message is taken for no other, as long as its octets can be counted in 64 bits. -/
theorem message?_of_ofMessage? {layer layer' : Layer} {m m' : Message} {d : Datagram}
    (h : ofMessage? layer m = some d) (hsize : d.body.length < 2 ^ 64)
    (hread : d.message? = some (layer', m')) : layer' = layer ∧ m' = m := by
  cases layer with
  | mesh =>
    obtain ⟨bs, he, rfl⟩ := ofMessage?_mesh h
    unfold message? at hread
    dsimp only at hread
    rw [Message.decode_encode he] at hread
    cases hread
    exact ⟨rfl, rfl⟩
  | backbone =>
    obtain ⟨bs, he, rfl⟩ := ofMessage?_backbone h
    have hpayload : (Frame.payload m).length < 2 ^ 64 := by
      obtain ⟨-, -, rfl⟩ := Frame.encode_ok he
      unfold body at hsize
      dsimp only at hsize
      rw [List.length_append] at hsize
      omega
    unfold message? at hread
    dsimp only at hread
    cases hd : Frame.decode bs with
    | error f =>
      rw [hd] at hread
      cases hread
    | ok r =>
      obtain ⟨m₂, used⟩ := r
      rw [hd] at hread
      cases hread
      exact ⟨rfl, Frame.decode_encode_eq he hpayload hd⟩

theorem isValid_of_message? {layer : Layer} {m : Message} {d : Datagram}
    (h : d.message? = some (layer, m)) : m.isValid = true := by
  cases d with
  | sessionInit => cases h
  | json bs =>
    obtain ⟨_, hread, heq⟩ := Option.map_eq_some_iff.mp h
    cases heq
    exact Message.isValid_of_ofBytes (toOption_eq_some_iff.mp hread)
  | frame bs =>
    obtain ⟨_, hread, heq⟩ := Option.map_eq_some_iff.mp h
    cases heq
    exact (Frame.encode_of_decode (toOption_eq_some_iff.mp hread)).2.2.1

theorem ofMessage?_ne_sessionInit {layer : Layer} {m : Message} {bs : Bytes} :
    ofMessage? layer m ≠ some (sessionInit bs) := by
  intro h
  cases layer with
  | mesh =>
    obtain ⟨_, _, hd⟩ := ofMessage?_mesh h
    cases hd
  | backbone =>
    obtain ⟨_, _, hd⟩ := ofMessage?_backbone h
    cases hd

/-- A valid message that the layer can carry is sent, and read at the other end. -/
theorem ofMessage?_of_fits {layer : Layer} {m : Message} (hv : m.isValid = true)
    (hf : layer.Fits m) : ∃ d, ofMessage? layer m = some d ∧ d.message? = some (layer, m) := by
  cases layer with
  | mesh =>
    have he := Message.encode_of_isValid hv
    refine ⟨.json m.toJson.encode, ?_, ?_⟩
    · unfold ofMessage?
      dsimp only
      rw [he]
      rfl
    · unfold message?
      dsimp only
      rw [Message.decode_encode he]
      rfl
  | backbone =>
    obtain ⟨f, he, hd⟩ := Frame.decode_encode_append hv (hf rfl) []
    rw [List.append_nil] at hd
    refine ⟨.frame f, ?_, ?_⟩
    · unfold ofMessage?
      dsimp only
      rw [he]
      rfl
    · unfold message?
      dsimp only
      rw [hd]
      rfl

end Datagram

/-- A valid message that the layer can carry is encoded for it, and read at the other end. -/
theorem encodeFor_of_fits {layer : Layer} {m : Message} (hv : m.isValid = true)
    (hf : layer.Fits m) :
    ∃ bs, encodeFor layer m = .ok bs ∧ (Datagram.message layer bs).message? = some (layer, m) := by
  obtain ⟨d, hd, hread⟩ := Datagram.ofMessage?_of_fits hv hf
  rw [Datagram.ofMessage?_eq] at hd
  cases he : encodeFor layer m with
  | error f =>
    rw [he] at hd
    cases hd
  | ok bs =>
    rw [he] at hd
    cases hd
    exact ⟨bs, rfl, hread⟩

/-- The moderator handles what a datagram holds, if it holds a message. -/
theorem ModeratorLoop.onDatagram_eq (m : Moderator) (d : Datagram) :
    onDatagram m d = match d.message? with
      | none => (m, [])
      | some (_, msg) => m.handle msg := by
  cases d with
  | json b =>
    unfold onDatagram Moderator.onMessage Datagram.message?
    dsimp only
    cases Message.decode b <;> rfl
  | frame b =>
    unfold onDatagram Moderator.onFrame Datagram.message?
    dsimp only
    cases Frame.decode b <;> rfl
  | sessionInit b => rfl

/-- A guardian answers what a datagram holds: an invitation, or a message on its layer. -/
theorem GuardianNode.onDatagram_eq (n : GuardianNode) (d : Datagram) :
    n.onDatagram d = match d with
      | .sessionInit bs => n.onInit bs
      | _ => match d.message? with
        | none => (n, [])
        | some (layer, m) => n.onMessage layer m := by
  cases d <;> rfl

theorem GuardianNode.onDatagram_of_message {n : GuardianNode} {d : Datagram} {layer : Layer}
    {m : Message} (h : d.message? = some (layer, m)) : n.onDatagram d = n.onMessage layer m := by
  rw [onDatagram_eq]
  split
  · cases h
  · rw [h]

end DebateMesh
