import DebateMesh.Message.Frame

namespace DebateMesh

def Utf8.front (n : Nat) (s : String) : Bytes :=
  List.ofFn fun i : Fin (min n s.utf8ByteSize) =>
    s.getUTF8Byte ⟨i⟩ (Nat.lt_of_lt_of_le i.isLt (Nat.min_le_right _ _))

namespace Frame

/-- A piece of a payload; texts are not encoded before they are asked for. -/
inductive Piece
  | octets (bs : Bytes)
  | text (s : String)

namespace Piece

def bytes : Piece → Bytes
  | octets bs => bs
  | text s => Utf8.encode s

def size : Piece → Nat
  | octets bs => bs.length
  | text s => s.utf8ByteSize

def front (n : Nat) : Piece → Bytes
  | octets bs => bs.take n
  | text s => Utf8.front n s

def ofText (s : String) : List Piece := [octets (Bytes.ofNatLE 8 s.utf8ByteSize), text s]

def ofTexts (ss : List String) : List Piece :=
  octets (Bytes.ofNatLE 8 ss.length) :: ss.flatMap ofText

def totalSize : List Piece → Nat
  | [] => 0
  | p :: ps => p.size + totalSize ps

def totalFront (n : Nat) : List Piece → Bytes
  | [] => []
  | p :: ps => p.front n ++ totalFront (n - p.size) ps

end Piece

open Piece in
def pieces : Message → List Piece
  | .routing r =>
    octets (putUInt32 0) :: (ofText r.id ++ ofText r.origin ++ ofText r.intent.primary ++
      ofTexts r.intent.secondary ++
      [octets (putDouble r.intent.confidence ++ putConstraints r.constraints ++
        putUInt64 r.timestamp)] ++ ofText r.payloadHash)
  | .offer o =>
    octets (putUInt32 1) :: (ofText o.requestId ++ ofText o.guardianId ++ ofText o.expertType ++
      ofTexts o.capabilities ++ [octets (putBid o.bid)] ++ ofText o.signature)
  | .debate p =>
    octets (putUInt32 2) :: (ofText p.sessionId ++
      [octets (putUInt32 p.round ++ putUInt32 (roleIndex p.role))] ++ ofText p.content ++
      [octets (putDouble p.metadata.confidence)] ++ ofTexts p.metadata.citations)

/-- What reading a message's own frame gives, unless there is none. Only as many octets of the
payload are made as the frame states. -/
def loopback (m : Message) : Except WriteFault (Except ReadFault (Message × Nat)) :=
  match m.fault? with
  | some f => .error (.invalid f)
  | none =>
    let stated := UInt32.ofNat (Piece.totalSize (pieces m))
    if maxPayload < stated.toNat then .error .tooLarge
    else
      let body := Piece.totalFront stated.toNat (pieces m)
      .ok ((readPayload body).map fun m => (m, lengthWidth + stated.toNat))

end Frame

end DebateMesh
