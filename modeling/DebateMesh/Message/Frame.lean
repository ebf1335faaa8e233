import DebateMesh.Message

namespace DebateMesh.Frame

/-- Octets of the length in front of a payload. -/
def lengthWidth : Nat := 4

def maxPayload : Nat := 64 * 1024

def putText (s : String) : Bytes :=
  let bs := Utf8.encode s
  Bytes.ofNatLE 8 bs.length ++ bs

def putTexts (ss : List String) : Bytes := Bytes.ofNatLE 8 ss.length ++ ss.flatMap putText

def putDouble (x : Binary64) : Bytes := Bytes.ofNatLE 8 x.bits.toNat

def putBool (b : Bool) : Bytes := [if b then 1 else 0]

def putUInt32 (n : UInt32) : Bytes := Bytes.ofNatLE 4 n.toNat

def putUInt64 (n : UInt64) : Bytes := Bytes.ofNatLE 8 n.toNat

def putIntent (i : Intent) : Bytes :=
  putText i.primary ++ putTexts i.secondary ++ putDouble i.confidence

def putConstraints (c : Constraints) : Bytes :=
  putUInt32 c.maxLatency ++ c.minReputation :: (putDouble c.costCap ++ putBool c.preferLocal)

def putRequest (r : RoutingRequest) : Bytes :=
  putText r.id ++ putText r.origin ++ putIntent r.intent ++ putConstraints r.constraints ++
    putUInt64 r.timestamp ++ putText r.payloadHash

def putBid (b : Bid) : Bytes := putDouble b.cost ++ putUInt32 b.latency

def putOffer (o : ExpertOffer) : Bytes :=
  putText o.requestId ++ putText o.guardianId ++ putText o.expertType ++ putTexts o.capabilities ++
    putBid o.bid ++ putText o.signature

def putMetadata (m : Metadata) : Bytes := putDouble m.confidence ++ putTexts m.citations

def roleIndex : Role → UInt32
  | .proposer => 0
  | .critic => 1

def putPacket (p : DebatePacket) : Bytes :=
  putText p.sessionId ++ putUInt32 p.round ++ putUInt32 (roleIndex p.role) ++ putText p.content ++
    putMetadata p.metadata

def payload : Message → Bytes
  | .routing r => putUInt32 0 ++ putRequest r
  | .offer o => putUInt32 1 ++ putOffer o
  | .debate p => putUInt32 2 ++ putPacket p

inductive WriteFault
  | invalid (field : Field)
  | tooLarge
deriving DecidableEq

def WriteFault.message : WriteFault → String
  | .invalid f => refusal f
  | .tooLarge => "frame too large"

/-- The cap is compared with the length as the four octets hold it. -/
def encode (m : Message) : Except WriteFault Bytes :=
  match m.fault? with
  | some f => .error (.invalid f)
  | none =>
    let body := payload m
    let stated := UInt32.ofNat body.length
    if maxPayload < stated.toNat then .error .tooLarge else .ok (putUInt32 stated ++ body)

inductive PayloadFault
  | endOfBytes
  | notUtf8
  /-- An index without a variant, of which there are `count`. -/
  | unknownVariant (index : UInt32) (count : Nat)
  | notBool (octet : UInt8)
deriving DecidableEq

def PayloadFault.text : PayloadFault → String
  | .endOfBytes => "unexpected end of bytes"
  | .notUtf8 => "text is not valid utf-8"
  | .unknownVariant i n =>
    "invalid value: integer `" ++ toString i.toNat ++ "`, expected variant index 0 <= i < " ++
      toString n
  | .notBool b =>
    "invalid u8 while decoding bool, expected 0 or 1, found " ++ toString b.toNat

abbrev Read (α : Type) := Bytes → Except PayloadFault (α × Bytes)

def take (n : Nat) : Read Bytes := fun bs =>
  let front := bs.take n
  if front.length = n then .ok (front, bs.drop n) else .error .endOfBytes

def getNat (width : Nat) : Read Nat := fun bs => do
  let (front, bs) ← take width bs
  return (Bytes.toNatLE front, bs)

def getText : Read String := fun bs => do
  let (n, bs) ← getNat 8 bs
  let (front, bs) ← take n bs
  match Utf8.decode front with
  | some s => return (s, bs)
  | none => .error .notUtf8

def getTextsFrom : (count : Nat) → Read (List String)
  | 0, bs => .ok ([], bs)
  | n + 1, bs => do
    let (s, bs) ← getText bs
    let (ss, bs) ← getTextsFrom n bs
    return (s :: ss, bs)

def getTexts : Read (List String) := fun bs => do
  let (n, bs) ← getNat 8 bs
  getTextsFrom n bs

def getUInt32 : Read UInt32 := fun bs => do
  let (n, bs) ← getNat 4 bs
  return (UInt32.ofNat n, bs)

def getUInt64 : Read UInt64 := fun bs => do
  let (n, bs) ← getNat 8 bs
  return (UInt64.ofNat n, bs)

def getDouble : Read Binary64 := fun bs => do
  let (n, bs) ← getUInt64 bs
  return (⟨n⟩, bs)

def getUInt8 : Read UInt8
  | [] => .error .endOfBytes
  | b :: bs => .ok (b, bs)

def getBool : Read Bool := fun bs => do
  let (b, bs) ← getUInt8 bs
  if b = 0 then return (false, bs)
  else if b = 1 then return (true, bs)
  else .error (.notBool b)

def getIntent : Read Intent := fun bs => do
  let (primary, bs) ← getText bs
  let (secondary, bs) ← getTexts bs
  let (confidence, bs) ← getDouble bs
  return ({ primary, secondary, confidence }, bs)

def getConstraints : Read Constraints := fun bs => do
  let (maxLatency, bs) ← getUInt32 bs
  let (minReputation, bs) ← getUInt8 bs
  let (costCap, bs) ← getDouble bs
  let (preferLocal, bs) ← getBool bs
  return ({ maxLatency, minReputation, costCap, preferLocal }, bs)

def getRequest : Read RoutingRequest := fun bs => do
  let (id, bs) ← getText bs
  let (origin, bs) ← getText bs
  let (intent, bs) ← getIntent bs
  let (constraints, bs) ← getConstraints bs
  let (timestamp, bs) ← getUInt64 bs
  let (payloadHash, bs) ← getText bs
  return ({ id, origin, intent, constraints, timestamp, payloadHash }, bs)

def getBid : Read Bid := fun bs => do
  let (cost, bs) ← getDouble bs
  let (latency, bs) ← getUInt32 bs
  return ({ cost, latency }, bs)

def getOffer : Read ExpertOffer := fun bs => do
  let (requestId, bs) ← getText bs
  let (guardianId, bs) ← getText bs
  let (expertType, bs) ← getText bs
  let (capabilities, bs) ← getTexts bs
  let (bid, bs) ← getBid bs
  let (signature, bs) ← getText bs
  return ({ requestId, guardianId, expertType, capabilities, bid, signature }, bs)

def getMetadata : Read Metadata := fun bs => do
  let (confidence, bs) ← getDouble bs
  let (citations, bs) ← getTexts bs
  return ({ confidence, citations }, bs)

def getRole : Read Role := fun bs => do
  let (i, bs) ← getUInt32 bs
  if i = 0 then return (.proposer, bs)
  else if i = 1 then return (.critic, bs)
  else .error (.unknownVariant i 2)

def getPacket : Read DebatePacket := fun bs => do
  let (sessionId, bs) ← getText bs
  let (round, bs) ← getUInt32 bs
  let (role, bs) ← getRole bs
  let (content, bs) ← getText bs
  let (metadata, bs) ← getMetadata bs
  return ({ sessionId, round, role, content, metadata }, bs)

def getMessage : Read Message := fun bs => do
  let (i, bs) ← getUInt32 bs
  if i = 0 then
    let (r, bs) ← getRequest bs
    return (.routing r, bs)
  else if i = 1 then
    let (o, bs) ← getOffer bs
    return (.offer o, bs)
  else if i = 2 then
    let (p, bs) ← getPacket bs
    return (.debate p, bs)
  else .error (.unknownVariant i 3)

inductive ReadFault
  /-- The bytes so far are a proper start of a frame. -/
  | needMore
  | tooLarge
  | malformed (fault : PayloadFault)
  | invalid (field : Field)
deriving DecidableEq

def ReadFault.message : ReadFault → String
  | .needMore => "need more bytes"
  | .tooLarge => "frame too large"
  | .malformed f => "decode error: " ++ f.text
  | .invalid f => "invalid message: " ++ invalidField f

def readPayload (body : Bytes) : Except ReadFault Message :=
  match getMessage body with
  | .error f => .error (.malformed f)
  | .ok (m, _) =>
    match m.fault? with
    | some f => .error (.invalid f)
    | none => .ok m

/-- The message of the frame in front, and the octets the frame takes up. What stands behind the
message within the stated length is ignored. -/
def decode (bs : Bytes) : Except ReadFault (Message × Nat) :=
  if (bs.take lengthWidth).length < lengthWidth then .error .needMore
  else
    let stated := Bytes.toNatLE (bs.take lengthWidth)
    if maxPayload < stated then .error .tooLarge
    else
      let body := (bs.drop lengthWidth).take stated
      if body.length < stated then .error .needMore
      else (readPayload body).map fun m => (m, lengthWidth + stated)

theorem decode_used {bs : Bytes} {m : Message} {used : Nat} (h : decode bs = .ok (m, used)) :
    lengthWidth ≤ used ∧ used ≤ bs.length := by
  unfold decode at h
  split at h
  · cases h
  · rename_i hl
    dsimp only at h
    split at h
    · cases h
    · split at h
      · cases h
      · rename_i hb
        cases hp : readPayload
            ((bs.drop lengthWidth).take (Bytes.toNatLE (bs.take lengthWidth))) with
        | error f => simp [hp, Except.map] at h
        | ok m' =>
          simp only [hp, Except.map, Except.ok.injEq, Prod.mk.injEq] at h
          simp only [List.length_take, List.length_drop, lengthWidth] at hl hb h ⊢
          omega

/-- What taking frames off the front of a buffer comes to. -/
structure Drained where
  frames : List (Message × Nat)
  stop : ReadFault
  left : Bytes

/-- Takes frames off the front until none can be read. -/
def drain (bs : Bytes) : Drained :=
  match _h : decode bs with
  | .error f => ⟨[], f, bs⟩
  | .ok (m, used) =>
    let d := drain (bs.drop used)
    { d with frames := (m, used) :: d.frames }
termination_by bs.length
decreasing_by
  have := decode_used _h
  simp only [lengthWidth, List.length_drop] at *
  omega

/-- Appends each chunk to what the ones before it left over, and drains. -/
def drainChunks (left : Bytes) : List Bytes → List Drained
  | [] => []
  | c :: cs =>
    let d := drain (left ++ c)
    d :: drainChunks d.left cs

end DebateMesh.Frame
