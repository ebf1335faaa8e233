import DebateMesh.Message

namespace DebateMesh

def sessionIdWidth : Nat := 32

def requestIdWidth : Nat := 16

def nodeIdWidth : Nat := 16

def headerWidth : Nat := sessionIdWidth + requestIdWidth + 2 * nodeIdWidth

/-- The longest start of a text that fits in `width` octets. -/
def takeWidth : (width : Nat) → List Char → List Char
  | _, [] => []
  | w, c :: cs => if Utf8.width c ≤ w then c :: takeWidth (w - Utf8.width c) cs else []

def trimNuls (cs : List Char) : List Char := (cs.reverse.dropWhile (· == '\x00')).reverse

/-- What a field of fixed width carries of a text: whole characters that fit, without the NULs at
the end, which look like filling. -/
def fitField (width : Nat) (s : String) : String :=
  String.ofList (trimNuls (takeWidth width s.toList))

def putField (width : Nat) (s : String) : Bytes :=
  let bs := Utf8.encode (fitField width s)
  bs ++ List.replicate (width - bs.length) 0

def trimZeros (bs : Bytes) : Bytes := (bs.reverse.dropWhile (· == 0)).reverse

/-- The invitation to a debate. Its header holds the four identifiers in fields of fixed width. -/
structure SessionInit where
  sessionId : String
  requestId : String
  proposerId : String
  criticId : Option String
  encryptedPrompt : Bytes
deriving DecidableEq

inductive HeaderField
  | sessionId
  | requestId
  | proposerId
  | criticId
deriving DecidableEq

def HeaderField.name : HeaderField → String
  | .sessionId => "session_id"
  | .requestId => "request_id"
  | .proposerId => "proposer_id"
  | .criticId => "critic_id"

inductive HeaderFault
  | truncated (length : Nat)
  | notUtf8 (field : HeaderField)
  | empty (field : HeaderField)
deriving DecidableEq

def HeaderFault.message : HeaderFault → String
  | .truncated n => "truncated header: " ++ toString n ++ " bytes"
  | .notUtf8 f => "field " ++ f.name ++ " is not valid utf-8"
  | .empty f => "invalid field: " ++ f.name

def readField (f : HeaderField) (bs : Bytes) : Except HeaderFault String :=
  match Utf8.decode (trimZeros bs) with
  | some s => .ok s
  | none => .error (.notUtf8 f)

namespace SessionInit

/-- The nodes a session is for, the proposer first. -/
def recipients (i : SessionInit) : List String := i.proposerId :: i.criticId.toList

def toBytes (i : SessionInit) : Bytes :=
  putField sessionIdWidth i.sessionId ++ putField requestIdWidth i.requestId ++
    putField nodeIdWidth i.proposerId ++ putField nodeIdWidth (i.criticId.getD "") ++
    i.encryptedPrompt

/-- The fields of a header that is long enough. -/
def ofFields (session request proposer critic prompt : Bytes) : Except HeaderFault SessionInit := do
  let sessionId ← readField .sessionId session
  let proposerId ← readField .proposerId proposer
  if sessionId = "" then throw (.empty .sessionId)
  if proposerId = "" then throw (.empty .proposerId)
  let criticId ← readField .criticId critic
  let requestId ← readField .requestId request
  return { sessionId, requestId, proposerId
           criticId := if criticId = "" then none else some criticId
           encryptedPrompt := prompt }

def ofBytes (bs : Bytes) : Except HeaderFault SessionInit :=
  if bs.length < headerWidth then .error (.truncated bs.length)
  else
    let afterSession := bs.drop sessionIdWidth
    let afterRequest := afterSession.drop requestIdWidth
    let afterProposer := afterRequest.drop nodeIdWidth
    ofFields (bs.take sessionIdWidth) (afterSession.take requestIdWidth)
      (afterRequest.take nodeIdWidth) (afterProposer.take nodeIdWidth)
      (afterProposer.drop nodeIdWidth)

/-- The role a node is named for, as far as the header can tell nodes apart. -/
def roleOf (i : SessionInit) (nodeId : String) : Option Role :=
  let me := fitField nodeIdWidth nodeId
  if i.proposerId = me then some .proposer
  else if i.criticId = some me then some .critic
  else none

end SessionInit

end DebateMesh
