import DebateMesh.Guardian
import DebateMesh.Json.Printer
import DebateMesh.Json.Skim

namespace DebateMesh

/-- A model behind a chat completion endpoint. -/
structure LocalModel where
  /-- Without slashes at the end. -/
  baseUrl : String
  model : String
deriving DecidableEq

def trimSlashes (s : String) : String :=
  String.ofList (s.toList.reverse.dropWhile (· == '/')).reverse

structure HttpRequest where
  url : String
  body : String
  /-- In milliseconds. -/
  timeout : UInt64
deriving DecidableEq

inductive HttpReply
  | failed
  | answered (status : Nat) (body : String)
deriving DecidableEq

inductive ModelFault
  | requestFailed
  | status (code : Nat) (body : String)
  | malformed
  | noChoices
deriving DecidableEq

def reasonPhrase? : Nat → Option String
  | 100 => "Continue"
  | 101 => "Switching Protocols"
  | 102 => "Processing"
  | 103 => "Early Hints"
  | 200 => "OK"
  | 201 => "Created"
  | 202 => "Accepted"
  | 203 => "Non Authoritative Information"
  | 204 => "No Content"
  | 205 => "Reset Content"
  | 206 => "Partial Content"
  | 207 => "Multi-Status"
  | 208 => "Already Reported"
  | 226 => "IM Used"
  | 300 => "Multiple Choices"
  | 301 => "Moved Permanently"
  | 302 => "Found"
  | 303 => "See Other"
  | 304 => "Not Modified"
  | 305 => "Use Proxy"
  | 307 => "Temporary Redirect"
  | 308 => "Permanent Redirect"
  | 400 => "Bad Request"
  | 401 => "Unauthorized"
  | 402 => "Payment Required"
  | 403 => "Forbidden"
  | 404 => "Not Found"
  | 405 => "Method Not Allowed"
  | 406 => "Not Acceptable"
  | 407 => "Proxy Authentication Required"
  | 408 => "Request Timeout"
  | 409 => "Conflict"
  | 410 => "Gone"
  | 411 => "Length Required"
  | 412 => "Precondition Failed"
  | 413 => "Payload Too Large"
  | 414 => "URI Too Long"
  | 415 => "Unsupported Media Type"
  | 416 => "Range Not Satisfiable"
  | 417 => "Expectation Failed"
  | 418 => "I'm a teapot"
  | 421 => "Misdirected Request"
  | 422 => "Unprocessable Entity"
  | 423 => "Locked"
  | 424 => "Failed Dependency"
  | 425 => "Too Early"
  | 426 => "Upgrade Required"
  | 428 => "Precondition Required"
  | 429 => "Too Many Requests"
  | 431 => "Request Header Fields Too Large"
  | 451 => "Unavailable For Legal Reasons"
  | 500 => "Internal Server Error"
  | 501 => "Not Implemented"
  | 502 => "Bad Gateway"
  | 503 => "Service Unavailable"
  | 504 => "Gateway Timeout"
  | 505 => "HTTP Version Not Supported"
  | 506 => "Variant Also Negotiates"
  | 507 => "Insufficient Storage"
  | 508 => "Loop Detected"
  | 510 => "Not Extended"
  | 511 => "Network Authentication Required"
  | _ => none

def ModelFault.message : ModelFault → String
  | .requestFailed => "cortex request failed"
  | .status code body =>
    "cortex returned " ++ toString code ++ " " ++
      (reasonPhrase? code).getD "<unknown status code>" ++ ": " ++ body
  | .malformed => "parsing cortex response"
  | .noChoices => "cortex response has no choices"

def Role.instructions : Role → String
  | .proposer =>
    "You are the proposer in a two-round expert debate. " ++
      "Answer the user's request directly and precisely."
  | .critic =>
    "You are the critic in a two-round expert debate. " ++
      "Review the proposer's answer to the user's request: point out errors and omissions, " ++
      "then give a corrected answer."

/-- What the user is made to say. -/
def Assignment.question (a : Assignment) : String :=
  match a.prior with
  | some prior => "Request:\n" ++ a.prompt ++ "\n\nProposer's answer:\n" ++ prior
  | none => a.prompt

def chatMessage (role content : String) : Json :=
  .obj [("role", .str role), ("content", .str content)]

namespace LocalModel

def ofUrl (url model : String) : LocalModel := ⟨trimSlashes url, model⟩

def request (m : LocalModel) (a : Assignment) : HttpRequest :=
  { url := m.baseUrl ++ "/v1/chat/completions"
    body := Json.print (.obj [("model", .str m.model),
      ("messages", .arr [chatMessage "system" a.role.instructions, chatMessage "user" a.question])])
    timeout := roundTimeout }

/-- The content of one choice, whose message has a role and a content. -/
def choiceContent (fuel : Nat) (cs : List Char) : Option String := do
  let (choice, _) ← Json.recordTexts fuel ["message"] cs
  let (message, _) ← Json.recordTexts fuel ["role", "content"] (choice.headD [])
  match message with
  | [role, content] => do
    let _ ← Json.stringText role
    Json.stringText content
  | _ => none

/-- The contents of all choices of a completion. -/
def contents (text : List Char) : Option (List String) := do
  let fuel := 3 * text.length + 3
  let (completion, rest) ← Json.recordTexts fuel ["choices"] text
  if (Json.skipBlanks rest).isEmpty then
    let (choices, _) ← Json.listTexts fuel (completion.headD [])
    choices.mapM (choiceContent fuel)
  else none

/-- The first choice counts, but all have to be well formed. -/
def answer : HttpReply → Except ModelFault String
  | .failed => .error .requestFailed
  | .answered status body =>
    if status < 200 ∨ 300 ≤ status then .error (.status status body)
    else
      match contents body.toList with
      | none => .error .malformed
      | some [] => .error .noChoices
      | some (c :: _) => .ok c

end LocalModel

end DebateMesh
