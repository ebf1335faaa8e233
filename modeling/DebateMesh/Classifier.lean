import DebateMesh.Message
import DebateMesh.PayloadHash
import DebateMesh.Ranking
import DebateMesh.Text.Pattern

namespace DebateMesh

inductive Topic
  | code
  | security
  | math
  | creative
  | general
deriving DecidableEq

inductive Sensitivity
  | low
  | medium
  | high
deriving DecidableEq

structure Classification where
  primary : Topic
  secondary : List Topic
  confidence : Binary64
  sensitivity : Sensitivity

namespace Topic

open Text (Pattern)

def name : Topic → String
  | code => "code"
  | security => "security"
  | math => "math"
  | creative => "creative"
  | general => "general"

/-- One of the words, with a word's edge on both sides. -/
def wholeWord (ws : List String) : Pattern := .inOrder [.edge, .words ws, .edge]

/-- One of the first words and later on the same line one of the second. -/
def wordsInLine (first second : List String) : Pattern :=
  .inOrder [.edge, .words first, .edge, .many (.one .notNewline), .edge, .words second, .edge]

/-- A keyword and the name behind it. -/
def declares (keyword : String) : Pattern :=
  .inOrder [.literal keyword.toList, .oneOrMore (.one .blank), .oneOrMore (.one .word)]

def patterns : Topic → List Pattern
  | code =>
    [wholeWord ["code", "script", "function", "program", "python", "javascript", "rust", "golang",
        "c++"],
      wordsInLine ["implement", "debug", "fix", "refactor", "write", "create"]
        ["code", "function", "class"],
      .anyOf [.seq .edge (declares "def"), declares "class", declares "function"]]
  | security =>
    [wholeWord ["security", "vulnerability", "exploit", "attack", "encrypt", "decrypt", "auth"],
      wholeWord ["password", "credential", "token", "key", "certificate", "ssl", "tls"],
      wholeWord ["injection", "xss", "csrf", "sqli", "rce"]]
  | math =>
    [wholeWord ["calculate", "compute", "solve", "equation", "formula", "integral", "derivative"],
      wholeWord ["math", "algebra", "calculus", "statistics", "probability"],
      .atLeast 5 (.one (.either .digit (.among ['+', '-', '*', '/', '=', '(', ')'])))]
  | creative =>
    [wordsInLine ["write", "compose", "create", "generate"] ["story", "poem", "song", "essay"],
      wholeWord ["creative", "artistic", "imaginative", "fiction"]]
  | general => []

/-- The topics that are scored; of equal scores the earlier one leads. -/
def scored : List Topic := [code, security, math, creative]

def hits (t : Topic) (text : List Char) : Nat :=
  (t.patterns.filter fun p => p.occursIn text).length

/-- The share of the topic's patterns that occur. -/
def score (t : Topic) (text : List Char) : Binary64 :=
  (Binary64.ofRatio false (t.hits text) (Nat.max t.patterns.length 1)).min Binary64.one

end Topic

/-- A best score below this names no topic. -/
def fallbackThreshold : Binary64 := .ofDecimal false ⟨2, -1⟩

/-- A topic that is not primary counts above this score. -/
def secondaryThreshold : Binary64 := .ofDecimal false ⟨3, -1⟩

def generalScore : Binary64 := .ofDecimal false ⟨5, -1⟩

def confidenceBoost : Binary64 := .ofDecimal false ⟨5, -1⟩

abbrev Scored := Topic × Binary64

def rankTopics (scores : List Scored) : List Scored :=
  rankBy (fun a b => decide (b.2.totalRank ≤ a.2.totalRank)) scores

def sensitivityOf (topics : List Topic) : Sensitivity :=
  if .security ∈ topics then .high else if .code ∈ topics then .medium else .low

/-- The best topic is primary, and the others that score well are secondary. -/
def classifyRanked : List Scored → Classification
  | [] => ⟨.general, [], generalScore, .low⟩
  | (topic, score) :: rest =>
    let (primary, best) :=
      if score.lt fallbackThreshold then (Topic.general, generalScore) else (topic, score)
    let secondary := (rest.filter fun s => secondaryThreshold.lt s.2).map Prod.fst
    ⟨primary, secondary, (best.add confidenceBoost).min Binary64.one,
      sensitivityOf (primary :: secondary)⟩

def classify (text : String) : Classification :=
  let cs := text.toList
  classifyRanked (rankTopics (Topic.scored.map fun t => (t, t.score cs)))

def Classification.intent (c : Classification) : Intent :=
  ⟨c.primary.name, c.secondary.map Topic.name, c.confidence⟩

/-- The request that asks for experts on a prompt. -/
def RoutingRequest.ofPrompt (prompt origin id : String) (constraints : Constraints) (now : UInt64) :
    RoutingRequest :=
  { id, origin, intent := (classify prompt).intent, constraints, timestamp := now
    payloadHash := PayloadHash.ofPrompt prompt }

end DebateMesh
