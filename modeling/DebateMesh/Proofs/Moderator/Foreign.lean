import DebateMesh.Proofs.Moderator.Run

namespace DebateMesh.Moderator

/-- Whether a message counts for nothing. An offer counts in a search, when it is for the request; a
packet counts in a debate, when it is for the session and its next round; a request never does. -/
def Stage.ignores : Stage → Message → Bool
  | .searching a, .offer o => o.requestId != a.request.id
  | .debating _ d, .debate p => p.sessionId != d.sessionId || p.round != d.nextRound
  | _, _ => true

/-- Bytes that arrive on either layer, and cannot be read or count for nothing. -/
def ignores (m : Moderator) (e : Event) : Bool := e.isTraffic && e.message?.all m.stage.ignores

/-- An event of a run: its own, or one that was put into it. -/
inductive Entry
  | own (e : Event)
  | extra (e : Event)

namespace Entry

@[simp] def event : Entry → Event
  | own e => e
  | extra e => e

@[simp] def own? : Entry → Option Event
  | own e => some e
  | extra _ => none

@[simp] def isExtra : Entry → Bool
  | own _ => false
  | extra _ => true

end Entry

/-- Whatever was put into a run is ignored at its point. -/
def harmless (m : Moderator) : List Entry → Bool
  | [] => true
  | .own e :: xs => (m.step e).1.harmless xs
  | .extra e :: xs => m.ignores e && (m.step e).1.harmless xs

variable {m m' : Moderator} {e : Event} {o : Outcome} {xs : List Entry}

theorem ignores_arrived {msg : Message} (h : m.ignores e = true) (he : e.message? = some msg) :
    m.stage.ignores msg = true := by
  simp only [ignores, he, Option.all_some, Bool.and_eq_true] at h
  exact h.2

theorem isTraffic_of_ignores (h : m.ignores e = true) : e.isTraffic = true := by
  simp only [ignores, Bool.and_eq_true] at h
  exact h.1

/-- What is ignored changes nothing and orders nothing. -/
theorem Move.of_ignores (h : Move m e o m') (hi : m.ignores e = true) : o = .ok [] ∧ m' = m := by
  have htraffic := isTraffic_of_ignores hi
  cases h with
  | ignores => exact ⟨rfl, rfl⟩
  | hears active searching _ arrived request =>
    have hforeign := ignores_arrived hi arrived
    rw [stage_searching active searching] at hforeign
    simp [Stage.ignores, request] at hforeign
  | records active debating _ arrived takes | concludes active debating _ arrived takes =>
    have hforeign := ignores_arrived hi arrived
    rw [stage_debating active debating] at hforeign
    simp [Stage.ignores, takes.session, takes.next] at hforeign
  | refuses | accepts | rests | expires | opens | cannotSeal | escalates | cannotBroadcast | fails
    | cancels => simp [Event.isTraffic] at htraffic

theorem step_of_ignores (h : m.ignores e = true) : m.step e = (m, .ok []) := by
  obtain ⟨houtcome, hafter⟩ := (m.step_moves e).of_ignores h
  exact Prod.ext hafter houtcome

theorem length_run (m : Moderator) (es : List Event) : (m.run es).2.length = es.length := by
  induction es generalizing m with
  | nil => rfl
  | cons e es ih => simp [run_cons, ih]

/-- The outcomes of the events that were put into a run, or of the others. -/
def outcomesOf (extra : Bool) (xs : List Entry) (os : List Outcome) : List Outcome :=
  ((xs.zip os).filter fun x => x.1.isExtra == extra).map Prod.snd

/-- Whatever is unreadable, foreign or stale where it arrives gives no actions; all else in the run
has the outcomes that it has without it, and the run ends where it ends without it. -/
theorem foreign_traffic_is_inert {m : Moderator} {xs : List Entry} (h : m.harmless xs = true) :
    (m.run (xs.map Entry.event)).2.length = xs.length ∧
    (∀ o ∈ outcomesOf true xs (m.run (xs.map Entry.event)).2, o = .ok []) ∧
    outcomesOf false xs (m.run (xs.map Entry.event)).2 = (m.run (xs.filterMap Entry.own?)).2 ∧
    (m.run (xs.map Entry.event)).1 = (m.run (xs.filterMap Entry.own?)).1 := by
  refine ⟨by simp [length_run], ?_⟩
  induction xs generalizing m with
  | nil => simp [outcomesOf, run]
  | cons x xs ih =>
    cases x with
    | own e =>
      obtain ⟨hextra, hown, hend⟩ := ih h
      refine ⟨?_, ?_, ?_⟩
      · simpa [outcomesOf, run_cons] using hextra
      · simpa [outcomesOf, run_cons] using hown
      · simpa [run_cons] using hend
    | extra e =>
      simp only [harmless, Bool.and_eq_true] at h
      have hstep := step_of_ignores h.1
      rw [hstep] at h
      obtain ⟨hextra, hown, hend⟩ := ih h.2
      refine ⟨?_, ?_, ?_⟩
      · simpa [outcomesOf, run_cons, hstep] using hextra
      · simpa [outcomesOf, run_cons, hstep, List.filterMap_cons] using hown
      · simpa [run_cons, hstep, List.filterMap_cons] using hend

/-- A debate, and traffic of every kind that does not count for it: bytes that are no message, an
offer when there is no request, a request, an offer for another request, packets before there is a
session, of another session and of another round, and an offer that is late. -/
def disturbedDebate : List Entry :=
  let session := sessionIdOf (List.replicate 16 1)
  let offer (id guardian skill : String) : Bytes :=
    (Message.offer ⟨id, guardian, "", [skill], ⟨Binary64.zero, 10⟩, ""⟩).toJson.encode
  let packet (session : String) (round : UInt32) (role : Role) : Message :=
    .debate ⟨session, round, role, "yes", ⟨Binary64.one, []⟩⟩
  let frame (m : Message) : Bytes := (Frame.encode m).toOption.getD []
  [.extra (.message (offer "r" "!p" "code")),
    .own (.submit "solve code" "r" none 0),
    .extra (.message [0x7b]), .extra (.frame [1, 2]),
    .extra (.frame (frame (.routing (asker.requestOf "solve code" "r" none 0)))),
    .extra (.message (offer "q" "!p" "code")),
    .extra (.frame (frame (packet session 1 .proposer))),
    .own (.message (offer "r" "!p" "code")),
    .own (.message (offer "r" "!c" "math")),
    .own (.timeout ⟨session, List.replicate 12 1⟩),
    .extra (.message (offer "r" "!late" "code")),
    .extra (.frame (frame (packet "s" 1 .proposer))),
    .extra (.message (packet session 2 .critic).toJson.encode),
    .own (.message (packet session 1 .proposer).toJson.encode),
    .extra (.message (packet session 1 .proposer).toJson.encode),
    .own (.frame (frame (packet session 2 .critic)))]

theorem foreign_traffic_is_inert_debate : asker.harmless disturbedDebate = true ∧
    (∀ o ∈ outcomesOf true disturbedDebate (asker.run (disturbedDebate.map Entry.event)).2,
      o = .ok []) ∧
    outcomesOf false disturbedDebate (asker.run (disturbedDebate.map Entry.event)).2 =
      (asker.run (disturbedDebate.filterMap Entry.own?)).2 ∧
    (asker.run (disturbedDebate.map Entry.event)).1 =
      (asker.run (disturbedDebate.filterMap Entry.own?)).1 := by
  have h : asker.harmless disturbedDebate = true := by decide +kernel
  exact ⟨h, (foreign_traffic_is_inert h).2⟩

end DebateMesh.Moderator
