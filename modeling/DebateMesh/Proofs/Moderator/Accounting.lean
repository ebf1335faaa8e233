import DebateMesh.Proofs.Moderator.Run
import DebateMesh.Proofs.Session.Header

namespace DebateMesh

namespace Action

def isComplete : Action → Bool
  | .complete .. => true
  | _ => false

def isFailed : Action → Bool
  | .failed _ => true
  | _ => false

def isInvitation : Action → Bool
  | .sendInit .. => true
  | _ => false

end Action

/-- The header's field for the session reads as this name. -/
def ShowsSession (bs : Bytes) (sessionId : String) : Prop :=
  readField .sessionId (bs.take sessionIdWidth) = .ok sessionId

theorem showsSession_toBytes {i : SessionInit}
    (h : fitField sessionIdWidth i.sessionId = i.sessionId) :
    ShowsSession i.toBytes i.sessionId := by
  unfold ShowsSession SessionInit.toBytes
  simp only [List.append_assoc]
  rw [List.take_left' (length_putField _ _), readField_putField, h]

/-- What a debate orders: time for a round, and its completion at the end. -/
inductive DebateCourse (sessionId requestId : String) : List Action → Prop
  | running : DebateCourse sessionId requestId []
  | round {rest : List Action} (then_ : DebateCourse sessionId requestId rest) :
      DebateCourse sessionId requestId (.armTimer roundTimeout :: rest)
  | closed (transcript : List DebatePacket) :
      DebateCourse sessionId requestId [.complete sessionId requestId transcript]

/-- What a request orders: broadcasts, each with time for offers, until it fails or opens a
debate. -/
inductive SearchCourse (requestId : String) : List Action → Prop
  | running : SearchCourse requestId []
  | asks (layer : Layer) (bytes : Bytes) (delay : UInt64) {rest : List Action}
      (then_ : SearchCourse requestId rest) :
      SearchCourse requestId (.broadcast layer bytes :: .armTimer delay :: rest)
  | closed : SearchCourse requestId [.failed requestId]
  | opens (layer : Layer) (recipients : List String) {bytes : Bytes} {sessionId : String}
      (shows : ShowsSession bytes sessionId) {rest : List Action}
      (then_ : DebateCourse sessionId requestId rest) :
      SearchCourse requestId (.sendInit layer recipients bytes :: .armTimer roundTimeout :: rest)

section Courses

variable {sessionId requestId sid rid : String} {transcript : List DebatePacket}
  {actions front back : List Action}

theorem DebateCourse.countP_isInvitation (h : DebateCourse sessionId requestId actions) :
    actions.countP Action.isInvitation = 0 := by
  induction h with
  | running => rfl
  | round _ ih => exact ih
  | closed => rfl

theorem DebateCourse.complete (h : DebateCourse sessionId requestId actions)
    (hsplit : actions = front ++ .complete sid rid transcript :: back) :
    sid = sessionId ∧ rid = requestId ∧ back = [] := by
  induction h generalizing front with
  | running => cases front <;> cases hsplit
  | round _ ih =>
    cases front with
    | nil => cases hsplit
    | cons x front => exact ih (List.cons.inj hsplit).2
  | closed =>
    cases front with
    | nil =>
      cases hsplit
      exact ⟨rfl, rfl, rfl⟩
    | cons x front => cases front <;> cases (List.cons.inj hsplit).2

theorem SearchCourse.countP_isInvitation (h : SearchCourse requestId actions) :
    actions.countP Action.isInvitation ≤ 1 := by
  induction h with
  | running => exact Nat.zero_le 1
  | asks _ _ _ _ ih => exact ih
  | closed => exact Nat.zero_le 1
  | opens _ _ _ hdebate =>
    rw [List.countP_cons, List.countP_cons, hdebate.countP_isInvitation]
    exact Nat.le_refl 1

/-- A completion is the last action, and the invitation to its session stands before it. -/
theorem SearchCourse.complete (h : SearchCourse requestId actions)
    (hsplit : actions = front ++ .complete sid rid transcript :: back) :
    rid = requestId ∧ back = [] ∧ ∃ layer recipients bytes,
      .sendInit layer recipients bytes ∈ front ∧ ShowsSession bytes sid := by
  induction h generalizing front with
  | running => cases front <;> cases hsplit
  | asks _ _ _ _ ih =>
    match front, hsplit with
    | x :: y :: front, hsplit =>
      obtain ⟨hrid, hback, layer, recipients, bytes, hmem, hshows⟩ :=
        ih (List.cons.inj (List.cons.inj hsplit).2).2
      exact ⟨hrid, hback, layer, recipients, bytes, by simp [hmem], hshows⟩
  | closed =>
    cases front with
    | nil => cases hsplit
    | cons x front => cases front <;> cases (List.cons.inj hsplit).2
  | opens layer recipients hshows hdebate =>
    match front, hsplit with
    | x :: y :: front, hsplit =>
      obtain ⟨hx, hrest⟩ := List.cons.inj hsplit
      obtain ⟨rfl, hrid, hback⟩ := hdebate.complete (List.cons.inj hrest).2
      exact ⟨hrid, hback, layer, recipients, _, by simp [hx], hshows⟩

end Courses

namespace Moderator

/-- How many requests are under way: one or none. -/
def load (m : Moderator) : Nat := if m.isIdle then 0 else 1

namespace Turn

/-- The identifier of the request that the turn accepts. -/
def accepted? (t : Turn) : Option String :=
  match t.event, t.outcome with
  | .submit _ requestId _ _, .ok _ => some requestId
  | _, _ => none

/-- A request under way is cancelled. -/
def cancels (t : Turn) : Bool :=
  match t.event with
  | .cancel => !t.before.isIdle
  | _ => false

/-- A request under way is dropped for a submission, whether that succeeds or not. -/
def replaces (t : Turn) : Bool := t.event.isSubmit && !t.before.isIdle

end Turn

/-- What may be ordered from here on until a request is accepted. -/
def Course (m : Moderator) (actions : List Action) : Prop :=
  match m.stage with
  | .idle => actions = []
  | .searching a => SearchCourse a.request.id actions
  | .debating a d => DebateCourse d.sessionId a.request.id actions

variable {m m' : Moderator} {e : Event} {o : Outcome} {es : List Event} {actions : List Action}

theorem course_nil (m : Moderator) : m.Course [] := by
  unfold Course
  cases m.stage with
  | idle => rfl
  | searching a => exact .running
  | debating a d => exact .running

theorem course_idle (h : m.active = none) : m.Course actions ↔ actions = [] := by
  rw [Course, stage_idle h]

theorem course_searching {a : Active} (h : m.active = some a) (hs : a.session = none) :
    m.Course actions ↔ SearchCourse a.request.id actions := by
  rw [Course, stage_searching h hs]

theorem course_debating {a : Active} {d : Debate} (h : m.active = some a)
    (hs : a.session = some d) :
    m.Course actions ↔ DebateCourse d.sessionId a.request.id actions := by
  rw [Course, stage_debating h hs]

/-- Offers and phases come and go in one search. -/
theorem course_discovery {a : Active} (x : Discovery) (hs : a.session = none) :
    Course { m with active := some { a with discovery := x } } actions ↔
      SearchCourse a.request.id actions :=
  course_searching (a := { a with discovery := x }) rfl hs

/-- A step orders what its request may order, and leaves the rest of the course to those behind
it. -/
theorem Move.course (h : Move m e o m') (he : e.Drawn)
    (hnew : Turn.accepted? ⟨m, e, o, m'⟩ = none) (hrest : m'.Course actions) :
    m.Course (o.actions ++ actions) := by
  cases h with
  | refuses fault =>
    rw [(course_idle rfl).mp hrest]
    exact course_nil m
  | accepts => cases hnew
  | ignores | rests | cannotSeal => exact hrest
  | hears active searching =>
    rw [course_discovery _ searching] at hrest
    exact (course_searching active searching).mpr hrest
  | records active debating =>
    rw [course_debating rfl rfl] at hrest
    exact (course_debating active debating).mpr (.round hrest)
  | concludes active debating =>
    rw [(course_idle rfl).mp hrest]
    exact (course_debating active debating).mpr (.closed _)
  | expires active debating =>
    rw [(course_idle rfl).mp hrest]
    exact (course_debating active debating).mpr (.closed _)
  | opens active searching _ _ invites =>
    rw [course_debating rfl rfl] at hrest
    obtain ⟨random, hrandom, hsession⟩ := he
    have hfits := (sessionIdOf_fits hrandom).1
    rw [← hsession, ← (invitation_ok invites).1] at hfits
    exact (course_searching active searching).mpr
      (.opens _ _ (showsSession_toBytes hfits) hrest)
  | escalates active searching =>
    rw [course_discovery _ searching] at hrest
    exact (course_searching active searching).mpr (.asks _ _ _ hrest)
  | cannotBroadcast active searching =>
    rw [course_discovery _ searching] at hrest
    exact (course_searching active searching).mpr hrest
  | fails active searching =>
    rw [(course_idle rfl).mp hrest]
    exact (course_searching active searching).mpr .closed
  | cancels =>
    rw [(course_idle rfl).mp hrest]
    exact course_nil m

/-- Until a request is accepted, a run keeps to the course. -/
theorem course_turns (he : ∀ e ∈ es, e.Drawn) (hnew : ∀ t ∈ m.turns es, t.accepted? = none) :
    m.Course ((m.turns es).flatMap Turn.actions) := by
  induction es generalizing m with
  | nil => exact course_nil m
  | cons e es ih =>
    rw [turns_cons, List.forall_mem_cons] at hnew
    rw [List.forall_mem_cons] at he
    exact (m.step_moves e).course he.1 hnew.1 (ih he.2 hnew.2)

theorem load_of_active {a : Active} (h : m.active = some a) : m.load = 1 := by
  unfold load isIdle
  rw [h]
  rfl

/-- What arrives and what runs out starts no request and drops none. -/
theorem Turn.of_passive (h : e.isTraffic = true ∨ e.isTimeout = true) :
    Turn.accepted? ⟨m, e, o, m'⟩ = none ∧ Turn.cancels ⟨m, e, o, m'⟩ = false ∧
      Turn.replaces ⟨m, e, o, m'⟩ = false := by
  cases e with
  | submit | cancel => rcases h with h | h <;> cases h
  | message | frame | timeout => exact ⟨rfl, rfl, rfl⟩

/-- The numbers of requests that a turn starts and ends. -/
structure Turn.Balanced (t : Turn) : Prop where
  balance : (if t.accepted?.isSome then 1 else 0) + t.before.load =
    t.actions.countP Action.isComplete + t.actions.countP Action.isFailed +
      (if t.cancels then 1 else 0) + (if t.replaces then 1 else 0) + t.after.load

theorem Turn.balanced_of_passive (h : e.isTraffic = true ∨ e.isTimeout = true)
    (hload : m.load = o.actions.countP Action.isComplete + o.actions.countP Action.isFailed +
      m'.load) : Turn.Balanced ⟨m, e, o, m'⟩ := by
  obtain ⟨haccepted, hcancels, hreplaces⟩ := @Turn.of_passive m m' e o h
  constructor
  rw [haccepted, hcancels, hreplaces]
  exact (Nat.zero_add _).trans hload

/-- A request starts when it is accepted, and ends when it completes, fails, is cancelled or is
replaced. -/
theorem Move.balanced (h : Move m e o m') : Turn.Balanced ⟨m, e, o, m'⟩ := by
  cases h with
  | refuses fault =>
    constructor
    unfold Turn.replaces load
    cases hidle : m.isIdle <;> rfl
  | accepts =>
    constructor
    unfold Turn.replaces load
    cases hidle : m.isIdle <;> rfl
  | cancels =>
    constructor
    unfold Turn.cancels load
    cases hidle : m.isIdle <;> rfl
  | ignores traffic => exact Turn.balanced_of_passive (.inl traffic) (Nat.zero_add _).symm
  | rests | cannotSeal => exact Turn.balanced_of_passive (.inr rfl) (Nat.zero_add _).symm
  | hears active _ traffic | records active _ traffic | concludes active _ traffic =>
    exact Turn.balanced_of_passive (.inl traffic) (load_of_active active)
  | expires active | opens active | escalates active | cannotBroadcast active | fails active =>
    exact Turn.balanced_of_passive (.inr rfl) (load_of_active active)

/-- What is under way at first and what starts equals what ends and what is under way at last. -/
theorem turns_balance (m : Moderator) (es : List Event) :
    ((m.turns es).countP fun t => t.accepted?.isSome) + m.load =
      ((m.turns es).flatMap Turn.actions).countP Action.isComplete +
      ((m.turns es).flatMap Turn.actions).countP Action.isFailed +
      (m.turns es).countP Turn.cancels + (m.turns es).countP Turn.replaces + (m.run es).1.load := by
  induction es generalizing m with
  | nil => exact (Nat.zero_add _).trans (Nat.zero_add _).symm
  | cons e es ih =>
    have hfirst := (m.step_moves e).balanced.balance
    have hrest := ih (m.step e).1
    simp only [turns_cons, List.countP_cons, List.flatMap_cons, List.countP_append]
    change _ = _ + ((m.step e).1.run es).1.load
    dsimp only at hfirst
    omega

theorem Move.starts {requestId : String} (h : Move m e o m')
    (hnew : Turn.accepted? ⟨m, e, o, m'⟩ = some requestId) (hrest : m'.Course actions) :
    SearchCourse requestId (o.actions ++ actions) := by
  have hpassive (hp : e.isTraffic = true ∨ e.isTimeout = true) :
      SearchCourse requestId (o.actions ++ actions) := by
    rw [(Turn.of_passive hp).1] at hnew
    cases hnew
  cases h with
  | refuses | cancels => cases hnew
  | accepts request =>
    cases hnew
    rw [course_searching rfl rfl, request] at hrest
    exact .asks _ _ _ hrest
  | ignores traffic => exact hpassive (.inl traffic)
  | hears _ _ traffic | records _ _ traffic | concludes _ _ traffic =>
    exact hpassive (.inl traffic)
  | rests | cannotSeal | expires | opens | escalates | cannotBroadcast | fails =>
    exact hpassive (.inr rfl)

/-- Whatever completes or fails a request leaves the moderator idle. -/
theorem Move.idle_of_ends {x : Action} (h : Move m e o m') (hx : x ∈ o.actions)
    (hends : x.isComplete = true ∨ x.isFailed = true) : m'.active = none := by
  have hother (hc : x.isComplete = false) (hf : x.isFailed = false) : m'.active = none := by
    rw [hc, hf] at hends
    rcases hends with h | h <;> cases h
  cases h with
  | refuses | ignores | hears | rests | cannotSeal | cannotBroadcast | cancels => cases hx
  | records =>
    cases List.mem_singleton.mp hx
    exact hother rfl rfl
  | accepts | opens | escalates =>
    rcases List.mem_pair.mp hx with rfl | rfl <;> exact hother rfl rfl
  | concludes | expires | fails => rfl

theorem course_during {before during after : List Turn} {t : Turn} (he : ∀ e ∈ es, e.Drawn)
    (hsplit : m.turns es = before ++ t :: (during ++ after))
    (hnew : ∀ u ∈ during, u.accepted? = none) : t.after.Course (during.flatMap Turn.actions) := by
  obtain ⟨fs, gs, rfl, -, -, hgs⟩ := Machine.turns_split hsplit
  obtain ⟨gs, hs, rfl, rfl, -⟩ := Machine.turns_cut hgs
  apply course_turns _ hnew
  intro e hmem
  exact he e (by simp [hmem])

/-- Every accepted request is completed, fails, is cancelled, is replaced, or is still under way. It
invites experts at most once, and completes only after that, under its own identifier and the name
of the session that the invitation shows. Once it has completed or failed, nothing is ordered until
the next one is accepted. -/
theorem requests_are_accounted {m : Moderator} {es : List Event} (hm : m.active = none)
    (he : ∀ e ∈ es, e.Drawn) :
    ((m.turns es).countP fun t => t.accepted?.isSome) =
      ((m.turns es).flatMap Turn.actions).countP Action.isComplete +
      ((m.turns es).flatMap Turn.actions).countP Action.isFailed +
      (m.turns es).countP Turn.cancels + (m.turns es).countP Turn.replaces +
      (if (m.run es).1.isIdle then 0 else 1) ∧
    (∀ (before during after : List Turn) (t : Turn) (requestId : String),
      m.turns es = before ++ t :: (during ++ after) → t.accepted? = some requestId →
      (∀ u ∈ during, u.accepted? = none) →
      ((t :: during).flatMap Turn.actions).countP Action.isInvitation ≤ 1 ∧
      ∀ (front back : List Action) (sid rid : String) (transcript : List DebatePacket),
        (t :: during).flatMap Turn.actions = front ++ .complete sid rid transcript :: back →
        rid = requestId ∧ back = [] ∧ ∃ layer recipients bytes,
          .sendInit layer recipients bytes ∈ front ∧ ShowsSession bytes sid) ∧
    ∀ (before during after : List Turn) (t : Turn) (x : Action),
      m.turns es = before ++ t :: (during ++ after) → x ∈ t.actions →
      (x.isComplete = true ∨ x.isFailed = true) → (∀ u ∈ during, u.accepted? = none) →
      t.after.isIdle = true ∧ during.flatMap Turn.actions = [] := by
  refine ⟨?_, ?_, ?_⟩
  · have hbalance := turns_balance m es
    have hload : m.load = 0 := by
      unfold load isIdle
      rw [hm]
      rfl
    rw [hload] at hbalance
    exact hbalance
  · intro before during after t requestId hsplit haccepted hnew
    have hmem : t ∈ m.turns es := by
      rw [hsplit]
      exact List.mem_append_right _ List.mem_cons_self
    have hcourse := (move_of_mem_turns hmem).starts haccepted (course_during he hsplit hnew)
    exact ⟨hcourse.countP_isInvitation, fun _ _ _ _ _ hc => hcourse.complete hc⟩
  · intro before during after t x hsplit hx hends hnew
    have hmem : t ∈ m.turns es := by
      rw [hsplit]
      exact List.mem_append_right _ List.mem_cons_self
    have hidle := (move_of_mem_turns hmem).idle_of_ends hx hends
    refine ⟨?_, (course_idle hidle).mp (course_during he hsplit hnew)⟩
    unfold isIdle
    rw [hidle]
    rfl

/-- A request is answered by one expert, whose debate runs out of time; the next one is replaced by
a submission that fails. -/
def briefRequests : List Event :=
  [.submit "solve code" "r" none 0,
    .message (Message.offer ⟨"r", "!p", "", ["code"], ⟨Binary64.zero, 10⟩, ""⟩).toJson.encode,
    .timeout ⟨sessionIdOf (List.replicate 16 0), List.replicate 12 0⟩,
    .timeout ⟨sessionIdOf (List.replicate 16 1), List.replicate 12 1⟩,
    .submit "write code" "r" none 0, .submit "write code" "" none 0, .cancel]

theorem requests_are_accounted_brief :
    asker.active = none ∧ (∀ e ∈ briefRequests, e.Drawn) ∧
    ((asker.turns briefRequests).countP fun t => t.accepted?.isSome) = 2 ∧
    ((asker.turns briefRequests).flatMap Turn.actions).countP Action.isComplete +
      ((asker.turns briefRequests).flatMap Turn.actions).countP Action.isFailed +
      (asker.turns briefRequests).countP Turn.cancels +
      (asker.turns briefRequests).countP Turn.replaces +
      (if (asker.run briefRequests).1.isIdle then 0 else 1) = 2 ∧
    (((asker.turns briefRequests).take 4).flatMap Turn.actions).countP Action.isInvitation ≤ 1 ∧
    ∃ front sid transcript layer recipients bytes,
      ((asker.turns briefRequests).take 4).flatMap Turn.actions =
        front ++ [.complete sid "r" transcript] ∧
      .sendInit layer recipients bytes ∈ front ∧ ShowsSession bytes sid := by
  have hidle : asker.active = none := rfl
  have hdrawn : ∀ e ∈ briefRequests, e.Drawn := by
    simp only [briefRequests, List.forall_mem_cons]
    exact ⟨trivial, trivial, ⟨_, rfl, rfl⟩, ⟨_, rfl, rfl⟩, trivial, trivial, trivial,
      fun e he => by cases he⟩
  obtain ⟨hcount, hcourse, -⟩ := requests_are_accounted hidle hdrawn
  have haccepted : (asker.turns briefRequests).map Turn.accepted? =
      [some "r", none, none, none, some "r", none, none] := by
    decide +kernel
  have htwo : ((asker.turns briefRequests).countP fun t => t.accepted?.isSome) = 2 := by
    have h := congrArg (List.countP Option.isSome) haccepted
    rwa [List.countP_map] at h
  have hcompletes : (((asker.turns briefRequests).take 4).flatMap Turn.actions).any
      Action.isComplete = true := by
    decide +kernel
  refine ⟨hidle, hdrawn, htwo, hcount.symm.trans htwo, ?_⟩
  generalize asker.turns briefRequests = ts at *
  cases ts with
  | nil => cases haccepted
  | cons t rest =>
    obtain ⟨ht, hrest⟩ := List.cons.inj haccepted
    have hquiet : ∀ u ∈ rest.take 3, u.accepted? = none := by
      intro u hu
      have hmem := List.mem_map_of_mem (f := Turn.accepted?) hu
      rw [List.map_take, hrest] at hmem
      simpa using hmem
    obtain ⟨hinvites, hcomplete⟩ := hcourse [] (rest.take 3) (rest.drop 3) t "r"
      (by rw [List.take_append_drop]; rfl) ht hquiet
    refine ⟨hinvites, ?_⟩
    obtain ⟨x, hx, hends⟩ := List.any_eq_true.mp hcompletes
    obtain ⟨front, back, hsplit⟩ := List.append_of_mem hx
    cases x with
    | broadcast | sendInit | armTimer | failed => cases hends
    | complete sid rid transcript =>
      obtain ⟨rfl, rfl, layer, recipients, bytes, hsent⟩ :=
        hcomplete front back sid rid transcript hsplit
      exact ⟨front, sid, transcript, layer, recipients, bytes, hsplit, hsent⟩

end Moderator

end DebateMesh
