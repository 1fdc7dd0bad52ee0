import CourseLaunch.Backend.Client
/-!
# The token of a client

The session token stands in a header of everything that is sent, and nowhere else. Two clients that
differ in their token only go on doing so, whatever is asked of them and however it is answered,
provided both tokens can stand in a header.
-/

namespace CourseLaunch.Backend
open Web

def Exchange.withToken (x : Exchange) (token : String) : Exchange := { x with token := token }

/-- A stage whose exchange has another token. -/
def Stage.withToken (token : String) : Stage → Stage
  | .asking again sent => .asking again (sent.withToken token)
  | .waiting refresh => .waiting refresh
  | .refreshing refresh sent => .refreshing refresh (sent.withToken token)

variable {ι : Type}

def Call.withToken (token : String) (call : Call ι) : Call ι :=
  { call with stage := call.stage.withToken token }

/-- A note of something that was sent with another token. -/
def Entry.withToken (token : String) : Entry ι → Entry ι
  | .sent label refresh exchange => .sent label refresh (exchange.withToken token)
  | e => e

/-- A client that had another token from the start. -/
def Client.withToken (c : Client ι) (token : String) : Client ι :=
  { c with
    token := token
    calls := c.calls.map (Call.withToken token)
    journal := c.journal.map (Entry.withToken token) }

/-- A step of a client that had another token from the start. It ends calls the same way. -/
def Progress.withToken (p : Progress ι) (token : String) : Progress ι := (p.1.withToken token, p.2)

/-- Both tokens can stand in a header. -/
structure Legal (token token' : String) : Prop where
  left : isHeaderText token
  right : isHeaderText token'

/-- Two ways to end: with the same failure, or with results that correspond. -/
inductive EndsAlike {α : Type} (alike : α → α → Prop) :
    Except Failure α → Except Failure α → Prop where
  | failed (f : Failure) : EndsAlike alike (.error f) (.error f)
  | ok (x x' : α) (same : alike x x') : EndsAlike alike (.ok x) (.ok x')

/-- A request that can be sent with one token can be sent with another one, and otherwise fails the
same way. -/
theorem Request.exchange_withToken (r : Request) (base : Url) {token token' : String}
    (legal : Legal token token') :
    r.exchange base token' = (r.exchange base token).map fun x => x.withToken token' := by
  unfold exchange
  cases r.url base with
  | error failure => rfl
  | ok named =>
    simp only [legal.left, legal.right, Bool.not_true, Bool.false_eq_true, if_false]
    split
    · rfl
    · split <;> rfl

namespace Client

variable {token : String}

@[simp] theorem token_withToken (c : Client ι) : (c.withToken token).token = token := rfl

@[simp] theorem base_withToken (c : Client ι) : (c.withToken token).base = c.base := rfl

@[simp] theorem generation_withToken (c : Client ι) :
    (c.withToken token).generation = c.generation := rfl

@[simp] theorem turns_withToken (c : Client ι) : (c.withToken token).turns = c.turns := rfl

@[simp] theorem withToken_release (c : Client ι) :
    c.release.withToken token = (c.withToken token).release := rfl

@[simp] theorem withToken_note (c : Client ι) (e : Entry ι) :
    (c.note e).withToken token = (c.withToken token).note (e.withToken token) := by
  simp [note, withToken]

theorem flights_withToken (c : Client ι) :
    (c.withToken token).flights =
      c.flights.map fun flight => (flight.1, flight.2.withToken token) := by
  unfold flights withToken
  rw [List.filterMap_map, List.map_filterMap]
  refine congrArg (c.calls.filterMap ·) (funext fun call => ?_)
  obtain ⟨label, request, seen, stage⟩ := call
  cases stage <;> rfl

theorem budget_withToken (c : Client ι) : (c.withToken token).budget = c.budget :=
  congrArg (eventsPerCall * ·) (List.length_map _)

variable [DecidableEq ι] {c : Client ι}

theorem call?_withToken (c : Client ι) (label : ι) :
    (c.withToken token).call? label = (c.call? label).map (Call.withToken token) := by
  unfold call? withToken
  rw [List.find?_map]
  rfl

@[simp] theorem withToken_drop (c : Client ι) (label : ι) :
    (c.drop label).withToken token = (c.withToken token).drop label := by
  simp only [drop, withToken, List.filter_map]
  rfl

@[simp] theorem withToken_put (c : Client ι) (call : Call ι) :
    (c.put call).withToken token = (c.withToken token).put (call.withToken token) := by
  unfold put
  rw [show (call.withToken token).label = call.label from rfl, ← withToken_drop]
  simp [withToken]

theorem canResume_withToken (c : Client ι) (label : ι) :
    (c.withToken token).canResume label = c.canResume label := by
  unfold canResume
  rw [call?_withToken, turns_withToken]
  cases c.call? label with
  | none => rfl
  | some call =>
    obtain ⟨label', request, seen, stage⟩ := call
    cases stage <;> rfl

/-! ### Steps -/

theorem withToken_finish (c : Client ι) (call : Call ι) (result : Except Failure Reply) :
    Progress.withToken (c.finish call result) token =
      (c.withToken token).finish (call.withToken token) result := by
  simp [finish, Progress.withToken, Call.withToken, Entry.withToken]

/-- Asking goes the same way with another token that may stand in a header as well. -/
theorem withToken_ask (legal : Legal c.token token) (call : Call ι) (again : Bool) :
    Progress.withToken (c.ask call again) token =
      (c.withToken token).ask (call.withToken token) again := by
  have sends := call.request.exchange_withToken c.base legal
  unfold ask
  cases sent : call.request.exchange c.base c.token with
  | error failure =>
    simp [Call.withToken, sends, sent, Except.map, withToken_finish]
  | ok sent' =>
    simp [Call.withToken, sends, sent, Except.map, Progress.withToken, Entry.withToken,
      Stage.withToken]

/-- A call begins the same way with another token. -/
theorem withToken_begin (legal : Legal c.token token) (label : ι) (request : Request) :
    Progress.withToken (c.begin label request) token =
      (c.withToken token).begin label request := by
  have sends := request.exchange_withToken c.base legal
  unfold begin
  cases sent : request.exchange c.base c.token with
  | error failure => simp [sends, sent, Except.map, Progress.withToken, Entry.withToken]
  | ok sent' =>
    simp [sends, sent, Except.map, Progress.withToken, Entry.withToken, Call.withToken,
      Stage.withToken]

theorem withToken_takeTurn (legal : Legal c.token token) (call : Call ι) (refresh : Refresh) :
    Progress.withToken (c.takeTurn call refresh) token =
      (c.withToken token).takeTurn (call.withToken token) refresh := by
  have sends := refresh.request.exchange_withToken c.base legal
  unfold takeTurn
  rw [show (call.withToken token).seen = call.seen from rfl, generation_withToken]
  split
  · exact withToken_ask (c := c.release) legal call true
  · cases sent : refresh.request.exchange c.base c.token with
    | error failure => simp [sends, sent, Except.map, withToken_finish]
    | ok sent' =>
      simp [sends, sent, Except.map, Progress.withToken, Entry.withToken, Call.withToken,
        Stage.withToken]

/-- A call that has its turn goes on the same way with another token. -/
theorem withToken_resume (legal : Legal c.token token) (label : ι) :
    Progress.withToken (c.resume label) token = (c.withToken token).resume label := by
  unfold resume
  rw [call?_withToken]
  cases c.call? label with
  | none => rfl
  | some call =>
    obtain ⟨label', request, seen, stage⟩ := call
    cases stage with
    | waiting refresh =>
      simp only [Option.map_some, Call.withToken, Stage.withToken]
      by_cases turn : c.turns.head? = some label
      · rw [if_pos turn, if_pos (show (c.withToken token).turns.head? = some label from turn)]
        exact withToken_takeTurn legal _ refresh
      · rw [if_neg turn, if_neg (show (c.withToken token).turns.head? ≠ some label from turn)]
        rfl
    | _ => rfl

theorem withToken_queue (legal : Legal c.token token) (call : Call ι) (refresh : Refresh) :
    Progress.withToken (c.queue call refresh) token =
      (c.withToken token).queue (call.withToken token) refresh := by
  unfold queue
  by_cases alone : c.turns.isEmpty
  · rw [if_pos alone, if_pos (show (c.withToken token).turns.isEmpty from alone)]
    exact withToken_takeTurn (c := { c with turns := c.turns ++ [call.label] }) legal call refresh
  · rw [if_neg alone, if_neg (show ¬(c.withToken token).turns.isEmpty from alone)]
    exact congrArg (·, none) (withToken_put { c with turns := c.turns ++ [call.label] } _)

/-- An answer is taken in the same way with another token. -/
theorem withToken_answer (legal : Legal c.token token) (label : ι) (a : Answer) :
    Progress.withToken (c.answer label a) token = (c.withToken token).answer label a := by
  unfold answer
  rw [call?_withToken]
  cases c.call? label with
  | none => rfl
  | some call =>
    obtain ⟨label', request, seen, stage⟩ := call
    cases stage with
    -- a call that waits has nothing in flight, so an answer is not for it
    | waiting refresh => rfl
    | asking again sent =>
      simp only [Option.map_some, Call.withToken, Stage.withToken, Exchange.withToken]
      have noted : (c.note (.answered label none a)).withToken token = _ := withToken_note c _
      cases if again then none else wish? (a.outcome request.path sent.url) with
      | none => rw [withToken_finish, noted]; rfl
      | some refresh =>
        rw [withToken_queue (c := c.note (.answered label none a)) legal, noted]
        rfl
    | refreshing refresh sent =>
      simp only [Option.map_some, Call.withToken, Stage.withToken, Exchange.withToken]
      have noted : (c.note (.answered label (some refresh) a)).withToken token = _ :=
        withToken_note c _
      cases a.outcome refresh.path sent.url with
      | ok reply =>
        have renewed := withToken_ask (c := { (c.note
          (.answered label (some refresh) a)).release with generation := c.generation + 1 }) legal
            ⟨label', request, seen, .refreshing refresh sent⟩ true
        refine renewed.trans ?_
        simp only [note, withToken, release, List.map_append]
        rfl
      | error failure =>
        simp only
        rw [withToken_finish, withToken_release, noted]
        rfl

/-! ### The token stays -/

theorem token_ask (c : Client ι) (call : Call ι) (again : Bool) :
    (c.ask call again).1.token = c.token := by
  unfold ask
  split <;> rfl

theorem token_begin (c : Client ι) (label : ι) (request : Request) :
    (c.begin label request).1.token = c.token := by
  unfold begin
  simp only
  split <;> rfl

theorem token_takeTurn (c : Client ι) (call : Call ι) (refresh : Refresh) :
    (c.takeTurn call refresh).1.token = c.token := by
  unfold takeTurn
  split
  · exact token_ask _ _ _
  · split <;> rfl

theorem token_queue (c : Client ι) (call : Call ι) (refresh : Refresh) :
    (c.queue call refresh).1.token = c.token := by
  unfold queue
  simp only
  split
  · exact token_takeTurn _ _ _
  · rfl

theorem token_resume (c : Client ι) (label : ι) : (c.resume label).1.token = c.token := by
  unfold resume
  split
  · split
    · split
      · exact token_takeTurn _ _ _
      · rfl
    · rfl
  · rfl

/-- A client keeps its token. -/
theorem token_answer (c : Client ι) (label : ι) (a : Answer) :
    (c.answer label a).1.token = c.token := by
  unfold answer
  split
  · rfl
  · split
    · rfl
    · simp only
      split
      · exact token_queue _ _ _
      · rfl
    · simp only
      split
      · exact token_ask _ _ _
      · rfl

end Client

end CourseLaunch.Backend
