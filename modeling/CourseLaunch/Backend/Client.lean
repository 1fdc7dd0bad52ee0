import CourseLaunch.Backend.Exchange
/-!
# The backend client

Any number of calls share one client. A call whose answer asks for new credentials has them
refreshed and then asks once more; a second wish for new credentials is a failure. Refreshing goes
by turns, first come first served, and a call that gets its turn after someone else has refreshed
the credentials since it began does not refresh them again. The client keeps a journal of all that
happens to its calls.
-/

namespace CourseLaunch.Backend
open Web

/-- How far a call has come. -/
inductive Stage where
  | asking (again : Bool) (sent : Exchange)
  | waiting (refresh : Refresh)
  | refreshing (refresh : Refresh) (sent : Exchange)
deriving Repr

/-- A call that has not ended. It knows how often the credentials were refreshed before it began. -/
structure Call (ι : Type) where
  label : ι
  request : Request
  seen : Nat
  stage : Stage
deriving Repr

/-- Something that happened to a call. What was sent is its own request, or it refreshes the
credentials. -/
inductive Entry (ι : Type) where
  | begun (label : ι) (request : Request)
  | sent (label : ι) (refresh : Option Refresh) (exchange : Exchange)
  | answered (label : ι) (refresh : Option Refresh) (a : Answer)
  | ended (label : ι) (result : Except Failure Reply)

/-- A client. The first of the turns is the one that is taken, and the calls stand in the order in
which they last moved on. -/
structure Client (ι : Type) where
  base : Url
  token : String
  generation : Nat
  turns : List ι
  calls : List (Call ι)
  journal : List (Entry ι)

/-- A client after a step, and the result of the call that ended with it, if it did. -/
abbrev Progress (ι : Type) := Client ι × Option (Except Failure Reply)

/-- The request that refreshes credentials. -/
def Refresh.request (r : Refresh) : Request :=
  ⟨r.path, if r.isGet then none else some (.object []), []⟩

/-- The exchange that a call waits for. -/
def Stage.sent? : Stage → Option Exchange
  | .asking _ sent => some sent
  | .waiting _ => none
  | .refreshing _ sent => some sent

namespace Client

def fresh {ι : Type} (base : Url) (token : String) : Client ι := ⟨base, token, 0, [], [], []⟩

/-- The exchanges in flight, oldest first. -/
def flights {ι : Type} (c : Client ι) : List (ι × Exchange) :=
  c.calls.filterMap fun call => call.stage.sent?.map fun sent => (call.label, sent)

/-- How many events a call can see at most before it ends: three answers, and one turn. -/
def eventsPerCall : Nat := 4

/-- A bound on the events before all calls have ended. -/
def budget {ι : Type} (c : Client ι) : Nat := eventsPerCall * c.calls.length

/-- Notes that something happened. -/
def note {ι : Type} (c : Client ι) (e : Entry ι) : Client ι :=
  { c with journal := c.journal ++ [e] }

variable {ι : Type} [DecidableEq ι]

def call? (c : Client ι) (label : ι) : Option (Call ι) :=
  c.calls.find? fun call => call.label = label

def drop (c : Client ι) (label : ι) : Client ι :=
  { c with calls := c.calls.filter fun call => call.label ≠ label }

/-- Puts a call behind all others. -/
def put (c : Client ι) (call : Call ι) : Client ι :=
  { c.drop call.label with calls := (c.drop call.label).calls ++ [call] }

def finish (c : Client ι) (call : Call ι) (result : Except Failure Reply) : Progress ι :=
  ((c.drop call.label).note (.ended call.label result), some result)

/-- Sends the request of a call. -/
def ask (c : Client ι) (call : Call ι) (again : Bool) : Progress ι :=
  match call.request.exchange c.base c.token with
  | .ok sent =>
    ((c.put { call with stage := .asking again sent }).note (.sent call.label none sent), none)
  | .error failure => c.finish call (.error failure)

/-- Begins a call. -/
def begin (c : Client ι) (label : ι) (request : Request) : Progress ι :=
  let noted := c.note (.begun label request)
  match request.exchange c.base c.token with
  | .ok sent =>
    ((noted.put ⟨label, request, c.generation, .asking false sent⟩).note (.sent label none sent),
      none)
  | .error failure => (noted.note (.ended label (.error failure)), some (.error failure))

/-- Gives the turn to the next call. -/
def release (c : Client ι) : Client ι := { c with turns := c.turns.tail }

/-- Lets a call have its turn. It refreshes the credentials unless that was done meanwhile. -/
def takeTurn (c : Client ι) (call : Call ι) (refresh : Refresh) : Progress ι :=
  if c.generation ≠ call.seen then c.release.ask call true
  else
    match refresh.request.exchange c.base c.token with
    | .ok sent =>
      ((c.put { call with stage := .refreshing refresh sent }).note
        (.sent call.label (some refresh) sent), none)
    | .error failure => c.release.finish call (.error failure)

/-- Whether a call may go on without an answer: it waits, and it is its turn. -/
def canResume (c : Client ι) (label : ι) : Bool :=
  c.turns.head? = some label && (c.call? label).any fun call => call.stage.sent?.isNone

/-- Lets a call go on if it waits and it is its turn. -/
def resume (c : Client ι) (label : ι) : Progress ι :=
  match c.call? label with
  | some call =>
    match call.stage with
    | .waiting refresh =>
      if c.turns.head? = some label then c.takeTurn call refresh else (c, none)
    | _ => (c, none)
  | none => (c, none)

/-- Lets a call wait for its turn, and gives it at once when nobody else waits. -/
def queue (c : Client ι) (call : Call ι) (refresh : Refresh) : Progress ι :=
  let queued := { c with turns := c.turns ++ [call.label] }
  if c.turns.isEmpty then queued.takeTurn call refresh
  else (queued.put { call with stage := .waiting refresh }, none)

/-- What the server wants to be refreshed before it answers. -/
def wish? : Except Failure Reply → Option Refresh
  | .error (.refused refusal) => refusal.refresh
  | _ => none

/-- Takes in the answer to the exchange that a call waits for. -/
def answer (c : Client ι) (label : ι) (a : Answer) : Progress ι :=
  match c.call? label with
  | none => (c, none)
  | some call =>
    match call.stage with
    | .waiting _ => (c, none)
    | .asking again sent =>
      let c := c.note (.answered label none a)
      let result := a.outcome call.request.path sent.url
      match if again then none else wish? result with
      | some refresh => c.queue call refresh
      | none => c.finish call result
    | .refreshing refresh sent =>
      let c := c.note (.answered label (some refresh) a)
      match a.outcome refresh.path sent.url with
      | .ok _ => { c.release with generation := c.generation + 1 }.ask call true
      | .error failure => c.release.finish call (.error failure)

end Client

end CourseLaunch.Backend
