import CourseLaunch.Proofs.Backend.Journal
import CourseLaunch.Proofs.Backend.Life
import Mathlib.Logic.Relation
/-!
# The steps of a client

Calls may be begun, answered and resumed in any order. Each of these moves takes one call through
one or two steps, and `Happens` says once what a step writes into the journal, what becomes of its
call, and who may refresh the credentials next. Everything else stays as it was.
-/

namespace CourseLaunch.Backend

variable {ι : Type}

/-- What is done with a client. -/
inductive Client.Move (ι : Type) where
  | start (label : ι) (request : Request)
  | answer (label : ι) (a : Answer)
  | resume (label : ι)

namespace Client

theorem mem_begun {c : Client ι} {label : ι} {request : Request}
    (known : .begun label request ∈ c.journal) : label ∈ c.begun.map Prod.fst :=
  List.mem_map.mpr ⟨(label, request), List.mem_filterMap.mpr ⟨_, known, rfl⟩, rfl⟩

/-- What happens to a call: the entries about it, what becomes of it, the turns, and how often the
credentials were refreshed. -/
inductive Happens (c : Client ι) :
    ι → List (Entry ι) → Option (Call ι) → List ι → Nat → Prop where
  | unsent (label : ι) (request : Request) (failure : Failure)
      (new : label ∉ c.begun.map Prod.fst)
      (fails : request.exchange c.base c.token = .error failure) :
      Happens c label [.begun label request, .ended label (.error failure)] none c.turns
        c.generation
  | asks (label : ι) (request : Request) (sent : Exchange) (new : label ∉ c.begun.map Prod.fst)
      (sends : request.exchange c.base c.token = .ok sent) :
      Happens c label [.begun label request, .sent label none sent]
        (some ⟨label, request, c.generation, .asking false sent⟩) c.turns c.generation
  | waits (call : Call ι) (sent : Exchange) (a : Answer) (refresh : Refresh)
      (known : call ∈ c.calls) (stage : call.stage = .asking false sent)
      (wish : wish? (a.outcome call.request.path sent.url) = some refresh) :
      Happens c call.label [.answered call.label none a]
        (some { call with stage := .waiting refresh }) (c.turns ++ [call.label]) c.generation
  | spared (call : Call ι) (refresh : Refresh) (sent : Exchange) (known : call ∈ c.calls)
      (stage : call.stage = .waiting refresh) (turn : c.turns.head? = some call.label)
      (other : c.generation ≠ call.seen)
      (sends : call.request.exchange c.base c.token = .ok sent) :
      Happens c call.label [.sent call.label none sent]
        (some { call with stage := .asking true sent }) c.turns.tail c.generation
  | refreshes (call : Call ι) (refresh : Refresh) (sent : Exchange) (known : call ∈ c.calls)
      (stage : call.stage = .waiting refresh) (turn : c.turns.head? = some call.label)
      (same : c.generation = call.seen)
      (sends : refresh.request.exchange c.base c.token = .ok sent) :
      Happens c call.label [.sent call.label (some refresh) sent]
        (some { call with stage := .refreshing refresh sent }) c.turns c.generation
  | unsentRefresh (call : Call ι) (refresh : Refresh) (failure : Failure)
      (known : call ∈ c.calls) (stage : call.stage = .waiting refresh)
      (turn : c.turns.head? = some call.label)
      (fails : refresh.request.exchange c.base c.token = .error failure) :
      Happens c call.label [.ended call.label (.error failure)] none c.turns.tail c.generation
  | refreshed (call : Call ι) (refresh : Refresh) (asked sent : Exchange) (a : Answer)
      (reply : Reply) (known : call ∈ c.calls) (stage : call.stage = .refreshing refresh asked)
      (works : a.outcome refresh.path asked.url = .ok reply)
      (sends : call.request.exchange c.base c.token = .ok sent) :
      Happens c call.label
        [.answered call.label (some refresh) a, .sent call.label none sent]
        (some { call with stage := .asking true sent }) c.turns.tail (c.generation + 1)
  | refreshFails (call : Call ι) (refresh : Refresh) (asked : Exchange) (a : Answer)
      (failure : Failure) (known : call ∈ c.calls)
      (stage : call.stage = .refreshing refresh asked)
      (fails : a.outcome refresh.path asked.url = .error failure) :
      Happens c call.label
        [.answered call.label (some refresh) a, .ended call.label (.error failure)] none
        c.turns.tail c.generation
  | ends (call : Call ι) (again : Bool) (sent : Exchange) (a : Answer) (known : call ∈ c.calls)
      (stage : call.stage = .asking again sent)
      (final : again = false → wish? (a.outcome call.request.path sent.url) = none) :
      Happens c call.label
        [.answered call.label none a,
          .ended call.label (a.outcome call.request.path sent.url)] none c.turns c.generation

namespace Happens

variable {c : Client ι} {label : ι} {entries : List (Entry ι)} {next : Option (Call ι)}
  {turns : List ι} {generation : Nat}

theorem labelled (h : c.Happens label entries next turns generation) :
    ∀ e ∈ entries, e.label = label := by
  cases h <;> simp [Entry.label]

/-- The call that goes on is the one that something happened to. -/
theorem named (h : c.Happens label entries next turns generation) :
    ∀ call ∈ next, call.label = label := by
  cases h <;> simp

/-- What happens, happens to a call that is under way or to a new one. -/
theorem known (h : c.Happens label entries next turns generation) :
    label ∈ c.labels ∨ label ∉ c.begun.map Prod.fst := by
  cases h
  case unsent => right; assumption
  case asks => right; assumption
  all_goals exact .inl (List.mem_map_of_mem (by assumption))

end Happens

variable [DecidableEq ι]

/-- The client after a move. No label is used twice. -/
def after (c : Client ι) : Move ι → Client ι
  | .start label request =>
    if label ∈ c.begun.map Prod.fst then c else (c.begin label request).1
  | .answer label a => (c.answer label a).1
  | .resume label => (c.resume label).1

def afterAll (c : Client ι) (moves : List (Move ι)) : Client ι := moves.foldl after c

@[simp] theorem afterAll_append (c : Client ι) (moves more : List (Move ι)) :
    c.afterAll (moves ++ more) = (c.afterAll moves).afterAll more := List.foldl_append

/-- The client after something has happened to a call. -/
def moved (c : Client ι) (label : ι) (entries : List (Entry ι)) (next : Option (Call ι))
    (turns : List ι) (generation : Nat) : Client ι :=
  { c.drop label with
    turns := turns
    generation := generation
    calls := (c.drop label).calls ++ next.toList
    journal := c.journal ++ entries }

/-- Something happens to a call. -/
inductive Step (c : Client ι) : Client ι → Prop where
  | happens (label : ι) (entries : List (Entry ι)) (next : Option (Call ι)) (turns : List ι)
      (generation : Nat) (happens : c.Happens label entries next turns generation) :
      Step c (c.moved label entries next turns generation)

def Steps : Client ι → Client ι → Prop := Relation.ReflTransGen Step

variable {c : Client ι} {call : Call ι} {refresh : Refresh}

theorem Step.steps {d : Client ι} (h : c.Step d) : c.Steps d := .single h

theorem Happens.step {label : ι} {entries : List (Entry ι)} {next : Option (Call ι)}
    {turns : List ι} {generation : Nat} (h : c.Happens label entries next turns generation)
    {d : Client ι} (same : d = c.moved label entries next turns generation) : c.Step d :=
  same ▸ .happens label entries next turns generation h

/-! ### Moves as steps -/

theorem drop_of_unknown {label : ι} (unknown : label ∉ c.labels) :
    (c.drop label).calls = c.calls := by
  unfold drop
  rw [List.filter_eq_self]
  intro call known
  simpa using fun same : call.label = label => unknown (same ▸ List.mem_map_of_mem known)

/-- To begin a call is one step. -/
theorem begin_step {label : ι} {request : Request} (new : label ∉ c.begun.map Prod.fst)
    (unknown : label ∉ c.labels) : c.Step (c.begin label request).1 := by
  unfold begin
  cases sends : request.exchange c.base c.token with
  | ok sent =>
    refine (Happens.asks label request sent new sends).step ?_
    simp [moved, put, drop, note]
  | error failure =>
    refine (Happens.unsent label request failure new sends).step ?_
    have still : List.filter (fun call => !decide (call.label = label)) c.calls = c.calls := by
      simpa [drop] using drop_of_unknown unknown
    simp [moved, note, drop, still]

/-- A call that waits and has its turn takes it. -/
theorem takeTurn_step (known : call ∈ c.calls) (stage : call.stage = .waiting refresh)
    (turn : c.turns.head? = some call.label)
    (sends : ∃ sent, call.request.exchange c.base c.token = .ok sent) :
    c.Step (c.takeTurn call refresh).1 := by
  obtain ⟨sent, sends⟩ := sends
  unfold takeTurn
  split
  case isTrue other =>
    refine (Happens.spared call refresh sent known stage turn other sends).step ?_
    simp [ask, release, sends, moved, put, drop, note]
  case isFalse same =>
    cases renews : refresh.request.exchange c.base c.token with
    | ok asked =>
      refine (Happens.refreshes call refresh asked known stage turn (by simpa using same)
        renews).step ?_
      simp [moved, put, drop, note]
    | error failure =>
      refine (Happens.unsentRefresh call refresh failure known stage turn renews).step ?_
      simp [finish, release, moved, drop, note]

/-- A call whose turn comes takes some steps. -/
theorem resume_steps
    (sends : ∀ call ∈ c.calls, ∃ sent, call.request.exchange c.base c.token = .ok sent)
    (label : ι) : c.Steps (c.resume label).1 := by
  have nothing : c.Steps c := .refl
  unfold resume
  cases found : c.call? label with
  | none => exact nothing
  | some call =>
    have known : call ∈ c.calls := List.mem_of_find?_eq_some found
    obtain ⟨same, -⟩ := mem_labels_of_call? found
    cases stage : call.stage with
    | waiting refresh =>
      simp only [stage]
      split
      case isTrue turn => exact (takeTurn_step known stage (same ▸ turn) (sends call known)).steps
      case isFalse => exact nothing
    | asking again sent => simpa only [stage] using nothing
    | refreshing refresh sent => simpa only [stage] using nothing

/-- Whether a call is put behind the others before it takes its turn makes no difference. -/
theorem takeTurn_put (c : Client ι) (call : Call ι) (stage : Stage) (refresh : Refresh) :
    (c.put { call with stage := stage }).takeTurn { call with stage := stage } refresh =
      c.takeTurn call refresh := by
  unfold takeTurn ask finish
  simp [put, drop, release, note]

/-- A call that is to wait for its turn waits, if only for a moment. -/
theorem queue_steps {sent : Exchange} {a : Answer} (known : call ∈ c.calls)
    (stage : call.stage = .asking false sent)
    (wish : wish? (a.outcome call.request.path sent.url) = some refresh)
    (sends : ∃ sent, call.request.exchange c.base c.token = .ok sent) :
    c.Steps ((c.note (.answered call.label none a)).queue call refresh).1 := by
  let queued : Client ι :=
    { c.note (.answered call.label none a) with turns := c.turns ++ [call.label] }
  let waiting : Call ι := { call with stage := .waiting refresh }
  have waits : c.Step (queued.put waiting) := by
    refine (Happens.waits call sent a refresh known stage wish).step ?_
    simp [queued, waiting, moved, put, drop, note]
  unfold queue
  split
  case isTrue empty =>
    -- nobody else waits, so the call has its turn at once
    have empty : c.turns = [] := List.isEmpty_iff.mp empty
    have turn : (queued.put waiting).turns.head? = some waiting.label := by
      show (c.turns ++ [call.label]).head? = some call.label
      rw [empty]
      rfl
    have takes : (queued.put waiting).Step ((queued.put waiting).takeTurn waiting refresh).1 :=
      takeTurn_step (by simp [put]) rfl turn sends
    rw [takeTurn_put] at takes
    exact .tail waits.steps takes
  case isFalse => exact waits.steps

/-- Taking in an answer is a step for the call that is answered, and perhaps one for each call that
waits behind it. -/
theorem answer_steps
    (sends : ∀ call ∈ c.calls, ∃ sent, call.request.exchange c.base c.token = .ok sent)
    (label : ι) (a : Answer) : c.Steps (c.answer label a).1 := by
  have nothing : c.Steps c := .refl
  unfold answer
  cases found : c.call? label with
  | none => exact nothing
  | some call =>
    have known : call ∈ c.calls := List.mem_of_find?_eq_some found
    obtain ⟨rfl, -⟩ := mem_labels_of_call? found
    cases stage : call.stage with
    | waiting refresh => simpa only [stage] using nothing
    | asking again sent =>
      simp only [stage]
      cases wished : (if again then none else wish? (a.outcome call.request.path sent.url)) with
      -- a call that was asked again ends, whatever it is told, so only the first answer queues it
      | some refresh =>
        cases again with
        | true => cases wished
        | false => exact queue_steps known stage wished (sends call known)
      | none =>
        refine ((Happens.ends call again sent a known stage ?_).step ?_).steps
        · rintro rfl
          exact wished
        · simp [finish, moved, drop, note]
    | refreshing refresh asked =>
      simp only [stage]
      cases outcome : a.outcome refresh.path asked.url with
      | ok reply =>
        obtain ⟨sent, sendsAgain⟩ := sends call known
        refine ((Happens.refreshed call refresh asked sent a reply known stage outcome
          sendsAgain).step ?_).steps
        simp [ask, release, note, sendsAgain, moved, put, drop]
      | error failure =>
        refine ((Happens.refreshFails call refresh asked a failure known stage outcome).step
          ?_).steps
        simp [finish, release, note, moved, drop]

end Client

end CourseLaunch.Backend
