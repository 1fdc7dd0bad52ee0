import CourseLaunch.Proofs.Backend.Refreshing
import Mathlib.Algebra.GroupWithZero.Nat
/-!
# Calls come to an end

A call sees four events at most: an answer that asks for new credentials, its turn, the answer to
its refresh, and the answer to its second request. So every answer and every turn leaves less to do.
Nobody waits in vain either: the turns are those of the calls that wait or refresh, so the first of
them can go on, or its answer is on the way.
-/

namespace CourseLaunch.Backend

/-- How many events a call can see at most before it ends. -/
def Stage.remaining : Stage → Nat
  | .asking false _ => 4
  | .waiting _ => 3
  | .refreshing _ _ => 2
  | .asking true _ => 1

/-- Whether a call waits for its turn, or has it. -/
def Stage.queues : Stage → Bool
  | .asking _ _ => false
  | _ => true

namespace Client

variable {ι : Type}

/-- How many events the calls of a client can see at most before all have ended. -/
def remaining (c : Client ι) : Nat := (c.calls.map fun call => call.stage.remaining).sum

/-- The budget is enough for all calls. -/
theorem remaining_le_budget (c : Client ι) : c.remaining ≤ c.budget := by
  have each (stage : Stage) : stage.remaining ≤ eventsPerCall := by
    cases stage with
    | asking again sent => cases again <;> simp [Stage.remaining, eventsPerCall]
    | _ => simp [Stage.remaining, eventsPerCall]
  unfold remaining budget
  induction c.calls with
  | nil => exact Nat.zero_le _
  | cons call rest ih =>
    rw [List.map_cons, List.sum_cons, List.length_cons, Nat.mul_succ, Nat.add_comm]
    exact Nat.add_le_add ih (each call.stage)

variable [DecidableEq ι] {c : Client ι} {call : Call ι} {label : ι}

/-! ### Every event leaves less to do -/

/-- A call that is forgotten takes along just what it could still see. -/
theorem remaining_drop (known : call ∈ c.calls) (once : c.labels.Nodup) :
    (c.drop call.label).remaining + call.stage.remaining = c.remaining := by
  unfold remaining drop labels at *
  simp only
  generalize c.calls = calls at known once
  induction calls with
  | nil => cases known
  | cons first rest ih =>
    rw [List.map_cons, List.nodup_cons] at once
    rcases List.mem_cons.mp known with rfl | later
    · have others : rest.filter (fun other => other.label ≠ call.label) = rest := by
        rw [List.filter_eq_self]
        intro other old
        simpa using fun same : other.label = call.label =>
          once.1 (same ▸ List.mem_map_of_mem (f := Call.label) old)
      rw [List.filter_cons_of_neg (by simp), others, List.map_cons, List.sum_cons, Nat.add_comm]
    · have other : first.label ≠ call.label := fun same =>
        once.1 (same ▸ List.mem_map_of_mem (f := Call.label) later)
      rw [List.filter_cons_of_pos (by simpa using other), List.map_cons, List.map_cons,
        List.sum_cons, List.sum_cons, Nat.add_assoc, ih later once.2]

theorem remaining_put (c : Client ι) (call : Call ι) :
    (c.put call).remaining = (c.drop call.label).remaining + call.stage.remaining := by
  simp [remaining, put, drop]

theorem remaining_ask_le (c : Client ι) (call : Call ι) :
    (c.ask call true).1.remaining ≤ (c.drop call.label).remaining + 1 := by
  unfold ask
  cases call.request.exchange c.base c.token with
  | ok sent => exact Nat.le_of_eq (remaining_put c { call with stage := .asking true sent })
  | error failure => exact Nat.le_add_right _ _

theorem remaining_takeTurn_le (c : Client ι) (call : Call ι) (refresh : Refresh) :
    (c.takeTurn call refresh).1.remaining ≤ (c.drop call.label).remaining + 2 := by
  unfold takeTurn
  split
  · exact Nat.le_succ_of_le (remaining_ask_le c.release call)
  · cases refresh.request.exchange c.base c.token with
    | ok sent =>
      exact Nat.le_of_eq (remaining_put c { call with stage := .refreshing refresh sent })
    | error failure => exact Nat.le_add_right _ _

theorem remaining_queue_le (c : Client ι) (call : Call ι) (refresh : Refresh) :
    (c.queue call refresh).1.remaining ≤ (c.drop call.label).remaining + 3 := by
  unfold queue
  split
  · exact Nat.le_succ_of_le
      (remaining_takeTurn_le { c with turns := c.turns ++ [call.label] } call refresh)
  · exact Nat.le_of_eq (remaining_put { c with turns := c.turns ++ [call.label] }
      { call with stage := .waiting refresh })

theorem call?_eq_some (known : call ∈ c.calls) (once : c.labels.Nodup) :
    c.call? call.label = some call := by
  unfold call? labels at *
  generalize c.calls = calls at known once
  induction calls with
  | nil => cases known
  | cons first rest ih =>
    rw [List.map_cons, List.nodup_cons] at once
    rcases List.mem_cons.mp known with rfl | later
    · simp
    · have other : first.label ≠ call.label := fun same =>
        once.1 (same ▸ List.mem_map_of_mem (f := Call.label) later)
      rw [List.find?_cons_of_neg (by simpa using other)]
      exact ih later once.2

/-- An answer to what is in flight leaves less to do. -/
theorem remaining_answer_lt (once : c.labels.Nodup) {sent : Exchange}
    (flight : (label, sent) ∈ c.flights) (a : Answer) :
    (c.answer label a).1.remaining < c.remaining := by
  obtain ⟨call, known, sends⟩ := List.mem_filterMap.mp flight
  obtain ⟨sent', stage, same⟩ := Option.map_eq_some_iff.mp sends
  obtain rfl : call.label = label := congrArg Prod.fst same
  have total := remaining_drop known once
  unfold answer
  rw [call?_eq_some known once]
  cases reached : call.stage with
  | waiting refresh => simp [reached, Stage.sent?] at stage
  | asking again asked =>
    simp only [reached]
    cases wished : (if again then none else wish? (a.outcome call.request.path asked.url)) with
    | none =>
      have left : 0 < call.stage.remaining := by cases again <;> simp [reached, Stage.remaining]
      show (c.drop call.label).remaining < c.remaining
      omega
    | some refresh =>
      cases again with
      | true => cases wished
      | false =>
        -- the call that is put back may see three more events, one less than a call that asks
        have less := remaining_queue_le (c.note (.answered call.label none a)) call refresh
        have dropped : ((c.note (.answered call.label none a)).drop call.label).remaining =
          (c.drop call.label).remaining := rfl
        have left : call.stage.remaining = 4 := by rw [reached]; rfl
        show ((c.note (.answered call.label none a)).queue call refresh).1.remaining < _
        omega
  | refreshing refresh asked =>
    simp only [reached]
    have left : call.stage.remaining = 2 := by rw [reached]; rfl
    cases a.outcome refresh.path asked.url with
    | ok reply =>
      -- the generation and the turn do not count, so what is left is that of the call that asks
      -- again
      have less := remaining_ask_le { (c.note (.answered call.label (some refresh) a)).release with
        generation := c.generation + 1 } call
      have dropped : (({ (c.note (.answered call.label (some refresh) a)).release with
        generation := c.generation + 1 }).drop call.label).remaining =
          (c.drop call.label).remaining := rfl
      show ({ (c.note (.answered call.label (some refresh) a)).release with
        generation := c.generation + 1 }.ask call true).1.remaining < _
      omega
    | error failure =>
      show (c.drop call.label).remaining < c.remaining
      omega

/-- A call that may not go on without an answer does not. -/
theorem resume_of_canResume (h : c.canResume label = false) : c.resume label = (c, none) := by
  unfold resume
  unfold canResume at h
  cases found : c.call? label with
  | none => rfl
  | some call =>
    cases stage : call.stage with
    | waiting refresh =>
      have turn : ¬ c.turns.head? = some label := by
        simpa [found, stage, Stage.sent?] using h
      simp [stage, turn]
    | asking again sent => simp [stage]
    | refreshing refresh sent => simp [stage]

/-- A call that has its turn leaves less to do. -/
theorem remaining_resume_lt (once : c.labels.Nodup) (can : c.canResume label) :
    (c.resume label).1.remaining < c.remaining := by
  unfold canResume at can
  rw [Bool.and_eq_true, Option.any_eq_true, decide_eq_true_eq] at can
  obtain ⟨turn, call, found, waits⟩ := can
  have known : call ∈ c.calls := List.mem_of_find?_eq_some found
  obtain ⟨rfl, -⟩ := mem_labels_of_call? found
  have total := remaining_drop known once
  unfold resume
  rw [found]
  cases reached : call.stage with
  | waiting refresh =>
    simp only [reached, turn, if_true]
    have less := remaining_takeTurn_le c call refresh
    have left : call.stage.remaining = 3 := by rw [reached]; rfl
    omega
  | asking again sent => simp [reached, Stage.sent?] at waits
  | refreshing refresh sent => simp [reached, Stage.sent?] at waits

/-! ### Nobody waits in vain -/

/-- The turns are those of the calls that wait or refresh. -/
structure Queued (c : Client ι) : Prop where
  once : c.turns.Nodup
  mem_iff : ∀ label, label ∈ c.turns ↔ ∃ call ∈ c.calls, call.label = label ∧ call.stage.queues

omit [DecidableEq ι] in
theorem queued_fresh (base : Web.Url) (token : String) : (fresh base token : Client ι).Queued where
  once := .nil
  mem_iff label := by simp [fresh]

theorem Queued.mem_turns_iff (queued : c.Queued) (once : c.labels.Nodup) (known : call ∈ c.calls) :
    call.label ∈ c.turns ↔ call.stage.queues := by
  rw [queued.mem_iff]
  refine ⟨?_, fun queues => ⟨call, known, rfl, queues⟩⟩
  rintro ⟨other, known', same, queues⟩
  have found := call?_eq_some known' once
  rw [same, call?_eq_some known once] at found
  exact Option.some.inj found ▸ queues

/-- What a call does with the turns: it lines up, leaves the line, or does neither. -/
theorem Queued.moved (queued : c.Queued) {entries : List (Entry ι)} {next : Option (Call ι)}
    {turns : List ι} {generation : Nat} (named : ∀ call ∈ next, call.label = label)
    (once : turns.Nodup) (others : ∀ l, l ≠ label → (l ∈ turns ↔ l ∈ c.turns))
    (own : label ∈ turns ↔ next.any fun call => call.stage.queues) :
    (c.moved label entries next turns generation).Queued where
  once := once
  mem_iff l := by
    show l ∈ turns ↔ ∃ call ∈ (c.drop label).calls ++ next.toList, _
    by_cases same : l = label
    · subst same
      rw [own, Option.any_eq_true]
      constructor
      · rintro ⟨call, becomes, queues⟩
        exact ⟨call, List.mem_append_right _ (by simp [becomes]), named call becomes, queues⟩
      · rintro ⟨call, known, mine, queues⟩
        rcases List.mem_append.mp known with old | new
        · simp [drop, mine] at old
        · exact ⟨call, by simpa using new, queues⟩
    · rw [others l same, queued.mem_iff]
      constructor
      · rintro ⟨call, known, mine, queues⟩
        refine ⟨call, List.mem_append_left _ (List.mem_filter.mpr ⟨known, ?_⟩), mine, queues⟩
        simpa [mine] using same
      · rintro ⟨call, known, mine, queues⟩
        rcases List.mem_append.mp known with old | new
        · exact ⟨call, (List.mem_filter.mp old).1, mine, queues⟩
        · exact absurd (mine ▸ named call (by simpa using new)) same

/-- Every step keeps the queue: whoever waits for its turn stands in it, once. -/
theorem Happens.queued {entries : List (Entry ι)} {next : Option (Call ι)} {turns : List ι}
    {generation : Nat} (h : c.Happens label entries next turns generation) (lawful : c.Lawful)
    (queued : c.Queued) : (c.moved label entries next turns generation).Queued := by
  -- a call that leaves the line was the first in it
  have leaves (actor : Call ι) (first : c.turns.head? = some actor.label) :
      c.turns.tail.Nodup ∧ (∀ l, l ≠ actor.label → (l ∈ c.turns.tail ↔ l ∈ c.turns)) ∧
        actor.label ∉ c.turns.tail := by
    have once := queued.once
    cases split : c.turns with
    | nil => simp [split] at first
    | cons head tail =>
      obtain rfl : head = actor.label := by simpa [split] using first
      rw [split, List.nodup_cons] at once
      refine ⟨once.2, fun l other => ?_, once.1⟩
      simp [other]
  have unlined (unknown : label ∉ c.labels) : label ∉ c.turns := by
    intro lined
    obtain ⟨call, known, rfl, -⟩ := (queued.mem_iff label).mp lined
    exact unknown (List.mem_map_of_mem known)
  have named := h.named
  cases h with
  | unsent label request failure new fails =>
    exact queued.moved named queued.once (fun _ _ => .rfl)
      (by simpa using unlined (lawful.unknown_of_new new))
  | asks label request sent new sends =>
    exact queued.moved named queued.once (fun _ _ => .rfl)
      (by simpa [Stage.queues] using unlined (lawful.unknown_of_new new))
  | waits actor sent a refresh known stage wish =>
    have before : actor.label ∉ c.turns := by
      rw [queued.mem_turns_iff lawful.once known, stage]
      simp [Stage.queues]
    refine queued.moved named ?_ (fun l other => by simp [other]) (by simp [Stage.queues])
    rw [List.nodup_append]
    refine ⟨queued.once, by simp, fun l lined l' own same => before ?_⟩
    rwa [← List.mem_singleton.mp own, ← same]
  | spared actor refresh sent known stage turn other sends =>
    obtain ⟨once, others, own⟩ := leaves actor turn
    exact queued.moved named once others (by simpa [Stage.queues] using own)
  | refreshes actor refresh sent known stage turn same sends =>
    have lined : actor.label ∈ c.turns := by
      rw [queued.mem_turns_iff lawful.once known, stage]
      rfl
    exact queued.moved named queued.once (fun _ _ => .rfl) (by simpa [Stage.queues] using lined)
  | unsentRefresh actor refresh failure known stage turn fails =>
    obtain ⟨once, others, own⟩ := leaves actor turn
    exact queued.moved named once others (by simpa using own)
  | refreshed actor refresh asked sent a reply known stage works sends =>
    obtain ⟨once, others, own⟩ := leaves actor (lawful.turn actor known refresh asked stage).1
    exact queued.moved named once others (by simpa [Stage.queues] using own)
  | refreshFails actor refresh asked a failure known stage fails =>
    obtain ⟨once, others, own⟩ := leaves actor (lawful.turn actor known refresh asked stage).1
    exact queued.moved named once others (by simpa using own)
  | ends actor again sent a known stage final =>
    have before : actor.label ∉ c.turns := by
      rw [queued.mem_turns_iff lawful.once known, stage]
      simp [Stage.queues]
    exact queued.moved named queued.once (fun _ _ => .rfl) (by simpa using before)

/-- The queue is kept on every way that a client can take. -/
theorem Queued.steps {d : Client ι} (queued : c.Queued) (lawful : c.Lawful) (h : c.Steps d) :
    d.Queued := by
  induction h with
  | refl => exact queued
  | tail steps step ih =>
    cases step with
    | happens label entries next turns generation happens =>
      exact happens.queued (lawful.steps steps) ih

/-- When nothing is in flight and no call can go on, all calls have ended. -/
theorem Queued.calls_eq_nil (queued : c.Queued) (once : c.labels.Nodup) (landed : c.flights = [])
    (stuck : ∀ label ∈ c.labels, c.canResume label = false) : c.calls = [] := by
  have waits (call : Call ι) (known : call ∈ c.calls) : call.stage.sent? = none := by
    by_contra sends
    obtain ⟨sent, sends⟩ := Option.ne_none_iff_exists'.mp sends
    have flight : (call.label, sent) ∈ c.flights :=
      List.mem_filterMap.mpr ⟨call, known, by simp [sends]⟩
    simp [landed] at flight
  cases calls : c.calls with
  | nil => rfl
  | cons first rest =>
    have lined : first.label ∈ c.turns := by
      have known : first ∈ c.calls := by simp [calls]
      rw [queued.mem_turns_iff once known]
      have unsent := waits first known
      cases stage : first.stage <;> simp_all [Stage.sent?, Stage.queues]
    -- the first of the turns belongs to a call that waits, so that call can go on
    cases split : c.turns with
    | nil => simp [split] at lined
    | cons label turns =>
      obtain ⟨call, known, rfl, -⟩ := (queued.mem_iff label).mp (by simp [split])
      have can := stuck call.label (List.mem_map_of_mem known)
      simp [canResume, split, call?_eq_some known once, waits call known] at can

end Client

end CourseLaunch.Backend
