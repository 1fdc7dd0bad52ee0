import CourseLaunch.Backend.Client
import Mathlib.Data.List.Basic
/-!
# The life of a call

What the journal of a client tells about one call is a word over few letters: the call is begun and
asks, and when the answer is a wish for new credentials, the credentials are refreshed by the call
or by another one, and it asks once more. `Life` says which words these are and how far the call has
come with each. A call asks twice at most and refreshes the credentials once at most, and the
failure it ends with is its own.
-/

namespace CourseLaunch.Backend
open Web

variable {ι : Type}

namespace Entry

def label : Entry ι → ι
  | begun label _ | sent label _ _ | answered label _ _ | ended label _ => label

/-- Whether a call sends its own request. -/
def asks : Entry ι → Bool
  | sent _ none _ => true
  | _ => false

/-- Whether a call sends a request for new credentials. -/
def refreshes : Entry ι → Bool
  | sent _ (some _) _ => true
  | _ => false

/-- The call whose request for new credentials is answered with a status of success. -/
def refreshed? : Entry ι → Option ι
  | answered label (some _) (.whole status _) => if status < 400 then some label else none
  | _ => none

/-- Whether a call is begun. -/
def begins [DecidableEq ι] (label : ι) : Entry ι → Bool
  | begun label' _ => label' = label
  | _ => false

theorem label_of_begins [DecidableEq ι] {label : ι} {e : Entry ι} (h : e.begins label) :
    ∃ request, e = begun label request := by
  cases e with
  | begun label' request =>
    obtain rfl : label' = label := by simpa [begins] using h
    exact ⟨request, rfl⟩
  | _ => simp [begins] at h

theorem label_of_refreshed? {e : Entry ι} {label : ι} (h : e.refreshed? = some label) :
    e.label = label := by
  unfold refreshed? at h
  split at h
  · split at h
    · exact Option.some.inj h
    · cases h
  · cases h

@[simp] theorem refreshed?_begun (label : ι) (request : Request) :
    (begun label request).refreshed? = none := rfl

@[simp] theorem refreshed?_sent (label : ι) (refresh : Option Refresh) (exchange : Exchange) :
    (sent label refresh exchange).refreshed? = none := rfl

@[simp] theorem refreshed?_own (label : ι) (a : Answer) :
    (answered label none a).refreshed? = none := rfl

@[simp] theorem refreshed?_ended (label : ι) (result : Except Failure Reply) :
    (ended label result).refreshed? = none := rfl

/-- The credentials are refreshed by an answer that is no failure. -/
theorem refreshed?_answered (a : Answer) (path : String) (url : Url) (label : ι)
    (refresh : Refresh) :
    (answered label (some refresh) a).refreshed? = (a.outcome path url).toOption.map fun _ => label
    := by
  cases a with
  | whole status body =>
    by_cases low : status < 400
    · simp [refreshed?, Answer.outcome, low, Except.toOption]
    · simp only [refreshed?, Answer.outcome, low, if_false]
      cases readBody Wire.Codec.any path body <;> rfl
  | cutShort => rfl
  | missing => rfl

end Entry

namespace Journal

/-- The calls that have refreshed the credentials, oldest first. -/
def refreshed (journal : List (Entry ι)) : List ι := journal.filterMap Entry.refreshed?

@[simp] theorem refreshed_append (journal more : List (Entry ι)) :
    refreshed (journal ++ more) = refreshed journal ++ refreshed more := List.filterMap_append

variable [DecidableEq ι]

/-- What a journal tells about one call. -/
def past (label : ι) (journal : List (Entry ι)) : List (Entry ι) :=
  journal.filter fun e => e.label = label

/-- A journal from the beginning of a call on. -/
def since (label : ι) (journal : List (Entry ι)) : List (Entry ι) :=
  journal.dropWhile fun e => !e.begins label

/-- How often the credentials were refreshed before a call was begun. -/
def generationOf (journal : List (Entry ι)) (label : ι) : Nat :=
  (refreshed (journal.takeWhile fun e => !e.begins label)).length

variable {label : ι} {journal more : List (Entry ι)}

theorem past_append (label : ι) (journal more : List (Entry ι)) :
    past label (journal ++ more) = past label journal ++ past label more := List.filter_append ..

theorem mem_past {e : Entry ι} : e ∈ past label journal ↔ e ∈ journal ∧ e.label = label := by
  simp [past]

theorem past_of_labelled (labelled : ∀ e ∈ more, e.label = label) : past label more = more := by
  unfold past
  rw [List.filter_eq_self]
  intro e known
  simpa using labelled e known

theorem past_of_other {other : ι} (labelled : ∀ e ∈ more, e.label = label) (h : other ≠ label) :
    past other more = [] := by
  unfold past
  rw [List.filter_eq_nil_iff]
  intro e known same
  have own : label = other := by simpa [labelled e known] using same
  exact h own.symm

/-- Every refresh is from before a call was begun or from since. -/
theorem length_refreshed (label : ι) (journal : List (Entry ι)) :
    (refreshed journal).length =
      generationOf journal label + (refreshed (since label journal)).length := by
  have split : refreshed journal = refreshed (journal.takeWhile fun e => !e.begins label) ++
      refreshed (since label journal) := by
    rw [← refreshed_append, since, List.takeWhile_append_dropWhile]
  rw [split, List.length_append]
  rfl

theorem takeWhile_append_of_begun {request : Request} (known : .begun label request ∈ journal)
    (more : List (Entry ι)) :
    (journal ++ more).takeWhile (fun e => !e.begins label) =
      journal.takeWhile fun e => !e.begins label := by
  induction journal with
  | nil => simp at known
  | cons e rest ih =>
    rw [List.cons_append, List.takeWhile_cons, List.takeWhile_cons]
    cases begins : e.begins label with
    | true => rfl
    | false =>
      rcases List.mem_cons.mp known with rfl | later
      · simp [Entry.begins] at begins
      · simp [ih later]

/-- Whatever happens later, a call keeps the generation in which it was begun. -/
theorem generationOf_append {request : Request} (known : .begun label request ∈ journal)
    (more : List (Entry ι)) :
    generationOf (journal ++ more) label = generationOf journal label := by
  unfold generationOf
  rw [takeWhile_append_of_begun known]

/-- A call that is begun now belongs to the present generation. -/
theorem generationOf_begun (new : past label journal = []) (request : Request)
    (more : List (Entry ι)) :
    generationOf (journal ++ .begun label request :: more) label = (refreshed journal).length := by
  have before : ∀ e ∈ journal, (!e.begins label) = true := by
    intro e known
    cases begins : e.begins label with
    | false => rfl
    | true =>
      obtain ⟨request, rfl⟩ := Entry.label_of_begins begins
      have found : .begun label request ∈ past label journal := mem_past.mpr ⟨known, rfl⟩
      simp [new] at found
  unfold generationOf
  rw [List.takeWhile_append_of_pos before, List.takeWhile_cons]
  simp [Entry.begins]

end Journal

namespace Client

/-- How far a call has come. -/
inductive Phase where
  | underWay (stage : Stage)
  | settled (result : Except Failure Reply)

/-- The words that a journal tells about a call, and how far the call has come with each. -/
inductive Life (base : Url) (token : String) (label : ι) (request : Request) :
    List (Entry ι) → Phase → Prop where
  | unsent (failure : Failure) (fails : request.exchange base token = .error failure) :
      Life base token label request [.begun label request, .ended label (.error failure)]
        (.settled (.error failure))
  | asks (sent : Exchange) (sends : request.exchange base token = .ok sent) :
      Life base token label request [.begun label request, .sent label none sent]
        (.underWay (.asking false sent))
  | waits (past : List (Entry ι)) (sent : Exchange) (a : Answer) (refresh : Refresh)
      (life : Life base token label request past (.underWay (.asking false sent)))
      (wish : wish? (a.outcome request.path sent.url) = some refresh) :
      Life base token label request (past ++ [.answered label none a])
        (.underWay (.waiting refresh))
  | spared (past : List (Entry ι)) (refresh : Refresh) (sent : Exchange)
      (life : Life base token label request past (.underWay (.waiting refresh)))
      (sends : request.exchange base token = .ok sent) :
      Life base token label request (past ++ [.sent label none sent])
        (.underWay (.asking true sent))
  | refreshes (past : List (Entry ι)) (refresh : Refresh) (sent : Exchange)
      (life : Life base token label request past (.underWay (.waiting refresh)))
      (sends : refresh.request.exchange base token = .ok sent) :
      Life base token label request (past ++ [.sent label (some refresh) sent])
        (.underWay (.refreshing refresh sent))
  | unsentRefresh (past : List (Entry ι)) (refresh : Refresh) (failure : Failure)
      (life : Life base token label request past (.underWay (.waiting refresh)))
      (fails : refresh.request.exchange base token = .error failure) :
      Life base token label request (past ++ [.ended label (.error failure)])
        (.settled (.error failure))
  | refreshed (past : List (Entry ι)) (refresh : Refresh) (asked sent : Exchange) (a : Answer)
      (reply : Reply)
      (life : Life base token label request past (.underWay (.refreshing refresh asked)))
      (works : a.outcome refresh.path asked.url = .ok reply)
      (sends : request.exchange base token = .ok sent) :
      Life base token label request
        (past ++ [.answered label (some refresh) a, .sent label none sent])
        (.underWay (.asking true sent))
  | refreshFails (past : List (Entry ι)) (refresh : Refresh) (asked : Exchange) (a : Answer)
      (failure : Failure)
      (life : Life base token label request past (.underWay (.refreshing refresh asked)))
      (fails : a.outcome refresh.path asked.url = .error failure) :
      Life base token label request
        (past ++ [.answered label (some refresh) a, .ended label (.error failure)])
        (.settled (.error failure))
  | ends (past : List (Entry ι)) (again : Bool) (sent : Exchange) (a : Answer)
      (life : Life base token label request past (.underWay (.asking again sent)))
      (final : again = false → wish? (a.outcome request.path sent.url) = none) :
      Life base token label request
        (past ++ [.answered label none a, .ended label (a.outcome request.path sent.url)])
        (.settled (a.outcome request.path sent.url))

namespace Life

variable {base : Url} {token : String} {label : ι} {request : Request} {past : List (Entry ι)}
  {phase : Phase}

/-- The life of a call starts with its beginning. -/
theorem begun (h : Life base token label request past phase) : .begun label request ∈ past := by
  induction h with
  | unsent failure fails => exact List.mem_cons_self
  | asks sent sends => exact List.mem_cons_self
  | _ => rename_i ih; exact List.mem_append_left _ ih

/-- The request of a call that is under way can be sent. -/
theorem sends {stage : Stage} (h : Life base token label request past (.underWay stage)) :
    ∃ sent, request.exchange base token = .ok sent := by
  generalize under : Phase.underWay stage = phase at h
  induction h generalizing stage with
  | asks sent sends => exact ⟨sent, sends⟩
  | waits past sent a refresh life wish ih => exact ih rfl
  | spared past refresh sent life sends ih => exact ⟨sent, sends⟩
  | refreshes past refresh sent life sends ih => exact ih rfl
  | refreshed past refresh asked sent a reply life works sends ih => exact ⟨sent, sends⟩
  | _ => cases under

/-! ### How often a call asks -/

/-- How often a call can have asked and refreshed when it has come so far. -/
def Allows : Phase → Nat → Nat → Prop
  | .underWay (.asking false _), asked, renewed => asked = 1 ∧ renewed = 0
  | .underWay (.waiting _), asked, renewed => asked = 1 ∧ renewed = 0
  | .underWay (.refreshing _ _), asked, renewed => asked = 1 ∧ renewed = 1
  | .underWay (.asking true _), asked, renewed => asked = 2 ∧ renewed ≤ 1
  | .settled _, asked, renewed => asked ≤ 2 ∧ renewed ≤ 1

theorem Allows.bounds {phase : Phase} {asked renewed : Nat} (h : Allows phase asked renewed) :
    asked ≤ 2 ∧ renewed ≤ 1 := by
  unfold Allows at h
  split at h <;> omega

/-- The phase of a call tells how often it has asked and refreshed at most. -/
theorem allows (h : Life base token label request past phase) :
    Allows phase (past.countP Entry.asks) (past.countP Entry.refreshes) := by
  induction h with
  | unsent failure fails => simp [Allows, Entry.asks, Entry.refreshes]
  | asks sent sends => simp [Allows, Entry.asks, Entry.refreshes]
  | ends past again sent a life final ih =>
    have bounds := ih.bounds
    simpa [Allows, Entry.asks, Entry.refreshes, List.countP_cons] using bounds
  | _ =>
    rename_i ih
    simp only [Allows] at ih
    simp [Allows, Entry.asks, Entry.refreshes, List.countP_cons, ih]

/-! ### What a call has heard -/

/-- The first answer to a call had a status of error and was a wish for new credentials. -/
def Wished (label : ι) (request : Request) (past : List (Entry ι)) (refresh : Refresh) : Prop :=
  ∃ sent status body rest, 400 ≤ status ∧
    wish? ((Answer.whole status body).outcome request.path sent.url) = some refresh ∧
    past = [.begun label request, .sent label none sent,
      .answered label none (.whole status body)] ++ rest

/-- What the first answer wished for is not changed by what comes later. -/
theorem Wished.append {refresh : Refresh} (h : Wished label request past refresh)
    (more : List (Entry ι)) : Wished label request (past ++ more) refresh := by
  obtain ⟨sent, status, body, rest, high, wish, rfl⟩ := h
  exact ⟨sent, status, body, rest ++ more, high, wish, List.append_assoc _ _ _⟩

/-- Nothing but an answer with a status of error is a wish. -/
theorem status_of_wish {a : Answer} {path : String} {url : Url} {refresh : Refresh}
    (h : wish? (a.outcome path url) = some refresh) :
    ∃ status body, a = .whole status body ∧ 400 ≤ status := by
  cases a with
  | whole status body =>
    by_cases low : status < 400
    · simp [Answer.outcome, low, wish?] at h
    · exact ⟨status, body, rfl, by omega⟩
  | cutShort => simp [Answer.outcome, wish?] at h
  | missing => simp [Answer.outcome, wish?] at h

theorem past_of_asking {sent : Exchange}
    (h : Life base token label request past (.underWay (.asking false sent))) :
    past = [.begun label request, .sent label none sent] := by
  cases h
  rfl

/-- A call waits for its turn because its first answer asked for new credentials. -/
theorem wished_of_waiting {refresh : Refresh}
    (h : Life base token label request past (.underWay (.waiting refresh))) :
    Wished label request past refresh := by
  cases h with
  | waits past sent a refresh life wish =>
    obtain ⟨status, body, rfl, high⟩ := status_of_wish wish
    rw [life.past_of_asking]
    exact ⟨sent, status, body, [], high, wish, rfl⟩

/-- A call refreshes credentials because its first answer asked for it. -/
theorem wished_of_refreshing {refresh : Refresh} {asked : Exchange}
    (h : Life base token label request past (.underWay (.refreshing refresh asked))) :
    Wished label request past refresh := by
  cases h with
  | refreshes past refresh sent life sends => exact life.wished_of_waiting.append _

/-! ### Why a call fails -/

/-- The failure of a call is its own: its request or the answer to that failed, or a refresh that
its own first answer wished for, which it could not send or which was answered with a failure. -/
inductive Fails (base : Url) (token : String) (label : ι) (past : List (Entry ι))
    (failure : Failure) : Prop where
  | unsent (request : Request) (begun : .begun label request ∈ past)
      (fails : request.exchange base token = .error failure)
  | answered (request : Request) (sent : Exchange) (a : Answer)
      (begun : .begun label request ∈ past) (asked : .sent label none sent ∈ past)
      (heard : .answered label none a ∈ past)
      (fails : a.outcome request.path sent.url = .error failure)
  | unsentRefresh (request : Request) (refresh : Refresh)
      (wished : Wished label request past refresh)
      (fails : refresh.request.exchange base token = .error failure)
  | refresh (request : Request) (refresh : Refresh) (asked : Exchange) (a : Answer)
      (wished : Wished label request past refresh)
      (sent : .sent label (some refresh) asked ∈ past)
      (heard : .answered label (some refresh) a ∈ past)
      (fails : a.outcome refresh.path asked.url = .error failure)

theorem sent_of_asking {again : Bool} {sent : Exchange}
    (h : Life base token label request past (.underWay (.asking again sent))) :
    .sent label none sent ∈ past := by
  cases h <;> simp

theorem sent_of_refreshing {refresh : Refresh} {asked : Exchange}
    (h : Life base token label request past (.underWay (.refreshing refresh asked))) :
    .sent label (some refresh) asked ∈ past := by
  cases h
  simp

/-- A call fails because of its own request or answer, never because of another call. -/
theorem fails {failure : Failure}
    (h : Life base token label request past (.settled (.error failure))) :
    Fails base token label past failure := by
  generalize ended : Phase.settled (.error failure) = phase at h
  cases h with
  | unsent failure' fails =>
    cases ended
    exact .unsent request List.mem_cons_self fails
  | unsentRefresh past refresh failure' life fails =>
    cases ended
    exact .unsentRefresh request refresh (life.wished_of_waiting.append _) fails
  | refreshFails past refresh asked a failure' life fails =>
    cases ended
    exact .refresh request refresh asked a (life.wished_of_refreshing.append _)
      (List.mem_append_left _ life.sent_of_refreshing) (by simp) fails
  | ends past again sent a life final =>
    have failed : a.outcome request.path sent.url = .error failure := by
      injection ended with same
      exact same.symm
    exact .answered request sent a (List.mem_append_left _ life.begun)
      (List.mem_append_left _ life.sent_of_asking) (by simp) failed
  | _ => cases ended

end Life

end Client

end CourseLaunch.Backend
