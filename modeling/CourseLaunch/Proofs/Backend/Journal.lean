import CourseLaunch.Backend.Client
import Mathlib.Data.List.Nodup
import Mathlib.Data.List.Perm.Basic
/-!
# The journal of a client

The journal of a client tells which calls were begun, which have ended and with what result, and
whose own request was answered with a status of success. Three facts tie it to the calls that are
under way: no call is begun twice, every call that was begun is under way or has ended and never
both, and an answer with a status of success is the last thing that happens to a call.

`Begins` and `Advances` say once what the beginning of a call and its progress change. Everything
else about calls is derived from them.
-/

namespace CourseLaunch.Backend

variable {ι : Type}

/-- A request asks for what an endpoint offers: its path, with its data as the body and nothing
behind the query. -/
structure Request.AsksFor (r : Request) (e : Endpoint) : Prop where
  path : r.path = e.path
  body : r.body = e.data
  params : r.params = []

theorem Request.asksFor_ofEndpoint (e : Endpoint) : (Request.ofEndpoint e).AsksFor e :=
  ⟨rfl, rfl, rfl⟩

/-- The call that begins with an entry, and what it asks for. -/
def Entry.begun? : Entry ι → Option (ι × Request)
  | begun label request => some (label, request)
  | _ => none

/-- The call that ends with an entry, and its result. -/
def Entry.ended? : Entry ι → Option (ι × Except Failure Reply)
  | ended label result => some (label, result)
  | _ => none

/-- The call whose own request is answered with a status of success. -/
def Entry.accepted? : Entry ι → Option ι
  | answered label none (.whole status _) => if status < 400 then some label else none
  | _ => none

namespace Entry

@[simp] theorem accepted?_begun (label : ι) (request : Request) :
    (begun label request).accepted? = none := rfl

@[simp] theorem accepted?_sent (label : ι) (refresh : Option Refresh) (exchange : Exchange) :
    (sent label refresh exchange).accepted? = none := rfl

@[simp] theorem accepted?_refreshed (label : ι) (refresh : Refresh) (a : Answer) :
    (answered label (some refresh) a).accepted? = none := rfl

@[simp] theorem accepted?_ended (label : ι) (result : Except Failure Reply) :
    (ended label result).accepted? = none := rfl

theorem accepted?_answered (label : ι) (a : Answer) :
    (answered label none a).accepted? = none ∨ (answered label none a).accepted? = some label := by
  cases a with
  | whole status body => by_cases low : status < 400 <;> simp [accepted?, low]
  | cutShort => exact .inl rfl
  | missing => exact .inl rfl

/-- A request that was answered with a status of success asks for no refresh. -/
theorem accepted?_of_wish {a : Answer} {path : String} {url : Web.Url} {label : ι}
    {refresh : Refresh} (h : Client.wish? (a.outcome path url) = some refresh) :
    (answered label none a).accepted? = none := by
  cases a with
  | whole status body =>
    by_cases low : status < 400
    · simp [Answer.outcome, low, Client.wish?] at h
    · simp [accepted?, low]
  | cutShort => rfl
  | missing => rfl

end Entry

namespace Client

/-- The calls that were ever begun, oldest first. -/
def begun (c : Client ι) : List (ι × Request) := c.journal.filterMap Entry.begun?

/-- The results of the calls that have ended, oldest first. -/
def ended (c : Client ι) : List (ι × Except Failure Reply) := c.journal.filterMap Entry.ended?

/-- The calls whose own requests were answered with a status of success. -/
def accepted (c : Client ι) : List ι := c.journal.filterMap Entry.accepted?

def labels (c : Client ι) : List ι := c.calls.map Call.label

@[simp] theorem begun_fresh (base : Web.Url) (token : String) :
    (fresh base token : Client ι).begun = [] := rfl

@[simp] theorem ended_fresh (base : Web.Url) (token : String) :
    (fresh base token : Client ι).ended = [] := rfl

@[simp] theorem journal_note (c : Client ι) (e : Entry ι) :
    (c.note e).journal = c.journal ++ [e] := rfl

@[simp] theorem labels_note (c : Client ι) (e : Entry ι) : (c.note e).labels = c.labels := rfl

/-! ### The calls of a client -/

/-- No call is begun twice, and a call that was begun is under way or has ended, and never both.
A status of success is the last answer of a call. -/
structure Consistent (c : Client ι) : Prop where
  once : (c.begun.map Prod.fst).Nodup
  conserved : (c.begun.map Prod.fst).Perm (c.labels ++ c.ended.map Prod.fst)
  accepted : c.accepted.Sublist (c.ended.map Prod.fst)

theorem consistent_fresh (base : Web.Url) (token : String) :
    (fresh base token : Client ι).Consistent := ⟨.nil, .refl _, .refl _⟩

namespace Consistent

variable {c : Client ι}

/-- A call is under way or has ended, but not both, and it ends only once. -/
theorem split (h : c.Consistent) : (c.labels ++ c.ended.map Prod.fst).Nodup :=
  h.conserved.nodup_iff.mp h.once

theorem labels_nodup (h : c.Consistent) : c.labels.Nodup := h.split.of_append_left

theorem ended_nodup (h : c.Consistent) : (c.ended.map Prod.fst).Nodup := h.split.of_append_right

theorem begun_of_label (h : c.Consistent) {label : ι} (known : label ∈ c.labels) :
    label ∈ c.begun.map Prod.fst :=
  h.conserved.mem_iff.mpr (List.mem_append_left _ known)

theorem begun_of_ended (h : c.Consistent) {label : ι} {result : Except Failure Reply}
    (known : (label, result) ∈ c.ended) : label ∈ c.begun.map Prod.fst :=
  h.conserved.mem_iff.mpr
    (List.mem_append_right _ (List.mem_map_of_mem (f := Prod.fst) known))

/-- Every call that was begun is under way or has ended. -/
theorem underWay_or_ended (h : c.Consistent) {label : ι} (known : label ∈ c.begun.map Prod.fst) :
    label ∈ c.labels ∨ ∃ result, (label, result) ∈ c.ended := by
  refine (List.mem_append.mp (h.conserved.mem_iff.mp known)).imp_right fun ended => ?_
  obtain ⟨⟨_, result⟩, found, rfl⟩ := List.mem_map.mp ended
  exact ⟨result, found⟩

theorem not_ended_of_label (h : c.Consistent) {label : ι} (known : label ∈ c.labels)
    (result : Except Failure Reply) : (label, result) ∉ c.ended := fun ended =>
  List.disjoint_of_nodup_append h.split known (List.mem_map_of_mem (f := Prod.fst) ended)

/-- A call has one result. -/
theorem result_unique (h : c.Consistent) {label : ι} {result result' : Except Failure Reply}
    (known : (label, result) ∈ c.ended) (known' : (label, result') ∈ c.ended) :
    result = result' :=
  (Prod.mk.inj (List.inj_on_of_nodup_map h.ended_nodup known known' rfl)).2

end Consistent

/-! ### What happens to the calls -/

variable [DecidableEq ι]

@[simp] theorem journal_put (c : Client ι) (call : Call ι) :
    (c.put call).journal = c.journal := rfl

@[simp] theorem journal_drop (c : Client ι) (label : ι) : (c.drop label).journal = c.journal := rfl

@[simp] theorem labels_drop (c : Client ι) (label : ι) :
    (c.drop label).labels = c.labels.filter fun l => l ≠ label := by
  simp only [labels, drop, List.filter_map]
  rfl

@[simp] theorem labels_put (c : Client ι) (call : Call ι) :
    (c.put call).labels = (c.labels.filter fun l => l ≠ call.label) ++ [call.label] := by
  rw [← labels_drop]
  simp [labels, put]

theorem mem_labels_of_call? {c : Client ι} {label : ι} {call : Call ι}
    (found : c.call? label = some call) : call.label = label ∧ label ∈ c.labels := by
  have same : call.label = label := by simpa using List.find?_some found
  exact ⟨same, List.mem_map.mpr ⟨call, List.mem_of_find?_eq_some found, same⟩⟩

/-- Two clients whose calls have the same past. -/
structure SameCalls (c d : Client ι) : Prop where
  begun : c.begun = d.begun
  ended : c.ended = d.ended
  accepted : c.accepted = d.accepted
  labels : c.labels = d.labels

/-- What the beginning of a call changes. It ends at once only when nothing can be sent. -/
inductive Begins (c : Client ι) (label : ι) (request : Request) : Progress ι → Prop where
  | underWay (d : Client ι) (begun : d.begun = c.begun ++ [(label, request)])
      (ended : d.ended = c.ended) (accepted : d.accepted = c.accepted)
      (labels : d.labels = (c.labels.filter fun l => l ≠ label) ++ [label]) :
      Begins c label request (d, none)
  | refused (d : Client ι) (failure : Failure) (begun : d.begun = c.begun ++ [(label, request)])
      (ended : d.ended = c.ended ++ [(label, .error failure)]) (accepted : d.accepted = c.accepted)
      (labels : d.labels = c.labels) :
      Begins c label request (d, some (.error failure))

/-- What the progress of a call changes. -/
inductive Advances (c : Client ι) (label : ι) : Progress ι → Prop where
  | underWay (d : Client ι) (begun : d.begun = c.begun) (ended : d.ended = c.ended)
      (accepted : d.accepted = c.accepted) (labels : d.labels.Perm c.labels) :
      Advances c label (d, none)
  | ends (d : Client ι) (result : Except Failure Reply) (known : label ∈ c.labels)
      (begun : d.begun = c.begun) (ended : d.ended = c.ended ++ [(label, result)])
      (accepted : d.accepted = c.accepted ∨ d.accepted = c.accepted ++ [label])
      (labels : d.labels = c.labels.filter fun l => l ≠ label) :
      Advances c label (d, some result)

/-- Beginning a call is noted, and nothing else counts as begun. -/
theorem Begins.begun_eq {c : Client ι} {label : ι} {request : Request} {p : Progress ι}
    (h : c.Begins label request p) : p.1.begun = c.begun ++ [(label, request)] := by
  cases h <;> assumption

theorem Begins.mem_labels {c : Client ι} {label : ι} {request : Request} {p : Progress ι}
    (h : c.Begins label request p) : ∀ l ∈ p.1.labels, l ∈ c.labels ∨ l = label := by
  intro l known
  cases h with
  | underWay d begun ended accepted labels =>
    rw [labels, List.mem_append, List.mem_singleton] at known
    exact known.imp_left fun old => (List.mem_filter.mp old).1
  | refused d failure begun ended accepted labels => exact .inl (labels ▸ known)

/-- A call that ends as soon as it is begun is the only one to end. -/
theorem Begins.ended_eq {c : Client ι} {label : ι} {request : Request} {p : Progress ι}
    (h : c.Begins label request p) :
    p.1.ended = c.ended ++ (p.2.map fun result => (label, result)).toList := by
  cases h <;> simpa

/-- What the step of a call ends is that call. -/
theorem Advances.ended_eq {c : Client ι} {label : ι} {p : Progress ι} (h : c.Advances label p) :
    p.1.ended = c.ended ++ (p.2.map fun result => (label, result)).toList := by
  cases h <;> simpa

/-- A call that goes on begins no other. -/
theorem Advances.begun_eq {c : Client ι} {label : ι} {p : Progress ι} (h : c.Advances label p) :
    p.1.begun = c.begun := by
  cases h <;> assumption

theorem Advances.mem_labels {c : Client ι} {label : ι} {p : Progress ι}
    (h : c.Advances label p) : ∀ l ∈ p.1.labels, l ∈ c.labels := by
  intro l known
  cases h with
  | underWay d begun ended accepted labels => exact labels.mem_iff.mp known
  | ends d result under begun ended accepted labels =>
    exact (List.mem_filter.mp (labels ▸ known)).1

theorem Advances.known {c : Client ι} {label : ι} {p : Progress ι} (h : c.Advances label p)
    (ends : p.2.isSome) : label ∈ c.labels := by
  cases h with
  | underWay => simp at ends
  | ends d result known => exact known

/-- A call that is begun is under way, or it fails because nothing could be sent. -/
theorem begin_begins (c : Client ι) (label : ι) (request : Request) :
    c.Begins label request (c.begin label request) := by
  unfold begin
  cases request.exchange c.base c.token with
  | ok sent =>
    apply Begins.underWay <;>
      simp [begun, ended, accepted, Entry.begun?, Entry.ended?]
  | error failure =>
    apply Begins.refused <;>
      simp [begun, ended, accepted, List.filterMap_cons, Entry.begun?, Entry.ended?]

theorem filter_ne_eq_self {labels : List ι} {label : ι} (unknown : label ∉ labels) :
    (labels.filter fun l => l ≠ label) = labels :=
  List.filter_eq_self.mpr fun l known => by
    simpa using fun same : l = label => unknown (same ▸ known)

theorem filter_ne_append_perm {labels : List ι} {label : ι} (known : label ∈ labels)
    (once : labels.Nodup) : (labels.filter (fun l => l ≠ label) ++ [label]).Perm labels := by
  have rest : (labels.filter fun l => l ≠ label) = labels.erase label := by
    rw [once.erase_eq_filter]
    exact List.filter_congr fun l _ => by by_cases h : l = label <;> simp [h]
  rw [rest]
  exact (List.perm_append_singleton _ _).trans (List.perm_cons_erase known).symm

/-- Putting a call that is under way behind all others only changes the order. -/
theorem labels_put_perm {c : Client ι} {call : Call ι} (known : call.label ∈ c.labels)
    (once : c.labels.Nodup) : (c.put call).labels.Perm c.labels := by
  rw [labels_put]
  exact filter_ne_append_perm known once

theorem Advances.congr {c d : Client ι} {label : ι} {p : Progress ι} (h : c.Advances label p)
    (same : SameCalls c d) : d.Advances label p := by
  obtain ⟨begun, ended, accepted, labels⟩ := same
  cases h with
  | underWay e hb he ha hl =>
    exact .underWay e (hb.trans begun) (he.trans ended) (ha.trans accepted) (labels ▸ hl)
  | ends e result known hb he ha hl =>
    exact .ends e result (labels ▸ known) (hb.trans begun) (ended ▸ he) (accepted ▸ ha)
      (labels ▸ hl)

variable {c : Client ι} {call : Call ι} {refresh : Refresh}

theorem finish_advances (known : call.label ∈ c.labels) (result : Except Failure Reply) :
    c.Advances call.label (c.finish call result) := by
  apply Advances.ends _ _ known <;>
    simp [begun, ended, accepted, Entry.begun?, Entry.ended?]

theorem ask_advances (known : call.label ∈ c.labels) (once : c.labels.Nodup) (again : Bool) :
    c.Advances call.label (c.ask call again) := by
  unfold ask
  cases call.request.exchange c.base c.token with
  | ok sent =>
    apply Advances.underWay
    case labels => exact labels_put_perm known once
    all_goals simp [begun, ended, accepted, Entry.begun?, Entry.ended?]
  | error failure => exact finish_advances known _

theorem takeTurn_advances (known : call.label ∈ c.labels) (once : c.labels.Nodup) :
    c.Advances call.label (c.takeTurn call refresh) := by
  have released : SameCalls c.release c := ⟨rfl, rfl, rfl, rfl⟩
  unfold takeTurn
  split
  · exact (ask_advances (c := c.release) known once true).congr released
  · cases refresh.request.exchange c.base c.token with
    | ok sent =>
      apply Advances.underWay
      case labels => exact labels_put_perm known once
      all_goals simp [begun, ended, accepted, Entry.begun?, Entry.ended?]
    | error failure => exact (finish_advances (c := c.release) known _).congr released

theorem queue_advances (known : call.label ∈ c.labels) (once : c.labels.Nodup) :
    c.Advances call.label (c.queue call refresh) := by
  have queued : SameCalls { c with turns := c.turns ++ [call.label] } c := ⟨rfl, rfl, rfl, rfl⟩
  unfold queue
  split
  · exact (takeTurn_advances (c := { c with turns := c.turns ++ [call.label] }) known once).congr
      queued
  · apply Advances.underWay
    case labels => exact labels_put_perm known once
    all_goals rfl

/-- A call that has its turn goes on, and no other call does. -/
theorem resume_advances (once : c.labels.Nodup) (label : ι) :
    c.Advances label (c.resume label) := by
  have nothing : c.Advances label (c, none) := .underWay c rfl rfl rfl (.refl _)
  unfold resume
  cases found : c.call? label with
  | none => exact nothing
  | some call =>
    obtain ⟨rfl, known⟩ := mem_labels_of_call? found
    cases stage : call.stage with
    | waiting refresh =>
      simp only [stage]
      split
      · exact takeTurn_advances known once
      · exact nothing
    | asking again sent => simpa only [stage] using nothing
    | refreshing refresh sent => simpa only [stage] using nothing

/-- An answer ends a call that asks, or makes it wait for a refresh. -/
theorem answer_asking_advances (known : call.label ∈ c.labels) (once : c.labels.Nodup)
    (again : Bool) (a : Answer) (path : String) (url : Web.Url) :
    c.Advances call.label
      (match if again then none else wish? (a.outcome path url) with
      | some refresh => (c.note (.answered call.label none a)).queue call refresh
      | none => (c.note (.answered call.label none a)).finish call (a.outcome path url)) := by
  cases wished : (if again then none else wish? (a.outcome path url)) with
  | some refresh =>
    have wish : wish? (a.outcome path url) = some refresh := by
      cases again
      · exact wished
      · exact absurd wished (by simp)
    have heard : SameCalls (c.note (.answered call.label none a)) c := by
      constructor <;>
        simp [begun, ended, accepted, Entry.begun?, Entry.ended?, Entry.accepted?_of_wish wish]
    exact (queue_advances (c := c.note _) known once).congr heard
  | none =>
    apply Advances.ends _ _ known
    case accepted =>
      rcases Entry.accepted?_answered call.label a with no | yes
      · left; simp [accepted, no]
      · right; simp [accepted, yes]
    all_goals simp [begun, ended, List.filterMap_cons, Entry.begun?, Entry.ended?]

/-- An answer to a refresh makes the call ask again, or ends it. -/
theorem answer_refreshing_advances (known : call.label ∈ c.labels) (once : c.labels.Nodup)
    (a : Answer) (outcome : Except Failure Reply) (generation : Nat) :
    let heard := c.note (.answered call.label (some refresh) a)
    c.Advances call.label
      (match outcome with
      | .ok _ => { heard.release with generation := generation }.ask call true
      | .error failure => heard.release.finish call (.error failure)) := by
  intro heard
  have same : SameCalls heard c := by
    constructor <;>
      simp [heard, begun, ended, accepted, Entry.begun?, Entry.ended?]
  cases outcome with
  | ok _ =>
    exact (ask_advances (c := { heard.release with generation := generation }) known once
      true).congr ⟨same.begun, same.ended, same.accepted, same.labels⟩
  | error failure =>
    exact (finish_advances (c := heard.release) known _).congr
      ⟨same.begun, same.ended, same.accepted, same.labels⟩

/-- An answer concerns one call: it goes on, waits for its turn, or ends. -/
theorem answer_advances (once : c.labels.Nodup) (label : ι) (a : Answer) :
    c.Advances label (c.answer label a) := by
  have nothing : c.Advances label (c, none) := .underWay c rfl rfl rfl (.refl _)
  unfold answer
  cases found : c.call? label with
  | none => exact nothing
  | some call =>
    obtain ⟨rfl, known⟩ := mem_labels_of_call? found
    cases stage : call.stage with
    | waiting refresh => simpa only [stage] using nothing
    | asking again sent =>
      simp only [stage]
      exact answer_asking_advances known once again a call.request.path sent.url
    | refreshing refresh sent =>
      simp only [stage]
      exact answer_refreshing_advances known once a (a.outcome refresh.path sent.url) _

/-- A call that begins makes progress at once, if only to its end. -/
theorem Begins.split {label : ι} {request : Request} {p : Progress ι}
    (h : c.Begins label request p) (new : label ∉ c.labels) :
    ∃ d, c.Begins label request (d, none) ∧ d.Advances label p := by
  cases h with
  | underWay d begun ended accepted labels =>
    exact ⟨d, .underWay d begun ended accepted labels, .underWay d rfl rfl rfl (.refl _)⟩
  | refused d failure begun ended accepted labels =>
    -- a call that is refused counts as under way for a moment, and then it ends
    have others := filter_ne_eq_self new
    have sent : (c.labels ++ [label]).filter (fun l => l ≠ label) = c.labels := by
      rw [List.filter_append, others]
      simp
    let call : Call ι := ⟨label, request, 0, .waiting ⟨"", ""⟩⟩
    refine ⟨(c.note (.begun label request)).put call, ?_, ?_⟩
    · apply Begins.underWay <;>
        simp [Client.begun, Client.ended, Client.accepted, Entry.begun?, Entry.ended?, call]
    · apply Advances.ends
      · simp [call]
      · rw [begun]; simp [Client.begun, Entry.begun?]
      · rw [ended]; simp [Client.ended, Entry.ended?]
      · left; rw [accepted]; simp [Client.accepted]
      · rw [labels, labels_put, labels_note, others]
        exact sent.symm

namespace Consistent

/-- The books stay consistent when a call is begun under a label of its own. -/
theorem begins {label : ι} {request : Request} {p : Progress ι} (h : c.Consistent)
    (new : label ∉ c.begun.map Prod.fst) (hb : c.Begins label request p) : p.1.Consistent := by
  have unknown : label ∉ c.labels := fun known => new (h.begun_of_label known)
  have others := filter_ne_eq_self unknown
  have once : (c.begun.map Prod.fst ++ [label]).Nodup :=
    List.nodup_append.mpr ⟨h.once, by simp, by
      intro l hl l' hl' same
      exact new (by simp_all)⟩
  cases hb with
  | underWay d begun ended accepted labels =>
    refine ⟨by simpa [begun] using once, ?_, by simpa [ended, accepted] using h.accepted⟩
    simp only [begun, ended, labels, others, List.map_append, List.map_cons, List.map_nil]
    refine (h.conserved.append_right [label]).trans ?_
    rw [List.append_assoc, List.append_assoc]
    exact List.perm_append_comm.append_left _
  | refused d failure begun ended accepted labels =>
    refine ⟨by simpa [begun] using once, ?_, ?_⟩
    · simp only [begun, ended, labels, List.map_append, List.map_cons, List.map_nil]
      rw [← List.append_assoc]
      exact h.conserved.append_right _
    · simp only [ended, accepted, List.map_append, List.map_cons, List.map_nil]
      exact h.accepted.trans (List.sublist_append_left _ _)

/-- The books stay consistent when a call goes on. -/
theorem advances {label : ι} {p : Progress ι} (h : c.Consistent) (ha : c.Advances label p) :
    p.1.Consistent := by
  cases ha with
  | underWay d begun ended accepted labels =>
    refine ⟨begun ▸ h.once, ?_, by simpa [ended, accepted] using h.accepted⟩
    rw [begun, ended]
    exact h.conserved.trans (labels.symm.append_right _)
  | ends d result known begun ended accepted labels =>
    refine ⟨begun ▸ h.once, ?_, ?_⟩
    · simp only [begun, ended, labels, List.map_append, List.map_cons, List.map_nil]
      refine h.conserved.trans ?_
      refine ((filter_ne_append_perm known h.labels_nodup).symm.append_right _).trans ?_
      rw [List.append_assoc]
      exact List.perm_append_comm.append_left _
    · simp only [ended, List.map_append, List.map_cons, List.map_nil]
      rcases accepted with same | more
      · rw [same]
        exact h.accepted.trans (List.sublist_append_left _ _)
      · rw [more]
        exact h.accepted.append (.refl _)

end Consistent

end Client

end CourseLaunch.Backend
