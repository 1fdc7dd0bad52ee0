import CourseLaunch.Proofs.Backend.Turn
/-!
# Calls share their refreshes

Whatever calls are made and however they are answered, the credentials are refreshed by one call at
a time, and only by a call that has seen no refresh since it was begun. So the calls of one
generation need one refresh, and a call asks again only after a refresh.

The invariant reads the journal: it knows the life of every call, the generation in which it was
begun, and which call has made which refresh.
-/

namespace CourseLaunch.Backend

open Journal

variable {ι : Type} [DecidableEq ι]

namespace Client

/-- When something may happen to a call, given what happened before. -/
inductive Warranted (before : List (Entry ι)) : Entry ι → Prop where
  | begun (label : ι) (request : Request) : Warranted before (.begun label request)
  | asks (label : ι) (sent : Exchange) (first : (past label before).any Entry.asks = false) :
      Warranted before (.sent label none sent)
  | asksAgain (label : ι) (request : Request) (refresh : Refresh) (sent : Exchange)
      (wished : Life.Wished label request (past label before) refresh)
      (renewed : refreshed (since label before) ≠ []) : Warranted before (.sent label none sent)
  | refreshes (label : ι) (request : Request) (refresh : Refresh) (sent : Exchange)
      (begun : .begun label request ∈ before) (stale : refreshed (since label before) = []) :
      Warranted before (.sent label (some refresh) sent)
  | answered (label : ι) (refresh : Option Refresh) (a : Answer) :
      Warranted before (.answered label refresh a)
  | ended (label : ι) (result : Except Failure Reply) : Warranted before (.ended label result)

/-- A journal in which nothing happens without reason. -/
def Reasoned (journal : List (Entry ι)) : Prop :=
  ∀ before e after, journal = before ++ e :: after → Warranted before e

/-- A journal stays reasoned when what is noted is warranted by what was noted before. -/
theorem Reasoned.concat {journal : List (Entry ι)} {e : Entry ι} (h : Reasoned journal)
    (warranted : Warranted journal e) : Reasoned (journal ++ [e]) := by
  intro before e' after split
  rcases List.eq_nil_or_concat after with rfl | ⟨more, last, rfl⟩
  · obtain ⟨rfl, same⟩ := List.append_inj' split rfl
    obtain rfl : e = e' := by simpa using same
    exact warranted
  · have inner : journal ++ [e] = (before ++ e' :: more) ++ [last] := by simpa using split
    obtain ⟨rfl, -⟩ := List.append_inj' inner rfl
    exact h before e' more rfl

theorem Reasoned.pair {journal : List (Entry ι)} {e e' : Entry ι} (h : Reasoned journal)
    (warranted : Warranted journal e) (warranted' : Warranted (journal ++ [e]) e') :
    Reasoned (journal ++ [e, e']) := by
  have both := (h.concat warranted).concat warranted'
  rwa [List.append_assoc] at both

/-- What the journal knows of the calls. -/
structure Lawful (c : Client ι) : Prop where
  once : c.labels.Nodup
  lives : ∀ call ∈ c.calls, Life c.base c.token call.label call.request
    (past call.label c.journal) (.underWay call.stage)
  settled : ∀ label result, (label, result) ∈ c.ended → label ∉ c.labels ∧
    ∃ request, Life c.base c.token label request (past label c.journal) (.settled result)
  gone : ∀ label, label ∉ c.labels → past label c.journal = [] ∨
    ∃ result, (label, result) ∈ c.ended
  seen : ∀ call ∈ c.calls, generationOf c.journal call.label = call.seen
  generations : (refreshed c.journal).map (generationOf c.journal) = List.range c.generation
  turn : ∀ call ∈ c.calls, ∀ refresh asked, call.stage = .refreshing refresh asked →
    c.turns.head? = some call.label ∧ call.seen = c.generation
  reasoned : Reasoned c.journal

/-- A client without calls is lawful. -/
theorem lawful_fresh (base : Web.Url) (token : String) : (fresh base token : Client ι).Lawful where
  once := .nil
  lives call known := by simp [fresh] at known
  settled label result known := by simp at known
  gone label unknown := .inl rfl
  seen call known := by simp [fresh] at known
  generations := rfl
  turn call known := by simp [fresh] at known
  reasoned before e after split := by simp [fresh] at split

namespace Lawful

variable {c d : Client ι} {call : Call ι}

theorem begun (h : c.Lawful) (known : call ∈ c.calls) :
    .begun call.label call.request ∈ c.journal := (mem_past.mp (h.lives call known).begun).1

/-- What an entry is about was begun. -/
theorem begun_of_mem (h : c.Lawful) {e : Entry ι} (known : e ∈ c.journal) :
    ∃ request, .begun e.label request ∈ c.journal := by
  have own : e ∈ past e.label c.journal := mem_past.mpr ⟨known, rfl⟩
  by_cases under : e.label ∈ c.labels
  · obtain ⟨call, found, same⟩ := List.mem_map.mp under
    exact ⟨call.request, same ▸ h.begun found⟩
  · rcases h.gone _ under with none | ⟨result, ended⟩
    · simp [none] at own
    · obtain ⟨-, request, life⟩ := h.settled _ result ended
      exact ⟨request, (mem_past.mp life.begun).1⟩

theorem unknown_of_new (h : c.Lawful) {label : ι} (new : label ∉ c.begun.map Prod.fst) :
    label ∉ c.labels := by
  intro under
  obtain ⟨call, found, rfl⟩ := List.mem_map.mp under
  exact new (mem_begun (h.begun found))

/-- Nothing is known of a call before it is begun. -/
theorem past_of_new (h : c.Lawful) {label : ι} (new : label ∉ c.begun.map Prod.fst) :
    past label c.journal = [] := by
  rw [List.eq_nil_iff_forall_not_mem]
  intro e own
  obtain ⟨known, rfl⟩ := mem_past.mp own
  obtain ⟨request, begun⟩ := h.begun_of_mem known
  exact new (mem_begun begun)

theorem length_refreshed_eq (h : c.Lawful) : (refreshed c.journal).length = c.generation := by
  have lengths := congrArg List.length h.generations
  simpa using lengths

/-- How many refreshes a call has seen since it was begun. -/
theorem length_since (h : c.Lawful) (known : call ∈ c.calls) :
    c.generation = call.seen + (refreshed (since call.label c.journal)).length := by
  rw [← h.length_refreshed_eq, length_refreshed call.label, h.seen call known]

end Lawful

/-! ### What happens to a call -/

namespace Happens

variable {c : Client ι} {label : ι} {entries : List (Entry ι)} {next : Option (Call ι)}
  {turns : List ι} {generation : Nat}

/-- What a call has come to is what the journal tells about it. -/
theorem life (h : c.Happens label entries next turns generation) (lawful : c.Lawful) :
    match next with
    | some call => entries.filterMap Entry.ended? = [] ∧
        Life c.base c.token label call.request (past label c.journal ++ entries)
          (.underWay call.stage)
    | none => ∃ result, entries.filterMap Entry.ended? = [(label, result)] ∧
        ∃ request, Life c.base c.token label request (past label c.journal ++ entries)
          (.settled result) := by
  -- each case of what can happen is one constructor of the life of the call
  cases h with
  | unsent label request failure new fails =>
    rw [lawful.past_of_new new]
    exact ⟨_, rfl, request, .unsent failure fails⟩
  | asks label request sent new sends =>
    rw [lawful.past_of_new new]
    exact ⟨rfl, .asks sent sends⟩
  | waits call sent a refresh known stage wish =>
    have life := lawful.lives call known
    rw [stage] at life
    exact ⟨rfl, .waits _ sent a refresh life wish⟩
  | spared call refresh sent known stage turn other sends =>
    have life := lawful.lives call known
    rw [stage] at life
    exact ⟨rfl, .spared _ refresh sent life sends⟩
  | refreshes call refresh sent known stage turn same sends =>
    have life := lawful.lives call known
    rw [stage] at life
    exact ⟨rfl, .refreshes _ refresh sent life sends⟩
  | unsentRefresh call refresh failure known stage turn fails =>
    have life := lawful.lives call known
    rw [stage] at life
    exact ⟨_, rfl, call.request, .unsentRefresh _ refresh failure life fails⟩
  | refreshed call refresh asked sent a reply known stage works sends =>
    have life := lawful.lives call known
    rw [stage] at life
    exact ⟨rfl, .refreshed _ refresh asked sent a reply life works sends⟩
  | refreshFails call refresh asked a failure known stage fails =>
    have life := lawful.lives call known
    rw [stage] at life
    exact ⟨_, rfl, call.request, .refreshFails _ refresh asked a failure life fails⟩
  | ends call again sent a known stage final =>
    have life := lawful.lives call known
    rw [stage] at life
    exact ⟨_, rfl, call.request, .ends _ again sent a life final⟩

/-- A call that goes on remembers how often credentials had been refreshed when it was begun. -/
theorem seen (h : c.Happens label entries next turns generation) (lawful : c.Lawful) :
    ∀ call ∈ next, generationOf (c.journal ++ entries) label = call.seen := by
  have still (call : Call ι) (known : call ∈ c.calls) :
      generationOf (c.journal ++ entries) call.label = call.seen := by
    rw [generationOf_append (lawful.begun known), lawful.seen call known]
  intro call becomes
  cases h with
  | asks label request sent new sends =>
    obtain rfl := Option.some.inj becomes
    rw [generationOf_begun (lawful.past_of_new new), lawful.length_refreshed_eq]
  | unsent | unsentRefresh | refreshFails | ends => cases becomes
  | _ =>
    obtain rfl := Option.some.inj becomes
    exact still _ (by assumption)

/-- The `n`-th refresh is made by a call of the generation `n`. -/
theorem generations (h : c.Happens label entries next turns generation) (lawful : c.Lawful) :
    (Journal.refreshed (c.journal ++ entries)).map (generationOf (c.journal ++ entries)) =
      List.range generation := by
  have before : (Journal.refreshed c.journal).map (generationOf (c.journal ++ entries)) =
      List.range c.generation := by
    rw [← lawful.generations]
    refine List.map_congr_left fun l known => ?_
    obtain ⟨e, found, renews⟩ := List.mem_filterMap.mp known
    obtain rfl := Entry.label_of_refreshed? renews
    obtain ⟨request, begun⟩ := lawful.begun_of_mem found
    exact generationOf_append begun entries
  rw [refreshed_append, List.map_append, before]
  cases h with
  | refreshed call refresh asked sent a reply known stage works sends =>
    have renews : Journal.refreshed
        [.answered call.label (some refresh) a, .sent call.label none sent] = [call.label] := by
      have renewed := Entry.refreshed?_answered a refresh.path asked.url call.label refresh
      rw [works] at renewed
      simp [Journal.refreshed, List.filterMap_cons, renewed, Except.toOption]
    rw [renews, List.map_singleton, generationOf_append (lawful.begun known),
      lawful.seen call known, (lawful.turn call known refresh asked stage).2, List.range_succ]
  | refreshFails call refresh asked a failure known stage fails =>
    have renewed := Entry.refreshed?_answered a refresh.path asked.url call.label refresh
    rw [fails] at renewed
    simp [Journal.refreshed, List.filterMap_cons, renewed, Except.toOption]
  | _ => simp [Journal.refreshed]

/-- Nobody but the first of the turns refreshes the credentials. -/
theorem turn (h : c.Happens label entries next turns generation) (lawful : c.Lawful) :
    ∀ call ∈ (c.drop label).calls ++ next.toList, ∀ refresh asked,
      call.stage = .refreshing refresh asked →
        turns.head? = some call.label ∧ call.seen = generation := by
  intro call known refresh asked stage
  rcases List.mem_append.mp known with other | becomes
  -- another call refreshes, so it is first in the queue and no step takes that away from it
  · obtain ⟨old, differs⟩ := List.mem_filter.mp other
    have differs : call.label ≠ label := by simpa using differs
    obtain ⟨first, present⟩ := lawful.turn call old refresh asked stage
    cases h with
    | unsent | asks | refreshes | ends => exact ⟨first, present⟩
    | waits => exact ⟨by simp [List.head?_append, first], present⟩
    | spared actor refresh' sent known' stage' turn other' sends =>
      exact absurd (Option.some.inj (first.symm.trans turn)) differs
    | unsentRefresh actor refresh' failure known' stage' turn fails =>
      exact absurd (Option.some.inj (first.symm.trans turn)) differs
    | refreshed actor refresh' asked' sent a reply known' stage' works sends =>
      have turn := (lawful.turn actor known' refresh' asked' stage').1
      exact absurd (Option.some.inj (first.symm.trans turn)) differs
    | refreshFails actor refresh' asked' a failure known' stage' fails =>
      have turn := (lawful.turn actor known' refresh' asked' stage').1
      exact absurd (Option.some.inj (first.symm.trans turn)) differs
  -- the call itself refreshes from now on, because its turn came while its credentials were old
  · have becomes : next = some call := by simpa using becomes
    cases h with
    | refreshes actor refresh' sent known' stage' turn same sends =>
      obtain rfl := Option.some.inj becomes
      exact ⟨turn, same.symm⟩
    | unsent | unsentRefresh | refreshFails | ends => cases becomes
    | _ =>
      obtain rfl := Option.some.inj becomes
      cases stage

/-- A call asks again after a refresh, and refreshes only when there was none. -/
theorem reasoned (h : c.Happens label entries next turns generation) (lawful : c.Lawful) :
    Reasoned (c.journal ++ entries) := by
  have before := lawful.reasoned
  cases h with
  | unsent label request failure new fails =>
    exact before.pair (.begun label request) (.ended label _)
  | asks label request sent new sends =>
    refine before.pair (.begun label request) (.asks label sent ?_)
    rw [past_append, lawful.past_of_new new]
    simp [past, Entry.asks]
  | waits call sent a refresh known stage wish => exact before.concat (.answered call.label none a)
  | spared call refresh sent known stage turn other sends =>
    have life := lawful.lives call known
    rw [stage] at life
    have generation := lawful.length_since known
    refine before.concat (.asksAgain call.label call.request refresh sent life.wished_of_waiting ?_)
    intro stale
    rw [stale] at generation
    exact other generation
  | refreshes call refresh sent known stage turn same sends =>
    have generation := lawful.length_since known
    refine before.concat (.refreshes call.label call.request refresh sent (lawful.begun known) ?_)
    exact List.length_eq_zero_iff.mp (by omega)
  | unsentRefresh call refresh failure known stage turn fails =>
    exact before.concat (.ended call.label _)
  | refreshed call refresh asked sent a reply known stage works sends =>
    have life := lawful.lives call known
    rw [stage] at life
    refine before.pair (.answered call.label _ a) (.asksAgain call.label call.request refresh sent
      ?_ ?_)
    · rw [past_append]
      exact life.wished_of_refreshing.append _
    · -- the generation of the call is that of all refreshes but the last
      intro stale
      have renewed := Entry.refreshed?_answered a refresh.path asked.url call.label refresh
      rw [works] at renewed
      have lengths := length_refreshed call.label
        (c.journal ++ [.answered call.label (some refresh) a])
      rw [stale, generationOf_append (lawful.begun known), lawful.seen call known,
        refreshed_append, List.length_append, lawful.length_refreshed_eq,
        (lawful.turn call known refresh asked stage).2] at lengths
      simp [Journal.refreshed, renewed, Except.toOption] at lengths
  | refreshFails call refresh asked a failure known stage fails =>
    exact before.pair (.answered call.label _ a) (.ended call.label _)
  | ends call again sent a known stage final =>
    exact before.pair (.answered call.label none a) (.ended call.label _)

end Happens

/-! ### Steps -/

namespace Lawful

variable {c d : Client ι} {label : ι} {entries : List (Entry ι)} {next : Option (Call ι)}
  {turns : List ι} {generation : Nat}

theorem labels_moved (c : Client ι) (label : ι) (entries : List (Entry ι))
    (next : Option (Call ι)) (turns : List ι) (generation : Nat) :
    (c.moved label entries next turns generation).labels =
      c.labels.filter (fun l => l ≠ label) ++ next.toList.map Call.label := by
  rw [← labels_drop]
  simp [labels, moved]

theorem ended_moved (c : Client ι) (label : ι) (entries : List (Entry ι))
    (next : Option (Call ι)) (turns : List ι) (generation : Nat) :
    (c.moved label entries next turns generation).ended =
      c.ended ++ entries.filterMap Entry.ended? := List.filterMap_append

/-- A call of which nothing happens is not the one of which something happens. -/
theorem ne_of_ended (lawful : c.Lawful) (h : c.Happens label entries next turns generation)
    {other : ι} {result : Except Failure Reply} (known : (other, result) ∈ c.ended) :
    other ≠ label := by
  rintro rfl
  obtain ⟨unknown, request, life⟩ := lawful.settled other result known
  rcases h.known with under | new
  · exact unknown under
  · exact new (mem_begun (mem_past.mp life.begun).1)

/-- What can happen to a call leaves the client lawful. -/
theorem moved (lawful : c.Lawful) (h : c.Happens label entries next turns generation) :
    (c.moved label entries next turns generation).Lawful := by
  have own : past label entries = entries := past_of_labelled h.labelled
  have others (other : ι) (differs : other ≠ label) :
      past other (c.journal ++ entries) = past other c.journal := by
    rw [past_append, past_of_other h.labelled differs, List.append_nil]
  have life := h.life lawful
  constructor
  case once =>
    rw [labels_moved]
    refine List.nodup_append.mpr ⟨lawful.once.filter _, ?_, ?_⟩
    · cases next <;> simp
    · intro l old l' new same
      obtain ⟨call, becomes, rfl⟩ := List.mem_map.mp new
      have named := h.named call (by simpa using becomes)
      simp [same, named] at old
  case lives =>
    intro call known
    show Life c.base c.token call.label call.request (past call.label (c.journal ++ entries)) _
    -- the other calls keep their pasts, and the call that goes on keeps its life
    rcases List.mem_append.mp known with old | new
    · obtain ⟨known, differs⟩ := List.mem_filter.mp old
      rw [others call.label (by simpa using differs)]
      exact lawful.lives call known
    · obtain rfl : next = some call := by simpa using new
      rw [h.named call rfl, past_append, own]
      exact life.2
  case settled =>
    intro other result known
    show _ ∧ ∃ request, Life c.base c.token other request (past other (c.journal ++ entries)) _
    rw [ended_moved] at known
    rw [labels_moved]
    rcases List.mem_append.mp known with old | new
    · have differs := lawful.ne_of_ended h old
      obtain ⟨unknown, request, life⟩ := lawful.settled other result old
      refine ⟨?_, request, ?_⟩
      · rw [List.mem_append, not_or]
        refine ⟨fun known => unknown (List.mem_filter.mp known).1, fun known => ?_⟩
        obtain ⟨call, becomes, rfl⟩ := List.mem_map.mp known
        exact differs (h.named call (by simpa using becomes))
      · rw [others other differs]
        exact life
    · cases next with
      | some call => simp [life.1] at new
      | none =>
        obtain ⟨result', ends, request, life⟩ := life
        obtain ⟨rfl, rfl⟩ : other = label ∧ result = result' := by simpa [ends] using new
        refine ⟨by simp, request, ?_⟩
        rw [past_append, own]
        exact life
  case gone =>
    intro other unknown
    show past other (c.journal ++ entries) = [] ∨ _
    rw [labels_moved] at unknown
    rw [ended_moved]
    by_cases same : other = label
    · subst same
      cases next with
      | some call => simp [h.named call rfl] at unknown
      | none =>
        obtain ⟨result, ends, -⟩ := life
        exact .inr ⟨result, by simp [ends]⟩
    · have before : other ∉ c.labels := by
        intro known
        exact unknown (List.mem_append_left _ (List.mem_filter.mpr ⟨known, by simpa using same⟩))
      rw [others other same]
      refine (lawful.gone other before).imp_right ?_
      rintro ⟨result, ended⟩
      exact ⟨result, List.mem_append_left _ ended⟩
  case seen =>
    intro call known
    show generationOf (c.journal ++ entries) call.label = call.seen
    rcases List.mem_append.mp known with old | new
    · have known := (List.mem_filter.mp old).1
      rw [generationOf_append (lawful.begun known), lawful.seen call known]
    · obtain rfl : next = some call := by simpa using new
      rw [h.named call rfl]
      exact h.seen lawful call rfl
  case generations => exact h.generations lawful
  case turn => exact h.turn lawful
  case reasoned => exact h.reasoned lawful

theorem step (lawful : c.Lawful) (h : c.Step d) : d.Lawful := by
  cases h with
  | happens label entries next turns generation h => exact lawful.moved h

/-- A client stays lawful on every way that it can take. -/
theorem steps (lawful : c.Lawful) (h : c.Steps d) : d.Lawful := by
  induction h with
  | refl => exact lawful
  | tail _ step ih => exact ih.step step

/-- A move of a lawful client is a sequence of steps, because its calls can all be sent. -/
theorem after_steps (lawful : c.Lawful) (m : Move ι) : c.Steps (c.after m) := by
  have sends (call : Call ι) (known : call ∈ c.calls) :
      ∃ sent, call.request.exchange c.base c.token = .ok sent := (lawful.lives call known).sends
  cases m with
  | start label request =>
    simp only [Client.after]
    split
    · exact .refl
    case isFalse new => exact (begin_step new (lawful.unknown_of_new new)).steps
  | answer label a => exact answer_steps sends label a
  | resume label => exact resume_steps sends label

theorem after (lawful : c.Lawful) (m : Move ι) : (c.after m).Lawful :=
  lawful.steps (lawful.after_steps m)

/-- A client stays lawful through every history. -/
theorem afterAll (lawful : c.Lawful) (moves : List (Move ι)) : (c.afterAll moves).Lawful := by
  induction moves generalizing c with
  | nil => exact lawful
  | cons m moves ih => exact ih (lawful.after m)

end Lawful

end Client

end CourseLaunch.Backend
