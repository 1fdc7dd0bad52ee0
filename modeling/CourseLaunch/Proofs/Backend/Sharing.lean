import CourseLaunch.Proofs.Backend.Refreshing
/-!
# One refresh for all

What callers can rely on, whatever their number and however their requests are answered: no two
requests for new credentials are in flight, no call refreshes what was refreshed since it was begun,
no call asks more than twice, and none fails because another one could not refresh.
-/

namespace CourseLaunch.Backend

open Journal Web

variable {ι : Type}

/-- Whether a call waits for new credentials. -/
def Stage.isRefreshing : Stage → Bool
  | .refreshing _ _ => true
  | _ => false

theorem Stage.isRefreshing_iff (stage : Stage) :
    stage.isRefreshing ↔ ∃ refresh asked, stage = .refreshing refresh asked := by
  cases stage <;> simp [isRefreshing]

namespace Client

/-- The calls whose requests for new credentials are in flight. -/
def refreshing (c : Client ι) : List (Call ι) := c.calls.filter fun call => call.stage.isRefreshing

variable [DecidableEq ι]

/-- How calls share their refreshes. -/
structure SharesRefreshes (c : Client ι) : Prop where
  /-- One request for new credentials is in flight at most. -/
  alone : c.refreshing.length ≤ 1
  /-- Such a request is sent by a call since whose beginning there was no refresh. -/
  needed : ∀ before label refresh sent after,
    c.journal = before ++ .sent label (some refresh) sent :: after →
      (∃ request, .begun label request ∈ before) ∧ refreshed (since label before) = []
  /-- Among the calls that were begun in one generation, one refreshes at most. -/
  once : ((refreshed c.journal).map (generationOf c.journal)).Nodup
  /-- A call asks twice at most, and sends one request for new credentials at most. -/
  bounded : ∀ label, (past label c.journal).countP Entry.asks ≤ 2 ∧
    (past label c.journal).countP Entry.refreshes ≤ 1
  /-- It asks again when its first answer wished for a refresh and there was one since it began. -/
  again : ∀ before label sent after, c.journal = before ++ .sent label none sent :: after →
    (past label before).any Entry.asks →
      ∃ request refresh, Life.Wished label request (past label before) refresh ∧
        refreshed (since label before) ≠ []
  /-- It fails for its own sake. -/
  own : ∀ label failure, (label, .error failure) ∈ c.ended →
    Life.Fails c.base c.token label (past label c.journal) failure

namespace Lawful

variable {c : Client ι}

/-- No two requests for new credentials are in flight at once. -/
theorem length_refreshing (lawful : c.Lawful) : c.refreshing.length ≤ 1 := by
  have distinct : (c.refreshing.map Call.label).Nodup :=
    lawful.once.sublist (List.filter_sublist.map Call.label)
  cases refreshing : c.refreshing with
  | nil => simp
  | cons first rest =>
    -- all of them are the first of the turns, so there is only one
    have turn (call : Call ι) (known : call ∈ c.refreshing) :
        c.turns.head? = some call.label := by
      obtain ⟨under, stage⟩ := List.mem_filter.mp known
      obtain ⟨refresh, asked, stage⟩ := (Stage.isRefreshing_iff _).mp stage
      exact (lawful.turn call under refresh asked stage).1
    rw [refreshing, List.map_cons, List.nodup_cons] at distinct
    cases rest with
    | nil => simp
    | cons second rest =>
      have one := turn first (by simp [refreshing])
      have two := turn second (by simp [refreshing])
      have same : first.label = second.label := Option.some.inj (one.symm.trans two)
      exact absurd (by simp [same]) distinct.1

/-- A call asks twice and refreshes credentials once, at most. -/
theorem bounded (lawful : c.Lawful) (label : ι) :
    (past label c.journal).countP Entry.asks ≤ 2 ∧
      (past label c.journal).countP Entry.refreshes ≤ 1 := by
  by_cases under : label ∈ c.labels
  · obtain ⟨call, known, rfl⟩ := List.mem_map.mp under
    exact (lawful.lives call known).allows.bounds
  · rcases lawful.gone label under with none | ⟨result, ended⟩
    · simp [none]
    · obtain ⟨-, request, life⟩ := lawful.settled label result ended
      exact life.allows.bounds

/-- Credentials are refreshed only for a call since whose beginning nobody refreshed them. -/
theorem needed (lawful : c.Lawful) {before after : List (Entry ι)} {label : ι}
    {refresh : Refresh} {sent : Exchange}
    (split : c.journal = before ++ .sent label (some refresh) sent :: after) :
    (∃ request, .begun label request ∈ before) ∧ refreshed (since label before) = [] := by
  cases lawful.reasoned before _ after split with
  | refreshes label request refresh sent begun stale => exact ⟨⟨request, begun⟩, stale⟩

/-- A call asks again only if its first answer asked for new credentials and some were had since. -/
theorem again (lawful : c.Lawful) {before after : List (Entry ι)} {label : ι} {sent : Exchange}
    (split : c.journal = before ++ .sent label none sent :: after)
    (asked : (past label before).any Entry.asks) :
    ∃ request refresh, Life.Wished label request (past label before) refresh ∧
      refreshed (since label before) ≠ [] := by
  cases lawful.reasoned before _ after split with
  | asks label sent first => simp [first] at asked
  | asksAgain label request refresh sent wished renewed => exact ⟨request, refresh, wished, renewed⟩

/-- A call fails only because of what happened to itself. -/
theorem own (lawful : c.Lawful) {label : ι} {failure : Failure}
    (ended : (label, .error failure) ∈ c.ended) :
    Life.Fails c.base c.token label (past label c.journal) failure := by
  obtain ⟨-, request, life⟩ := lawful.settled label _ ended
  exact life.fails

end Lawful

/-- Whatever calls are made with a client and however they are answered, they share their
refreshes. -/
theorem refreshes_shared (base : Url) (token : String) (moves : List (Move ι)) :
    ((fresh base token).afterAll moves).SharesRefreshes := by
  have lawful := (lawful_fresh (ι := ι) base token).afterAll moves
  refine ⟨lawful.length_refreshing, ?_, ?_, lawful.bounded, ?_, ?_⟩
  · intro before label refresh sent after split
    exact lawful.needed split
  · rw [lawful.generations]
    exact List.nodup_range
  · intro before label sent after split asked
    exact lawful.again split asked
  · intro label failure ended
    exact lawful.own ended

/-- Two calls that are told to refresh the credentials share one refresh, and both ask again. -/
example :
    let expired := Answer.whole 401
      (Text.octets "\x7b\"refresh\": \x7b\"path\": \"/renew\"\x7d\x7d")
    let c := (fresh ⟨"http", some ⟨"", "", .named "localhost", none⟩, .rooted [""], none, none⟩
      "token" : Client Nat).afterAll [.start 0 ⟨"/a", none, []⟩, .start 1 ⟨"/b", none, []⟩,
        .answer 0 expired, .answer 1 expired, .answer 0 (.whole 200 []), .resume 1]
    refreshed c.journal = [0] ∧ c.journal.countP Entry.refreshes = 1 ∧
      c.journal.countP Entry.asks = 4 := by
  decide +kernel

end Client

end CourseLaunch.Backend
