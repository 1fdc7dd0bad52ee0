import CourseLaunch.Proofs.Backend.Sharing
/-!
# Whose credentials are refreshed

A first answer names the path at which a call has its credentials refreshed, and different calls may
be told different paths. A call goes to no other path than its own, but it also takes the refresh of
another call for its own one, whatever that call was told: only how often there was a refresh since
it began counts. So when a call asks again, its own path was called with success, or all those who
refreshed since it began were told other paths.
-/

namespace CourseLaunch.Backend

open Journal Web

variable {ι : Type}

/-- The path of a request for new credentials that is answered with a status of success. -/
def Entry.renewedPath? : Entry ι → Option String
  | answered _ (some refresh) (.whole status _) => if status < 400 then some refresh.path else none
  | _ => none

/-- Where credentials were refreshed, oldest first. -/
def Journal.renewedPaths (journal : List (Entry ι)) : List String :=
  journal.filterMap Entry.renewedPath?

/-- The credentials are refreshed by the answer to a request for them. -/
theorem Entry.answered_of_refreshed? {e : Entry ι} {label : ι} (h : e.refreshed? = some label) :
    ∃ refresh a, e = .answered label (some refresh) a ∧ e.renewedPath? = some refresh.path := by
  unfold refreshed? at h
  split at h
  case h_1 label' refresh status body =>
    split at h
    case isTrue low =>
      cases h
      exact ⟨refresh, _, rfl, by simp [renewedPath?, low]⟩
    case isFalse => cases h
  case h_2 => cases h

/-- What an answer wishes for depends on nothing but the answer. -/
theorem Client.wish?_outcome (a : Answer) (path path' : String) (url url' : Url) :
    wish? (a.outcome path url) = wish? (a.outcome path' url') := by
  cases a with
  | whole status body =>
    by_cases low : status < 400
    · simp [Answer.outcome, low, wish?]
    · simp only [Answer.outcome, low, if_false, readBody]
      cases Wire.Codec.any.ofSource (Text.symbols body) <;> rfl
  | cutShort | missing => rfl

namespace Client

namespace Life

variable {base : Url} {token : String} {label : ι} {request request' : Request}
  {past : List (Entry ι)} {phase : Phase} {refresh refresh' : Refresh} {a : Answer}

/-- A call refreshes what its own first answer wished for. -/
theorem wished_of_answered (h : Life base token label request past phase)
    (answered : .answered label (some refresh) a ∈ past) :
    Wished label request past refresh := by
  induction h with
  | unsent | asks => simp at answered
  | refreshed past refresh' asked sent a' reply life works sends ih =>
    rcases List.mem_append.mp answered with old | new
    · exact (ih old).append _
    · obtain ⟨rfl, rfl⟩ : refresh = refresh' ∧ a = a' := by simpa using new
      exact life.wished_of_refreshing.append _
  | refreshFails past refresh' asked a' failure life fails ih =>
    rcases List.mem_append.mp answered with old | new
    · exact (ih old).append _
    · obtain ⟨rfl, rfl⟩ : refresh = refresh' ∧ a = a' := by simpa using new
      exact life.wished_of_refreshing.append _
  | _ =>
    rename_i ih
    exact (ih (by simpa using answered)).append _

/-- A call has one first answer. -/
theorem Wished.unique (h : Wished label request past refresh)
    (h' : Wished label request' past refresh') : refresh = refresh' := by
  obtain ⟨sent, status, body, rest, -, wish, rfl⟩ := h
  obtain ⟨sent', status', body', rest', -, wish', same⟩ := h'
  simp only [List.cons_append, List.nil_append, List.cons.injEq, Entry.answered.injEq,
    Answer.whole.injEq] at same
  obtain ⟨-, -, ⟨-, -, rfl, rfl⟩, -⟩ := same
  rw [wish?_outcome _ request.path request'.path sent.url sent'.url, wish'] at wish
  exact (Option.some.inj wish).symm

end Life

variable [DecidableEq ι]

/-- A call was told by its first answer how to refresh its credentials. -/
def Told (journal : List (Entry ι)) (label : ι) (refresh : Refresh) : Prop :=
  ∃ request, Life.Wished label request (past label journal) refresh

variable {c : Client ι} {label : ι} {refresh refresh' : Refresh}

/-- A call is told only once how to refresh its credentials. -/
theorem Told.unique {journal : List (Entry ι)} (h : Told journal label refresh)
    (h' : Told journal label refresh') : refresh = refresh' :=
  h.choose_spec.unique h'.choose_spec

theorem Told.append {journal : List (Entry ι)} (h : Told journal label refresh)
    (more : List (Entry ι)) : Told (journal ++ more) label refresh := by
  obtain ⟨request, wished⟩ := h
  exact ⟨request, past_append label journal more ▸ wished.append _⟩

/-- The journal of a lawful client tells the life of everyone in it. -/
theorem Lawful.life_of_mem (lawful : c.Lawful) {e : Entry ι} (known : e ∈ c.journal) :
    ∃ request phase, Life c.base c.token e.label request (past e.label c.journal) phase := by
  by_cases under : e.label ∈ c.labels
  · obtain ⟨call, found, same⟩ := List.mem_map.mp under
    exact ⟨call.request, _, same ▸ lawful.lives call found⟩
  · rcases lawful.gone _ under with none | ⟨result, ended⟩
    · have own : e ∈ past e.label c.journal := mem_past.mpr ⟨known, rfl⟩
      simp [none] at own
    · obtain ⟨-, request, life⟩ := lawful.settled _ result ended
      exact ⟨request, _, life⟩

/-- Who refreshes goes where it was told to. -/
theorem Lawful.told_of_answered (lawful : c.Lawful) {a : Answer}
    (known : .answered label (some refresh) a ∈ c.journal) : Told c.journal label refresh := by
  obtain ⟨request, phase, life⟩ := lawful.life_of_mem known
  exact ⟨request, life.wished_of_answered (mem_past.mpr ⟨known, rfl⟩)⟩

/-- When a call asks again, its own path was called with success since it began, or everyone who
refreshed since then is another call that was told another path. -/
inductive Renewed (journal before : List (Entry ι)) (label : ι) (path : String) : Prop where
  | own (renewed : path ∈ renewedPaths (since label before))
  | others (refreshed : refreshed (since label before) ≠ [])
      (told : ∀ l ∈ Journal.refreshed (since label before),
        l ≠ label ∧ ∃ refresh, Told journal l refresh ∧ refresh.path ≠ path)

/-- A call that asks again after credentials were refreshed asks because of its own refresh, or
because of those of other calls. -/
theorem Lawful.renewed (lawful : c.Lawful) {before after : List (Entry ι)} {sent : Exchange}
    (split : c.journal = before ++ .sent label none sent :: after)
    (refreshed : Journal.refreshed (since label before) ≠ [])
    (told : Told c.journal label refresh) : Renewed c.journal before label refresh.path := by
  by_cases own : refresh.path ∈ renewedPaths (since label before)
  · exact .own own
  refine .others refreshed fun l known => ?_
  obtain ⟨e, found, refreshes⟩ := List.mem_filterMap.mp known
  obtain ⟨refresh', a, rfl, renews⟩ := Entry.answered_of_refreshed? refreshes
  have told' : Told c.journal l refresh' := by
    refine lawful.told_of_answered (a := a) ?_
    rw [split]
    exact List.mem_append_left _ ((List.dropWhile_sublist _).mem found)
  have other : refresh'.path ≠ refresh.path := fun same =>
    own (same ▸ List.mem_filterMap.mpr ⟨_, found, renews⟩)
  refine ⟨?_, refresh', told', other⟩
  rintro rfl
  exact other (congrArg Refresh.path (told'.unique told))

/-- Whatever calls are made with a client and however they are answered: a call that asks again was
told by its first answer how to refresh its credentials, and either this was done since the call
began, or there were only refreshes by calls that were told other paths. -/
theorem asked_again_renewed (base : Url) (token : String) (moves : List (Move ι))
    (before after : List (Entry ι)) (label : ι) (sent : Exchange)
    (split : ((fresh base token).afterAll moves).journal =
      before ++ .sent label none sent :: after)
    (asked : (past label before).any Entry.asks) :
    ∃ refresh, Told before label refresh ∧
      Renewed ((fresh base token).afterAll moves).journal before label refresh.path := by
  have lawful := (lawful_fresh (ι := ι) base token).afterAll moves
  obtain ⟨request, refresh, wished, refreshed⟩ := lawful.again split asked
  have told : Told before label refresh := ⟨request, wished⟩
  exact ⟨refresh, told, lawful.renewed split refreshed (split ▸ told.append _)⟩

/-- A client on the local machine. -/
def onLocalhost : Client Nat :=
  fresh ⟨"http", some ⟨"", "", .named "localhost", none⟩, .rooted [""], none, none⟩ "token"

/-- Two calls are told where to refresh the credentials, the first one does so, and then the second
one asks again. -/
def bothTold (path path' : String) : List (Move Nat) :=
  let expired (path : String) := Answer.whole 401
    (Text.octets ("\x7b\"refresh\": \x7b\"path\": \"" ++ path ++ "\"\x7d\x7d"))
  [.start 0 ⟨"/a", none, []⟩, .start 1 ⟨"/b", none, []⟩, .answer 0 (expired path),
    .answer 1 (expired path'), .answer 0 (.whole 200 []), .resume 1]

theorem exists_last_ask (c : Client ι) (label : ι)
    (last : c.journal.getLast?.any fun e => e.label = label && e.asks) :
    ∃ sent, c.journal = c.journal.dropLast ++ [.sent label none sent] := by
  obtain ⟨e, known, asks⟩ := (Option.any_eq_true _ _).mp last
  have split := (List.dropLast_append_getLast? e known).symm
  simp only [Bool.and_eq_true, decide_eq_true_eq] at asks
  obtain ⟨rfl, asks⟩ := asks
  cases e with
  | sent label refresh sent =>
    cases refresh with
    | none => exact ⟨sent, split⟩
    | some refresh => cases asks
  | begun | answered | ended => cases asks

/-- A call that was told the path that the other one was told asks again after the refresh. -/
theorem shared_path_renewed :
    ∃ before sent, (onLocalhost.afterAll (bothTold "/renew" "/renew")).journal =
        before ++ [.sent 1 none sent] ∧
      ∃ refresh, Told before 1 refresh ∧
        Renewed (onLocalhost.afterAll (bothTold "/renew" "/renew")).journal before 1
          refresh.path := by
  obtain ⟨sent, split⟩ := exists_last_ask (onLocalhost.afterAll (bothTold "/renew" "/renew")) 1
    (by decide +kernel)
  exact ⟨_, sent, split, asked_again_renewed _ _ _ _ [] 1 sent split (by decide +kernel)⟩

/-- Whoever asks again had the path called that it was told. -/
def RenewsOwn (c : Client ι) : Prop :=
  ∀ before label sent after refresh, c.journal = before ++ .sent label none sent :: after →
    (past label before).any Entry.asks → Told before label refresh →
      refresh.path ∈ renewedPaths (since label before)

/-- The path that an answer to a call wishes to be called, whatever the call asked. -/
def wishedPath? : Entry ι → Option String
  | .answered _ none a => (wish? (a.outcome "" onLocalhost.base)).map Refresh.path
  | _ => none

theorem Told.wishedPath? {journal : List (Entry ι)} (told : Told journal label refresh) :
    (past label journal)[2]?.bind Client.wishedPath? = some refresh.path := by
  obtain ⟨request, sent, status, body, rest, -, wish, same⟩ := told
  have wish' := (wish?_outcome (.whole status body) "" request.path onLocalhost.base sent.url).trans
    wish
  simp [same, Client.wishedPath?, wish']

/-- A call that was told another path than the one who refreshes asks again, and nobody ever called
its path. -/
theorem crossed_paths_unrenewed :
    ¬ (onLocalhost.afterAll (bothTold "/renew-a" "/renew-b")).RenewsOwn := by
  intro renews
  obtain ⟨sent, split⟩ := exists_last_ask
    (onLocalhost.afterAll (bothTold "/renew-a" "/renew-b")) 1 (by decide +kernel)
  have asked : (past 1 (onLocalhost.afterAll
      (bothTold "/renew-a" "/renew-b")).journal.dropLast).any Entry.asks := by decide +kernel
  have wished : (past 1 (onLocalhost.afterAll
      (bothTold "/renew-a" "/renew-b")).journal.dropLast)[2]?.bind wishedPath? =
        some "/renew-b" := by decide +kernel
  have called : "/renew-b" ∉ renewedPaths (since 1 (onLocalhost.afterAll
      (bothTold "/renew-a" "/renew-b")).journal.dropLast) := by decide +kernel
  have lawful := (lawful_fresh (ι := Nat) onLocalhost.base onLocalhost.token).afterAll
    (bothTold "/renew-a" "/renew-b")
  obtain ⟨request, refresh, told, -⟩ := lawful.again split asked
  have told : Told _ 1 refresh := ⟨request, told⟩
  have path : refresh.path = "/renew-b" := Option.some.inj (told.wishedPath?.symm.trans wished)
  have renewed := renews _ 1 sent [] refresh split asked told
  rw [path] at renewed
  exact called renewed

end Client

end CourseLaunch.Backend
