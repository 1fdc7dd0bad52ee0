import CourseLaunch.Proofs.Activity.Ahead
import Mathlib.Data.List.Induction
/-!
# Every event is accounted for

Each receiver has a cursor of its own in the one sequence of events, of which the channel keeps the
end. What a receiver has got, with a loss counted as the events that it tells of, is the stretch
from its subscription to its cursor; what it can still get is the stretch from there on. So nothing is
missing without a word and nothing comes twice, at whatever speed the receivers read.
-/

namespace CourseLaunch.Activity

/-! ### What was got stands for events -/

/-- What a receiver got stands for these events in turn: each event for itself, and a loss for as
many events as it tells of. -/
inductive Accounts : List Received → List Event → Prop where
  | nil : Accounts [] []
  | event (e : Event) {heard : List Received} {sent : List Event} (rest : Accounts heard sent) :
      Accounts (.event e :: heard) (e :: sent)
  | lagged (lost : List Event) {heard : List Received} {sent : List Event}
      (rest : Accounts heard sent) : Accounts (.lagged lost.length :: heard) (lost ++ sent)
  | empty {heard : List Received} {sent : List Event} (rest : Accounts heard sent) :
      Accounts (.empty :: heard) sent

/-- What was heard in two stretches accounts for what was sent in both. -/
theorem Accounts.append {heard more : List Received} {sent ahead : List Event}
    (h : Accounts heard sent) (h' : Accounts more ahead) :
    Accounts (heard ++ more) (sent ++ ahead) := by
  induction h with
  | nil => exact h'
  | event e rest ih => exact .event e ih
  | lagged lost rest ih =>
    rw [List.append_assoc]
    exact .lagged lost ih
  | empty rest ih => exact .empty ih

/-- How many events a receiver knows of by what it got. -/
def Received.events : Received → Nat
  | .event _ => 1
  | .lagged lost => lost
  | .empty => 0
  | .closed => 0

/-- How many events a receiver knows of by all that it got. -/
def accounted : List Received → Nat
  | [] => 0
  | received :: rest => received.events + accounted rest

/-- The events that were got and those that were counted as lost are all that were sent. -/
theorem Accounts.length_eq {heard : List Received} {sent : List Event}
    (h : Accounts heard sent) : accounted heard = sent.length := by
  induction h with
  | nil => rfl
  | event e rest ih => simp [accounted, Received.events, ih, Nat.add_comm]
  | lagged lost rest ih => simp [accounted, Received.events, ih]
  | empty rest ih => simp [accounted, Received.events, ih]

namespace Channel

variable {c d : Channel} {all front ahead : List Event}

/-! ### The channel keeps the end of all events -/

theorem length_lastKept (events : List Event) :
    (lastKept events).length = min capacity events.length := by
  simp only [lastKept, List.length_drop]
  omega

theorem lastKept_append (events : List Event) (e : Event) :
    lastKept (lastKept events ++ [e]) = lastKept (events ++ [e]) := by
  have short : events.length - capacity ≤ events.length := Nat.sub_le _ _
  rw [lastKept, lastKept, ← List.drop_append_of_le_length short, lastKept, List.drop_drop]
  congr 1
  simp only [List.length_drop, List.length_append, List.length_singleton]
  omega

/-- A channel through which these events have gone. -/
structure Holds (c : Channel) (all : List Event) : Prop where
  published : c.published = all.length
  kept : c.kept = lastKept all

theorem holds_fresh : fresh.Holds [] := ⟨rfl, rfl⟩

theorem Holds.full (h : c.Holds all) : c.Full := by
  rw [Full, h.kept, h.published, length_lastKept]

theorem Holds.publish (h : c.Holds all) (isOpen : c.isOpen) (e : Event) :
    (c.publish e).2.Holds (all ++ [e]) where
  published := by rw [published_publish isOpen, h.published, List.length_append]; rfl
  kept := by
    rw [Channel.publish, if_pos isOpen]
    show lastKept (c.kept ++ [e]) = _
    rw [h.kept, lastKept_append]

/-- What is kept at a position is what was published there. -/
theorem Holds.getElem?_kept (h : c.Holds all) {position : Nat} (kept : c.oldest ≤ position) :
    c.kept[position - c.oldest]? = all[position]? := by
  have oldest := h.full.oldest
  rw [h.published] at oldest
  rw [h.kept, lastKept, List.getElem?_drop]
  congr 1
  omega

/-! ### What comes next at a cursor -/

/-- What comes next, the events that it stands for and those that are ahead then. A loss leaves as
many events as are kept. -/
inductive Comes : Received → List Event → List Event → Prop where
  | event (e : Event) (left : List Event) : Comes (.event e) [e] left
  | lagged (lost left : List Event) (loss : lost ≠ []) (rest : left.length = capacity) :
      Comes (.lagged lost.length) lost left
  | empty : Comes .empty [] []

variable {received : Received} {past left : List Event}

theorem Comes.accounts (h : Comes received past left) : Accounts [received] past := by
  cases h with
  | event e left => exact .event e .nil
  | lagged lost left loss rest => simpa using Accounts.lagged past .nil
  | empty => exact .empty .nil

/-- Only a receiver that is behind by more events than are kept is told of a loss. -/
theorem Comes.behind {lost : Nat} (h : Comes (.lagged lost) past left) :
    capacity < (past ++ left).length := by
  cases h with
  | lagged lost left loss rest =>
    have := List.length_pos_iff.mpr loss
    rw [List.length_append]
    omega

theorem Comes.ne_nil (h : Comes received past left) (news : received ≠ .empty) : past ≠ [] := by
  cases h with
  | event e left => exact List.cons_ne_nil e []
  | lagged lost left loss rest => exact loss
  | empty => exact absurd rfl news

theorem Comes.eq_nil (h : Comes .empty past left) : past ++ left = [] := by
  cases h with
  | empty => rfl

section Next

variable (h : c.Holds all) (split : all = front ++ ahead)
include h split

/-- A receiver for which more events were published than are kept is told how many it lost. -/
theorem next_of_behind (behind : capacity < ahead.length) :
    c.next front.length =
      (.lagged (ahead.length - capacity), front.length + (ahead.length - capacity)) := by
  have oldest := h.full.oldest
  rw [h.published, split, List.length_append] at oldest
  have gone : front.length < c.oldest := by omega
  have lost : c.oldest - front.length = ahead.length - capacity := by omega
  have place : c.oldest = front.length + (ahead.length - capacity) := by omega
  rw [next, if_pos gone, lost, ← place]

/-- A receiver for which no event was dropped gets the next one. -/
theorem next_of_near (near : ahead.length ≤ capacity) (isOpen : c.isOpen) :
    c.next front.length =
      (ahead.head?.elim .empty .event, front.length + (ahead.take 1).length) := by
  have oldest := h.full.oldest
  rw [h.published, split, List.length_append] at oldest
  have kept : c.oldest ≤ front.length := by omega
  have here : all[front.length]? = ahead.head? := by
    rw [split, List.getElem?_append_right (Nat.le_refl _), Nat.sub_self, List.head?_eq_getElem?]
  rw [next, if_neg (Nat.not_lt.mpr kept), h.getElem?_kept kept, here]
  cases ahead with
  | nil => simp [isOpen]
  | cons e rest => simp

/-- The cursor goes on behind the events that what comes next stands for. -/
theorem next_comes (isOpen : c.isOpen) :
    ∃ received past left, ahead = past ++ left ∧ Comes received past left ∧
      c.next front.length = (received, (front ++ past).length) := by
  rcases Nat.lt_or_ge capacity ahead.length with behind | near
  · have length : (ahead.take (ahead.length - capacity)).length = ahead.length - capacity :=
      List.length_take_of_le (Nat.sub_le _ _)
    refine ⟨_, _, _, (List.take_append_drop (ahead.length - capacity) ahead).symm,
      .lagged _ _ (List.ne_nil_of_length_pos ?_) ?_, ?_⟩
    · omega
    · rw [List.length_drop]
      omega
    · rw [next_of_behind h split behind, List.length_append, length]
  · rw [next_of_near h split near isOpen]
    cases ahead with
    | nil => exact ⟨.empty, [], [], rfl, .empty, by simp⟩
    | cons e rest => exact ⟨.event e, [e], rest, rfl, .event e rest, by simp⟩

end Next

/-! ### Receiving up to the end -/

/-- What a receiver gets, one thing after the other, until there is nothing to get. -/
inductive Yields (receiver : Nat) : Channel → List Received → Prop where
  | done (c d : Channel) (receives : c.receive? receiver = some (.empty, d)) : Yields receiver c []
  | more (c d : Channel) (received : Received) (further : List Received)
      (receives : c.receive? receiver = some (received, d)) (news : received ≠ .empty)
      (rest : Yields receiver d further) : Yields receiver c (received :: further)

variable {receiver : Nat}

/-- What a receiver can still get is determined by the channel. -/
theorem Yields.unique {further other : List Received} (h : c.Yields receiver further)
    (h' : c.Yields receiver other) : further = other := by
  induction h generalizing other with
  | done c d receives =>
    cases h' with
    | done => rfl
    | more _ _ _ _ receives' news =>
      rw [receives, Option.some.injEq, Prod.mk.injEq] at receives'
      exact absurd receives'.1.symm news
  | more c d received further receives news rest ih =>
    cases h' with
    | done _ _ receives' =>
      rw [receives, Option.some.injEq, Prod.mk.injEq] at receives'
      exact absurd receives'.1 news
    | more _ _ _ _ receives' _ rest' =>
      rw [receives, Option.some.injEq, Prod.mk.injEq] at receives'
      obtain ⟨rfl, rfl⟩ := receives'
      rw [ih rest']

/-- A receiver whose cursor stands behind these events. -/
def Stands (c : Channel) (receiver : Nat) (front : List Event) : Prop :=
  c.receivers.lookup receiver = some front.length

theorem Stands.move (stands : c.Stands receiver front) :
    (c.move receiver ahead.length).Stands receiver ahead := by
  rw [Stands, lookup_move, if_pos rfl, stands]
  rfl

theorem Holds.move (h : c.Holds all) (position : Nat) : (c.move receiver position).Holds all :=
  ⟨h.published, h.kept⟩

/-- A receiver gets what the first of the events ahead of it account for, and stands behind them. -/
theorem receive?_of_stands (h : c.Holds all) (isOpen : c.isOpen) (split : all = front ++ ahead)
    (stands : c.Stands receiver front) :
    ∃ received past left, ahead = past ++ left ∧ Comes received past left ∧
      c.receive? receiver = some (received, c.move receiver (front ++ past).length) := by
  obtain ⟨received, past, left, cut, comes, next⟩ := next_comes h split isOpen
  refine ⟨received, past, left, cut, comes, ?_⟩
  rw [Channel.receive?, stands, Option.map_some, next]

/-- What a receiver can still get stands for the events behind its cursor. -/
theorem exists_yields (h : c.Holds all) (isOpen : c.isOpen) (split : all = front ++ ahead)
    (stands : c.Stands receiver front) :
    ∃ further, c.Yields receiver further ∧ Accounts further ahead := by
  induction size : ahead.length using Nat.strongRecOn generalizing c front ahead with
  | _ n ih =>
    obtain ⟨received, past, left, rfl, comes, receives⟩ :=
      receive?_of_stands h isOpen split stands
    by_cases news : received = .empty
    · subst news
      rw [comes.eq_nil]
      exact ⟨[], .done c _ receives, .nil⟩
    · -- whatever is got, fewer events are ahead then
      have shorter : left.length < n := by
        have := List.length_pos_iff.mpr (comes.ne_nil news)
        rw [List.length_append] at size
        omega
      rw [← List.append_assoc] at split
      obtain ⟨further, yields, rest⟩ :=
        ih left.length shorter (h.move _) isOpen split stands.move rfl
      exact ⟨received :: further, .more c _ received further receives news yields,
        comes.accounts.append rest⟩

end Channel

/-! ### Histories -/

/-- What is done with a channel. -/
inductive Operation where
  | subscribe
  | unsubscribe (receiver : Nat)
  | publish (e : Event)
  | receive (receiver : Nat)
deriving DecidableEq, Repr

/-- A live receiver: what was published since it subscribed, and what it got. -/
structure Reader where
  number : Nat
  sent : List Event
  heard : List Received
deriving DecidableEq, Repr

/-- A channel and its live receivers. -/
structure Watched where
  channel : Channel
  readers : List Reader
deriving Repr

namespace Watched

/-- The live receivers after one of them got something. -/
def hear (readers : List Reader) (receiver : Nat) (received : Received) : List Reader :=
  readers.map fun r => if r.number = receiver then { r with heard := r.heard ++ [received] } else r

/-- Does one thing with the channel. A receiver that is gone gets nothing. -/
def step (w : Watched) : Operation → Watched
  | .subscribe => ⟨w.channel.subscribe.2, w.readers ++ [⟨w.channel.subscribe.1, [], []⟩]⟩
  | .unsubscribe receiver =>
    ⟨w.channel.unsubscribe receiver, w.readers.filter fun r => r.number ≠ receiver⟩
  | .publish e =>
    ⟨(w.channel.publish e).2, w.readers.map fun r => { r with sent := r.sent ++ [e] }⟩
  | .receive receiver =>
    match w.channel.receive? receiver with
    | some (received, channel) => ⟨channel, hear w.readers receiver received⟩
    | none => w

end Watched

/-- A channel after all that was done with it. -/
def watch (history : List Operation) : Watched := history.foldl Watched.step ⟨.fresh, []⟩

/-- The cursor of a live receiver stands behind what it knows of. -/
def Reader.Sound (r : Reader) (c : Channel) (all : List Event) : Prop :=
  ∃ before known ahead, all = before ++ known ++ ahead ∧ r.sent = known ++ ahead ∧
    Accounts r.heard known ∧ c.Stands r.number (before ++ known)

namespace Watched

/-- A channel that agrees with what is known of its receivers. -/
structure Sound (w : Watched) (all : List Event) : Prop where
  valid : w.channel.Valid
  isOpen : w.channel.isOpen
  holds : w.channel.Holds all
  numbers : w.channel.numbers = w.readers.map Reader.number
  readers : ∀ r ∈ w.readers, r.Sound w.channel all

variable {w : Watched} {all : List Event}

theorem sound_start : Sound ⟨.fresh, []⟩ [] :=
  ⟨Channel.valid_fresh, rfl, Channel.holds_fresh, rfl, nofun⟩

theorem Sound.subscribe (h : w.Sound all) : (w.step .subscribe).Sound all where
  valid := Channel.valid_subscribe h.valid
  isOpen := h.isOpen
  holds := ⟨h.holds.published, h.holds.kept⟩
  numbers := by
    simp only [step]
    rw [Channel.numbers_subscribe, h.numbers, List.map_append]
    rfl
  readers r known := by
    rcases List.mem_append.mp known with old | new
    · obtain ⟨before, known, ahead, split, sent, told, stands⟩ := h.readers r old
      refine ⟨before, known, ahead, split, sent, told, ?_⟩
      have listed : r.number ∈ w.channel.numbers := h.numbers ▸ List.mem_map_of_mem old
      have older : r.number ≠ w.channel.nextReceiver := Nat.ne_of_lt (h.valid.numbers _ listed)
      exact (Channel.lookup_subscribe h.valid r.number).trans ((if_neg older).trans stands)
    · obtain rfl := List.mem_singleton.mp new
      refine ⟨all, [], [], by simp, rfl, .nil, ?_⟩
      refine (Channel.lookup_subscribe h.valid _).trans ((if_pos rfl).trans ?_)
      rw [h.holds.published, List.append_nil]

theorem Sound.unsubscribe (h : w.Sound all) (receiver : Nat) :
    (w.step (.unsubscribe receiver)).Sound all where
  valid := (Channel.quiet_unsubscribe h.valid receiver).valid h.valid
  isOpen := h.isOpen
  holds := ⟨h.holds.published, h.holds.kept⟩
  numbers := by
    simp only [step]
    rw [Channel.numbers_unsubscribe, h.numbers, List.filter_map]
    rfl
  readers r known := by
    obtain ⟨old, other⟩ := List.mem_filter.mp known
    obtain ⟨before, known, ahead, split, sent, told, stands⟩ := h.readers r old
    exact ⟨before, known, ahead, split, sent, told,
      (Channel.lookup_filter_ne (of_decide_eq_true other)).trans stands⟩

/-- Publishing adds the event to what was sent to every live receiver. -/
theorem Sound.publish (h : w.Sound all) (e : Event) :
    (w.step (.publish e)).Sound (all ++ [e]) where
  valid := Channel.valid_publish h.valid e
  isOpen := by
    have isOpen := h.isOpen
    simp only [step, Channel.publish, if_pos isOpen]
    exact isOpen
  holds := h.holds.publish h.isOpen e
  numbers := by
    have numbers := h.numbers
    unfold Channel.numbers at *
    simp only [step, Channel.receivers_publish, numbers, List.map_map]
    rfl
  readers r known := by
    obtain ⟨r, old, rfl⟩ := List.mem_map.mp known
    obtain ⟨before, known, ahead, split, sent, told, stands⟩ := h.readers r old
    refine ⟨before, known, ahead ++ [e], by rw [split, List.append_assoc], ?_, told, ?_⟩
    · simp only [sent, List.append_assoc]
    · simp only [Channel.Stands, step, Channel.receivers_publish]
      exact stands

theorem map_number_hear (readers : List Reader) (receiver : Nat) (received : Received) :
    (hear readers receiver received).map Reader.number = readers.map Reader.number := by
  rw [hear, List.map_map]
  refine List.map_congr_left fun r _ => ?_
  by_cases same : r.number = receiver <;> simp [same]

/-- What a receiver gets is added to what it heard, and its cursor moves past what it accounts for.
-/
theorem Sound.receive (h : w.Sound all) (receiver : Nat) :
    (w.step (.receive receiver)).Sound all := by
  simp only [step]
  cases receives : w.channel.receive? receiver with
  | none => exact h
  | some got =>
    obtain ⟨received, channel⟩ := got
    have quiet := Channel.quiet_receive receives
    obtain ⟨position, stood, -, rfl⟩ := Channel.receive?_eq_some receives
    refine ⟨quiet.valid h.valid, h.isOpen, h.holds.move _, ?_, fun r known => ?_⟩
    · rw [map_number_hear, Channel.numbers_move, h.numbers]
    · obtain ⟨r, old, rfl⟩ := List.mem_map.mp known
      obtain ⟨before, known, ahead, split, sent, told, stands⟩ := h.readers r old
      by_cases own : r.number = receiver
      · -- the cursor goes on, and what was got stands for what it goes over
        rw [if_pos own]
        rw [own] at stands
        obtain ⟨received', past, left, rfl, comes, receives'⟩ :=
          Channel.receive?_of_stands h.holds h.isOpen split stands
        rw [receives, Option.some.injEq, Prod.mk.injEq] at receives'
        obtain ⟨rfl, moved⟩ := receives'
        refine ⟨before, known ++ past, left, by simp [split], by simp [sent],
          told.append comes.accounts, ?_⟩
        rw [moved]
        show Channel.Stands _ r.number _
        rw [own, ← List.append_assoc]
        exact stands.move
      · rw [if_neg own]
        refine ⟨before, known, ahead, split, sent, told, ?_⟩
        exact (Channel.lookup_move _ _ _ _).trans ((if_neg own).trans stands)

end Watched

/-- The events that are published when this is done. -/
def Operation.events : Operation → List Event
  | .publish e => [e]
  | _ => []

/-- Every operation keeps the books of the live receivers. -/
theorem Watched.Sound.step {w : Watched} {all : List Event} (h : w.Sound all)
    (operation : Operation) : (w.step operation).Sound (all ++ operation.events) := by
  cases operation with
  | subscribe => exact (List.append_nil all).symm ▸ h.subscribe
  | unsubscribe receiver => exact (List.append_nil all).symm ▸ h.unsubscribe receiver
  | publish e => exact h.publish e
  | receive receiver => exact (List.append_nil all).symm ▸ h.receive receiver

/-- The books of the live receivers are right after every history. -/
theorem sound_watch (history : List Operation) :
    (watch history).Sound (history.flatMap Operation.events) := by
  unfold watch
  induction history using List.reverseRecOn with
  | nil => exact Watched.sound_start
  | append_singleton history operation ih =>
    rw [List.foldl_concat, List.flatMap_append, List.flatMap_singleton]
    exact ih.step operation

/-- Whatever was done with a channel, a publication tells how many receivers are live. What a live
receiver has got and what it gets from now on until there is nothing to get stand for the events
that were published since it subscribed, in order, each once. It is told of a loss only when it is
behind by more events than are kept. -/
theorem events_accounted (history : List Operation) :
    (∀ e, ((watch history).channel.publish e).1 = (watch history).readers.length) ∧
      ∀ r ∈ (watch history).readers,
        (∃ further, (watch history).channel.Yields r.number further) ∧
        (∀ further, (watch history).channel.Yields r.number further →
          Accounts (r.heard ++ further) r.sent) ∧
        ∀ lost after, (watch history).channel.receive? r.number = some (.lagged lost, after) →
          accounted r.heard + capacity < r.sent.length := by
  have sound := sound_watch history
  constructor
  · intro e
    have count : (watch history).channel.numbers.length = (watch history).readers.length := by
      rw [sound.numbers, List.length_map]
    rw [Channel.publish, if_pos sound.isOpen, ← count, Channel.numbers, List.length_map,
      Channel.receiverCount]
  · intro r known
    obtain ⟨before, known, ahead, split, sent, told, stands⟩ := sound.readers r known
    obtain ⟨further, yields, rest⟩ :=
      Channel.exists_yields sound.holds sound.isOpen split stands
    refine ⟨⟨further, yields⟩, fun other yields' => ?_, fun lost after receives => ?_⟩
    · rw [← yields.unique yields', sent]
      exact told.append rest
    · obtain ⟨received, past, left, rfl, comes, receives'⟩ :=
        Channel.receive?_of_stands sound.holds sound.isOpen split stands
      rw [receives, Option.some.injEq, Prod.mk.injEq] at receives'
      obtain ⟨rfl, -⟩ := receives'
      have behind := comes.behind
      rw [told.length_eq, sent, List.length_append]
      omega

/-- A receiver reads one event and then falls behind, while another one comes and goes. -/
def burst : List Operation :=
  [.subscribe, .publish ⟨.create, true⟩, .receive 0, .subscribe, .unsubscribe 1] ++
    List.replicate 18 (.publish ⟨.delete, true⟩)

/-- The receiver that is left. -/
def slowReader : Reader :=
  ⟨0, ⟨.create, true⟩ :: List.replicate 18 ⟨.delete, true⟩, [.event ⟨.create, true⟩]⟩

theorem burst_accounted :
    slowReader ∈ (watch burst).readers ∧
      ((watch burst).channel.receive? 0).map Prod.fst = some (.lagged 2) ∧
      accounted slowReader.heard + capacity < slowReader.sent.length ∧
      ∃ further, (watch burst).channel.Yields 0 further ∧
        Accounts (slowReader.heard ++ further) slowReader.sent := by
  have known : slowReader ∈ (watch burst).readers := by decide +kernel
  have lagged : ((watch burst).channel.receive? 0).map Prod.fst = some (.lagged 2) := by
    decide +kernel
  obtain ⟨⟨further, yields⟩, accounts, behind⟩ := (events_accounted burst).2 slowReader known
  refine ⟨known, lagged, ?_, further, yields, accounts further yields⟩
  obtain ⟨⟨received, after⟩, receives, rfl⟩ := Option.map_eq_some_iff.mp lagged
  exact behind 2 after receives

end CourseLaunch.Activity
