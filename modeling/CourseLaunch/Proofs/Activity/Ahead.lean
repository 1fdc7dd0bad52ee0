import CourseLaunch.Proofs.Activity.Channel
/-!
# Events ahead of a receiver

An event that is ahead of a receiver stays ahead of it until the receiver gets it. Other receivers
do not matter, and the end of the sender comes behind all events. Only publications do: an event is
kept as long as fewer than a whole capacity of events was published after it.
-/

namespace CourseLaunch.Activity

namespace Channel

variable {c d : Channel}

/-- A channel that has kept as many events as it can. -/
def Full (c : Channel) : Prop := c.kept.length = min capacity c.published

theorem full_fresh : fresh.Full := rfl

theorem Quiet.full (h : c.Quiet d) (full : c.Full) : d.Full := by
  unfold Full
  rw [h.kept, h.published]
  exact full

theorem full_publish (full : c.Full) (e : Event) : (c.publish e).2.Full := by
  unfold publish
  split
  case isFalse => exact full
  case isTrue =>
    unfold Full at *
    simp only [lastKept, List.length_drop, List.length_append, List.length_singleton, full]
    omega

/-- The oldest event that is kept is so far behind the newest as the capacity allows. -/
theorem Full.oldest (full : c.Full) : c.oldest = c.published - capacity := by
  unfold Channel.oldest
  rw [full]
  omega

/-- The event at a position, while it is kept. -/
def event? (c : Channel) (position : Nat) : Option Event :=
  if position < c.oldest then none else c.kept[position - c.oldest]?

theorem oldest_le {position : Nat} {e : Event} (known : c.event? position = some e) :
    c.oldest ≤ position := by
  unfold event? at known
  split at known
  · cases known
  · omega

theorem lt_length {position : Nat} {e : Event} (known : c.event? position = some e) :
    position - c.oldest < c.kept.length := by
  unfold event? at known
  split at known
  · cases known
  · exact (List.getElem?_eq_some_iff.mp known).1

/-- A receiver that stands at an event gets it next. -/
theorem next_of_event? {position : Nat} {e : Event} (known : c.event? position = some e) :
    c.next position = (.event e, position + 1) := by
  have kept : ¬ position < c.oldest := Nat.not_lt.mpr (oldest_le known)
  unfold event? at known
  rw [if_neg kept] at known
  simp only [next, if_neg kept, known]

/-- A receiver that stands before an event does not come behind it without getting it. -/
theorem next_le {position target : Nat} {e : Event} (known : c.event? target = some e)
    (before : position ≤ target) (other : (c.next position).1 ≠ .event e) :
    (c.next position).2 ≤ target := by
  rcases Nat.lt_or_eq_of_le before with earlier | rfl
  · unfold next
    split
    · exact oldest_le known
    · split
      · exact earlier
      · exact before
  · rw [next_of_event? known] at other
    exact absurd rfl other

/-- A receiver that stands before an event that is kept does not come to the end. -/
theorem next_ne_closed {position target : Nat} {e : Event} (known : c.event? target = some e)
    (before : position ≤ target) : (c.next position).1 ≠ .closed := by
  unfold next
  split
  · simp
  · rename_i here
    have inside : position - c.oldest < c.kept.length := by
      have := lt_length known
      omega
    rw [List.getElem?_eq_getElem inside]
    simp

/-- An event that a receiver has not come to. -/
structure Ahead (c : Channel) (receiver target : Nat) (e : Event) : Prop where
  position : ∃ position, c.receivers.lookup receiver = some position ∧ position ≤ target
  event : c.event? target = some e

variable {receiver target : Nat} {e : Event}

/-! ### Receiving -/

theorem numbers_receive {received : Received}
    (receives : c.receive? receiver = some (received, d)) : d.numbers = c.numbers := by
  obtain ⟨position, -, -, rfl⟩ := receive?_eq_some receives
  exact numbers_move c receiver _

/-- A receiver that gets something else is still in front of the event. -/
theorem Ahead.receive (h : c.Ahead receiver target e) {received : Received}
    (receives : c.receive? receiver = some (received, d)) (other : received ≠ .event e) :
    d.Ahead receiver target e := by
  obtain ⟨position, stands, before⟩ := h.position
  obtain ⟨position', found, rfl, rfl⟩ := receive?_eq_some receives
  obtain rfl : position = position' := Option.some.inj (stands.symm.trans found)
  refine ⟨⟨_, ?_, next_le h.event before other⟩, h.event⟩
  rw [lookup_move, if_pos rfl, stands]
  rfl

/-- What another receiver gets does not matter. -/
theorem Ahead.receive_other (h : c.Ahead receiver target e) {other : Nat} {received : Received}
    (receives : c.receive? other = some (received, d)) (differs : receiver ≠ other) :
    d.Ahead receiver target e := by
  obtain ⟨position, stands, before⟩ := h.position
  obtain ⟨position', found, -, rfl⟩ := receive?_eq_some receives
  refine ⟨⟨position, ?_, before⟩, h.event⟩
  rw [lookup_move, if_neg differs, stands]

/-- No receiver finds the channel closed while there is an event for it. -/
theorem Ahead.not_closed (h : c.Ahead receiver target e) :
    c.receive? receiver ≠ some (.closed, d) := by
  intro receives
  obtain ⟨position, stands, before⟩ := h.position
  obtain ⟨position', found, closed, -⟩ := receive?_eq_some receives
  obtain rfl : position = position' := Option.some.inj (stands.symm.trans found)
  exact next_ne_closed h.event before closed.symm

/-! ### Everything else -/

theorem Ahead.unsubscribe_other (h : c.Ahead receiver target e) {other : Nat}
    (differs : receiver ≠ other) : (c.unsubscribe other).Ahead receiver target e := by
  obtain ⟨position, stands, before⟩ := h.position
  refine ⟨⟨position, ?_, before⟩, h.event⟩
  rw [unsubscribe, lookup_filter_ne differs, stands]

theorem Ahead.mem_numbers (h : c.Ahead receiver target e) : receiver ∈ c.numbers := by
  obtain ⟨position, stands, -⟩ := h.position
  by_contra unknown
  simp [lookup_eq_none unknown] at stands

theorem Ahead.subscribe (h : c.Ahead receiver target e) (valid : c.Valid) :
    c.subscribe.2.Ahead receiver target e := by
  obtain ⟨position, stands, before⟩ := h.position
  have old : receiver ≠ c.nextReceiver := Nat.ne_of_lt (valid.numbers receiver h.mem_numbers)
  refine ⟨⟨position, ?_, before⟩, h.event⟩
  rw [lookup_subscribe valid, if_neg old, stands]

theorem Ahead.close (h : c.Ahead receiver target e) : c.close.Ahead receiver target e :=
  ⟨h.position, h.event⟩

theorem published_publish (isOpen : c.isOpen) (e : Event) :
    (c.publish e).2.published = c.published + 1 := by
  unfold publish
  rw [if_pos isOpen]

theorem published_publish_le (c : Channel) (e : Event) :
    (c.publish e).2.published ≤ c.published + 1 := by
  unfold publish
  split <;> simp

theorem receivers_publish (c : Channel) (e : Event) : (c.publish e).2.receivers = c.receivers := by
  unfold publish
  split <;> rfl

/-- What was published last is kept. -/
theorem event?_publish (full : c.Full) (isOpen : c.isOpen) (e : Event) :
    (c.publish e).2.event? c.published = some e := by
  have kept : (c.kept ++ [e])[c.kept.length]? = some e := by simp
  have full' := (full_publish full e).oldest
  rw [published_publish isOpen] at full'
  unfold event?
  rw [if_neg (by unfold capacity at *; omega), full']
  unfold publish
  rw [if_pos isOpen]
  simp only [lastKept, List.getElem?_drop, List.length_append, List.length_singleton]
  rw [← kept]
  congr 1
  unfold Full capacity at *
  omega

/-- An event stays where it is when another one is published, as long as it is kept. -/
theorem event?_publish_of_lt (full : c.Full) (known : c.event? target = some e) (e' : Event)
    (room : c.published < target + capacity) : (c.publish e').2.event? target = some e := by
  by_cases isOpen : c.isOpen
  · have inside := lt_length known
    have first := oldest_le known
    have kept : (c.kept ++ [e'])[target - c.oldest]? = some e := by
      rw [List.getElem?_append_left inside]
      unfold event? at known
      rwa [if_neg (Nat.not_lt.mpr first)] at known
    have oldest := full.oldest
    have oldest' := (full_publish full e').oldest
    rw [published_publish isOpen] at oldest'
    unfold event?
    rw [if_neg (by omega), oldest', ← kept]
    unfold publish
    rw [if_pos isOpen]
    simp only [lastKept, List.getElem?_drop, List.length_append, List.length_singleton]
    -- the list loses its first events exactly when the oldest position moves on
    congr 1
    unfold Full at full
    omega
  · unfold publish
    rw [if_neg isOpen]
    exact known

/-- The event is still kept after another one was published, while there is room for it. -/
theorem Ahead.publish (h : c.Ahead receiver target e) (full : c.Full) (e' : Event)
    (room : c.published < target + capacity) : (c.publish e').2.Ahead receiver target e := by
  refine ⟨?_, event?_publish_of_lt full h.event e' room⟩
  rw [receivers_publish]
  exact h.position

/-- A new event is ahead of every receiver. -/
theorem ahead_publish (full : c.Full) (isOpen : c.isOpen) (e : Event)
    (stands : ∃ position, c.receivers.lookup receiver = some position ∧ position ≤ c.published) :
    (c.publish e).2.Ahead receiver c.published e := by
  refine ⟨?_, event?_publish full isOpen e⟩
  rw [receivers_publish]
  exact stands

/-! ### Where receivers stand -/

theorem exists_lookup (known : receiver ∈ c.numbers) :
    ∃ position, c.receivers.lookup receiver = some position := by
  obtain ⟨p, listed, rfl⟩ := List.mem_map.mp known
  cases stands : c.receivers.lookup p.1 with
  | some position => exact ⟨position, rfl⟩
  | none =>
    have other := List.lookup_eq_none_iff.mp stands p listed
    simp at other

/-- No receiver has got more than was published. -/
def Behind (c : Channel) : Prop :=
  ∀ receiver position, c.receivers.lookup receiver = some position → position ≤ c.published

theorem behind_fresh : fresh.Behind := by
  intro receiver position stands
  cases stands

/-- No cursor moves beyond what was published. -/
theorem Behind.next (full : c.Full) {position : Nat} (behind : position ≤ c.published) :
    (c.next position).2 ≤ c.published := by
  have oldest := full.oldest
  unfold Channel.next
  split
  · simp only
    omega
  · split
    case h_1 e found =>
      have inside := (List.getElem?_eq_some_iff.mp found).1
      unfold Full at full
      simp only
      omega
    case h_2 => exact behind

/-- Receiving moves no cursor beyond what was published. -/
theorem Behind.receive (h : c.Behind) (full : c.Full) {received : Received}
    (receives : c.receive? receiver = some (received, d)) : d.Behind := by
  obtain ⟨position, stands, -, rfl⟩ := receive?_eq_some receives
  intro r place known
  rw [lookup_move] at known
  split at known
  case isTrue own =>
    subst own
    obtain rfl : (c.next position).2 = place := by simpa [stands] using known
    exact Behind.next full (h r position stands)
  case isFalse => exact h r place known

theorem Behind.unsubscribe (h : c.Behind) (receiver : Nat) : (c.unsubscribe receiver).Behind := by
  intro r position known
  by_cases own : r = receiver
  · subst own
    rw [lookup_eq_none (not_mem_numbers_unsubscribe c r)] at known
    cases known
  · rw [Channel.unsubscribe, lookup_filter_ne own] at known
    exact h r position known

theorem Behind.subscribe (h : c.Behind) (valid : c.Valid) : c.subscribe.2.Behind := by
  intro r position known
  rw [lookup_subscribe valid] at known
  split at known
  · exact Nat.le_of_eq (Option.some.inj known).symm
  · exact h r position known

/-- Publishing leaves all cursors behind what was published. -/
theorem Behind.publish (h : c.Behind) (e : Event) : (c.publish e).2.Behind := by
  intro r position known
  rw [receivers_publish] at known
  refine Nat.le_trans (h r position known) ?_
  unfold Channel.publish
  split
  · exact Nat.le_succ _
  · exact Nat.le_refl _

end Channel

end CourseLaunch.Activity
