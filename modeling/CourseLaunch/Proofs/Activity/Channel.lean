import CourseLaunch.Activity.Channel
import Mathlib.Data.List.Basic
/-!
# What a receiver can still get

The unread events of a receiver are those that it gets when nothing else happens. A publication
adds at most its own event; receiving, unsubscribing and the end of the sender add none, and a new
receiver begins with none.
-/

namespace CourseLaunch.Activity

namespace Channel

def numbers (c : Channel) : List Nat := c.receivers.map Prod.fst

/-- A channel keeps no more events than were published, and numbers its receivers in order. -/
structure Valid (c : Channel) : Prop where
  kept : c.kept.length ≤ c.published
  numbers : ∀ r ∈ c.numbers, r < c.nextReceiver

theorem valid_fresh : fresh.Valid := ⟨Nat.le_refl 0, by simp [fresh, Channel.numbers]⟩

/-- After a quiet change no receiver is new and none has more to get. -/
structure Quiet (c d : Channel) : Prop where
  published : d.published = c.published
  kept : d.kept = c.kept
  next : d.nextReceiver = c.nextReceiver
  numbers : ∀ r ∈ d.numbers, r ∈ c.numbers
  unread : ∀ r, d.unread r ⊆ c.unread r

theorem Quiet.refl (c : Channel) : c.Quiet c := ⟨rfl, rfl, rfl, fun _ h => h, fun _ _ h => h⟩

theorem Quiet.trans {c d e : Channel} (h : c.Quiet d) (h' : d.Quiet e) : c.Quiet e where
  published := h'.published.trans h.published
  kept := h'.kept.trans h.kept
  next := h'.next.trans h.next
  numbers r hr := h.numbers r (h'.numbers r hr)
  unread r := List.Subset.trans (h'.unread r) (h.unread r)

/-- A channel stays valid when nothing new comes to it. -/
theorem Quiet.valid {c d : Channel} (h : c.Quiet d) (valid : c.Valid) : d.Valid where
  kept := by rw [h.kept, h.published]; exact valid.kept
  numbers r hr := h.next ▸ valid.numbers r (h.numbers r hr)

theorem lookup_eq_none {c : Channel} {r : Nat} (h : r ∉ c.numbers) :
    c.receivers.lookup r = none := by
  rw [List.lookup_eq_none_iff]
  intro p hp
  have known : p.1 ∈ c.numbers := List.mem_map_of_mem hp
  simpa using fun same : r = p.1 => h (same ▸ known)

/-- Who does not receive has nothing to get. -/
theorem unread_eq_nil {c : Channel} {r : Nat} (h : r ∉ c.numbers)
    (kept : c.kept.length ≤ c.published) : c.unread r = [] := by
  simp only [unread, lookup_eq_none h, Option.getD_none, oldest, List.drop_eq_nil_iff]
  omega

/-! ### Quiet changes -/

theorem quiet_close (c : Channel) : c.Quiet c.close := ⟨rfl, rfl, rfl, fun _ h => h, fun _ _ h => h⟩

theorem numbers_unsubscribe (c : Channel) (receiver : Nat) :
    (c.unsubscribe receiver).numbers = c.numbers.filter fun r => r ≠ receiver := by
  simp only [numbers, unsubscribe, List.filter_map]
  rfl

theorem not_mem_numbers_unsubscribe (c : Channel) (receiver : Nat) :
    receiver ∉ (c.unsubscribe receiver).numbers := by
  simp [numbers_unsubscribe]

theorem lookup_filter_ne {receivers : List (Nat × Nat)} {receiver r : Nat} (other : r ≠ receiver) :
    (receivers.filter fun p => p.1 ≠ receiver).lookup r = receivers.lookup r := by
  induction receivers with
  | nil => rfl
  | cons p rest ih =>
    obtain ⟨number, position⟩ := p
    by_cases gone : number = receiver
    · have differs : (r == number) = false := by simpa [gone] using other
      rw [List.filter_cons_of_neg (by simpa using gone), ih, List.lookup_cons, differs]
    · rw [List.filter_cons_of_pos (by simpa using gone), List.lookup_cons, List.lookup_cons, ih]

/-- Other receivers do not notice when one leaves. -/
theorem quiet_unsubscribe {c : Channel} (valid : c.Valid) (receiver : Nat) :
    c.Quiet (c.unsubscribe receiver) where
  published := rfl
  kept := rfl
  next := rfl
  numbers r hr := by
    rw [numbers_unsubscribe] at hr
    exact (List.mem_filter.mp hr).1
  unread r := by
    by_cases same : r = receiver
    · subst same
      rw [unread_eq_nil (not_mem_numbers_unsubscribe c r) valid.kept]
      exact List.nil_subset _
    · have : (c.unsubscribe receiver).unread r = c.unread r := by
        simp only [unread, unsubscribe, lookup_filter_ne same, oldest]
      exact this ▸ fun _ h => h

theorem numbers_move (c : Channel) (receiver position : Nat) :
    (c.move receiver position).numbers = c.numbers := by
  simp only [numbers, move, List.map_map]
  refine List.map_congr_left fun p _ => ?_
  by_cases h : p.1 = receiver <;> simp [h]

/-- Only the cursor of the receiver itself moves. -/
theorem lookup_move (c : Channel) (receiver position r : Nat) :
    (c.move receiver position).receivers.lookup r =
      if r = receiver then (c.receivers.lookup r).map fun _ => position
      else c.receivers.lookup r := by
  simp only [move]
  induction c.receivers with
  | nil => simp
  | cons p rest ih =>
    obtain ⟨number, old⟩ := p
    rw [List.map_cons]
    by_cases moved : number = receiver
    · subst moved
      rw [if_pos rfl, List.lookup_cons, List.lookup_cons, ih]
      cases found : r == number with
      | true => simp [eq_of_beq found]
      | false => simp
    · rw [if_neg moved, List.lookup_cons, List.lookup_cons, ih]
      cases found : r == number with
      | true => simp [eq_of_beq found, moved]
      | false => simp

theorem le_next (c : Channel) (position : Nat) : position ≤ (c.next position).2 := by
  unfold next
  split
  · simp only; omega
  · split <;> simp

/-- What a receiver got, where it stood and where it stands then. -/
theorem receive?_eq_some {c d : Channel} {receiver : Nat} {received : Received}
    (h : c.receive? receiver = some (received, d)) :
    ∃ position, c.receivers.lookup receiver = some position ∧
      received = (c.next position).1 ∧ d = c.move receiver (c.next position).2 := by
  obtain ⟨position, found, same⟩ := Option.map_eq_some_iff.mp h
  simp only [Prod.mk.injEq] at same
  exact ⟨position, found, same.1.symm, same.2.symm⟩

/-- Other receivers do not notice when one gets something. -/
theorem quiet_receive {c d : Channel} {receiver : Nat} {received : Received}
    (h : c.receive? receiver = some (received, d)) : c.Quiet d := by
  obtain ⟨position, found, -, rfl⟩ := receive?_eq_some h
  refine ⟨rfl, rfl, rfl, fun r hr => by simpa [numbers_move] using hr, fun r => ?_⟩
  simp only [unread, lookup_move]
  split
  case isTrue same =>
    subst same
    have := le_next c position
    simp only [found, Option.map_some, Option.getD_some]
    apply List.drop_subset_drop_left
    simp only [move, oldest]
    omega
  case isFalse => exact fun _ h => h

/-- A receiver is told that the channel is closed only when it is. -/
theorem isOpen_of_receive? {c d : Channel} {receiver : Nat}
    (h : c.receive? receiver = some (.closed, d)) : c.isOpen = false := by
  obtain ⟨position, -, got, -⟩ := receive?_eq_some h
  unfold next at got
  split at got
  · exact absurd got (by simp)
  · split at got
    · exact absurd got (by simp)
    · split at got
      case isTrue => exact absurd got (by simp)
      case isFalse closed => simpa using closed

/-! ### Publications and subscriptions -/

/-- Positions count from the oldest event that is kept, which only moves on. -/
theorem unread_publish {c : Channel} (valid : c.Valid) (e : Event) (r : Nat) :
    (c.publish e).2.unread r ⊆ c.unread r ++ [e] := by
  have kept := valid.kept
  unfold publish
  split
  case isFalse => exact List.subset_append_left _ _
  case isTrue =>
    -- both sides are ends of the events with the new one behind them: compare where they begin
    generalize place : (c.receivers.lookup r).getD c.published = position
    have start : c.unread r = c.kept.drop (position - c.oldest) := by rw [← place]; rfl
    have more : c.unread r ++ [e] =
        (c.kept ++ [e]).drop (min (position - c.oldest) c.kept.length) := by
      rw [start, List.drop_append_of_le_length (by omega)]
      congr 1
      rcases Nat.le_total (position - c.oldest) c.kept.length with h | h
      · rw [Nat.min_eq_left h]
      · rw [Nat.min_eq_right h, List.drop_of_length_le h, List.drop_length]
    rw [more]
    simp only [unread, lastKept, List.drop_drop]
    apply List.drop_subset_drop_left
    cases found : c.receivers.lookup r with
    | none =>
      simp only [Option.getD_none, oldest, List.length_drop, List.length_append,
        List.length_singleton]
      omega
    | some position' =>
      have : position' = position := by simpa [found] using place
      simp only [Option.getD_some, oldest, List.length_drop, List.length_append,
        List.length_singleton, this]
      omega

/-- The channel stays valid when an event is published, whether or not an older one goes. -/
theorem valid_publish {c : Channel} (valid : c.Valid) (e : Event) : (c.publish e).2.Valid := by
  unfold publish lastKept
  split
  · refine ⟨?_, valid.numbers⟩
    have kept := valid.kept
    simp only [List.length_drop, List.length_append, List.length_cons, List.length_nil]
    omega
  · exact valid

theorem numbers_subscribe (c : Channel) :
    c.subscribe.2.numbers = c.numbers ++ [c.nextReceiver] := by simp [numbers, subscribe]

theorem valid_subscribe {c : Channel} (valid : c.Valid) : c.subscribe.2.Valid where
  kept := valid.kept
  numbers r hr := by
    rw [numbers_subscribe, List.mem_append, List.mem_singleton] at hr
    show r < c.nextReceiver + 1
    rcases hr with old | rfl
    · exact Nat.lt_succ_of_lt (valid.numbers r old)
    · exact Nat.lt_succ_self _

/-- A new receiver starts behind all that was published, and the others stay where they are. -/
theorem lookup_subscribe {c : Channel} (valid : c.Valid) (r : Nat) :
    c.subscribe.2.receivers.lookup r =
      if r = c.nextReceiver then some c.published else c.receivers.lookup r := by
  have split : c.subscribe.2.receivers.lookup r =
      (c.receivers.lookup r).or (if r = c.nextReceiver then some c.published else none) := by
    simp only [subscribe, List.lookup_append, List.lookup_cons, List.lookup_nil]
    cases same : r == c.nextReceiver <;> simp_all
  rw [split]
  split
  case isTrue same =>
    subst same
    rw [lookup_eq_none fun known => Nat.lt_irrefl _ (valid.numbers _ known)]
    rfl
  case isFalse => simp

/-- A new receiver begins with nothing to get, and the others do not notice. -/
theorem unread_subscribe {c : Channel} (valid : c.Valid) (r : Nat) :
    c.subscribe.2.unread r = if r = c.nextReceiver then [] else c.unread r := by
  have kept := valid.kept
  unfold unread
  rw [lookup_subscribe valid]
  split
  case isTrue =>
    simp only [Option.getD_some, List.drop_eq_nil_iff, subscribe, oldest]
    omega
  case isFalse => rfl

/-! ### What a receiver hears -/

/-- A receiver that receives again and again hears of an event, and leaves the channel as told. -/
inductive Hears (receiver : Nat) (e : Event) : Channel → Channel → Prop where
  | now (c d : Channel) (receives : c.receive? receiver = some (.event e, d)) : Hears receiver e c d
  | later (c d after : Channel) (received : Received)
      (receives : c.receive? receiver = some (received, d)) (rest : Hears receiver e d after) :
      Hears receiver e c after

/-- An event that reaches a receiver is among those that it has not read. -/
theorem Hears.mem_unread {receiver : Nat} {e : Event} {c d : Channel}
    (h : Hears receiver e c d) : e ∈ c.unread receiver := by
  induction h with
  | now c d receives =>
    obtain ⟨position, found, got, -⟩ := receive?_eq_some receives
    have kept : c.kept[position - c.oldest]? = some e := by
      unfold next at got
      split at got
      · exact absurd got (by simp)
      · split at got
        case h_1 e' kept => rw [kept]; simpa using got.symm
        case h_2 => split at got <;> exact absurd got (by simp)
    simp only [unread, found, Option.getD_some]
    exact List.mem_of_getElem? (i := 0) (by simpa using kept)
  | later c d after received receives rest ih => exact (quiet_receive receives).unread receiver ih

end Channel

end CourseLaunch.Activity
