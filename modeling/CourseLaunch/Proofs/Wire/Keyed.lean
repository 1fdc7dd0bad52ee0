import CourseLaunch.Proofs.Json.Sorted
import CourseLaunch.Proofs.Wire.Codec
/-!
# Objects whose keys are variants

The keys that were read ascend in the order of the variants, whatever their order in the text was,
and so an object that is written is read with its entries one behind the other.
-/

namespace CourseLaunch.Wire.Codec
open Json

variable {α β : Type} {s rest : Source}

/-! ### The order of the keys -/

section Order

variable [DecidableEq α] {keys : Choice α}

/-- Different variants have different places. -/
theorem Choice.Named.rank_injective (named : keys.Named) (x y : α)
    (same : keys.rank x = keys.rank y) : x = y := by
  have place : ∀ x, ∃ v, keys.variants[keys.rank x]? = some v ∧ v.2 = x := by
    intro x
    obtain ⟨before, behind, split, _⟩ := List.lookup_eq_some_iff.mp (named x)
    have listed : keys.rank x < keys.variants.length :=
      List.findIdx_lt_length_of_exists ⟨(keys.name x, x), by simp [split], by simp⟩
    have here := @List.findIdx_getElem _ (fun v => decide (Prod.snd v = x)) keys.variants listed
    exact ⟨_, List.getElem?_eq_getElem listed, of_decide_eq_true here⟩
  obtain ⟨v, found, rfl⟩ := place x
  obtain ⟨w, found', rfl⟩ := place y
  rw [same] at found
  rw [Option.some.inj (found.symm.trans found')]

theorem insert_eq_set (key : α) (value : β) (l : List (α × β)) :
    keys.insert key value l = Sorted.set keys.rank key value l := by
  induction l with
  | nil => rfl
  | cons p l ih => simp only [Choice.insert, Sorted.set, ih]

end Order

/-! ### The codec -/

section Keyed

variable [DecidableEq α] {keys : Choice α} {c : Codec β} {inner : Nat} {l acc : List (α × β)}

/-- Reads the value of a key. -/
def keyedEntry (keys : Choice α) (c : Codec β) (depth : Nat) (acc : List (α × β)) (name : String) :
    Reader (List (α × β)) := fun s =>
  match keys.findAt name s with
  | .error f => .error f
  | .ok key => (readField (c.read depth) s).mapValue fun x => keys.insert key x acc

theorem read_keyed (keys : Choice α) (c : Codec β) (depth : Nat) :
    (keyed keys c).read depth =
      readBracket '\x7b' "a map" depth fun depth => readEntries (keyedEntry keys c depth) true [] :=
  rfl

/-- Makes the value of a key. -/
def fitEntry (keys : Choice α) (c : Codec β) (origin : Origin) (acc : List (α × β))
    (field : String × Json) : Except Cause (List (α × β)) := do
  let key ← keys.find field.1
  let x ← c.fit origin field.2
  pure (keys.insert key x acc)

theorem fit_keyed (origin : Origin) (fields : List (String × Json)) :
    (keyed keys c).fit origin (.object fields) = fields.foldlM (fitEntry keys c origin) [] := rfl

/-- An entry is taken in if its key is known and its value fits. -/
theorem fitEntry_eq_ok {origin : Origin} {field : String × Json}
    (made : fitEntry keys c origin acc field = .ok l) :
    ∃ key x, keys.find field.1 = .ok key ∧ c.fit origin field.2 = .ok x ∧
      keys.insert key x acc = l := by
  obtain ⟨key, found, made⟩ := bind_eq_ok_iff.mp made
  obtain ⟨x, fitted, made⟩ := bind_eq_ok_iff.mp made
  exact ⟨key, x, found, fitted, Except.ok.inj made⟩

/-- An entry is read in if its key is known and its value can be read. -/
theorem keyedEntry_gives {name : String}
    (given : Outcome.Gives (keyedEntry keys c inner acc name s) l rest) :
    ∃ key q x, Outcome.Gives (c.read inner q) x rest ∧ keys.insert key x acc = l := by
  rw [keyedEntry] at given
  split at given
  · exact absurd given Outcome.not_gives_error
  · rename_i key _
    obtain ⟨x, read, rfl⟩ := Outcome.gives_mapValue.mp given
    obtain ⟨q, _, read⟩ := gives_readField_iff.mp read
    exact ⟨key, q.1, x, read, rfl⟩

/-- What is known of entries that were found: their keys ascend, and their values come back. -/
structure Found (keys : Choice α) (c : Codec β) (depth : Nat) (l : List (α × β)) : Prop where
  ascending : Sorted.Ascending keys.rank l
  returns : ∀ p ∈ l, (c.write p.2).isWhole → c.Returns depth p.2

/-- Entries that were found return when one more is found, even under a key that was found before.
-/
theorem Found.insert (named : keys.Named) (h : Found keys c inner acc) {key : α} {x : β}
    (returns : (c.write x).isWhole → c.Returns inner x) :
    Found keys c inner (keys.insert key x acc) := by
  rw [insert_eq_set]
  refine ⟨h.ascending.set named.rank_injective key x, fun p known => ?_⟩
  rcases Sorted.mem_set known with rfl | early
  · exact returns
  · exact h.returns p early

theorem Found.nil : Found keys c inner [] := ⟨List.Pairwise.nil, nofun⟩

/-- The fields that are written for entries. -/
def written (keys : Choice α) (c : Codec β) (l : List (α × β)) : List (String × Json) :=
  l.map fun p => (keys.name p.1, c.write p.2)

theorem write_keyed (l : List (α × β)) : (keyed keys c).write l = .object (written keys c l) := rfl

/-- Entries in the order of their keys are read in one by one. -/
theorem entered_keyed (named : keys.Named) (returns : ∀ p ∈ l, c.Returns inner p.2)
    (ascending : Sorted.Ascending keys.rank (acc ++ l)) :
    Entered (keyedEntry keys c inner) acc (written keys c l) (acc ++ l) := by
  induction l generalizing acc with
  | nil =>
    rw [List.append_nil]
    exact .done acc
  | cons p l ih =>
    have others : Sorted.Ascending keys.rank ((acc ++ [p]) ++ l) := by rwa [List.append_assoc]
    have more := ih (fun q known => returns q (.tail _ known)) others
    rw [List.append_assoc, List.singleton_append] at more
    refine .next (fun rest stops => ?_) more
    rw [keyedEntry, Choice.findAt, Choice.find_eq_ok_iff.mpr (named p.1)]
    refine Outcome.gives_mapValue.mpr ⟨p.2, ?_, ?_⟩
    · exact reads_readField (returns p (.head _)).reads rest stops
    · rw [insert_eq_set, Sorted.set_last ascending.below]

/-- Entries in the order of their keys are taken in one by one. -/
theorem fit_written (named : keys.Named) (returns : ∀ p ∈ l, c.Returns inner p.2)
    (ascending : Sorted.Ascending keys.rank (acc ++ l)) (origin : Origin) :
    (written keys c l).foldlM (fitEntry keys c origin) acc = .ok (acc ++ l) := by
  induction l generalizing acc with
  | nil =>
    rw [List.append_nil]
    rfl
  | cons p l ih =>
    have others : Sorted.Ascending keys.rank ((acc ++ [p]) ++ l) := by rwa [List.append_assoc]
    have more := ih (fun q known => returns q (.tail _ known)) others
    rw [List.append_assoc, List.singleton_append] at more
    have one : fitEntry keys c origin acc (keys.name p.1, c.write p.2) = .ok (acc ++ [p]) := by
      rw [fitEntry, Choice.find_eq_ok_iff.mpr (named p.1), (returns p (.head _)).fits origin,
        ← Sorted.set_last ascending.below, ← insert_eq_set]
      rfl
    rw [written, List.map_cons, List.foldlM_cons, one]
    exact more

theorem returns_keyed (named : keys.Named) (found : Found keys c inner l)
    (whole : ((keyed keys c).write l).isWhole) : (keyed keys c).Returns (inner + 1) l := by
  have returns : ∀ p ∈ l, c.Returns inner p.2 := by
    intro p known
    refine found.returns p known (isWhole_object.mp whole (keys.name p.1, c.write p.2) ?_)
    exact List.mem_map.mpr ⟨p, known, rfl⟩
  have ascending : Sorted.Ascending keys.rank ([] ++ l) := found.ascending
  refine ⟨nested_object_iff.mpr ⟨inner, rfl, fun f known => ?_⟩, fun rest stops => ?_,
    fun origin => ?_⟩
  · obtain ⟨p, listed, rfl⟩ := List.mem_map.mp known
    exact (returns p listed).nested
  · rw [write_keyed, read_keyed, of_chars_object, gives_readBracket_iff]
    exact ⟨_, inner, skipBlank_cons rfl, rfl,
      (entered_keyed named returns ascending).readEntries rest⟩
  · exact fit_written named returns ascending origin

/-- Entries are read back in the order of their keys, whatever the order was before. -/
theorem lawful_keyed (named : keys.Named) (lawful : c.Lawful) : (keyed keys c).Lawful where
  of_read given whole := by
    rw [read_keyed, gives_readBracket_iff] at given
    obtain ⟨behind, inner, _, rfl, given⟩ := given
    refine returns_keyed named (readEntries_keeps (fun acc name s l rest h given => ?_) .nil given)
      whole
    obtain ⟨key, q, x, read, rfl⟩ := keyedEntry_gives given
    exact h.insert named (lawful.of_read read)
  of_fit {depth origin j l} made nested whole := by
    cases j with
    | object fields =>
      obtain ⟨inner, rfl, within⟩ := nested_object_iff.mp nested
      rw [fit_keyed] at made
      refine returns_keyed named (foldlM_keeps (fun acc f l known h one => ?_) .nil made) whole
      obtain ⟨key, x, _, fitted, rfl⟩ := fitEntry_eq_ok one
      exact h.insert named (lawful.of_fit fitted (within f known))
    | _ => cases made
  null_read _ := nofun
  null_fit _ := nofun

end Keyed

end CourseLaunch.Wire.Codec
