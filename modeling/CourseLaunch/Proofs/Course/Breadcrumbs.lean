import CourseLaunch.Course.Trail
import Mathlib.Data.List.Chain
import Mathlib.Data.List.Induction
import Mathlib.Data.List.TakeWhile
/-!
# Breadcrumbs are the loop erasure of the visits

A trail does not remember how a folder was reached. Going to a folder keeps what stands on the trail
in front of it and puts it at the end (`ids_navigate`), whether it is the root, stands on the trail
already or is new. So every loop in the visits is taken out when it closes, and what is left can be
read off all visits at once: each folder is followed by the one that was visited right after its
last visit.
-/

namespace CourseLaunch.Course

/-! ### Loop erasure -/

/-- The visit right after the last visit of `a` was one of `b`. -/
def FollowsLast (visits : List String) (a b : String) : Prop :=
  ∃ before since, visits = before ++ a :: b :: since ∧ a ∉ b :: since

/-- The crumbs lead from the first visit to the last one, each to the one that was visited right
after its last visit. -/
structure LoopErasure (visits crumbs : List String) : Prop where
  distinct : crumbs.Nodup
  first : crumbs.head? = visits.head?
  follows : crumbs.IsChain (FollowsLast visits)
  last : crumbs.getLast? = visits.getLast?

variable {visits crumbs : List String} {a b x : String}

namespace FollowsLast

/-- What was visited since the last visit can be read off the visits. -/
theorem takeWhile_reverse (before : List String) {since : List String} (clear : a ∉ since) :
    (before ++ a :: since).reverse.takeWhile (fun y => y ≠ a) = since.reverse := by
  have others : ∀ y ∈ since.reverse, decide (y ≠ a) = true := by
    intro y known
    have other : y ≠ a := fun same => clear (same ▸ List.mem_reverse.mp known)
    simpa using other
  rw [List.reverse_append, List.reverse_cons, List.append_assoc,
    List.takeWhile_append_of_pos others]
  simp

theorem unique {c : String} (h : FollowsLast visits a b) (h' : FollowsLast visits a c) :
    b = c := by
  obtain ⟨before, since, rfl, clear⟩ := h
  obtain ⟨before', since', same, clear'⟩ := h'
  have read := takeWhile_reverse before clear
  rw [same, takeWhile_reverse before' clear', List.reverse_inj] at read
  exact (List.cons.inj read).1.symm

/-- Nothing follows the last visit. -/
theorem not_of_last (last : visits.getLast? = some a) : ¬ FollowsLast visits a b := by
  rintro ⟨before, since, rfl, clear⟩
  have ends : (b :: since).getLast? = some a := by
    rw [← last, List.getLast?_append, List.getLast?_cons_cons]
    rfl
  exact clear (List.mem_of_getLast? ends)

/-- A visit of another folder changes nothing. -/
theorem concat (h : FollowsLast visits a b) (other : a ≠ x) :
    FollowsLast (visits ++ [x]) a b := by
  obtain ⟨before, since, rfl, clear⟩ := h
  refine ⟨before, since ++ [x], by simp, ?_⟩
  rw [← List.cons_append, List.mem_append, List.mem_singleton]
  exact not_or.mpr ⟨clear, other⟩

/-- A visit follows the one before it. -/
theorem of_last (last : visits.getLast? = some a) (other : a ≠ x) :
    FollowsLast (visits ++ [x]) a x := by
  obtain ⟨before, rfl⟩ := List.getLast?_eq_some_iff.mp last
  exact ⟨before, [], by simp, by simpa using other⟩

end FollowsLast

namespace LoopErasure

/-- Crumbs that begin at the same folder and lead to the last visit are the same. -/
theorem eq_of_isChain {rest rest' : List String}
    (chain : (a :: rest).IsChain (FollowsLast visits))
    (chain' : (a :: rest').IsChain (FollowsLast visits))
    (last : (a :: rest).getLast? = visits.getLast?)
    (last' : (a :: rest').getLast? = visits.getLast?) : rest = rest' := by
  induction rest generalizing a rest' with
  | nil =>
    cases rest' with
    | nil => rfl
    | cons c rest' =>
      exact absurd (List.isChain_cons_cons.mp chain').1 (FollowsLast.not_of_last last.symm)
  | cons b rest ih =>
    obtain ⟨next, chain⟩ := List.isChain_cons_cons.mp chain
    cases rest' with
    | nil => exact absurd next (FollowsLast.not_of_last last'.symm)
    | cons c rest' =>
      obtain ⟨next', chain'⟩ := List.isChain_cons_cons.mp chain'
      obtain rfl := next.unique next'
      rw [List.getLast?_cons_cons] at last last'
      rw [ih chain chain' last last']

/-- Visits have one loop erasure. -/
theorem unique {crumbs' : List String} (h : LoopErasure visits crumbs)
    (h' : LoopErasure visits crumbs') : crumbs = crumbs' := by
  have first : crumbs.head? = crumbs'.head? := h.first.trans h'.first.symm
  cases crumbs with
  | nil => exact (List.head?_eq_none_iff.mp first.symm).symm
  | cons a rest =>
    obtain ⟨rest', rfl⟩ := List.head?_eq_some_iff.mp first.symm
    rw [eq_of_isChain h.follows h'.follows h.last h'.last]

/-- One more visit keeps the crumbs in front of the folder that is visited. -/
theorem concat (h : LoopErasure visits crumbs) (x : String) :
    LoopErasure (visits ++ [x]) (crumbs.takeWhile (fun y => y ≠ x) ++ [x]) := by
  have other : ∀ y ∈ crumbs.takeWhile (fun y => y ≠ x), y ≠ x := fun y known => by
    simpa using List.mem_takeWhile_imp known
  have split : crumbs.takeWhile (fun y => y ≠ x) ++ crumbs.dropWhile (fun y => y ≠ x) = crumbs :=
    List.takeWhile_append_dropWhile
  have follows := h.follows
  rw [← split, List.isChain_append] at follows
  obtain ⟨kept, -, joined⟩ := follows
  constructor
  case distinct =>
    refine List.nodup_append.mpr ⟨h.distinct.sublist (List.takeWhile_sublist _), by simp, ?_⟩
    intro y known z same
    exact List.mem_singleton.mp same ▸ other y known
  case first =>
    rw [List.head?_append, List.head?_append, List.head?_takeWhile, ← h.first]
    cases crumbs.head? with
    | none => rfl
    | some y => by_cases same : y = x <;> simp [Option.filter, same]
  case last => simp
  case follows =>
    refine List.isChain_append.mpr ⟨?_, by simp, ?_⟩
    · exact kept.imp_of_mem_imp fun y z known _ next => next.concat (other y known)
    · rintro y last z head
      obtain rfl : x = z := by simpa using head
      have apart := other y (List.mem_of_getLast? last)
      cases cut : crumbs.dropWhile (fun y => y ≠ x) with
      | nil =>
        -- nothing is cut off, so the visits ended at the last crumb
        rw [cut, List.append_nil] at split
        rw [split, Option.mem_def, h.last] at last
        exact FollowsLast.of_last last apart
      | cons w behind =>
        -- the trail led on to the folder that is visited
        have same : w = x := by
          have stops := List.head?_dropWhile_not (fun y => decide (y ≠ x)) crumbs
          rw [cut] at stops
          simpa using stops
        subst same
        exact (joined y last w (by rw [cut]; rfl)).concat apart

end LoopErasure

/-! ### Trails -/

namespace Trail

theorem getLast?_entries (t : Trail) : t.entries.getLast? = some t.current := by
  rw [entries, current, List.getLast?_cons, List.getLastD_eq_getLast?]

theorem getLast?_ids (t : Trail) : t.ids.getLast? = some t.current.id := by
  rw [ids, List.getLast?_map, getLast?_entries, Option.map_some]

/-- The ids of the folders that were visited, from the start at the root on. -/
def visitsOf (folders : List Entry) : List String := rootId :: folders.map Entry.id

/-- Going to a folder keeps the folders in front of it, and it comes last. -/
theorem ids_navigate (t : Trail) (folder : Entry) :
    (t.navigate folder).ids = t.ids.takeWhile (fun id => id ≠ folder.id) ++ [folder.id] := by
  unfold navigate
  split
  case isTrue root => simp [ids, entries, root]
  case isFalse below =>
    have kept : t.ids.takeWhile (fun id => id ≠ folder.id) =
        t.root.id :: (t.below.takeWhile fun e => e.id ≠ folder.id).map Entry.id := by
      simp [ids, entries, Ne.symm below, List.takeWhile_map, Function.comp_def]
    rw [kept]
    cases found : t.below.findIdx? fun e => e.id = folder.id with
    | none =>
      have new : (t.below.takeWhile fun e => e.id ≠ folder.id) = t.below := by
        simpa [List.findIdx?_eq_none_iff] using found
      rw [new]
      simp [ids, entries]
    | some i =>
      -- the trail is cut behind the first folder with the id
      obtain ⟨-, first⟩ := List.findIdx?_eq_some_iff_findIdx_eq.mp found
      obtain ⟨inside, same, -⟩ := List.findIdx?_eq_some_iff_getElem.mp found
      have front : (t.below.takeWhile fun e => e.id ≠ folder.id) = t.below.take i := by
        simp [List.takeWhile_eq_take_findIdx_not, first]
      have last : t.below[i].id = folder.id := by simpa using same
      have cut : t.below.take (i + 1) = t.below.take i ++ [t.below[i]] :=
        (List.take_append_getElem inside).symm
      show t.root.id :: (t.below.take (i + 1)).map Entry.id = _
      rw [front, cut, List.map_append, List.map_singleton, last, List.cons_append]

/-- Where a trail goes is where it ends. -/
theorem id_current_navigate (t : Trail) (folder : Entry) :
    (t.navigate folder).current.id = folder.id := by
  have last := (t.navigate folder).getLast?_ids
  rw [ids_navigate] at last
  simpa using last.symm

/-- A folder that is not on the trail is the one that is shown afterwards. -/
theorem current_navigate_of_new {t : Trail} {folder : Entry} (new : folder.id ∉ t.ids) :
    (t.navigate folder).current = folder := by
  obtain ⟨notRoot, notBelow⟩ : folder.id ≠ t.root.id ∧ folder.id ∉ t.below.map Entry.id := by
    rwa [ids, entries, List.map_cons, List.mem_cons, not_or] at new
  have missing : (t.below.findIdx? fun e => e.id = folder.id) = none := by
    simpa [List.findIdx?_eq_none_iff] using notBelow
  rw [navigate, if_neg notRoot, missing]
  simp [current]

theorem loopErasure_start (listing : Endpoint) :
    LoopErasure (visitsOf []) (ofListing listing).ids :=
  ⟨by simp [ids, entries, ofListing], rfl, List.isChain_singleton _, rfl⟩

/-- Going to a folder erases the loop that this closes, if it closes one. -/
theorem loopErasure_navigate {t : Trail} (h : LoopErasure visits t.ids) (folder : Entry) :
    LoopErasure (visits ++ [folder.id]) (t.navigate folder).ids := by
  rw [ids_navigate]
  exact h.concat folder.id

/-- The trail is the loop erasure of all visits so far. -/
theorem loopErasure_foldl (listing : Endpoint) (folders : List Entry) :
    LoopErasure (visitsOf folders) (folders.foldl navigate (ofListing listing)).ids := by
  induction folders using List.reverseRecOn with
  | nil => exact loopErasure_start listing
  | append_singleton folders folder ih =>
    rw [List.foldl_concat, visitsOf, List.map_append, ← List.cons_append]
    exact loopErasure_navigate ih folder

/-- The ids on a trail are the loop erasure of all visits, and nothing else is: they are distinct
and begin with the root, and each is followed by the one that was visited right after its last
visit. The folder that is shown comes last, and it is the one that was visited last. -/
theorem breadcrumbs_loopErasure (listing : Endpoint) (folders : List Entry) :
    let t := folders.foldl navigate (ofListing listing)
    (∀ crumbs, LoopErasure (visitsOf folders) crumbs ↔ crumbs = t.ids) ∧
      t.ids.head? = some rootId ∧
      t.entries.getLast? = some t.current ∧
      ∀ id, (∃ before, visitsOf folders = before ++ [id]) ↔ id = t.current.id := by
  intro t
  have erased : LoopErasure (visitsOf folders) t.ids := loopErasure_foldl listing folders
  refine ⟨fun crumbs => ⟨fun h => h.unique erased, fun same => same ▸ erased⟩, erased.first,
    t.getLast?_entries, fun id => ?_⟩
  rw [← List.getLast?_eq_some_iff, ← erased.last, getLast?_ids, Option.some_inj, eq_comm]

example :
    ((["a", "b", "c", "a", "d"].map fun id => Entry.folder id id (.ofPath id)).foldl navigate
      (ofListing (.ofPath "/files"))).ids = ["__root__", "a", "d"] := by
  decide

end Trail

end CourseLaunch.Course
