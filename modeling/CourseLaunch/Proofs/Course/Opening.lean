import CourseLaunch.Proofs.Course.Navigation
/-!
# Opening folders one after the other

A browser goes to another folder only when it is told to, and what happens in between leaves its
trail alone. So the folders that it was told to go to make its trail, except those that cannot be
listed, and the last of the others is the one that is shown.
-/

namespace CourseLaunch.Course
open Backend Popup

/-- Whether a move may go to another folder. -/
def Move.goes : Move → Bool
  | .navigate _ | .confirm | .activate _ => true
  | _ => false

namespace Trail

/-- After some visits the current folder has the id of the last one. -/
theorem id_current_foldl (t : Trail) (folders : List Entry) :
    (folders.foldl navigate t).current.id =
      (folders.getLast?.map Entry.id).getD t.current.id := by
  induction folders using List.reverseRecOn with
  | nil => rfl
  | append_singleton folders folder ih =>
    rw [List.foldl_concat, id_current_navigate]
    simp

end Trail

namespace Browser

variable {b c d : Browser}

/-! ### What leaves the trail alone -/

theorem trail_follow (b : Browser) (task : Nat) (p : Progress Nat) :
    (b.follow task p).trail = b.trail := by
  unfold follow
  simp only
  split
  · exact accept_trail _ _ _
  · rfl

theorem trail_fetch (b : Browser) (task : Nat) (isReload : Bool) :
    (b.fetch task isReload).trail = b.trail := by
  unfold fetch
  simp only
  split
  · exact accept_trail _ _ _
  · exact trail_follow _ _ _

theorem trail_authorize (b : Browser) : b.authorize.trail = b.trail := by
  unfold authorize
  cases b.authorization with
  | none => exact trail_fetch _ _ _
  | some a =>
    simp only
    split <;> rfl

theorem trail_look (b : Browser) (task : Nat) : (b.look task).trail = b.trail := by
  unfold look
  split
  · split
    · rfl
    · exact trail_fetch _ _ _
  · rfl

/-- Only a move to a folder changes the trail. -/
theorem trail_after {m : Move} (stays : m.goes = false) : (b.after m).trail = b.trail := by
  cases m with
  | navigate folder => cases stays
  | confirm => cases stays
  | activate entry => cases stays
  | load => exact trail_fetch _ _ _
  | reload => exact trail_fetch _ _ _
  | retry =>
    show b.retry.trail = b.trail
    unfold retry
    split
    · exact trail_authorize b
    · exact trail_fetch _ _ _
  | authorize => exact trail_authorize b
  | answer task a => exact trail_follow _ _ _
  | wake task => exact trail_follow _ _ _
  | look task => exact trail_look b task
  | _ => rfl

/-- A browser came from another one by moves that go to no other folder. -/
def Continues (b c : Browser) : Prop :=
  ∃ moves : List Move, (∀ m ∈ moves, m.goes = false) ∧ c = b.afterAll moves

theorem Continues.refl (b : Browser) : b.Continues b := ⟨[], by simp, rfl⟩

theorem Continues.trans (h : b.Continues c) (h' : c.Continues d) : b.Continues d := by
  obtain ⟨moves, stays, rfl⟩ := h
  obtain ⟨more, stays', rfl⟩ := h'
  exact ⟨moves ++ more, List.forall_mem_append.mpr ⟨stays, stays'⟩,
    (afterAll_append b moves more).symm⟩

theorem continues_after (b : Browser) {m : Move} (stays : m.goes = false) :
    b.Continues (b.after m) := ⟨[m], by simpa using stays, rfl⟩

/-- A browser that goes on shows the same folder. -/
theorem Continues.trail (h : b.Continues c) : c.trail = b.trail := by
  obtain ⟨moves, stays, rfl⟩ := h
  induction moves generalizing b with
  | nil => rfl
  | cons m moves ih =>
    obtain ⟨first, rest⟩ := List.forall_mem_cons.mp stays
    exact (ih rest).trans (trail_after first)

/-! ### Folders that are opened -/

/-- A browser came from another one by opening folders, one after the other. Each was found in the
listing that was shown then. -/
inductive Opens : Browser → List Entry → Browser → Prop where
  | done (b : Browser) : Opens b [] b
  | opens (b c d : Browser) (files : List Entry) (folder : Entry) (folders : List Entry)
      (shown : b.status = .fetched files) (listed : folder ∈ files) (isFolder : folder.isFolder)
      (continues : (b.navigate folder).Continues c) (rest : Opens c folders d) :
      Opens b (folder :: folders) d

/-- A visit leads to the folder if that can be listed. -/
theorem trail_visit {folder : Entry} (isFolder : folder.isFolder) (result : Result) :
    (b.visit result folder).trail =
      if folder.contents.isSome then b.trail.navigate folder else b.trail := by
  unfold visit
  rw [isFolder, Bool.true_and]
  split
  · exact trail_fetch _ _ _
  · rfl

/-- The trail is made by the folders that can be listed. -/
theorem Opens.trail {folders : List Entry} (h : b.Opens folders c) :
    c.trail = (folders.filter fun e => e.contents.isSome).foldl Trail.navigate b.trail := by
  induction h with
  | done b => rfl
  | opens b c d files folder folders shown listed isFolder continues rest ih =>
    rw [ih, continues.trail, Browser.navigate, trail_visit isFolder, List.filter_cons]
    split <;> rfl

theorem Opens.afterAll {folders : List Entry} (h : b.Opens folders c) :
    ∃ moves, c = b.afterAll moves := by
  induction h with
  | done b => exact ⟨[], rfl⟩
  | opens b c d files folder folders shown listed isFolder continues rest ih =>
    obtain ⟨more, same⟩ := ih
    obtain ⟨moves, -, rfl⟩ := continues
    exact ⟨.navigate folder :: (moves ++ more), by rw [afterAll_cons, afterAll_append]; exact same⟩

/-- When the last folder that was opened can be listed, it is the one that is shown. -/
theorem Opens.id_current {folders : List Entry} (h : b.Opens folders c)
    (last : ∀ folder ∈ folders.getLast?, folder.contents.isSome) :
    c.trail.current.id = (folders.getLast?.map Entry.id).getD b.trail.current.id := by
  rw [h.trail, Trail.id_current_foldl]
  cases folders using List.reverseRecOn with
  | nil => rfl
  | append_singleton folders folder =>
    have listed : folder.contents.isSome := last folder (by simp)
    simp [List.filter_append, listed]

end Browser

end CourseLaunch.Course
