import CourseLaunch.Proofs.Popup.Custody
import Mathlib.Data.List.Induction
/-!
# Machines that open popups

A machine has popups and tasks that may wait for them. A task that waits for one goes on only when
that is closed, or gives up. This is a matter of single moves; what it means for tasks that ask the
user to authorize before they go on follows for every machine of this kind.
-/

namespace CourseLaunch.Popup
open Web

/-- How a task stands to popups. A task that is not there yet counts as active. -/
inductive Stance where
  | active
  | waits (popup : Nat)
  | gaveUp
  | done

/-- The popup that a task waits for. -/
def Stance.popup? : Stance → Option Nat
  | .waits popup => some popup
  | _ => none

/-- The popups of a machine, and how each of its tasks stands to them. -/
structure Watch where
  custody : Custody
  stance : Nat → Stance

namespace Watch

variable {v w u : Watch}

/-- Nothing happened to the popups, nor to tasks that are not active. -/
structure Aside (v w : Watch) : Prop where
  custody : w.custody = v.custody
  stance : ∀ task, v.stance task ≠ .active → w.stance task = v.stance task

/-- What a move does to the popups of a machine and to the tasks that are not active: a task that
waits for a popup goes on only when it is closed, unless it gives up. -/
structure Handles (v w : Watch) : Prop where
  custody : v.custody.Steps w.custody
  stance : ∀ task, v.stance task ≠ .active → w.stance task = v.stance task ∨
    ∃ popup, v.stance task = .waits popup ∧
      (v.custody.desktop.isOpen popup = false ∨ w.stance task = .gaveUp)

theorem Aside.refl (v : Watch) : v.Aside v := ⟨rfl, fun _ _ => rfl⟩

theorem Aside.trans (h : v.Aside w) (h' : w.Aside u) : v.Aside u where
  custody := h'.custody.trans h.custody
  stance task idle := (h'.stance task (h.stance task idle ▸ idle)).trans (h.stance task idle)

theorem Aside.handles (h : v.Aside w) : v.Handles w where
  custody := h.custody ▸ .refl
  stance task idle := .inl (h.stance task idle)

theorem Handles.aside (h : v.Handles w) (h' : w.Aside u) : v.Handles u where
  custody := h'.custody ▸ h.custody
  stance task idle := by
    rcases h.stance task idle with same | ⟨popup, waits, closed | gaveUp⟩
    · exact .inl ((h'.stance task (same ▸ idle)).trans same)
    · exact .inr ⟨popup, waits, .inl closed⟩
    · exact .inr ⟨popup, waits, .inr ((h'.stance task (by simp [gaveUp])).trans gaveUp)⟩

/-- What becomes of a task that waits for a popup: it still does, the popup is closed, or the task
gave up. -/
inductive Fate (task popup : Nat) (v : Watch) : Prop where
  | waits (found : v.stance task = .waits popup)
  | goesOn (closed : v.custody.desktop.isOpen popup = false)
  | gaveUp (found : v.stance task = .gaveUp)

/-- A task that was given a popup waits for it until it is closed, and then goes on or gives up,
once. -/
theorem Fate.handles {task popup : Nat} (fate : v.Fate task popup)
    (known : popup < v.custody.desktop.windows.length) (h : v.Handles w) : w.Fate task popup := by
  have keeps : v.custody.desktop.Keeps w.custody.desktop := h.custody.keeps
  cases fate with
  | waits found =>
    rcases h.stance task (by simp [found]) with same | ⟨popup', waits, closed | gaveUp⟩
    · exact .waits (same.trans found)
    · obtain rfl : popup = popup' := by simpa using found.symm.trans waits
      exact .goesOn (keeps.isOpen known closed)
    · exact .gaveUp gaveUp
  | goesOn closed => exact .goesOn (keeps.isOpen known closed)
  | gaveUp found =>
    rcases h.stance task (by simp [found]) with same | ⟨popup', waits, -⟩
    · exact .gaveUp (same.trans found)
    · simp [found] at waits

/-- A task that is done with popups stays so. -/
theorem Handles.done (h : v.Handles w) {task : Nat} (done : v.stance task = .done) :
    w.stance task = .done := by
  rcases h.stance task (by simp [done]) with same | ⟨popup, waits, -⟩
  · exact same.trans done
  · simp [done] at waits

end Watch

/-- A machine that opens popups. Its tasks go on for good when they no longer wait for one. -/
structure Machine (σ μ : Type) where
  after : σ → μ → σ
  watch : σ → Watch
  /-- Whether a task has gone on. -/
  WentOn : σ → Nat → Prop
  /-- What holds between moves. -/
  Valid : σ → Prop
  valid_after : ∀ {s}, Valid s → ∀ m, Valid (after s m)
  handles : ∀ s m, (watch s).Handles (watch (after s m))
  not_waits : ∀ {s task}, Valid s → WentOn s task → ∀ popup, (watch s).stance task ≠ .waits popup
  not_gaveUp : ∀ {s task}, Valid s → WentOn s task → (watch s).stance task ≠ .gaveUp

namespace Machine

variable {σ μ : Type} (M : Machine σ μ)

def custody (s : σ) : Custody := (M.watch s).custody

def afterAll (s : σ) (moves : List μ) : σ := moves.foldl M.after s

theorem afterAll_concat (s : σ) (moves : List μ) (m : μ) :
    M.afterAll s (moves ++ [m]) = M.after (M.afterAll s moves) m := List.foldl_append

variable {M} {s : σ}

/-- A machine stays valid through every history. -/
theorem Valid.afterAll (valid : M.Valid s) (moves : List μ) : M.Valid (M.afterAll s moves) := by
  induction moves using List.reverseRecOn with
  | nil => exact valid
  | append_singleton moves m ih => exact M.afterAll_concat s moves m ▸ M.valid_after ih m

/-- Whatever happens to a machine, its popups go by steps. -/
theorem steps_afterAll (s : σ) (moves : List μ) :
    (M.custody s).Steps (M.custody (M.afterAll s moves)) := by
  induction moves using List.reverseRecOn with
  | nil => exact .refl
  | append_singleton moves m ih =>
    rw [afterAll_concat]
    exact ih.trans (M.handles _ m).custody

/-- A task that was given a popup meets its fate through every history. -/
theorem fate_afterAll {task popup : Nat} (fate : (M.watch s).Fate task popup)
    (known : popup < (M.custody s).desktop.windows.length) (moves : List μ) :
    (M.watch (M.afterAll s moves)).Fate task popup := by
  induction moves using List.reverseRecOn with
  | nil => exact fate
  | append_singleton moves m ih =>
    rw [afterAll_concat]
    have length := (steps_afterAll (M := M) s moves).keeps.length
    exact ih.handles (Nat.lt_of_lt_of_le known length) (M.handles _ m)

/-- A task that is done with popups stays so through every history. -/
theorem done_afterAll {task : Nat} (done : (M.watch s).stance task = .done) (moves : List μ) :
    (M.watch (M.afterAll s moves)).stance task = .done := by
  induction moves using List.reverseRecOn with
  | nil => exact done
  | append_singleton moves m ih =>
    rw [afterAll_concat]
    exact (M.handles _ m).done ih

/-- A task that waits for a popup does not go on before it is closed. -/
theorem closed_of_wentOn (valid : M.Valid s) {task popup : Nat}
    (waits : (M.watch s).stance task = .waits popup)
    (known : popup < (M.custody s).desktop.windows.length) {more : List μ}
    (wentOn : M.WentOn (M.afterAll s more) task) :
    (M.custody (M.afterAll s more)).desktop.isOpen popup = false := by
  have later := valid.afterAll more
  cases fate_afterAll (.waits waits) known more with
  | waits found => exact absurd found (M.not_waits later wentOn popup)
  | goesOn closed => exact closed
  | gaveUp found => exact absurd found (M.not_gaveUp later wentOn)

end Machine

/-! ### Authorizing first -/

/-- A machine whose user may ask for a popup. -/
structure Authorizer (σ μ : Type) extends Machine σ μ where
  token : σ → String
  nextTask : σ → Nat
  /-- Whether a move asks for a popup, in a state in which there is a page for it. -/
  Asks : σ → μ → Prop
  block : Bool → μ
  /-- Whether a state is as it was, but for what tells that the user was refused a popup. -/
  Kept : σ → σ → Prop

namespace Authorizer

variable {σ μ : Type} (M : Authorizer σ μ)

/-- A move asks for a new popup at a page, and its task waits for it if it opens. -/
def AsksHost (page : Url) (s : σ) (m : μ) : Prop :=
  let opened := (M.custody s).desktop.openPopup (page.withPair (tokenKey, M.token s))
  (M.custody (M.after s m)).desktop = opened.2 ∧
    ((M.watch (M.after s m)).stance (M.nextTask s)).popup? = opened.1

/-- A task that is refused a popup at a page. It never goes on, and all is as it was. -/
structure Refused (page : Url) (s t : σ) : Prop where
  silent : ∀ more, ¬ M.WentOn (M.afterAll t more) (M.nextTask s)
  kept : M.Kept s t
  /-- The next move of this kind asks for a popup again, whether or not they are still blocked. -/
  again : ∀ m, M.Asks t m → ∀ blocked, M.AsksHost page (M.after t (M.block blocked)) m

/-- What can be relied on when a task asks the user to authorize at a page, or at an address that
turns out to name none. -/
structure AuthorizesFirst (page? : Except Web.Fault Url) (s t : σ) : Prop where
  /-- It waits for an open popup, unless none can be had or the address names no page. -/
  ends : (∃ popup, (M.watch t).stance (M.nextTask s) = .waits popup ∧
      (M.custody t).desktop.isOpen popup) ∨
    (∃ page, page? = .ok page ∧ (M.custody s).Refuses page) ∨ ∃ fault, page? = .error fault
  /-- It does not go on before that popup is closed. -/
  waits : ∀ more, M.WentOn (M.afterAll t more) (M.nextTask s) →
    ∃ popup, (M.watch t).stance (M.nextTask s) = .waits popup ∧
      (M.custody (M.afterAll t more)).desktop.isOpen popup = false
  /-- Without a popup it never goes on, and leaves all as it is. -/
  refused : ∀ page, page? = .ok page → (M.custody s).Refuses page → M.Refused page s t

/-- How a task ends up that asks the user to authorize: the address names no page, a popup was
opened or joined for it, or none could be opened. -/
inductive Asked (page? : Except Web.Fault Url) (s t : σ) : Prop where
  | unresolved (fault : Web.Fault) (named : page? = .error fault)
      (silent : ∀ more, ¬ M.WentOn (M.afterAll t more) (M.nextTask s))
  | opened (page : Url) (a b : Authorization) (d d' : Desktop) (popup : Nat)
      (named : page? = .ok page) (turns : (M.custody s).Turns page a d)
      (asked : a.openOrFocus (M.token s) d = (some popup, b, d'))
      (custody : M.custody t = ⟨some b, d'⟩)
      (waits : (M.watch t).stance (M.nextTask s) = .waits popup)
  | blocked (page : Url) (a b : Authorization) (d d' : Desktop) (named : page? = .ok page)
      (turns : (M.custody s).Turns page a d)
      (asked : a.openOrFocus (M.token s) d = (none, b, d')) (refused : M.Refused page s t)

variable {M} {page? : Except Web.Fault Url} {s t : σ}

/-- Whichever way it ends up, it has authorized before it goes on. -/
theorem Asked.authorizesFirst (h : M.Asked page? s t) (valid : M.Valid t) :
    M.AuthorizesFirst page? s t := by
  cases h with
  | unresolved fault named silent =>
    refine ⟨.inr (.inr ⟨fault, named⟩), fun more wentOn => absurd wentOn (silent more),
      fun page named' => ?_⟩
    exact absurd (named.symm.trans named') nofun
  | opened page a b d d' popup named turns asked custody waits =>
    have isOpen : (M.custody t).desktop.isOpen popup := by
      rw [custody]
      exact (asked ▸ a.openOrFocus_asks (M.token s) d).isOpen
    refine ⟨.inl ⟨popup, waits, isOpen⟩, fun more wentOn => ⟨popup, waits, ?_⟩,
      fun page' named' refuses => ?_⟩
    · exact Machine.closed_of_wentOn valid waits (Desktop.length_of_isOpen isOpen) wentOn
    · obtain rfl : page = page' := Except.ok.inj (named.symm.trans named')
      exact (refuses.not_opened turns asked).elim
  | blocked page a b d d' named turns asked refused =>
    refine ⟨.inr (.inl ⟨page, named, turns.refuses asked⟩),
      fun more wentOn => absurd wentOn (refused.silent more), fun page' named' _ => ?_⟩
    obtain rfl : page = page' := Except.ok.inj (named.symm.trans named')
    exact refused

end Authorizer

end CourseLaunch.Popup
