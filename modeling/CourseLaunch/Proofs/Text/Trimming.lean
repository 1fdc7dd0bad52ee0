import CourseLaunch.Text.Blank
/-!
# What trimming leaves

A text that was trimmed neither starts nor ends with a character that is stripped, and such a text
is left as it is. A character in the middle that is not stripped keeps all that stands in front of it.
-/

namespace CourseLaunch.Text

/-- A text with nothing to strip at its ends. -/
structure Trimmed (p : Char → Bool) (cs : List Char) : Prop where
  front : ∀ c ∈ cs.head?, p c = false
  back : ∀ c ∈ cs.getLast?, p c = false

section

variable {p : Char → Bool} {cs left right : List Char} {mark : Char}

theorem Trimmed.of_clear (clear : ∀ c ∈ cs, p c = false) : Trimmed p cs where
  front c known := clear c (List.mem_of_mem_head? known)
  back c known := clear c (List.mem_of_mem_getLast? known)

theorem not_of_mem_head?_dropWhile {c : Char} (h : c ∈ (cs.dropWhile p).head?) : p c = false := by
  have known := List.head?_dropWhile_not p cs
  rw [Option.mem_def] at h
  rwa [h] at known

theorem dropWhile_eq_self (front : ∀ c ∈ cs.head?, p c = false) : cs.dropWhile p = cs := by
  cases cs with
  | nil => rfl
  | cons c rest => rw [List.dropWhile_cons_of_neg (by simp [front c rfl])]

/-- What stands in front is where a text starts. -/
theorem dropWhile_append_eq_self (filled : cs ≠ []) (clear : ∀ c ∈ cs, p c = false)
    (behind : List Char) : (cs ++ behind).dropWhile p = cs ++ behind := by
  cases cs with
  | nil => exact absurd rfl filled
  | cons c rest =>
    refine dropWhile_eq_self fun d known => ?_
    obtain rfl : c = d := by simpa using known
    exact clear c List.mem_cons_self

/-! ### The end of a text -/

theorem dropTail_append (blank : ∀ c ∈ right, p c) : dropTail p (cs ++ right) = dropTail p cs := by
  rw [dropTail, dropTail, List.reverse_append, List.dropWhile_append_of_pos (by simpa using blank)]

theorem dropTail_append_cons (stays : p mark = false) (front behind : List Char) :
    dropTail p (front ++ mark :: behind) = front ++ mark :: dropTail p behind := by
  simp only [dropTail, List.reverse_append, List.reverse_cons, List.append_assoc,
    List.dropWhile_append]
  cases gone : (behind.reverse.dropWhile p).isEmpty with
  | true => simp [stays, List.isEmpty_iff.mp gone]
  | false => simp

theorem dropTail_prefix (p : Char → Bool) (cs : List Char) : dropTail p cs <+: cs := by
  rw [← List.reverse_suffix, dropTail, List.reverse_reverse]
  exact List.dropWhile_suffix p

/-! ### Both ends -/

theorem strip_append_left (blank : ∀ c ∈ left, p c) : strip p (left ++ cs) = strip p cs := by
  rw [strip, strip, List.dropWhile_append_of_pos blank]

/-- Nothing blank is left at either end. -/
theorem trimmed_strip (p : Char → Bool) (cs : List Char) : Trimmed p (strip p cs) where
  front c known := by
    obtain ⟨behind, whole⟩ := dropTail_prefix p (cs.dropWhile p)
    have start : c ∈ (cs.dropWhile p).head? := by
      rw [strip] at known
      rw [← whole, List.head?_append, known]
      rfl
    exact not_of_mem_head?_dropWhile start
  back c known := by
    rw [strip, dropTail, List.getLast?_reverse] at known
    exact not_of_mem_head?_dropWhile known

/-- A text with nothing blank at its ends stays as it is. -/
theorem Trimmed.strip_eq (h : Trimmed p cs) : strip p cs = cs := by
  have back : ∀ c ∈ cs.reverse.head?, p c = false := by
    rw [List.head?_reverse]
    exact h.back
  rw [strip, dropWhile_eq_self h.front, dropTail, dropWhile_eq_self back, List.reverse_reverse]

end

theorem Trimmed.trim_eq {s : String} (h : Trimmed isBlank s.toList) : trim s = s := by
  rw [trim, h.strip_eq, String.ofList_toList]

theorem trimmed_trim (s : String) : Trimmed isBlank (trim s).toList := by
  rw [trim, String.toList_ofList]
  exact trimmed_strip isBlank s.toList

end CourseLaunch.Text
