import CourseLaunch.Proofs.Web.Link
import CourseLaunch.Proofs.Wire.Codec
/-!
# Paths are written without white space

Every segment that is read is written in characters that may stand in a path, with escapes for all
others. Of the segments that are taken over, some may go, but none changes.
-/

namespace CourseLaunch.Web
open Wire.Codec (bind_eq_ok_iff)

theorem plainInPath_of_mem_percentEncode {c : Char} {cs : List Char}
    (h : c ∈ percentEncode plainInPath cs) : plainInPath c := by
  obtain ⟨d, -, written⟩ := List.mem_flatMap.mp h
  split at written
  · next plain =>
    rw [List.mem_singleton.mp written]
    exact plain
  · obtain ⟨b, -, digit⟩ := List.mem_flatMap.mp written
    have bound := b.toNat_lt
    simp only [escapeOctet, List.mem_cons, List.not_mem_nil, or_false] at digit
    rcases digit with rfl | rfl | rfl
    · decide
    · exact (isNaming_of_plainInForm (plainInForm_upperDigit (by omega))).path
    · exact (isNaming_of_plainInForm (plainInForm_upperDigit (by omega))).path

/-- Segments in characters that may stand in a path. -/
def AreWritten (segments : List String) : Prop := ∀ s ∈ segments, ∀ c ∈ s.toList, plainInPath c

section Walk

variable {segments more : List String}

theorem areWritten_nil : AreWritten [] := nofun

theorem AreWritten.of_subset (h : AreWritten segments) (fewer : more ⊆ segments) :
    AreWritten more := fun s listed => h s (fewer listed)

theorem AreWritten.concat (h : AreWritten segments) {s : String}
    (written : ∀ c ∈ s.toList, plainInPath c) : AreWritten (segments ++ [s]) := by
  intro t listed
  rcases List.mem_append.mp listed with old | new
  · exact h t old
  · rw [List.mem_singleton.mp new]
    exact written

theorem AreWritten.stepUp (h : AreWritten segments) : AreWritten (stepUp segments) := by
  unfold Web.stepUp
  split
  · split
    · exact h
    · exact h.of_subset (List.dropLast_subset segments)
  · exact areWritten_nil

theorem AreWritten.encoded (h : AreWritten segments) (cs : List Char) :
    AreWritten (segments ++ [String.ofList (percentEncode plainInPath cs)]) := by
  refine h.concat fun c known => ?_
  rw [String.toList_ofList] at known
  exact plainInPath_of_mem_percentEncode known

/-- Segments stay written on a walk along any text. -/
theorem AreWritten.walk (h : AreWritten segments) (rest : List (List Char)) :
    AreWritten (walk segments rest) := by
  have blank : ∀ c ∈ "".toList, plainInPath c := nofun
  -- the walk takes one segment after the other, and the last one may leave an empty one behind
  induction rest generalizing segments with
  | nil => simpa [Web.walk] using h
  | cons next rest ih =>
    cases rest with
    | nil =>
      rw [Web.walk]
      split
      · exact h.stepUp.concat blank
      · split
        · exact h.concat blank
        · exact h.encoded next
    | cons after rest =>
      rw [Web.walk]
      · split
        · exact ih h.stepUp
        · split
          · exact ih h
          · exact ih (h.encoded next)
      · simp

end Walk

/-! ### Paths -/

/-- A path whose segments, if it has any, are written. -/
def Path.IsWritten (path : Path) : Prop := AreWritten (segmentsOf path)

theorem Path.IsWritten.segments? {path : Path} (h : path.IsWritten) {segments : List String}
    (rooted : path.segments? = some segments) : AreWritten segments := by
  cases path with
  | rootless text => cases rooted
  | rooted all =>
    cases all with
    | nil => cases rooted
    | cons s rest =>
      obtain rfl := Option.some.inj rooted
      exact h

theorem isWritten_pathFrom (special : Bool) (cs : List Char) : (pathFrom special [] cs).IsWritten :=
  areWritten_nil.walk _

/-- Every path that is read is written. -/
theorem isWritten_pathBehind (special : Bool) (cs : List Char) :
    (pathBehind special cs).IsWritten := by
  cases cs with
  | nil =>
    cases special with
    | true => exact areWritten_nil.concat nofun
    | false => exact areWritten_nil
  | cons c rest =>
    rw [pathBehind]
    split <;> exact isWritten_pathFrom special _

theorem isWritten_filePath {segments : List String} (h : AreWritten segments) :
    (filePath segments).IsWritten := by
  unfold filePath
  simp only
  split
  · exact areWritten_nil.concat nofun
  · exact h.of_subset (List.dropWhile_sublist _).subset

theorem isWritten_filePathFrom (cs : List Char) : (filePathFrom [] cs).IsWritten :=
  isWritten_filePath (areWritten_nil.walk _)

/-! ### URLs -/

/-- The path behind an authority is written. -/
theorem isWritten_readAuthority {rules : Rules} {goesOn : Bool} {cs : List Char}
    {authority : Authority} {path : Path}
    (read : readAuthority rules goesOn cs = .ok (authority, path)) : path.IsWritten := by
  simp only [readAuthority] at read
  split at read
  · cases read
  · obtain ⟨⟨host, port, behind⟩, -, read⟩ := bind_eq_ok_iff.mp read
    split at read
    · cases read
    · rw [Except.ok.injEq, Prod.mk.injEq] at read
      rw [← read.2]
      exact isWritten_pathBehind _ _

theorem isWritten_readFilePlace {cs : List Char} {authority : Authority} {path : Path}
    (read : readFilePlace cs = .ok (authority, path)) : path.IsWritten := by
  simp only [readFilePlace] at read
  split at read
  · rw [Except.ok.injEq, Prod.mk.injEq] at read
    rw [← read.2]
    exact isWritten_filePathFrom cs
  · split at read <;>
    · obtain ⟨host, -, read⟩ := bind_eq_ok_iff.mp read
      rw [Except.ok.injEq, Prod.mk.injEq] at read
      rw [← read.2]
      exact isWritten_filePathFrom _

namespace Reference

variable {r : Reference} {scheme : String} {cs : List Char} {url : Url}

theorem isWritten_atAuthority (read : r.atAuthority scheme cs = .ok url) : url.path.IsWritten := by
  obtain ⟨⟨authority, path⟩, known, read⟩ := bind_eq_ok_iff.mp read
  rw [← Except.ok.inj read]
  exact isWritten_readAuthority known

/-- The path of a file is written. -/
theorem isWritten_file (read : r.file none cs = .ok url) : url.path.IsWritten := by
  cases cs with
  | nil =>
    rw [← Except.ok.inj read]
    exact areWritten_nil.concat nofun
  | cons c rest =>
    simp only [Reference.file] at read
    split at read
    · split at read
      · obtain ⟨⟨authority, path⟩, known, read⟩ := bind_eq_ok_iff.mp read
        rw [← Except.ok.inj read]
        exact isWritten_readFilePlace known
      · -- there is no base whose drive could be taken over
        rw [← Except.ok.inj read]
        simp only [Option.map_none, Option.getD_none, ite_self]
        exact isWritten_filePathFrom rest
    · rw [← Except.ok.inj read]
      exact isWritten_filePathFrom _

/-- The path of a URL is written, whatever its scheme is. -/
theorem isWritten_behindScheme (read : r.behindScheme none scheme cs = .ok url) :
    url.path.IsWritten := by
  unfold Reference.behindScheme at read
  split at read
  · exact isWritten_file read
  · exact isWritten_atAuthority read
  · split at read
    · exact isWritten_atAuthority read
    · rw [← Except.ok.inj read]
      exact isWritten_pathFrom _ _
    · rw [← Except.ok.inj read]
      exact areWritten_nil

end Reference

/-- Every URL that is read on its own has a path that is written. -/
theorem Url.isWritten_of_parse {s : String} {url : Url} (read : Url.parse s = .ok url) :
    url.path.IsWritten := by
  unfold Url.parse Reference.resolve at read
  cases cut : splitScheme? (Reference.ofText s.toList).body with
  | none => simp [cut] at read
  | some part =>
    simp only [cut] at read
    exact Reference.isWritten_behindScheme read

end CourseLaunch.Web
