import CourseLaunch.Content.Basic
import CourseLaunch.Launch.Config
import CourseLaunch.Proofs.Wire.Keyed
import CourseLaunch.Proofs.Wire.Record
import CourseLaunch.Proofs.Wire.Tagged
/-!
# The wire forms

Endpoints, course entries, configurations and contents come back from the texts that are written for
them, whatever the text they were first read from looked like.
-/

namespace CourseLaunch.Wire
open Json Codec

variable {α : Type}

/-! ### Fields -/

namespace Field

theorem lawful_needed {c : Codec α} (lawful : c.Lawful) (name : String) :
    (needed name c).Lawful :=
  ⟨lawful, nofun, nofun⟩

theorem lawful_defaulted {c : Codec α} (lawful : c.Lawful) (name : String) {value : α}
    (returns : ∀ depth, c.Returns depth value) : (defaulted name c value).Lawful := by
  refine ⟨lawful, nofun, fun x same _ => ?_⟩
  obtain rfl := Option.some.inj same
  exact returns

theorem lawful_optional {c : Codec α} (lawful : c.Lawful) (name : String)
    (second : Option String) : (Field.optional name c second).Lawful := by
  refine ⟨Codec.lawful_optional lawful, fun x none => ?_, fun x same written => ?_⟩
  · rw [Option.isNone_iff_eq_none.mp none]
    rfl
  · cases same
    cases written

end Field

/-! ### Records -/

theorem lawful_endpoint : Endpoint.codec.Lawful := by
  refine lawful_through (fun _ => rfl) (lawful_record ⟨?_, by decide, ?_, by decide, ?_, by decide,
    trivial⟩)
  · exact Field.lawful_needed lawful_text "path"
  · exact Field.lawful_optional lawful_text "authUrl" _
  · exact Field.lawful_optional lawful_any "data" _

theorem named_kind : Course.Kind.choice.Named := by
  rintro (_ | _) <;> decide

/-- Entries are read back as they are written. -/
theorem lawful_entry : Course.Entry.codec.Lawful := by
  refine lawful_through (fun _ => rfl) (lawful_record ⟨?_, by decide, ?_, by decide, ?_, by decide,
    ?_, by decide, ?_, by decide, trivial⟩)
  · exact Field.lawful_needed lawful_text "id"
  · exact Field.lawful_needed lawful_text "display_name"
  · exact Field.lawful_needed (lawful_choice named_kind) "type"
  · exact Field.lawful_optional lawful_text "updated_at" _
  · exact Field.lawful_optional lawful_endpoint "contents" _

theorem lawful_access : Launch.Access.codec.Lawful := by
  refine lawful_through (fun _ => rfl) (lawful_record ⟨?_, by decide, ?_, by decide, ?_, by decide,
    trivial⟩)
  · exact Field.lawful_needed lawful_text "authToken"
  · exact Field.lawful_optional lawful_endpoint "viaUrl" _
  · exact Field.lawful_optional lawful_endpoint "sync" _

theorem lawful_grading : Launch.Grading.codec.Lawful := by
  refine lawful_through (fun _ => rfl) (lawful_record ⟨?_, by decide, ?_, by decide, ?_, by decide,
    trivial⟩)
  · exact Field.lawful_defaulted lawful_text "path" fun depth => returns_text depth _
  · exact Field.lawful_needed lawful_any "submissionParams"
  · exact Field.lawful_defaulted lawful_flag "submitOnAnnotation" fun depth => returns_flag depth _

theorem named_source : Course.Source.choice.Named := by
  rintro (_ | _ | _ | _ | _ | _) <;> decide

theorem lawful_filePickerField : Launch.Config.filePickerField.Lawful := by
  refine ⟨lawful_keyed named_source lawful_endpoint, fun l empty => ?_, fun l same written => ?_⟩
  · rw [List.isEmpty_iff.mp empty]
    rfl
  · cases same
    cases written

/-- Configurations are read back as they are written. -/
theorem lawful_config : Launch.Config.codec.Lawful := by
  refine lawful_through (fun _ => rfl) (lawful_record ⟨?_, by decide, ?_, by decide, ?_, by decide,
    ?_, by decide, ?_, by decide, trivial⟩)
  · exact Field.lawful_needed lawful_access "api"
  · exact Field.lawful_optional lawful_text "backendUrl" _
  · exact Field.lawful_optional lawful_text "contentUrl" _
  · exact Field.lawful_optional lawful_grading "grading" _
  · exact lawful_filePickerField

/-! ### Contents -/

theorem lawful_urlFields : Content.urlFields.Lawful :=
  ⟨Field.lawful_needed lawful_text "url", by decide,
    Field.lawful_optional lawful_text "name" _, by decide, trivial⟩

theorem lawful_fileFields : Content.fileFields.Lawful :=
  ⟨Field.lawful_needed lawful_entry "file", by decide, trivial⟩

/-- A record is read from the text of its fields behind a tag. -/
theorem reads_content {β : Type} {fs : Fields β} (lawful : fs.Lawful) {tag label : String}
    (into : β → Content) {back : β} {inner : Nat}
    (known : Content.tagged.tags.lookup tag = some fun j => (fs.fit label .gathered j).map into)
    (apart : tagName ∉ fs.names) (returns : fs.Returns inner back)
    (whole : ∀ field ∈ fs.write back, field.2.isWhole) :
    Reads (Content.codec.read (inner + 1))
      (chars (.object ((tagName, .string tag) :: fs.write back))) (into back) := by
  refine Tagged.reads_codec known (Fields.nested_write returns) whole (fun field found same => ?_)
    ?_
  · exact apart (same ▸ Fields.mem_write_name found)
  · exact map_eq_ok_iff.mpr ⟨back, Fields.fit_write lawful returns label .gathered, rfl⟩

/-- A content that was read is read from its own text. -/
theorem reads_of_read_content {s rest : Source} {depth : Nat} {content : Content}
    (given : Outcome.Gives (Content.codec.read depth s) content rest)
    (whole : content.toJson.isWhole) :
    Reads (Content.codec.read depth) (chars content.toJson) content := by
  obtain ⟨tag, make, j, listed, nested, made⟩ := Tagged.made_of_read given
  have behind : ∀ field fields, (Json.object (field :: fields)).isWhole →
      ∀ f ∈ fields, f.2.isWhole :=
    fun _ _ whole f known => isWhole_object.mp whole f (.tail _ known)
  rcases List.mem_cons.mp listed with same | listed
  · cases same
    obtain ⟨⟨address, name, _⟩, fitted, rfl⟩ := map_eq_ok_iff.mp made
    have whole := behind _ _ whole
    obtain ⟨inner, rfl, returns⟩ := Fields.returns_fit lawful_urlFields fitted nested whole
    exact reads_content lawful_urlFields (fun v => .url v.1 v.2.1) rfl
      (by decide) returns whole
  · obtain same := List.mem_singleton.mp listed
    cases same
    obtain ⟨⟨entry, _⟩, fitted, rfl⟩ := map_eq_ok_iff.mp made
    have whole := behind _ _ whole
    obtain ⟨inner, rfl, returns⟩ := Fields.returns_fit lawful_fileFields fitted nested whole
    exact reads_content lawful_fileFields (fun v => .file v.1) rfl (by decide) returns
      whole

/-! ### Texts -/

/-- What a whole text was read as was read in front of it. -/
theorem gives_of_readWhole {value : Reader α} {s : Source} {x : α}
    (read : readWhole value s = .ok x) : ∃ rest, Outcome.Gives (value s) x rest := by
  rw [readWhole] at read
  rcases known : value s with f | ⟨y, r⟩
  · rw [known] at read
    cases read
  · rw [known] at read
    dsimp only at read
    split at read
    · cases read
      exact ⟨r.1, r.2, rfl⟩
    · cases read

/-- Whether every value that a text is decoded to, if its numbers are whole, is what its own text is
decoded to, so that the text is encoded again as itself. -/
def Recodes {ε : Type} (decode : String → Except ε α) (c : Codec α) : Prop :=
  ∀ text x, decode text = .ok x → (c.write x).isWhole →
    decode (c.toText x) = .ok x ∧
      (decode (c.toText x)).map c.toText = (decode text).map c.toText

/-- A value that is read back from what is written recodes, because nothing else is left of it. -/
theorem recodes_of_value {ε : Type} {decode : String → Except ε α} {c : Codec α}
    (value : ∀ text x, decode text = .ok x → (c.write x).isWhole → decode (c.toText x) = .ok x) :
    Recodes decode c := by
  intro text x decoded whole
  have again := value text x decoded whole
  exact ⟨again, by rw [again, decoded]⟩

theorem recodes_of_reads {c : Codec α}
    (reads : ∀ {s x rest}, Outcome.Gives (c.read greatestDepth s) x rest → (c.write x).isWhole →
      Reads (c.read greatestDepth) (chars (c.write x)) x) : Recodes c.ofText c := by
  refine recodes_of_value fun text x decoded whole => ?_
  obtain ⟨rest, given⟩ := gives_of_readWhole decoded
  have again := (reads given whole).readWhole
  rw [ofText, Codec.ofSource, Source.ofString_eq, toText, Json.text, String.toList_ofList]
  exact again

/-- Lawful codecs recode what they have read. -/
theorem Codec.Lawful.recodes {c : Codec α} (lawful : c.Lawful) : Recodes c.ofText c :=
  recodes_of_reads fun given whole => (lawful.of_read given whole).reads

/-- A configuration that was accepted is accepted again. -/
theorem recodes_config : Recodes Launch.Config.ofJsonText Launch.Config.codec := by
  refine recodes_of_value fun text config decoded whole => ?_
  rw [Launch.Config.ofJsonText, Launch.Config.ofText] at decoded
  rcases read : Launch.Config.codec.ofText text with fault | c
  · rw [read] at decoded
    cases decoded
  · rw [read] at decoded
    dsimp only at decoded
    rcases sound : c.flaw? with _ | flaw
    · rw [sound] at decoded
      cases decoded
      rw [Launch.Config.ofJsonText, Launch.Config.ofText,
        (lawful_config.recodes text config read whole).1]
      dsimp only
      rw [sound]
    · rw [sound] at decoded
      cases decoded

/-- What was decoded is decoded again from the text it is encoded as. -/
theorem decoded_recodes :
    Recodes Launch.Config.ofJsonText Launch.Config.codec ∧
      Recodes Endpoint.codec.ofText Endpoint.codec ∧
        Recodes Course.Entry.codec.ofText Course.Entry.codec ∧
          Recodes Content.codec.ofText Content.codec :=
  ⟨recodes_config, lawful_endpoint.recodes, lawful_entry.recodes,
    recodes_of_reads reads_of_read_content⟩

/-- Whether a text is decoded to a value with whole numbers that is encoded as another text. -/
def reencodes {ε : Type} (decode : String → Except ε α) (c : Codec α) (text again : String) :
    Bool :=
  (decode text).toOption.any fun x => (c.write x).isWhole && c.toText x == again

/-- Such texts are decoded to the same value. -/
theorem Recodes.agree {ε : Type} {decode : String → Except ε α} {c : Codec α}
    (recodes : Recodes decode c) {text again : String} (h : reencodes decode c text again) :
    ∃ x, decode text = .ok x ∧ decode again = .ok x := by
  cases decoded : decode text with
  | error f => simp [reencodes, decoded, Except.toOption] at h
  | ok x =>
    obtain ⟨whole, rfl⟩ : (c.write x).isWhole ∧ c.toText x = again := by
      simpa [reencodes, decoded, Except.toOption] using h
    exact ⟨x, rfl, (recodes _ _ decoded whole).1⟩

/-- Records may be written as lists, fields in any order, by a second name or with `null`, and kinds
as objects. -/
theorem other_spellings_recode :
    (∃ config,
      Launch.Config.ofJsonText
        ("\x7b\"api\":[\"t\",[\"/via\",null,\x7b\"b\":2,\"a\":[null]\x7d]]," ++
          "\"grading\":\x7b\"submissionParams\":null\x7d\x7d") = .ok config ∧
      Launch.Config.ofJsonText
        ("\x7b\"api\":\x7b\"authToken\":\"t\",\"viaUrl\":\x7b\"path\":\"/via\"," ++
          "\"data\":\x7b\"a\":[null],\"b\":2\x7d\x7d\x7d," ++
          "\"grading\":\x7b\"path\":\"/api/lti/submissions\"," ++
          "\"submissionParams\":null,\"submitOnAnnotation\":false\x7d\x7d") = .ok config) ∧
    (∃ endpoint,
      Endpoint.codec.ofText
        "\x7b\"authorizationUrl\":\"/auth\",\"data\":null,\"path\":\"/files\"\x7d" =
          .ok endpoint ∧
      Endpoint.codec.ofText "\x7b\"path\":\"/files\",\"authUrl\":\"/auth\"\x7d" =
        .ok endpoint) ∧
    (∃ entry,
      Course.Entry.codec.ofText "[\"n\",\"N\",\x7b\"Folder\":null\x7d,null,[\"/n\"]]" =
        .ok entry ∧
      Course.Entry.codec.ofText
        ("\x7b\"id\":\"n\",\"display_name\":\"N\",\"type\":\"Folder\"," ++
          "\"contents\":\x7b\"path\":\"/n\"\x7d\x7d") = .ok entry) ∧
    ∃ content,
      Content.codec.ofText "\x7b\"file\":[\"f\",\"F\",\"File\"],\"type\":\"file\"\x7d" =
        .ok content ∧
      Content.codec.ofText
        ("\x7b\"type\":\"file\",\"file\":\x7b\"id\":\"f\"," ++
          "\"display_name\":\"F\",\"type\":\"File\"\x7d\x7d") = .ok content := by
  obtain ⟨configs, endpoints, entries, contents⟩ := decoded_recodes
  exact ⟨configs.agree (by decide +kernel), endpoints.agree (by decide +kernel),
    entries.agree (by decide +kernel), contents.agree (by decide +kernel)⟩

end CourseLaunch.Wire
