import CourseLaunch.Command.Run
import CourseLaunch.Proofs.Json.Layout
import Mathlib.Data.Option.Basic
/-!
# What is printed

A launch prints its view and a browser prints its entries, each as an object whose fields have
fixed names in a fixed order. What is absent is left out, except for the action of a dialog.
-/

namespace CourseLaunch
open Backend Course Launch Wire

/-- A value is an object whose fields tell of something. -/
def Json.IsObject {α : Type} (tells : List (String × Json) → α → Prop) (x : α) (j : Json) : Prop :=
  ∃ fields, j = .object fields ∧ tells fields x

theorem rel_map {α β : Type} {r : α → β → Prop} {f : α → β} (related : ∀ x, r x (f x))
    (o : Option α) : Option.Rel r o (o.map f) := by
  cases o with
  | none => exact .none
  | some x => exact .some (related x)

/-! ### Fields that may be left out -/

namespace Backend.Report

theorem sublist_field (name : String) (value : Option Json) :
    ((field name value).map Prod.fst).Sublist [name] := by
  cases value with
  | none => exact List.nil_sublist _
  | some j => exact List.Sublist.refl _

@[simp] theorem lookup_field (key name : String) (value : Option Json) :
    (field name value).lookup key = if key = name then value else none := by
  cases value with
  | none => simp [field]
  | some j =>
    by_cases same : key = name
    · simp [field, same]
    · have differs : (key == name) = false := beq_false_of_ne same
      simp [field, List.lookup_cons, differs, same]

end Backend.Report

/-! ### The view of a launch -/

/-- The fields tell of an error: each part of it that is known stands under its name. -/
structure Backend.Report.Told (fields : List (String × Json)) (r : Report) : Prop where
  names : (fields.map Prod.fst).Sublist
    ["message", "details", "errorCode", "serverMessage", "status"]
  message : fields.lookup "message" = r.message.map .string
  details : fields.lookup "details" = r.details
  errorCode : fields.lookup "errorCode" = r.errorCode.map .string
  serverMessage : fields.lookup "serverMessage" = r.serverMessage.map .string
  status : fields.lookup "status" = r.status.map fun n => .number (.int n)

theorem Backend.Report.isObject_toJson (r : Report) : Json.IsObject Report.Told r r.toJson := by
  refine ⟨_, rfl, ?_⟩
  constructor
  case names =>
    simp only [List.map_append]
    exact ((((sublist_field _ _).append (sublist_field _ _)).append (sublist_field _ _)).append
      (sublist_field _ _)).append (sublist_field _ _)
  case status =>
    simp [List.lookup_append]
    rfl
  all_goals simp [List.lookup_append]

/-- What stands for the action that a dialog offers, also if it offers none. -/
def Launch.RetryAction.label : Option RetryAction → Json
  | none => .null
  | some .authorize => .string "authorize"
  | some .tryAgain => .string "try_again"

/-- The fields tell of a dialog. -/
structure Launch.Dialog.Told (fields : List (String × Json)) (d : Dialog) : Prop where
  names : (fields.map Prod.fst).Sublist ["state", "error", "retry_action"]
  state : fields.lookup "state" = some (.string d.problem.code)
  error : Option.Rel (Json.IsObject Report.Told) d.error (fields.lookup "error")
  action : fields.lookup "retry_action" = some (RetryAction.label d.action)

/-- The object of a dialog tells of its problem, its error and its action. -/
theorem Launch.Dialog.isObject_toJson (d : Dialog) : Json.IsObject Dialog.Told d d.toJson := by
  refine ⟨_, rfl, ?_⟩
  constructor
  case names =>
    simp only [List.map_append]
    exact ((Report.sublist_field _ _).cons_cons "state").append (List.Sublist.refl ["retry_action"])
  case state => simp
  case error =>
    have shown := rel_map Report.isObject_toJson d.error
    simpa [List.lookup_append, List.lookup_cons] using shown
  case action =>
    have label : Json.ofString? (d.action.map RetryAction.name) = RetryAction.label d.action := by
      rcases d.action with _ | _ | _ <;> rfl
    simp [List.lookup_append, List.lookup_cons, label]

/-- The fields tell of a view: whether there is a spinner, and the content or a dialog if there is
one. -/
structure Launch.View.Told (fields : List (String × Json)) (v : View) : Prop where
  names : (fields.map Prod.fst).Sublist ["show_spinner", "iframe_url", "error_dialog"]
  spinner : fields.lookup "show_spinner" = some (.bool v.showSpinner)
  content : fields.lookup "iframe_url" = v.iframeUrl.map .string
  dialog : Option.Rel (Json.IsObject Dialog.Told) v.dialog (fields.lookup "error_dialog")

/-- The object of a view tells of its spinner, its content and its dialog. -/
theorem Launch.View.isObject_toJson (v : View) : Json.IsObject View.Told v v.toJson := by
  refine ⟨_, rfl, ?_⟩
  constructor
  case names =>
    simp only [List.map_append]
    exact ((Report.sublist_field _ _).cons_cons "show_spinner").append (Report.sublist_field _ _)
  case spinner => simp
  case content => simp [List.lookup_append, List.lookup_cons]
  case dialog =>
    have shown := rel_map Dialog.isObject_toJson v.dialog
    simpa [List.lookup_append, List.lookup_cons] using shown

/-- The text prints a view. -/
def Launch.View.PrintedBy (v : View) (output : String) : Prop :=
  ∃ j, Json.IsObject View.Told v j ∧ Json.Prints output j

/-- A view that is printed can be read off the text. -/
theorem Launch.View.printedBy_printed (v : View) : v.PrintedBy (Command.printed v.toJson) :=
  ⟨v.toJson, v.isObject_toJson, Json.prints_indented v.toJson⟩

/-! ### The entries of a browser -/

/-- The fields tell of an endpoint. -/
structure Endpoint.Told (fields : List (String × Json)) (e : Endpoint) : Prop where
  names : (fields.map Prod.fst).Sublist ["path", "authUrl", "data"]
  path : fields.lookup "path" = some (.string e.path)
  authUrl : fields.lookup "authUrl" = e.authUrl.map .string
  data : fields.lookup "data" = e.data

/-- What a kind of entry is called. -/
def Course.Kind.label : Kind → String
  | .file => "File"
  | .folder => "Folder"

/-- The fields tell of an entry. -/
structure Course.Entry.Told (fields : List (String × Json)) (e : Entry) : Prop where
  names : (fields.map Prod.fst).Sublist ["id", "display_name", "type", "updated_at", "contents"]
  id : fields.lookup "id" = some (.string e.id)
  name : fields.lookup "display_name" = some (.string e.name)
  kind : fields.lookup "type" = some (.string e.kind.label)
  updatedAt : fields.lookup "updated_at" = e.updatedAt.map .string
  contents : Option.Rel (Json.IsObject Endpoint.Told) e.contents (fields.lookup "contents")

theorem write_nil : Fields.nil.write () = [] := rfl

theorem write_needed {α β : Type} (name : String) (c : Codec α) (rest : Fields β) (x : α) (y : β) :
    (Fields.cons (.needed name c) rest).write (x, y) = (name, c.write x) :: rest.write y := rfl

theorem write_optional {α β : Type} (name : String) (c : Codec α) (second : Option String)
    (rest : Fields β) (o : Option α) (y : β) :
    (Fields.cons (.optional name c second) rest).write (o, y) =
      Report.field name (o.map c.write) ++ rest.write y := by
  cases o <;> rfl

/-- The object of an endpoint tells of its path, its page for authorization and its body. -/
theorem Endpoint.isObject_write (e : Endpoint) :
    Json.IsObject Endpoint.Told e (Endpoint.codec.write e) := by
  refine ⟨Endpoint.fields.write (e.path, e.authUrl, e.data, ()), rfl, ?_⟩
  simp only [Endpoint.fields, write_needed, write_optional, write_nil, List.append_nil]
  constructor
  case names =>
    simp only [List.map_cons, List.map_append]
    exact ((Report.sublist_field _ _).append (Report.sublist_field _ _)).cons_cons "path"
  all_goals simp [List.lookup_append, List.lookup_cons, Codec.text, Codec.any]

/-- The object of an entry tells of all that is known about it. -/
theorem Course.Entry.isObject_write (e : Entry) :
    Json.IsObject Entry.Told e (Entry.codec.write e) := by
  refine ⟨Entry.fields.write (e.id, e.name, e.kind, e.updatedAt, e.contents, ()), rfl, ?_⟩
  simp only [Entry.fields, write_needed, write_optional, write_nil, List.append_nil]
  constructor
  case names =>
    simp only [List.map_cons, List.map_append]
    exact ((((Report.sublist_field _ _).append (Report.sublist_field _ _)).cons_cons
      "type").cons_cons "display_name").cons_cons "id"
  case kind =>
    have label : (Codec.choice Kind.choice).write e.kind = .string e.kind.label := by
      cases e.kind <;> rfl
    simp [List.lookup_cons, label]
  case contents =>
    have shown := rel_map Endpoint.isObject_write e.contents
    simpa [List.lookup_append, List.lookup_cons] using shown
  all_goals simp [List.lookup_append, List.lookup_cons, Codec.text]

/-- The text prints some entries, in order. -/
def Course.Entry.PrintedBy (files : List Entry) (output : String) : Prop :=
  ∃ items, List.Forall₂ (Json.IsObject Entry.Told) files items ∧ Json.Prints output (.array items)

/-- Entries that are printed can be read off the text, in order. -/
theorem Course.Entry.printedBy_printed (files : List Entry) :
    Entry.PrintedBy files (Command.printed (.array (files.map Entry.codec.write))) := by
  refine ⟨files.map Entry.codec.write, ?_, Json.prints_indented _⟩
  rw [List.forall₂_map_right_iff, List.forall₂_same]
  exact fun e _ => e.isObject_write

end CourseLaunch
