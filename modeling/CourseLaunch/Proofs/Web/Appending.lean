import CourseLaunch.Backend.Exchange
import CourseLaunch.Popup.Authorization
import CourseLaunch.Proofs.Web.Form
import Mathlib.Control.Monad.Basic
/-!
# What is added to a query

Parameters are put behind the query that a URL already has, whoever wrote that query. The pairs that
are read afterwards are the old ones and then the new ones, and all that is not the query is left as
it is. This holds of the requests of the backend client and of the address of a popup, which carries
the session token.
-/

namespace CourseLaunch.Web

namespace Url

/-- Pairs were added to a URL. The text in front of its fragment goes on where it ended, and adding
nothing leaves the URL as it is. -/
structure Extends (u : Url) (added : List (String × String)) (v : Url) : Prop where
  pairs : v.pairs = u.pairs ++ added
  scheme : v.scheme = u.scheme
  authority : v.authority = u.authority
  path : v.path = u.path
  fragment : v.fragment = u.fragment
  text : u.textBeforeFragment.toList <+: v.textBeforeFragment.toList
  unchanged : added = [] → v = u

variable {u v w : Url} {added more : List (String × String)}

theorem Extends.refl (u : Url) : u.Extends [] u where
  pairs := (List.append_nil _).symm
  scheme := rfl
  authority := rfl
  path := rfl
  fragment := rfl
  text := List.prefix_rfl
  unchanged _ := rfl

theorem Extends.trans (h : u.Extends added v) (h' : v.Extends more w) :
    u.Extends (added ++ more) w where
  pairs := by rw [h'.pairs, h.pairs, List.append_assoc]
  scheme := h'.scheme.trans h.scheme
  authority := h'.authority.trans h.authority
  path := h'.path.trans h.path
  fragment := h'.fragment.trans h.fragment
  text := h.text.trans h'.text
  unchanged none := by
    obtain ⟨rfl, rfl⟩ := List.append_eq_nil_iff.mp none
    exact (h'.unchanged rfl).trans (h.unchanged rfl)

/-- The old query stands in front, also when it is empty or ends with a separator. -/
theorem prefix_appendPair (query : List Char) (pair : String × String) :
    query <+: appendPair (some query) pair := by
  cases query with
  | nil => exact List.nil_prefix
  | cons c cs => exact List.prefix_append (c :: cs) ('&' :: formPair pair)

/-- The text of the query only gets longer. -/
theorem queryText_withPair (u : Url) (pair : String × String) :
    u.queryText.toList <+: (u.withPair pair).queryText.toList := by
  rw [queryText, queryText, withPair]
  cases u.query with
  | none => exact List.nil_prefix
  | some query =>
    simp only [Option.map_some, String.toList_append, String.toList_ofList]
    exact List.prefix_append_right_inj _ |>.mpr (prefix_appendPair query.toList pair)

/-- One pair more extends the query and changes nothing else. -/
theorem withPair_extends (u : Url) (pair : String × String) :
    u.Extends [pair] (u.withPair pair) where
  pairs := pairs_withPair u pair
  scheme := rfl
  authority := rfl
  path := rfl
  fragment := rfl
  text := by
    have place : (u.withPair pair).placeText = u.placeText := rfl
    have scheme : (u.withPair pair).scheme = u.scheme := rfl
    rw [textBeforeFragment, textBeforeFragment, place, scheme, String.toList_append,
      String.toList_append (t := (u.withPair pair).queryText)]
    exact (List.prefix_append_right_inj _).mpr (queryText_withPair u pair)
  unchanged none := nomatch none

/-- Pairs are added one by one, in order. -/
theorem withPairs_extends (u : Url) (added : List (String × String)) :
    u.Extends added (u.withPairs added) := by
  induction added generalizing u with
  | nil => exact .refl u
  | cons pair rest ih => exact (u.withPair_extends pair).trans (ih (u.withPair pair))

end Url

/-- Every path that can be resolved is asked for with the parameters of the request behind its own
pairs, and the page for authorization is opened with the token behind its own. -/
theorem parameters_appended :
    (∀ (r : Backend.Request) (base resolved : Url), base.join r.path = .ok resolved →
      ∃ asked, r.url base = .ok asked ∧ resolved.Extends r.params asked) ∧
    ∀ (a : Popup.Authorization) (token : String),
      a.page.Extends [(Popup.tokenKey, token)] (a.address token) := by
  constructor
  · intro r base resolved joined
    refine ⟨resolved.withPairs r.params, ?_, resolved.withPairs_extends r.params⟩
    simp only [Backend.Request.url, joined]
  · intro a token
    exact a.page.withPair_extends (Popup.tokenKey, token)

/-- The page of a course, the base of the paths below. -/
def coursePage : Url :=
  ⟨"https", some ⟨"", "", .named "lms", none⟩, .rooted ["course", "7"], some "old", some "top"⟩

/-- A request whose path has a query that no writer of pairs made, and a fragment. -/
def oddRequest : Backend.Request :=
  ⟨"../files?%zz&&a=b=c&#end", none, [("course", "42 a"), ("ü&=+%", ""), ("", "x")]⟩

/-- The URL that its path names. -/
def oddUrl : Url :=
  ⟨"https", some ⟨"", "", .named "lms", none⟩, .rooted ["files"], some "%zz&&a=b=c&", some "end"⟩

theorem odd_parameters_appended :
    coursePage.join oddRequest.path = .ok oddUrl ∧
      ∃ asked, oddRequest.url coursePage = .ok asked ∧
        asked.pairs = [("%zz", ""), ("a", "b=c")] ++
          [("course", "42 a"), ("ü&=+%", ""), ("", "x")] ∧
        asked.fragment = some "end" := by
  have joined : coursePage.join oddRequest.path = .ok oddUrl := by
    decide +kernel
  obtain ⟨asked, named, added⟩ := parameters_appended.1 oddRequest coursePage oddUrl joined
  refine ⟨joined, asked, named, ?_, added.fragment⟩
  rw [added.pairs]
  have old : oddUrl.pairs = [("%zz", ""), ("a", "b=c")] := by decide +kernel
  rw [old]
  rfl

end CourseLaunch.Web
