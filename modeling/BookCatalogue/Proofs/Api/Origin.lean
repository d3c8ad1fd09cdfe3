import Mathlib
import BookCatalogue.Http.Origin
import BookCatalogue.Proofs.Api.Return
import BookCatalogue.Proofs.Prelude

/-! # Origins that may read an answer

No answer names an origin by itself, so whether one is named is up to the allowed origins. Those that no
header can hold are missing among the ones that can be named, but no request comes from them either. The
address under which clients are told to reach a server is always allowed. -/

namespace BookCatalogue

namespace Http

namespace Origins

variable {origins : Origins} {origin : String}

theorem isAllowed_iff : origins.isAllowed origin = true ↔ origin ∈ origins.allowed := by
  simp [isAllowed]

/-- Leaving out what no header can hold makes no difference to what one holds. -/
theorem contains_headerValues (held : isHeaderValue origin = true) :
    origins.headerValues.contains origin = origins.isAllowed origin := by
  simp [headerValues, isAllowed, held]

-- A host of two lines has two origins, none of which a header can hold.
example : (ofServer "a\nb" 80).allowed.length = 2 ∧ (ofServer "a\nb" 80).headerValues = [] := by decide

/-- Pages from the address of the server may use it, by whatever name its host goes. -/
theorem isAllowed_ofServer_baseUrl (host : String) (port : Nat) :
    (ofServer host port).isAllowed (baseUrl host port) = true := by
  rw [isAllowed_iff, ofServer, List.mem_flatMap]
  by_cases everywhere : isAllInterfaces host = true
  · refine ⟨"localhost", ?_, ?_⟩
    · simp [isLocal, everywhere]
    · simp [baseUrl, everywhere, ofHost]
  · refine ⟨host, ?_, ?_⟩
    · simp only [isLocal, everywhere, Bool.false_or]
      split
      · next named =>
        rcases (Bool.or_eq_true ..).mp named with loopback | localhost
        · simp [eq_of_beq loopback]
        · simp [eq_of_beq localhost]
      · exact List.mem_singleton_self host
    · simp [baseUrl, everywhere, ofHost]

end Origins

/-! ## What a header holds -/

namespace Request

variable {method uri : String} {headers : List (String × String)} {body : List Nat} {r : Request}

theorem isHeaderValue_of_header {h h' : String × String} (checked : header h = .ok h') :
    isHeaderValue h'.2 = true := by
  unfold header at checked
  split_ifs at checked with name value
  cases checked
  simpa using value

theorem ofParts_eq_ok_iff :
    ofParts method uri headers body = .ok r ↔ isToken method = true ∧ ∃ place checked,
      Uri.parse uri = .ok place ∧ headers.mapM header = .ok checked ∧
        r = ⟨method, place.path, place.query, checked, body⟩ := by
  unfold ofParts
  by_cases word : isToken method = true
  · cases address : Uri.parse uri with
    | error fault => simp [word, Except.mapError, bind, Except.bind]
    | ok place =>
      cases checked : headers.mapM header with
      | error e => simp [word, Except.mapError, bind, Except.bind]
      | ok checked => simp [word, Except.mapError, bind, Except.bind, pure, Except.pure, eq_comm]
  · simp [word, bind, Except.bind, throw, throwThe, MonadExceptOf.throw]

theorem isHeaderValue_of_mapM {checked : List (String × String)} (passed : headers.mapM header = .ok checked) :
    ∀ h ∈ checked, isHeaderValue h.2 = true := by
  have pairs := mapM_eq_ok_iff.mp passed
  clear passed
  induction pairs with
  | nil => simp
  | cons first _ ih => exact List.forall_mem_cons.mpr ⟨isHeaderValue_of_header first, ih⟩

/-- Every header of a request that is made of parts has been checked. -/
theorem isHeaderValue_of_header? (made : ofParts method uri headers body = .ok r) {name value : String}
    (given : r.header? name = some value) : isHeaderValue value = true := by
  obtain ⟨_, place, checked, _, passed, rfl⟩ := ofParts_eq_ok_iff.mp made
  exact isHeaderValue_of_mapM passed (name, value) (mem_of_lookup_eq_some given)

end Request

end Http

namespace Api

open Http (Origins Request Response)

/-! ## Answers before the headers about origins -/

theorem headers_problem (p : Problem) : p.toResponse.headers = [("content-type", "application/json")] := by
  cases p <;> rfl

theorem headers_list (c : Catalogue) (r : Request) :
    (list c r).headers = [("content-type", "application/json")] := by
  rcases list_cases c r with ⟨rejection, _, answered⟩ | ⟨p, answered⟩ | ⟨_, _, _, answered⟩ <;> rw [answered]
  · rfl
  · exact headers_problem p
  · rfl

theorem headers_add (c : Catalogue) (r : Request) :
    (add c r).1.headers = [("content-type", "application/json")] := by
  unfold add
  split
  · rfl
  · split
    · exact headers_problem _
    · rfl

theorem headers_replace (c : Catalogue) (r : Request) :
    (replace c r).1.headers = [("content-type", "application/json")] := by
  unfold replace
  split
  · rfl
  · split
    · exact headers_problem _
    · rfl

def NamesNoOrigin (response : Response) : Prop :=
  ∀ h ∈ response.headers, h.1 ≠ "access-control-allow-origin"

theorem namesNoOrigin_view (c : Catalogue) (r : Request) (route : Route) :
    NamesNoOrigin (view c r route) := by
  cases route with
  | health | description | docs => simp [NamesNoOrigin, view, Response.json]
  | books => simp [NamesNoOrigin, view, headers_list]

theorem namesNoOrigin_onRoute (c : Catalogue) (r : Request) (route : Route) :
    NamesNoOrigin (onRoute c r route).1 := by
  unfold onRoute
  split_ifs with get head post put
  · exact namesNoOrigin_view c r route
  · exact namesNoOrigin_view c r route
  · simp [NamesNoOrigin, headers_add]
  · simp [NamesNoOrigin, headers_replace]
  · simp [NamesNoOrigin, methodRefused]

theorem namesNoOrigin_noRoute (r : Request) : NamesNoOrigin (noRoute r) := by
  unfold noRoute
  dsimp only
  split <;> simp [NamesNoOrigin, problemResponse, Response.json, Response.withoutBody]

theorem namesNoOrigin_preflight (r : Request) : NamesNoOrigin (preflight r) := by
  intro h member
  rcases List.mem_append.mp member with fixed | allow
  · rcases List.mem_pair.mp fixed with rfl | rfl <;> decide
  · obtain ⟨route, _, rfl⟩ := List.mem_map.mp allow
    exact (by decide : "allow" ≠ "access-control-allow-origin")

theorem namesNoOrigin_handle (c : Catalogue) (r : Request) : NamesNoOrigin (handle c r).1 := by
  unfold handle
  split
  · exact namesNoOrigin_preflight r
  · split
    · exact namesNoOrigin_onRoute c r _
    · exact namesNoOrigin_noRoute r

/-! ## The named origin -/

/-- An answer names the origin of its request if that is one of the origins that headers can hold. -/
theorem headerValues_answer (origins : Origins) (c : Catalogue) (r : Request) :
    (answer origins c r).1.headerValues "access-control-allow-origin" =
      ((r.header? "origin").filter origins.headerValues.contains).toList := by
  have none : (handle c r).1.headers.filter (fun h => h.1 == "access-control-allow-origin") = [] := by
    rw [List.filter_eq_nil_iff]
    intro h member
    simpa using namesNoOrigin_handle c r h member
  rw [answer_eq, Response.headerValues, Response.withHeaders, List.filter_append, none, originHeaders]
  cases (r.header? "origin").filter origins.headerValues.contains <;> simp

/-- For all hosts and ports, the answer to a request that carries an origin names this origin if it is
allowed, and names none otherwise; and the address under which clients reach the server is an allowed
origin. -/
theorem origin_named_iff_allowed (host : String) (port : Nat) :
    (∀ c method uri headers body r origin, Request.ofParts method uri headers body = .ok r →
      r.header? "origin" = some origin →
        (answer (Origins.ofServer host port) c r).1.headerValues "access-control-allow-origin" =
          if (Origins.ofServer host port).isAllowed origin = true then [origin] else []) ∧
      (Origins.ofServer host port).isAllowed (Http.baseUrl host port) = true := by
  refine ⟨?_, Origins.isAllowed_ofServer_baseUrl host port⟩
  intro c method uri headers body r origin made given
  have held : Http.isHeaderValue origin = true := Request.isHeaderValue_of_header? made given
  rw [headerValues_answer, given, Option.filter_some, Origins.contains_headerValues held]
  split <;> rfl

/-- A server on all interfaces goes by the loopback address as well, and a second origin does not count. -/
theorem origin_named_iff_allowed_loopback :
    let origins := Origins.ofServer "::" 8080
    let r : Request := ⟨"DELETE", "/nowhere", none,
      [("origin", "http://127.0.0.1"), ("origin", "http://example.org")], []⟩
    (Request.ofParts "DELETE" "/nowhere"
        [("Origin", "http://127.0.0.1"), ("ORIGIN", "http://example.org")] [] = .ok r ∧
        r.header? "origin" = some "http://127.0.0.1") ∧
      (answer origins .empty r).1.headerValues "access-control-allow-origin" = ["http://127.0.0.1"] ∧
      origins.isAllowed "http://localhost:8080" = true := by
  intro origins r
  have made : Request.ofParts "DELETE" "/nowhere"
      [("Origin", "http://127.0.0.1"), ("ORIGIN", "http://example.org")] [] = .ok r := by decide
  have given : r.header? "origin" = some "http://127.0.0.1" := by decide
  have allowed : origins.isAllowed "http://127.0.0.1" = true := by decide
  obtain ⟨named, reached⟩ := origin_named_iff_allowed "::" 8080
  have address : Http.baseUrl "::" 8080 = "http://localhost:8080" := by decide
  refine ⟨⟨made, given⟩, ?_, address ▸ reached⟩
  rw [named .empty "DELETE" "/nowhere" _ [] r _ made given, if_pos allowed]

end Api

end BookCatalogue
