import CandleArchive.Web.Exchange

/-!
# Exchanges — what an answer carries

An answer carries a value when it is a success whose whole body decodes to the value. The reason why
a server could not be reached carries nothing, whatever it says.

* `Answer.Carries`, `carries_response`, `carries_about`, `Carries.unique`: the value of an answer;
* `fetch_of_error`, `fetch_of_ok`: asking for a text that is no address, and for one that is.
-/

namespace CandleArchive.Web

namespace Answer

variable {α : Type} {decode : List UInt8 → Option α} {answer : Answer} {value : α}

/-- The answer is a success whose whole body decodes to the value. -/
def Carries (decode : List UInt8 → Option α) (answer : Answer) (value : α) : Prop :=
  ∃ status bytes, answer = .response status (some bytes) ∧ 200 ≤ status ∧ status ≤ 299 ∧
    decode bytes = some value

theorem carries_response {status : Nat} {body : Option (List UInt8)} :
    (Answer.response status body).Carries decode value ↔
      isSuccess status ∧ body.bind decode = some value := by
  simp only [Carries, isSuccess, Bool.and_eq_true, decide_eq_true_eq, Option.bind_eq_some_iff]
  constructor
  · rintro ⟨_, bytes, ⟨rfl, rfl⟩, hlo, hhi, hread⟩
    exact ⟨⟨hlo, hhi⟩, bytes, rfl, hread⟩
  · rintro ⟨⟨hlo, hhi⟩, bytes, rfl, hread⟩
    exact ⟨status, bytes, rfl, hlo, hhi, hread⟩

theorem not_carries_unreachable {reason : String} :
    ¬ (unreachable reason).Carries decode value := by
  rintro ⟨status, bytes, h, -⟩
  contradiction

theorem carries_about {request : Request} :
    (answer.about request).Carries decode value ↔ answer.Carries decode value := by
  cases answer with
  | unreachable reason => exact iff_of_false not_carries_unreachable not_carries_unreachable
  | response status body => exact Iff.rfl

theorem Carries.unique {other : α} (h : answer.Carries decode value)
    (h' : answer.Carries decode other) : value = other := by
  obtain ⟨status, bytes, rfl, -, -, hvalue⟩ := h
  obtain ⟨_, _, ⟨rfl, rfl⟩, -, -, hother⟩ := h'
  exact Option.some.inj (hvalue.symm.trans hother)

end Answer

section Fetches

variable {parse : UrlParser} {address : String}

theorem fetch_of_error {reason : String} (h : parse address = .error reason) (transport : Transport)
    (pairs : List (String × String)) :
    fetch parse transport address pairs = ⟨none, .unreachable ("builder error: " ++ reason)⟩ := by
  unfold fetch
  rw [h]

theorem fetch_of_ok {url : Url} (h : parse address = .ok url) (transport : Transport)
    (pairs : List (String × String)) :
    let request : Request := ⟨url.withPairs pairs, userAgent⟩
    fetch parse transport address pairs = ⟨some request, (transport request).about request⟩ := by
  intro request
  unfold fetch
  rw [h]

end Fetches

end CandleArchive.Web
