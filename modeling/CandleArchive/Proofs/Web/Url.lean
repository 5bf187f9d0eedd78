import CandleArchive.Proofs.Web.Form
import CandleArchive.Web.Url
import Mathlib.Data.List.Basic

/-!
# URLs — where the query of a target starts

The path of an address holds no question mark, whatever its text is. The first question mark of a
target is therefore the one in front of the query, and an address whose text has no question mark
has no query of its own.

* `joinPath_append_slashes`, `notMem_joinPath`: a base address with a path below it;
* `mark_notMem_escapeIn`, `NoMark.follow`, `mark_notMem_pathOf`: no question mark in a path;
* `UrlParser.Marks`: what is relied on of a reader of addresses;
* `parts_of_ofText?`, **`Url.parse_marks`**: the parts of an address;
* `Url.ownPairs`, **`toList_target_withPairs`**, `query_of_target_eq`: the target of an address with
  pairs.
-/

namespace CandleArchive.Web

/-! ## Bases -/

section Bases

variable {base path : String}

theorem toList_joinPath (base path : String) :
    (joinPath base path).toList =
      (base.toList.reverse.dropWhile (· == '/')).reverse ++ path.toList := by
  rw [joinPath, String.toList_ofList]

/-- **Slashes at the end of a base** do not count. -/
theorem joinPath_append_slashes (base path : String) (n : ℕ) :
    joinPath (base ++ String.ofList (List.replicate n '/')) path = joinPath base path := by
  have hslashes : ∀ c ∈ List.replicate n '/', (c == '/') = true := fun c hc =>
    beq_iff_eq.mpr (List.eq_of_mem_replicate hc)
  apply String.toList_injective
  rw [toList_joinPath, toList_joinPath, String.toList_append, String.toList_ofList,
    List.reverse_append, List.reverse_replicate, List.dropWhile_append_of_pos hslashes]

theorem notMem_joinPath {c : Char} (hbase : c ∉ base.toList) (hpath : c ∉ path.toList) :
    c ∉ (joinPath base path).toList := by
  rw [toList_joinPath, List.mem_append, not_or, List.mem_reverse]
  refine ⟨fun h => hbase ?_, hpath⟩
  exact List.mem_reverse.mp ((List.dropWhile_sublist _).subset h)

end Bases

/-! ## Paths -/

theorem mark_notMem_escapeIn {reserved : List Char} (h : '?' ∈ reserved) (c : Char) :
    '?' ∉ escapeIn reserved c := by
  unfold escapeIn
  split
  case isTrue =>
    rw [List.mem_flatMap]
    rintro ⟨b, -, hb⟩
    exact absurd (Form.mem_percentByte hb) (by decide)
  case isFalse hplain =>
    rw [List.mem_singleton]
    rintro rfl
    exact hplain (.inr (.inr h))

theorem mark_notMem_flatMap_escapeIn (segment : List Char) :
    '?' ∉ segment.flatMap (escapeIn pathReserved) := by
  rw [List.mem_flatMap]
  rintro ⟨c, -, hc⟩
  exact mark_notMem_escapeIn (by decide) c hc

/-- No segment holds a question mark. -/
def NoMark (segments : List (List Char)) : Prop := ∀ segment ∈ segments, '?' ∉ segment

section Following

variable {done : List (List Char)}

theorem back_subset (done : List (List Char)) : back done ⊆ done := by
  cases done with
  | nil => exact List.Subset.refl _
  | cons segment done =>
    rw [back]
    split
    · exact List.Subset.refl _
    · exact List.subset_cons_self _ _

theorem NoMark.back (h : NoMark done) : NoMark (back done) :=
  fun segment hsegment => h segment (back_subset done hsegment)

theorem NoMark.cons (h : NoMark done) {segment : List Char} (hsegment : '?' ∉ segment) :
    NoMark (segment :: done) :=
  List.forall_mem_cons.mpr ⟨hsegment, h⟩

theorem NoMark.leave (h : NoMark done) (last : Prop) [Decidable last] :
    NoMark (if last then [] :: done else done) := by
  split
  · exact h.cons List.not_mem_nil
  · exact h

theorem NoMark.follow {segments : List (List Char)} (h : NoMark done) :
    NoMark (follow done segments) := by
  fun_induction Web.follow done segments with
  | case1 done => exact fun segment hsegment => h segment (List.mem_reverse.mp hsegment)
  | case2 done segment rest hdotdot ih => exact ih (h.back.leave _)
  | case3 done segment rest hdotdot hdot ih => exact ih (h.leave _)
  | case4 done segment rest hdotdot hdot ih =>
    exact ih (h.cons (mark_notMem_flatMap_escapeIn segment))

end Following

theorem mark_notMem_pathOf (cs : List Char) : '?' ∉ pathOf cs := by
  unfold pathOf
  split
  · decide
  · split
    · decide
    · rw [List.mem_flatMap]
      rintro ⟨segment, hsegment, hmark⟩
      have hstart : NoMark [] := List.forall_mem_nil _
      exact hstart.follow segment hsegment (List.mem_of_ne_of_mem (by decide) hmark)

/-! ## Addresses -/

/-- What is relied on of a reader of addresses: the path of an address holds no question mark, and an
address has a query of its own only where its text has a question mark. -/
structure UrlParser.Marks (parse : UrlParser) : Prop where
  path : ∀ {s url}, parse s = .ok url → '?' ∉ url.path
  query : ∀ {s url}, parse s = .ok url → '?' ∉ s.toList → url.query = none

theorem addressChars_subset (s : String) : addressChars s ⊆ s.toList := by
  intro c hc
  have hinner := List.mem_of_mem_filter hc
  have hfront := (List.dropWhile_sublist _).subset (List.mem_reverse.mp hinner)
  exact (List.dropWhile_sublist _).subset (List.mem_reverse.mp hfront)

theorem subset_of_splitSchemeName? {cs rest : List Char} {scheme : String}
    (h : splitSchemeName? cs = some (scheme, rest)) : rest ⊆ cs := by
  unfold splitSchemeName? at h
  split at h
  case h_1 name rest' hspan =>
    split at h
    case isTrue =>
      cases h
      rw [List.span_eq_takeWhile_dropWhile] at hspan
      have hrest : cs.dropWhile (· != ':') = ':' :: rest := congrArg Prod.snd hspan
      intro c hc
      exact (List.dropWhile_sublist _).subset (hrest ▸ List.mem_cons_of_mem _ hc)
    case isFalse => contradiction
  case h_2 => contradiction

namespace Url

variable {s : String} {url : Url}

theorem parts_of_ofText? (h : ofText? s = .ok url) :
    ∃ cs behind, behind ⊆ s.toList ∧ url.path = pathOf cs ∧ url.query = (splitQuery behind).1 := by
  unfold ofText? at h
  split at h
  case h_1 => contradiction
  case h_2 scheme rest hscheme =>
    split at h
    case isTrue => contradiction
    case isFalse =>
      simp only [List.span_eq_takeWhile_dropWhile] at h
      cases hserver : serverOf? scheme
          ((rest.dropWhile isSlash).takeWhile fun c => !isSlash c && c != '?' && c != '#') with
      | error e =>
        rw [hserver] at h
        contradiction
      | ok server =>
        rw [hserver] at h
        cases h
        refine ⟨_, _, fun c hc => ?_, rfl, rfl⟩
        apply addressChars_subset s
        apply subset_of_splitSchemeName? hscheme
        apply (List.dropWhile_sublist isSlash).subset
        exact (List.dropWhile_sublist _).subset ((List.dropWhile_sublist _).subset hc)

theorem query_of_ofText? (h : ofText? s = .ok url) (hmark : '?' ∉ s.toList) : url.query = none := by
  obtain ⟨cs, behind, hbehind, -, hquery⟩ := parts_of_ofText? h
  rw [hquery]
  unfold splitQuery
  split
  case h_1 behind => exact absurd (hbehind List.mem_cons_self) hmark
  case h_2 => rfl

theorem mark_notMem_of_ofText? (h : ofText? s = .ok url) : '?' ∉ url.path := by
  obtain ⟨cs, behind, -, hpath, -⟩ := parts_of_ofText? h
  rw [hpath]
  exact mark_notMem_pathOf cs

theorem ofText?_of_parse (h : parse s = .ok url) : ofText? s = .ok url := by
  rw [parse] at h
  cases ht : ofText? s with
  | ok url' =>
    rw [ht] at h
    exact congrArg _ (Except.ok.inj h)
  | error e =>
    rw [ht] at h
    cases h

/-- **The reader of addresses** keeps question marks out of paths. -/
theorem parse_marks : UrlParser.Marks parse where
  path h := mark_notMem_of_ofText? (ofText?_of_parse h)
  query h := query_of_ofText? (ofText?_of_parse h)

/-- What stands in front of added pairs: the query of the address itself and an ampersand, if it has
one. -/
def ownPairs (url : Url) : List Char :=
  match url.query with
  | none | some [] => []
  | some query => query ++ ['&']

theorem withPairs_eq (url : Url) (pairs : List (String × String)) :
    url.withPairs pairs = { url with query := some (url.ownPairs ++ Form.encode pairs) } := by
  obtain ⟨scheme, server, path, query, fragment⟩ := url
  rcases query with _ | _ | ⟨c, query⟩ <;> simp [withPairs, ownPairs]

theorem ownPairs_of_no_query (h : url.query = none) : url.ownPairs = [] := by
  rw [ownPairs, h]

/-- **The target** of an address with pairs has them last behind its path. -/
theorem toList_target_withPairs (url : Url) (pairs : List (String × String)) :
    (url.withPairs pairs).target.toList =
      url.path ++ '?' :: (url.ownPairs ++ Form.encode pairs) := by
  rw [withPairs_eq]
  exact String.toList_ofList

end Url

theorem query_of_target_eq {path path' query query' : List Char} (h : '?' ∉ path)
    (h' : '?' ∉ path') (heq : path ++ '?' :: query = path' ++ '?' :: query') :
    path = path' ∧ query = query' := by
  have hspan := congrArg (List.span (· != '?')) heq
  rw [Form.span_append_cons h, Form.span_append_cons h'] at hspan
  simpa using hspan

end CandleArchive.Web
