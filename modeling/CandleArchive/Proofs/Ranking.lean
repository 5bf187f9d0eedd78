import CandleArchive.Proofs.Run
import CandleArchive.Proofs.Web.Exchange
import CandleArchive.Proofs.Web.Form
import CandleArchive.Proofs.Web.Url
import Mathlib.Data.List.Forall2

/-!
# The ranking of the web — a whole page or none

The ranking is one page of an answer. Entries come as objects, whose members may stand in any order
among others, or as lists; one of them that cannot be read spoils the page, wherever it stands and
also where it would have been cut off.

* `valuesOf`, `IsText`, `IsImage`, `IsEntry`: what an entry says, without the order in which it is
  read;
* `Slot`, `add_eq_some`, `foldlM_add_eq_some`, **`marketAsset?_eq_some`**: one member, all members, and
  an entry;
* `IsPage`, `readPage_eq_ok`, `not_isPage_of_unreadable`: a page, and what is taken of it;
* `sentOf`, `encode_rankingPairs`, `decode?_rankingPairs`: the request;
* **`ranking_all_or_nothing`**: the ranking behind any base address, for every answer.
-/

namespace CandleArchive

open Json (Tree Piece)

/-- The values of the members under a key, in order. -/
def valuesOf (key : String) (members : List (List Piece × Tree)) : List Tree :=
  (members.filter fun m => Json.text? m.1 = some key).map Prod.snd

/-- The tree is the text. -/
inductive IsText : Tree → String → Prop
  | intro {pieces : List Piece} {s : String} (decoded : Json.text? pieces = some s) :
      IsText (.text pieces) s

/-- The tree is the image of an asset: a text, or null for none. -/
inductive IsImage : Tree → String → Prop
  | null : IsImage .null ""
  | text {pieces : List Piece} {s : String} (decoded : Json.text? pieces = some s) :
      IsImage (.text pieces) s

/-- The tree is the entry of an asset. -/
inductive IsEntry : Tree → MarketAsset → Prop
  /-- An object whose keys are texts, with one symbol, one name and at most one image. -/
  | object {members : List (List Piece × Tree)} {symbol name image : String} {s n : Tree}
      (keys : ∀ m ∈ members, (Json.text? m.1).isSome)
      (symbols : valuesOf "symbol" members = [s]) (symbol_text : IsText s symbol)
      (names : valuesOf "name" members = [n]) (name_text : IsText n name)
      (images : valuesOf "image" members = [] ∧ image = "" ∨
        ∃ i, valuesOf "image" members = [i] ∧ IsImage i image) :
      IsEntry (.object members) ⟨symbol, name, image⟩
  /-- A list of the symbol and the name. -/
  | short {symbol name : String} {s n : Tree} (symbol_text : IsText s symbol)
      (name_text : IsText n name) : IsEntry (.list [s, n]) ⟨symbol, name, ""⟩
  /-- A list of the symbol, the name and the image. -/
  | long {symbol name image : String} {s n i : Tree} (symbol_text : IsText s symbol)
      (name_text : IsText n name) (image_text : IsImage i image) :
      IsEntry (.list [s, n, i]) ⟨symbol, name, image⟩

theorem textOf?_eq_some {tree : Tree} {s : String} : textOf? tree = some s ↔ IsText tree s := by
  constructor
  · intro h
    cases tree with
    | text pieces => exact .intro h
    | _ => cases h
  · rintro ⟨decoded⟩
    exact decoded

theorem imageOf?_eq_some {tree : Tree} {s : String} : imageOf? tree = some s ↔ IsImage tree s := by
  constructor
  · intro h
    cases tree with
    | null =>
      cases h
      exact .null
    | text pieces => exact .text h
    | _ => cases h
  · rintro (_ | decoded)
    · rfl
    · exact decoded

/-! ## Reading an entry -/

/-- A known member after the values that came for it: there was none, or it had no value before and
got one that can be read. -/
def Slot (read : Tree → Option String) (values : List Tree) (before after : Option String) : Prop :=
  values = [] ∧ after = before ∨
    before = none ∧ ∃ v, values = [v] ∧ (read v).isSome ∧ after = read v

section Slots

variable {read : Tree → Option String} {before after : Option String}

theorem slot_nil : Slot read [] before after ↔ after = before := by
  simp [Slot]

/-- Once a member has a value no other may come. -/
theorem slot_cons {v : Tree} {values : List Tree} :
    Slot read (v :: values) before after ↔
      before = none ∧ ∃ s, read v = some s ∧ Slot read values (some s) after := by
  simp only [Slot, reduceCtorEq, false_and, false_or, or_false, List.cons.injEq,
    Option.isSome_iff_exists]
  constructor
  · rintro ⟨hb, w, ⟨rfl, hvalues⟩, ⟨s, hs⟩, ha⟩
    exact ⟨hb, s, hs, hvalues, ha.trans hs⟩
  · rintro ⟨hb, s, hs, hvalues, ha⟩
    exact ⟨hb, v, ⟨rfl, hvalues⟩, ⟨s, hs⟩, ha.trans hs.symm⟩

theorem slot_singleton {v : Tree} :
    Slot read [v] before after ↔ before = none ∧ ∃ s, read v = some s ∧ after = some s := by
  simp only [slot_cons, slot_nil]

theorem slot_append {values more : List Tree} :
    Slot read (values ++ more) before after ↔
      ∃ between, Slot read values before between ∧ Slot read more between after := by
  induction values generalizing before with
  | nil => simp [slot_nil]
  | cons v values ih =>
    simp only [List.cons_append, slot_cons, ih]
    constructor
    · rintro ⟨hb, s, hs, between, hvalues, hmore⟩
      exact ⟨between, ⟨hb, s, hs, hvalues⟩, hmore⟩
    · rintro ⟨between, ⟨hb, s, hs, hvalues⟩, hmore⟩
      exact ⟨hb, s, hs, between, hvalues, hmore⟩

theorem slot_none_some {values : List Tree} {s : String} :
    Slot read values none (some s) ↔ ∃ v, values = [v] ∧ read v = some s := by
  simp only [Slot, reduceCtorEq, and_false, false_or, true_and]
  constructor
  · rintro ⟨v, hv, -, hs⟩
    exact ⟨v, hv, hs.symm⟩
  · rintro ⟨v, hv, hs⟩
    exact ⟨v, hv, by rw [hs]; rfl, hs.symm⟩

theorem slot_none_none {values : List Tree} : Slot read values none none ↔ values = [] := by
  simp only [Slot, and_true, true_and, or_iff_left_iff_imp]
  rintro ⟨v, -, hv, hnone⟩
  rw [← hnone] at hv
  contradiction

end Slots

theorem valuesOf_append (key : String) (members more : List (List Piece × Tree)) :
    valuesOf key (members ++ more) = valuesOf key members ++ valuesOf key more := by
  rw [valuesOf, List.filter_append, List.map_append]
  rfl

theorem valuesOf_singleton (key : String) (m : List Piece × Tree) :
    valuesOf key [m] = if Json.text? m.1 = some key then [m.2] else [] := by
  by_cases h : Json.text? m.1 = some key <;> simp [valuesOf, h]

theorem fill_eq_some {read : Tree → Option String} {before : Option String} {v : Tree}
    {put : String → EntryMembers} {next : EntryMembers} :
    (if before.isSome = true then none else (read v).bind fun s => pure (put s)) = some next ↔
      before = none ∧ ∃ s, read v = some s ∧ put s = next := by
  cases before with
  | none => simp [Option.bind_eq_some_iff]
  | some s => simp

theorem add_eq_some {known next : EntryMembers} {m : List Piece × Tree} :
    known.add m = some next ↔ (Json.text? m.1).isSome ∧
      Slot textOf? (valuesOf "symbol" [m]) known.symbol next.symbol ∧
      Slot textOf? (valuesOf "name" [m]) known.name next.name ∧
      Slot imageOf? (valuesOf "image" [m]) known.image next.image := by
  obtain ⟨symbol, name, image⟩ := known
  obtain ⟨symbol', name', image'⟩ := next
  simp only [valuesOf_singleton, EntryMembers.add]
  cases hkey : Json.text? m.1 with
  | none => simp
  | some key =>
    simp only [Option.bind_eq_bind, Option.bind_some]
    split
    case h_4 hs hn hi =>
      rw [if_neg (by simpa using hs), if_neg (by simpa using hn), if_neg (by simpa using hi)]
      simp only [slot_nil, Option.pure_def, Option.some.injEq, EntryMembers.mk.injEq,
        Option.isSome_some, true_and]
      grind
    all_goals
      rw [fill_eq_some]
      simp only [reduceIte, Option.some.injEq, String.reduceEq, slot_singleton, slot_nil,
        EntryMembers.mk.injEq, Option.isSome_some, true_and]
      grind

/-- **Members are read** one by one, but each known member sees only the values under its own key.
-/
theorem foldlM_add_eq_some {members : List (List Piece × Tree)} {known last : EntryMembers} :
    members.foldlM EntryMembers.add known = some last ↔
      (∀ m ∈ members, (Json.text? m.1).isSome) ∧
        Slot textOf? (valuesOf "symbol" members) known.symbol last.symbol ∧
        Slot textOf? (valuesOf "name" members) known.name last.name ∧
        Slot imageOf? (valuesOf "image" members) known.image last.image := by
  induction members generalizing known with
  | nil =>
    obtain ⟨symbol, name, image⟩ := known
    obtain ⟨symbol', name', image'⟩ := last
    have hnone : ∀ key, valuesOf key [] = [] := fun _ => rfl
    simp only [List.foldlM_nil, hnone, slot_nil, Option.pure_def, Option.some.injEq,
      EntryMembers.mk.injEq, List.not_mem_nil, false_imp_iff, implies_true, true_and]
    constructor <;> rintro ⟨rfl, rfl, rfl⟩ <;> exact ⟨rfl, rfl, rfl⟩
  | cons m members ih =>
    have hsplit : ∀ key, valuesOf key (m :: members) = valuesOf key [m] ++ valuesOf key members :=
      fun key => valuesOf_append key [m] members
    simp only [List.foldlM_cons, Option.bind_eq_bind, Option.bind_eq_some_iff, add_eq_some, ih, hsplit,
      slot_append, List.forall_mem_cons]
    constructor
    · rintro ⟨next, ⟨hkey, hs, hn, hi⟩, hkeys, hss, hns, his⟩
      exact ⟨⟨hkey, hkeys⟩, ⟨_, hs, hss⟩, ⟨_, hn, hns⟩, ⟨_, hi, his⟩⟩
    · rintro ⟨⟨hkey, hkeys⟩, ⟨symbol, hs, hss⟩, ⟨name, hn, hns⟩, ⟨image, hi, his⟩⟩
      exact ⟨⟨symbol, name, image⟩, ⟨hkey, hs, hn, hi⟩, hkeys, hss, hns, his⟩

/-- **An entry is read as it says.** -/
theorem marketAsset?_eq_some {tree : Tree} {asset : MarketAsset} :
    marketAsset? tree = some asset ↔ IsEntry tree asset := by
  constructor
  · intro h
    unfold marketAsset? at h
    split at h
    · rename_i members
      simp only [Option.bind_eq_bind, Option.bind_eq_some_iff, foldlM_add_eq_some] at h
      obtain ⟨⟨symbol, name, image⟩, ⟨hkeys, hs, hn, hi⟩, s, rfl, n, rfl, hasset⟩ := h
      cases hasset
      obtain ⟨sv, hsv, hs⟩ := slot_none_some.mp hs
      obtain ⟨nv, hnv, hn⟩ := slot_none_some.mp hn
      refine .object hkeys hsv (textOf?_eq_some.mp hs) hnv (textOf?_eq_some.mp hn) ?_
      cases image with
      | none => exact .inl ⟨slot_none_none.mp hi, rfl⟩
      | some i =>
        obtain ⟨iv, hiv, hi⟩ := slot_none_some.mp hi
        exact .inr ⟨iv, hiv, imageOf?_eq_some.mp hi⟩
    · simp only [Option.bind_eq_bind, Option.bind_eq_some_iff] at h
      obtain ⟨s, hs, n, hn, hasset⟩ := h
      cases hasset
      exact .short (textOf?_eq_some.mp hs) (textOf?_eq_some.mp hn)
    · simp only [Option.bind_eq_bind, Option.bind_eq_some_iff] at h
      obtain ⟨s, hs, n, hn, i, hi, hasset⟩ := h
      cases hasset
      exact .long (textOf?_eq_some.mp hs) (textOf?_eq_some.mp hn) (imageOf?_eq_some.mp hi)
    · contradiction
  · intro h
    cases h with
    | @object members symbol name image s n hkeys hsv hs hnv hn hi =>
      have hread : ∀ image?, Slot imageOf? (valuesOf "image" members) none image? →
          members.foldlM EntryMembers.add {} = some ⟨some symbol, some name, image?⟩ :=
        fun image? hi => foldlM_add_eq_some.mpr
          ⟨hkeys, slot_none_some.mpr ⟨s, hsv, textOf?_eq_some.mpr hs⟩,
            slot_none_some.mpr ⟨n, hnv, textOf?_eq_some.mpr hn⟩, hi⟩
      rcases hi with ⟨hi, rfl⟩ | ⟨i, hiv, hi⟩
      · rw [marketAsset?, hread none (slot_none_none.mpr hi)]
        rfl
      · rw [marketAsset?, hread _ (slot_none_some.mpr ⟨i, hiv, imageOf?_eq_some.mpr hi⟩)]
        rfl
    | short hs hn => simp [marketAsset?, textOf?_eq_some.mpr hs, textOf?_eq_some.mpr hn]
    | long hs hn hi =>
      simp [marketAsset?, textOf?_eq_some.mpr hs, textOf?_eq_some.mpr hn, imageOf?_eq_some.mpr hi]

/-! ## Reading a page -/

theorem mapM_marketAsset?_eq_some {items : List Tree} {entries : List MarketAsset} :
    items.mapM marketAsset? = some entries ↔ List.Forall₂ IsEntry items entries := by
  induction items generalizing entries with
  | nil => simp [eq_comm]
  | cons item items ih =>
    simp only [List.mapM_cons, Option.bind_eq_bind, Option.bind_eq_some_iff, marketAsset?_eq_some, ih]
    constructor
    · rintro ⟨entry, hentry, entries, hentries, h⟩
      cases h
      exact .cons hentry hentries
    · rintro (_ | ⟨hentry, hentries⟩)
      exact ⟨_, hentry, _, hentries, rfl⟩

/-- The answer is a page of the entries: a success whose whole body is a list of them. -/
def IsPage (answer : Web.Answer) (entries : List MarketAsset) : Prop :=
  ∃ status bytes items, answer = .response status (some bytes) ∧ 200 ≤ status ∧ status ≤ 299 ∧
    Json.tree? bytes = some (.list items) ∧ List.Forall₂ IsEntry items entries

theorem marketAssets?_eq_some {bytes : List UInt8} {entries : List MarketAsset} :
    marketAssets? bytes = some entries ↔
      ∃ items, Json.tree? bytes = some (.list items) ∧ List.Forall₂ IsEntry items entries := by
  rw [marketAssets?]
  split
  · rename_i items htree
    simp only [mapM_marketAsset?_eq_some, htree, Option.some.injEq, Tree.list.injEq, exists_eq_left']
  · rename_i hnot
    simp only [reduceCtorEq, false_iff, not_exists, not_and]
    exact fun items htree => absurd htree (hnot items)

theorem isPage_iff {answer : Web.Answer} {entries : List MarketAsset} :
    IsPage answer entries ↔ answer.Carries marketAssets? entries := by
  constructor
  · rintro ⟨status, bytes, items, h, hlo, hhi, htree, hentries⟩
    exact ⟨status, bytes, h, hlo, hhi, marketAssets?_eq_some.mpr ⟨items, htree, hentries⟩⟩
  · rintro ⟨status, bytes, h, hlo, hhi, hread⟩
    obtain ⟨items, htree, hentries⟩ := marketAssets?_eq_some.mp hread
    exact ⟨status, bytes, items, h, hlo, hhi, htree, hentries⟩

theorem isPage_response {status : Nat} {body : Option (List UInt8)} {entries : List MarketAsset} :
    IsPage (.response status body) entries ↔
      Web.isSuccess status ∧ body.bind marketAssets? = some entries :=
  isPage_iff.trans Web.Answer.carries_response

theorem isPage_about {request : Web.Request} {answer : Web.Answer} {entries : List MarketAsset} :
    IsPage (answer.about request) entries ↔ IsPage answer entries := by
  rw [isPage_iff, isPage_iff, Web.Answer.carries_about]

theorem readPage_eq_ok {url : String} {perPage : Nat} {answer : Web.Answer}
    {assets : List MarketAsset} :
    (readPage url perPage answer).1 = .ok assets ↔
      ∃ entries, IsPage answer entries ∧ assets = entries.take perPage := by
  cases answer with
  | unreachable reason => simp [readPage, IsPage]
  | response status body =>
    simp only [isPage_response, readPage]
    by_cases hs : Web.isSuccess status = true
    · cases hbody : body.bind marketAssets? with
      | none => simp [hs]
      | some entries => simp [hs, eq_comm]
    · simp [hs]

/-- **One entry that cannot be read spoils the page**, wherever it stands. -/
theorem not_isPage_of_unreadable {status : Nat} {bytes : List UInt8} {items : List Tree}
    (htree : Json.tree? bytes = some (.list items))
    (hbad : ∃ item ∈ items, ∀ asset, ¬ IsEntry item asset) (entries : List MarketAsset) :
    ¬ IsPage (.response status (some bytes)) entries := by
  rintro ⟨_, _, items', ⟨rfl, rfl⟩, -, -, htree', hentries⟩
  obtain rfl : items' = items := by simpa [htree'] using htree
  obtain ⟨item, hitem, hbad⟩ := hbad
  obtain ⟨i, hi, rfl⟩ := List.mem_iff_getElem.mp hitem
  obtain ⟨hlength, hread⟩ := List.forall₂_iff_get.mp hentries
  exact hbad _ (hread i hi (hlength ▸ hi))

/-! ## The request -/

/-- The request that an event sends. -/
def Event.sent? : Event → Option Web.Request
  | sent request => some request
  | asked .. | logged _ => none

/-- The requests that were sent among the events, in order. -/
def sentOf (events : List Event) : List Web.Request := events.filterMap Event.sent?

theorem sentOf_sent (requests : List Web.Request) : sentOf (requests.map .sent) = requests := by
  simp [sentOf, Event.sent?, List.filterMap_map, Function.comp_def]

theorem sentOf_logged (lines : List LogLine) : sentOf (lines.map .logged) = [] := by
  simp [sentOf, Event.sent?, List.filterMap_map, Function.comp_def]

theorem sentOf_append (events more : List Event) :
    sentOf (events ++ more) = sentOf events ++ sentOf more :=
  List.filterMap_append

theorem sentOf_cons_logged (line : LogLine) (events : List Event) :
    sentOf (.logged line :: events) = sentOf events := rfl

section Behind

variable (parse : Web.UrlParser) (transport : Web.Transport) (base : String) {count : Nat}

theorem behind_zero : Ranking.behind parse transport base 0 = { assets := .ok [] } := rfl

section Positive

variable (hc : count ≠ 0)
include hc

theorem sentOf_behind :
    sentOf (Ranking.behind parse transport base count).events =
      (Web.fetch parse transport (Web.joinPath base "/coins/markets")
        (rankingPairs (min count maxPerPage))).sent.toList := by
  rw [Ranking.behind, if_neg hc]
  rw [sentOf_append, sentOf_cons_logged, sentOf_sent, sentOf_logged, List.append_nil]

theorem assets_behind :
    (Ranking.behind parse transport base count).assets =
      (readPage (Web.joinPath base "/coins/markets") (min count maxPerPage)
        (Web.fetch parse transport (Web.joinPath base "/coins/markets")
          (rankingPairs (min count maxPerPage))).answer).1 := by
  rw [Ranking.behind, if_neg hc]

end Positive

end Behind

/-- **The query for a page** names the number of entries in decimal. -/
theorem encode_rankingPairs (perPage : Nat) :
    Web.Form.encode (rankingPairs perPage) =
      ("vs_currency=usd&order=market_cap_desc&per_page=" ++ toString perPage ++ "&page=1").toList := by
  have hquote : Web.Form.encodePair ("vs_currency", "usd") = "vs_currency=usd".toList := by
    decide +kernel
  have horder : Web.Form.encodePair ("order", "market_cap_desc") =
      "order=market_cap_desc".toList := by
    decide +kernel
  have hperPage : Web.Form.encodeText "per_page" = "per_page".toList := by decide +kernel
  have hpage : Web.Form.encodePair ("page", "1") = "page=1".toList := by decide +kernel
  simp only [rankingPairs, Web.Form.encode, hquote, horder, hpage]
  rw [Web.Form.encodePair, hperPage, Web.Form.encodeText_toString]
  simp only [String.toList_append]
  rfl

theorem decode?_rankingPairs (perPage : Nat) :
    Web.Form.decode? (Web.Form.encode (rankingPairs perPage)) =
      some [("vs_currency", "usd"), ("order", "market_cap_desc"), ("per_page", toString perPage),
        ("page", "1")] :=
  Web.Form.decode?_encode _

/-! ## Whole fetches -/

section Fetches

variable {parse : Web.UrlParser} {base : String} {count : Nat}

section Addresses

variable (transport : Web.Transport)

theorem behind_of_no_address (hc : count ≠ 0) {reason : String}
    (hurl : parse (Web.joinPath base "/coins/markets") = .error reason) :
    sentOf (Ranking.behind parse transport base count).events = [] ∧
      ∃ failure, (Ranking.behind parse transport base count).assets = .error failure := by
  rw [sentOf_behind parse transport base hc, assets_behind parse transport base hc,
    Web.fetch_of_error hurl]
  exact ⟨rfl, _, rfl⟩

/-- **With an address one request is sent**, and the ranking is taken from its answer. -/
theorem behind_of_address (hc : count ≠ 0) {url : Web.Url}
    (hurl : parse (Web.joinPath base "/coins/markets") = .ok url) :
    let request : Web.Request := ⟨url.withPairs (rankingPairs (min count 250)), Web.userAgent⟩
    sentOf (Ranking.behind parse transport base count).events = [request] ∧
      ∀ assets, (Ranking.behind parse transport base count).assets = .ok assets ↔
        ∃ entries, IsPage (transport request) entries ∧ assets = entries.take (min count 250) := by
  intro request
  rw [sentOf_behind parse transport base hc, assets_behind parse transport base hc,
    Web.fetch_of_ok hurl]
  refine ⟨rfl, fun assets => ?_⟩
  simp only [readPage_eq_ok, isPage_about]
  rfl

end Addresses

theorem length_le_of_behind {transport : Web.Transport} {assets : List MarketAsset}
    (h : (Ranking.behind parse transport base count).assets = .ok assets) :
    assets.length ≤ min count 250 := by
  by_cases hc : count = 0
  · subst hc
    rw [behind_zero] at h
    obtain rfl := Except.ok.inj h
    exact Nat.zero_le _
  · cases hurl : parse (Web.joinPath base "/coins/markets") with
    | error reason =>
      obtain ⟨failure, hfailure⟩ := (behind_of_no_address transport hc hurl).2
      cases h.symm.trans hfailure
    | ok url =>
      obtain ⟨entries, -, rfl⟩ := ((behind_of_address transport hc hurl).2 assets).mp h
      exact List.length_take_le _ _

theorem run_of_unranked {settings : RunSettings} {ranking : Ranking} {failure : SourceFailure}
    (ha : (ranking settings.topN).assets = .error failure) (source : CandleSource) (store : Store)
    (now : Nat) :
    (run settings ranking source store now).outcome = .error (.sourceUnavailable failure) := by
  simp only [run, ha]

end Fetches

/-- What is asked of the ranking: the first page, with so many entries on it. Its pairs stand last in
the target, and alone behind the first question mark unless the base has a question mark. -/
structure AsksForPage (parse : Web.UrlParser) (base : String) (perPage : Nat) (url : Web.Url)
    (request : Web.Request) (query : List Char) : Prop where
  sent : request = ⟨{ url with query := some (url.ownPairs ++ query) }, Web.userAgent⟩
  target : request.url.target.toList = url.path ++ '?' :: (url.ownPairs ++ query)
  text : query =
    ("vs_currency=usd&order=market_cap_desc&per_page=" ++ toString perPage ++ "&page=1").toList
  pairs : Web.Form.decode? query =
    some [("vs_currency", "usd"), ("order", "market_cap_desc"), ("per_page", toString perPage),
      ("page", "1")]
  alone : parse.Marks → '?' ∉ base.toList → url.ownPairs = [] ∧ '?' ∉ url.path

theorem asksForPage {parse : Web.UrlParser} {base : String} {url : Web.Url}
    (hurl : parse (Web.joinPath base "/coins/markets") = .ok url) (perPage : Nat) :
    AsksForPage parse base perPage url ⟨url.withPairs (rankingPairs perPage), Web.userAgent⟩
      (Web.Form.encode (rankingPairs perPage)) where
  sent := by rw [Web.Url.withPairs_eq]
  target := Web.Url.toList_target_withPairs url _
  text := encode_rankingPairs perPage
  pairs := decode?_rankingPairs perPage
  alone hmarks hbase := by
    have hmark : '?' ∉ (Web.joinPath base "/coins/markets").toList :=
      Web.notMem_joinPath hbase (by decide)
    exact ⟨Web.Url.ownPairs_of_no_query (hmarks.query hurl hmark), hmarks.path hurl⟩

/-- **The ranking is all or nothing**: the first entries of a page of at most 250, or a failure
where no page comes back or any entry cannot be read. -/
theorem ranking_all_or_nothing (parse : Web.UrlParser) (transport : Web.Transport) (base : String)
    (count : Nat) :
    let reply := Ranking.behind parse transport base count
    let perPage := min count 250
    let address := parse (Web.joinPath base "/coins/markets")
    (count = 0 → reply.assets = .ok [] ∧ reply.events = []) ∧
      (count ≠ 0 →
        ((∃ reason, address = .error reason) ∧ sentOf reply.events = [] ∧
            ∃ failure, reply.assets = .error failure) ∨
          ∃ url request query, address = .ok url ∧ sentOf reply.events = [request] ∧
            AsksForPage parse base perPage url request query ∧
            (∀ assets, reply.assets = .ok assets ↔
              ∃ entries, IsPage (transport request) entries ∧ assets = entries.take perPage) ∧
            ∀ status bytes items, transport request = .response status (some bytes) →
              Json.tree? bytes = some (.list items) →
                (∃ item ∈ items, ∀ asset, ¬ IsEntry item asset) →
                  ∃ failure, reply.assets = .error failure) ∧
      (∀ assets, reply.assets = .ok assets → assets.length ≤ perPage) ∧
      ∀ failure, reply.assets = .error failure →
        ∀ (settings : RunSettings) (source : CandleSource) (store : Store) (now : Nat),
          settings.topN = count →
            (run settings (Ranking.behind parse transport base) source store now).outcome =
              .error (.sourceUnavailable failure) := by
  intro reply perPage address
  refine ⟨?_, fun hc => ?_, fun assets => length_le_of_behind, ?_⟩
  · rintro rfl
    exact ⟨rfl, rfl⟩
  · cases hurl : address with
    | error reason => exact .inl ⟨⟨reason, rfl⟩, behind_of_no_address transport hc hurl⟩
    | ok url =>
      obtain ⟨hsent, hread⟩ := behind_of_address transport hc hurl
      refine .inr ⟨url, _, _, rfl, hsent, asksForPage hurl perPage, hread,
        fun status bytes items hanswer htree hbad => ?_⟩
      cases hreply : reply.assets with
      | error failure => exact ⟨failure, rfl⟩
      | ok assets =>
        obtain ⟨entries, hentries, -⟩ := (hread assets).mp hreply
        rw [hanswer] at hentries
        exact absurd hentries (not_isPage_of_unreadable htree hbad entries)
  · rintro failure hfailure settings source store now rfl
    exact run_of_unranked hfailure source store now

/-- A network that answers every request with the body. -/
def SmallRun.network (body : String) : Web.Transport := fun _ => .response 200 (some (Text.utf8 body))

/-- An entry with its members in another order and one more, and an entry as a list. -/
def SmallRun.entries : String :=
  "\x7b\"name\":\"Bitcoin\",\"rank\":1,\"symbol\":\"btc\",\"image\":null\x7d,[\"eth\",\"Ether\"]"

/-- A page of these. -/
def SmallRun.page : String := "[" ++ SmallRun.entries ++ "]"

/-- The same page with an entry at its end whose image is a number. -/
def SmallRun.spoiltPage : String := "[" ++ SmallRun.entries ++ ",[\"x\",\"X\",5]]"

/-- The first of two entries, and nothing where the image of a third one is a number. -/
theorem ranking_all_or_nothing_small :
    (∃ request, sentOf (Ranking.ofWeb (SmallRun.network SmallRun.page) "http://host/" 1).events =
        [request] ∧
        request.url.target.toList =
          "/coins/markets?vs_currency=usd&order=market_cap_desc&per_page=1&page=1".toList) ∧
      (Ranking.ofWeb (SmallRun.network SmallRun.page) "http://host/" 1).assets =
        .ok [⟨"btc", "Bitcoin", ""⟩] ∧
      ∃ failure, (Ranking.ofWeb (SmallRun.network SmallRun.spoiltPage) "http://host/" 1).assets =
        .error failure := by
  have haddress : Web.Url.parse (Web.joinPath "http://host/" "/coins/markets") =
      .ok ⟨"http", "host", "/coins/markets".toList, none, none⟩ := by
    decide +kernel
  have hpage : IsPage (.response 200 (some (Text.utf8 SmallRun.page)))
      [⟨"btc", "Bitcoin", ""⟩, ⟨"eth", "Ether", ""⟩] :=
    isPage_response.mpr ⟨rfl, by decide +kernel⟩
  have hspoilt : ∀ entries,
      ¬ IsPage (.response 200 (some (Text.utf8 SmallRun.spoiltPage))) entries := by
    intro entries h
    have hnone : marketAssets? (Text.utf8 SmallRun.spoiltPage) = none := by decide +kernel
    obtain ⟨-, hsome⟩ := isPage_response.mp h
    cases hnone.symm.trans hsome
  obtain ⟨-, hfetch, -⟩ :=
    ranking_all_or_nothing Web.Url.parse (SmallRun.network SmallRun.page) "http://host/" 1
  obtain ⟨-, hspoiltFetch, -⟩ :=
    ranking_all_or_nothing Web.Url.parse (SmallRun.network SmallRun.spoiltPage) "http://host/" 1
  obtain ⟨url, request, query, hurl, hsent, hasks, hread, -⟩ :=
    (hfetch one_ne_zero).resolve_left fun ⟨⟨reason, he⟩, _⟩ => by cases haddress.symm.trans he
  obtain rfl := Except.ok.inj (haddress.symm.trans hurl)
  refine ⟨⟨request, hsent, ?_⟩, (hread _).mpr ⟨_, hpage, rfl⟩, ?_⟩
  · rw [hasks.target, hasks.text]
    decide +kernel
  · rcases hspoiltFetch one_ne_zero with ⟨-, -, hfailure⟩ | ⟨_, request, _, -, -, -, hread, -⟩
    · exact hfailure
    · cases hreply : (Ranking.ofWeb (SmallRun.network SmallRun.spoiltPage) "http://host/" 1).assets with
      | error failure => exact ⟨failure, rfl⟩
      | ok assets =>
        obtain ⟨entries, hentries, -⟩ := (hread assets).mp hreply
        exact absurd hentries (hspoilt entries)

end CandleArchive
