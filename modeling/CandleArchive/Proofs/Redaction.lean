import CandleArchive.Program
import CandleArchive.Proofs.Text.Utf8

/-!
# Redaction — what a log shows of an address

The credentials of an address stand between its first `://` and its last at sign. What the log shows
of the address is made of what stands around them, so addresses that differ in their credentials
alone cannot be told apart, whatever characters the credentials hold.

* `splitScheme?_eq_some`, `afterLast?_eq_some`: the two searches;
* `Credentials`, `exists_credentials`, `Credentials.exchange`: the parts of an address;
* `redact_of_credentials`, `redact_of_no_places`, `redact_redact`, `utf8_redact`: what is shown;
* `log_programOfConfig_congr`: the log of the program;
* **`redaction_hides_credentials`**: all of it, down to the log of the program.
-/

namespace CandleArchive.Database

open Text (utf8 FirstAt LastAt)

/-! ## The two searches -/

section Searches

variable {cs scheme rest : List Char} {x : Char}

theorem eq_append_of_splitScheme? (h : splitScheme? cs = some (scheme, rest)) :
    cs = scheme ++ "://".toList ++ rest := by
  fun_induction splitScheme? cs generalizing scheme rest with
  | case1 => contradiction
  | case2 cs =>
    cases h
    rfl
  | case3 c cs _ ih =>
    obtain ⟨⟨before, after⟩, hsplit, hparts⟩ := Option.map_eq_some_iff.mp h
    cases hparts
    rw [ih hsplit]
    rfl

theorem exists_splitScheme? {left right : List Char} (h : cs = left ++ "://".toList ++ right) :
    ∃ scheme rest, splitScheme? cs = some (scheme, rest) ∧ scheme <+: left := by
  fun_induction splitScheme? cs generalizing left with
  | case1 => simp at h
  | case2 cs => exact ⟨[], cs, rfl, List.nil_prefix⟩
  | case3 c cs hmark ih =>
    cases left with
    | nil =>
      obtain ⟨rfl, rfl⟩ := List.cons.inj h
      exact absurd rfl (hmark _ rfl)
    | cons c' left =>
      obtain ⟨rfl, hcs⟩ := List.cons.inj h
      obtain ⟨scheme, rest, hsplit, hscheme⟩ := ih hcs
      exact ⟨c :: scheme, rest, by rw [hsplit]; rfl, List.cons_prefix_cons.mpr ⟨rfl, hscheme⟩⟩

theorem splitScheme?_eq_some :
    splitScheme? cs = some (scheme, rest) ↔ cs = scheme ++ "://".toList ++ rest ∧
      ∀ left right, cs = left ++ "://".toList ++ right → scheme <+: left := by
  constructor
  · intro h
    refine ⟨eq_append_of_splitScheme? h, fun left right hcs => ?_⟩
    obtain ⟨scheme', rest', h', hprefix⟩ := exists_splitScheme? hcs
    cases h.symm.trans h'
    exact hprefix
  · rintro ⟨hcs, hfirst⟩
    obtain ⟨scheme', rest', h', hprefix⟩ := exists_splitScheme? hcs
    have hcs' := eq_append_of_splitScheme? h'
    obtain rfl := (hfirst _ _ hcs').eq_of_length_le hprefix.length_le
    rw [h', List.append_cancel_left (hcs'.symm.trans hcs)]

theorem afterLast?_eq_none : afterLast? x cs = none ↔ x ∉ cs := by
  induction cs with
  | nil => simp [afterLast?]
  | cons c cs ih =>
    rw [afterLast?, List.mem_cons, not_or, ← ih, eq_comm (a := x)]
    cases afterLast? x cs with
    | some rest => simp
    | none => by_cases hc : c = x <;> simp [hc]

theorem afterLast?_eq_some :
    afterLast? x cs = some rest ↔ ∃ before, cs = before ++ x :: rest ∧ x ∉ rest := by
  induction cs generalizing rest with
  | nil => simp [afterLast?]
  | cons c cs ih =>
    have hcons : (∃ before, c :: cs = before ++ x :: rest ∧ x ∉ rest) ↔
        (c = x ∧ cs = rest ∧ x ∉ cs) ∨ afterLast? x cs = some rest := by
      rw [ih]
      constructor
      · rintro ⟨before, h, hrest⟩
        cases before with
        | nil =>
          obtain ⟨rfl, rfl⟩ := List.cons.inj h
          exact .inl ⟨rfl, rfl, hrest⟩
        | cons b before => exact .inr ⟨before, (List.cons.inj h).2, hrest⟩
      · rintro (⟨rfl, rfl, hrest⟩ | ⟨before, rfl, hrest⟩)
        · exact ⟨[], rfl, hrest⟩
        · exact ⟨c :: before, rfl, hrest⟩
    rw [hcons, afterLast?, ← afterLast?_eq_none]
    cases afterLast? x cs with
    | some last => simp
    | none => by_cases hc : c = x <;> simp [hc]

end Searches

/-! ## The parts of an address -/

theorem startsAscii_mark : Text.StartsAscii "://" := ⟨':', ['/', '/'], rfl, by decide⟩

theorem startsAscii_at : Text.StartsAscii "@" := ⟨'@', [], rfl, by decide⟩

/-- The address has the credentials `secret` between its first mark and its last at sign. -/
structure Credentials (url scheme secret server : String) : Prop where
  parts : url = scheme ++ "://" ++ secret ++ "@" ++ server
  first : FirstAt "://" url (utf8 scheme).length
  last : LastAt "@" url (utf8 (scheme ++ "://" ++ secret)).length

section Parts

variable {url scheme secret server : String} {i j : ℕ}

theorem exists_secret {between rest server : String}
    (h : "://" ++ rest = between ++ "@" ++ server) : ∃ secret, between = "://" ++ secret := by
  have hchars : "://".toList ++ rest.toList = between.toList ++ '@' :: server.toList := by
    simpa [String.toList_append] using congrArg String.toList h
  rcases List.append_eq_append_iff.mp hchars with ⟨secret, hsecret, -⟩ | ⟨more, hmark, hmore⟩
  · exact ⟨.ofList secret, String.toList_injective (by simp [hsecret])⟩
  · cases more with
    | nil => exact ⟨"", String.toList_injective (by simpa using hmark.symm)⟩
    | cons c more =>
      obtain ⟨rfl, -⟩ := List.cons.inj hmore
      have hat : '@' ∈ "://".toList := by
        rw [hmark]
        simp
      exact absurd hat (by decide)

/-- **The credentials** of an address whose last at sign stands behind its first mark. -/
theorem exists_credentials (hi : FirstAt "://" url i) (hj : LastAt "@" url j) (hij : i < j) :
    ∃ scheme secret server, Credentials url scheme secret server ∧ (utf8 scheme).length = i ∧
      (utf8 (scheme ++ "://" ++ secret)).length = j := by
  obtain ⟨scheme, rest, hrest, rfl, -⟩ := (Text.firstAt_iff startsAscii_mark).mp hi
  obtain ⟨before, server, hserver, rfl, -⟩ := (Text.lastAt_iff startsAscii_at).mp hj
  have hle := Nat.le_of_lt hij
  have hsplit : scheme ++ ("://" ++ rest) = before ++ ("@" ++ server) := by
    rw [← String.append_assoc, ← String.append_assoc, ← hrest, hserver]
  obtain ⟨between, rfl⟩ := Text.exists_append_of_length_le hsplit hle
  rw [String.append_assoc, String.append_right_inj, ← String.append_assoc] at hsplit
  obtain ⟨secret, rfl⟩ := exists_secret hsplit
  rw [← String.append_assoc] at hserver hj ⊢
  exact ⟨scheme, secret, server, ⟨hserver, hi, hj⟩, rfl, rfl⟩

theorem Credentials.prefix_of_mark (h : Credentials url scheme secret server)
    {left right : List Char} (hurl : url.toList = left ++ "://".toList ++ right) :
    scheme.toList <+: left := by
  have hparts : url = .ofList left ++ "://" ++ .ofList right :=
    String.toList_injective (by simpa [String.toList_append] using hurl)
  obtain ⟨-, -, -, -, hfirst⟩ := (Text.firstAt_iff startsAscii_mark).mp h.first
  have hsplit : scheme ++ ("://" ++ secret ++ "@" ++ server) =
      .ofList left ++ ("://" ++ .ofList right) := by
    simpa only [String.append_assoc] using h.parts.symm.trans hparts
  obtain ⟨between, hleft⟩ := Text.exists_append_of_length_le hsplit (hfirst _ _ hparts)
  exact ⟨between.toList, by rw [← String.toList_append, ← hleft, String.toList_ofList]⟩

theorem Credentials.notMem_server (h : Credentials url scheme secret server) :
    '@' ∉ server.toList := by
  intro hmem
  obtain ⟨left, right, hserver⟩ := List.append_of_mem hmem
  have hparts : url = scheme ++ "://" ++ secret ++ ("@" ++ .ofList left) ++ "@" ++ .ofList right :=
    String.toList_injective (by simp [h.parts, String.toList_append, hserver])
  obtain ⟨-, -, -, -, hlast⟩ := (Text.lastAt_iff startsAscii_at).mp h.last
  have hle := hlast _ _ hparts
  have hone : (utf8 "@").length = 1 := by decide +kernel
  rw [Text.utf8_append _ ("@" ++ _), Text.utf8_append "@", List.length_append, List.length_append,
    hone] at hle
  omega

theorem lastAt_of_notMem {left right : String} (h : '@' ∉ right.toList) :
    LastAt "@" (left ++ "@" ++ right) (utf8 left).length := by
  refine (Text.lastAt_iff startsAscii_at).mpr ⟨left, right, rfl, rfl, fun before after hparts => ?_⟩
  by_contra hlt
  have hsplit : left ++ ("@" ++ right) = before ++ ("@" ++ after) := by
    simpa only [String.append_assoc] using hparts
  obtain ⟨between, rfl⟩ := Text.exists_append_of_length_le hsplit (by omega)
  rw [String.append_assoc, String.append_right_inj] at hsplit
  have hchars : '@' :: right.toList = between.toList ++ '@' :: after.toList := by
    simpa [String.toList_append] using congrArg String.toList hsplit
  cases hbetween : between.toList with
  | nil =>
    rw [String.toList_eq_nil_iff.mp hbetween, String.append_empty] at hlt
    exact hlt (Nat.le_refl _)
  | cons c cs =>
    rw [hbetween] at hchars
    obtain ⟨-, hright⟩ := List.cons.inj hchars
    exact h (hright ▸ List.mem_append_right _ List.mem_cons_self)

/-- **Credentials may be exchanged** for any others. -/
theorem Credentials.exchange (h : Credentials url scheme secret server) (other : String) :
    Credentials (scheme ++ "://" ++ other ++ "@" ++ server) scheme other server where
  parts := rfl
  first := by
    have hshape : ∀ s, scheme ++ "://" ++ s ++ "@" ++ server =
        scheme ++ "://" ++ (s ++ "@" ++ server) := fun s => by simp only [String.append_assoc]
    have hfirst := h.first
    rw [h.parts, hshape] at hfirst
    rw [hshape]
    exact hfirst.append_congr _
  last := lastAt_of_notMem h.notMem_server

/-- **What is shown** of an address with credentials. -/
theorem redact_of_credentials (h : Credentials url scheme secret server) :
    redact url = scheme ++ "://***@" ++ server := by
  have hsplit : splitScheme? url.toList =
      some (scheme.toList, secret.toList ++ '@' :: server.toList) := by
    refine splitScheme?_eq_some.mpr ⟨?_, fun left right hurl => h.prefix_of_mark hurl⟩
    simp [h.parts, String.toList_append]
  have hlast : afterLast? '@' (secret.toList ++ '@' :: server.toList) = some server.toList :=
    afterLast?_eq_some.mpr ⟨_, rfl, h.notMem_server⟩
  apply String.toList_injective
  rw [redact, redactChars, hsplit]
  simp only [hlast, String.toList_ofList, String.toList_append]

theorem credentials_or_redact_eq (url : String) :
    (∃ scheme secret server, Credentials url scheme secret server) ∨ redact url = url := by
  rw [redact, redactChars]
  cases hsplit : splitScheme? url.toList with
  | none => exact .inr String.ofList_toList
  | some parts =>
    obtain ⟨scheme, rest⟩ := parts
    dsimp only
    cases hlast : afterLast? '@' rest with
    | none => exact .inr String.ofList_toList
    | some server =>
      obtain ⟨secret, rfl, hserver⟩ := afterLast?_eq_some.mp hlast
      obtain ⟨hurl, hfirst⟩ := splitScheme?_eq_some.mp hsplit
      have hparts : url = .ofList scheme ++ "://" ++ .ofList secret ++ "@" ++ .ofList server :=
        String.toList_injective (by simpa [String.toList_append] using hurl)
      refine .inl ⟨.ofList scheme, .ofList secret, .ofList server, hparts, ?_, ?_⟩
      · refine (Text.firstAt_iff startsAscii_mark).mpr
          ⟨_, .ofList secret ++ "@" ++ .ofList server, ?_, rfl, fun before after h => ?_⟩
        · simpa only [String.append_assoc] using hparts
        · obtain ⟨more, hmore⟩ := hfirst before.toList after.toList (by rw [h]; simp)
          have hbefore : before = .ofList scheme ++ .ofList more :=
            String.toList_injective (by simp [hmore])
          rw [hbefore, Text.utf8_append, List.length_append]
          exact Nat.le_add_right _ _
      · rw [hparts]
        exact lastAt_of_notMem (by simpa using hserver)

theorem redact_redact (url : String) : redact (redact url) = redact url := by
  rcases credentials_or_redact_eq url with ⟨scheme, secret, server, h⟩ | h
  · have hshown : scheme ++ "://***@" ++ server = scheme ++ "://" ++ "***" ++ "@" ++ server := by
      apply String.toList_injective
      simp [String.toList_append]
    rw [redact_of_credentials h, hshown, redact_of_credentials (h.exchange "***"), hshown]
  · rw [h, h]

/-- **The bytes that are shown** are those before the mark and those behind the at sign; neither cut
splits a character. -/
theorem utf8_redact (hi : FirstAt "://" url i) (hj : LastAt "@" url j) (hij : i < j) :
    (⟨i⟩ : String.Pos.Raw).IsValid url ∧ (⟨j + 1⟩ : String.Pos.Raw).IsValid url ∧
      utf8 (redact url) = (utf8 url).take i ++ utf8 "://***@" ++ (utf8 url).drop (j + 1) := by
  obtain ⟨scheme, secret, server, h, hscheme, hsecret⟩ := exists_credentials hi hj hij
  have hfront : url = scheme ++ ("://" ++ secret ++ "@" ++ server) := by
    simpa only [String.append_assoc] using h.parts
  have hback : (utf8 (scheme ++ "://" ++ secret ++ "@")).length = j + 1 := by
    have hone : (utf8 "@").length = 1 := by decide +kernel
    rw [Text.utf8_append _ "@", List.length_append, hsecret, hone]
  refine ⟨?_, ?_, ?_⟩
  · rw [hfront, ← hscheme]
    exact Text.isValid_append _ _
  · rw [h.parts, ← hback]
    exact Text.isValid_append _ _
  · have htake : (utf8 url).take i = utf8 scheme := by
      rw [hfront, Text.utf8_append, ← hscheme, List.take_left]
    have hdrop : (utf8 url).drop (j + 1) = utf8 server := by
      rw [h.parts, Text.utf8_append, ← hback, List.drop_left]
    rw [redact_of_credentials h, htake, hdrop, Text.utf8_append, Text.utf8_append]

theorem redact_of_no_places
    (h : ∀ i j, FirstAt "://" url i → LastAt "@" url j → j ≤ i) : redact url = url := by
  rcases credentials_or_redact_eq url with ⟨scheme, secret, server, hc⟩ | hurl
  · have hle := h _ _ hc.first hc.last
    have hmark : (utf8 "://").length = 3 := by decide +kernel
    rw [Text.utf8_append _ secret, Text.utf8_append, List.length_append, List.length_append,
      hmark] at hle
    omega
  · exact hurl

end Parts

/-! ## The log of the program -/

section Logs

variable {url other : String} (filter : LogFilter) (config : Config) (transport : Web.Transport)
  (store : Store) (now : ℕ)

theorem head?_events_programOfConfig :
    (programOfConfig filter config transport store now).events.head? =
      some (.logged (.connecting (redact config.databaseUrl))) := by
  rw [programOfConfig]
  split
  · rfl
  · dsimp only
    split <;> rfl

/-- **The log of the program** shows of the address only what is left of it, and whether it can be
connected to. -/
theorem log_programOfConfig_congr (hshown : redact url = redact other)
    (hconnect : (connect url).isOk = (connect other).isOk) :
    (programOfConfig filter { config with databaseUrl := url } transport store now).log =
      (programOfConfig filter { config with databaseUrl := other } transport store now).log := by
  simp only [programOfConfig, hshown]
  cases hurl : connect url with
  | error e =>
    cases hother : connect other with
    | error e' => rfl
    | ok u => simp [hurl, hother, Except.isOk, Except.toBool] at hconnect
  | ok u =>
    cases hother : connect other with
    | error e' => simp [hurl, hother, Except.isOk, Except.toBool] at hconnect
    | ok u' => rfl

end Logs

/-- **Redaction hides the credentials**: of an address the log shows what stands before its first
mark and behind its last at sign. -/
theorem redaction_hides_credentials :
    (∀ url i j, FirstAt "://" url i → LastAt "@" url j → i < j →
      (⟨i⟩ : String.Pos.Raw).IsValid url ∧ (⟨j + 1⟩ : String.Pos.Raw).IsValid url ∧
        utf8 (redact url) = (utf8 url).take i ++ utf8 "://***@" ++ (utf8 url).drop (j + 1)) ∧
    (∀ url, (∀ i j, FirstAt "://" url i → LastAt "@" url j → j ≤ i) → redact url = url) ∧
    (∀ url, redact (redact url) = redact url) ∧
    ∀ url scheme secret server, Credentials url scheme secret server → ∀ secret',
      let other := scheme ++ "://" ++ secret' ++ "@" ++ server
      Credentials other scheme secret' server ∧ redact other = redact url ∧
      ∀ (filter : LogFilter) (config : Config) (transport : Web.Transport) (store : Store)
        (now : ℕ),
        let shown (address : String) :=
          programOfConfig filter { config with databaseUrl := address } transport store now
        (shown url).events.head? = some (.logged (.connecting (redact url))) ∧
        (shown other).events.head? = (shown url).events.head? ∧
        ((connect other).isOk = (connect url).isOk → (shown other).log = (shown url).log) := by
  refine ⟨fun _ _ _ => utf8_redact, fun _ => redact_of_no_places, redact_redact, ?_⟩
  intro url scheme secret server h secret' other
  have hother : Credentials other scheme secret' server := h.exchange secret'
  have hshown : redact other = redact url := by
    rw [redact_of_credentials hother, redact_of_credentials h]
  refine ⟨hother, hshown, fun filter config transport store now => ⟨?_, ?_, ?_⟩⟩
  · exact head?_events_programOfConfig ..
  · rw [head?_events_programOfConfig, head?_events_programOfConfig]
    exact congrArg (fun line => some (Event.logged (.connecting line))) hshown
  · exact log_programOfConfig_congr filter config transport store now hshown

/-- A user and a password that hold both marks, and a letter of two bytes. -/
theorem redaction_hides_credentials_small :
    FirstAt "://" "postgres://ü:p@ss://w@host/db" 8 ∧
      LastAt "@" "postgres://ü:p@ss://w@host/db" 22 ∧
      utf8 (redact "postgres://ü:p@ss://w@host/db") = utf8 "postgres://***@host/db" ∧
      redact "postgres://me@host/db" = redact "postgres://ü:p@ss://w@host/db" := by
  have hfirst : FirstAt "://" "postgres://ü:p@ss://w@host/db" 8 :=
    ⟨by decide +kernel, by decide +kernel⟩
  have hlast : LastAt "@" ("postgres://ü:p@ss://w" ++ "@" ++ "host/db")
      (utf8 "postgres://ü:p@ss://w").length := lastAt_of_notMem (by decide)
  have hparts : "postgres://ü:p@ss://w" ++ "@" ++ "host/db" = "postgres://ü:p@ss://w@host/db" := by
    decide
  have hscheme : (utf8 "postgres").length = 8 := by decide +kernel
  have hsecret : (utf8 "postgres://ü:p@ss://w").length = 22 := by decide +kernel
  rw [hparts, hsecret] at hlast
  obtain ⟨hshown, -, -, hhidden⟩ := redaction_hides_credentials
  obtain ⟨-, -, hbytes⟩ := hshown _ 8 22 hfirst hlast (by decide)
  have hcredentials :
      Credentials "postgres://ü:p@ss://w@host/db" "postgres" "ü:p@ss://w" "host/db" :=
    ⟨by decide, hscheme ▸ hfirst, hsecret ▸ hlast⟩
  obtain ⟨-, hsame, -⟩ := hhidden _ _ _ _ hcredentials "me"
  exact ⟨hfirst, hlast, hbytes.trans (by decide +kernel), hsame⟩

end CandleArchive.Database
