import CandleArchive.Proofs.Text.Utf8
import CandleArchive.Web.Form
import Mathlib.Data.List.TakeDrop
import Mathlib.Tactic.IntervalCases

/-!
# Form encoding — what is encoded is read back

Encoded bytes are read back one by one. Neither an ampersand nor an equals sign is among their
characters, so these two stand in a query only where a pair or a name ends.

* `decodeBytes?_plain`, `decodeBytes?_encodeByte`, `decodeText?_encodeText`: a byte, and a text;
* `mem_encodeText`, `notMem_encodeText`, **`mem_encode`**: the characters of a text and of a query;
* `span_append_cons`, `decodePair?_encodePair`, **`decode?_encode`**: a pair, and a query;
* `encodeText_toString`: a number in a query.
-/

namespace CandleArchive.Web.Form

/-! ## Bytes and texts -/

theorem hexValue?_hexChar : ∀ n < 16, hexValue? (hexChar n) = some n := by decide

theorem isAlphanum_hexChar : ∀ n < 16, (hexChar n).isAlphanum := by decide

theorem mem_percentByte {b : UInt8} {c : Char} (h : c ∈ percentByte b) :
    c = '%' ∨ c.isAlphanum := by
  have hb : b.toNat < 256 := b.toNat_lt
  simp only [percentByte, List.mem_cons, List.not_mem_nil, or_false] at h
  rcases h with rfl | rfl | rfl
  · exact .inl rfl
  · exact .inr (isAlphanum_hexChar _ (by omega))
  · exact .inr (isAlphanum_hexChar _ (by omega))

theorem isUnreserved_iff {b : UInt8} :
    isUnreserved b ↔ b.toNat < 0x80 ∧
      ((Char.ofNat b.toNat).isAlphanum ∨ Char.ofNat b.toNat ∈ "*-._".toList) := by
  have hmarks : "*-._".toList = ['*', '-', '.', '_'] := rfl
  simp only [isUnreserved, UInt8.lt_iff_toNat_lt, hmarks, Bool.and_eq_true, decide_eq_true_eq,
    Bool.or_eq_true, beq_iff_eq, List.mem_cons, List.not_mem_nil, or_false, or_assoc]
  exact Iff.rfl

theorem toNat_ofNat_of_lt {n : ℕ} (h : n < 0x80) : (Char.ofNat n).toNat = n := by
  rw [Char.ofNat, dif_pos (.inl (by omega))]
  rfl

theorem mem_encodeByte {b : UInt8} {c : Char} (h : c ∈ encodeByte b) :
    c.isAlphanum ∨ c ∈ "*-._+%".toList := by
  unfold encodeByte at h
  split at h
  case isTrue hplain =>
    rw [List.mem_singleton.mp h]
    have hmarks : "*-._".toList ⊆ "*-._+%".toList := by decide
    exact (isUnreserved_iff.mp hplain).2.imp_right fun hc => hmarks hc
  case isFalse =>
    split at h
    case isTrue =>
      rw [List.mem_singleton.mp h]
      exact .inr (by decide)
    case isFalse =>
      rcases mem_percentByte h with rfl | hc
      · exact .inr (by decide)
      · exact .inl hc

theorem decodeBytes?_plain {c : Char} {cs : List Char} (hplus : c ≠ '+') (hpercent : c ≠ '%')
    (hlt : c.toNat < 0x80) :
    decodeBytes? (c :: cs) = (decodeBytes? cs).map (UInt8.ofNat c.toNat :: ·) := by
  rw [decodeBytes?, if_neg (not_or.mpr ⟨hpercent, Nat.not_le_of_lt hlt⟩)]
  · exact hplus
  · intro h l cs' hc
    exact absurd hc hpercent

theorem decodeBytes?_percentByte (b : UInt8) (cs : List Char) :
    decodeBytes? (percentByte b ++ cs) = (decodeBytes? cs).map (b :: ·) := by
  have hb : b.toNat < 256 := b.toNat_lt
  have hbyte : UInt8.ofNat (b.toNat / 16 * 16 + b.toNat % 16) = b := by
    rw [Nat.div_add_mod', UInt8.ofNat_toNat]
  rw [percentByte, List.cons_append, List.cons_append, List.cons_append, List.nil_append,
    decodeBytes?, hexValue?_hexChar _ (by omega), hexValue?_hexChar _ (by omega)]
  simp only [Option.bind_eq_bind, Option.bind_some, hbyte]
  cases decodeBytes? cs <;> rfl

theorem decodeBytes?_encodeByte (b : UInt8) (cs : List Char) :
    decodeBytes? (encodeByte b ++ cs) = (decodeBytes? cs).map (b :: ·) := by
  rw [encodeByte]
  split
  case isTrue hplain =>
    obtain ⟨hlt, hchar⟩ := isUnreserved_iff.mp hplain
    have hcode := toNat_ofNat_of_lt hlt
    have hplus : Char.ofNat b.toNat ≠ '+' := by
      intro hc
      rw [hc] at hchar
      exact absurd hchar (by decide)
    have hpercent : Char.ofNat b.toNat ≠ '%' := by
      intro hc
      rw [hc] at hchar
      exact absurd hchar (by decide)
    have hascii : (Char.ofNat b.toNat).toNat < 0x80 := hcode.symm ▸ hlt
    rw [List.singleton_append, decodeBytes?_plain hplus hpercent hascii, hcode, UInt8.ofNat_toNat]
  case isFalse =>
    split
    case isTrue hspace => rw [hspace]; rfl
    case isFalse => exact decodeBytes?_percentByte b cs

theorem decodeBytes?_flatMap (bytes : List UInt8) :
    decodeBytes? (bytes.flatMap encodeByte) = some bytes := by
  induction bytes with
  | nil => rfl
  | cons b bytes ih => rw [List.flatMap_cons, decodeBytes?_encodeByte, ih, Option.map_some]

theorem decodeText?_encodeText (s : String) : decodeText? (encodeText s) = some s := by
  rw [decodeText?, encodeText, decodeBytes?_flatMap, Option.bind_some, Text.ofUtf8?_utf8]

/-! ## Pairs and queries -/

theorem mem_encodeText {s : String} {c : Char} (h : c ∈ encodeText s) :
    c.isAlphanum ∨ c ∈ "*-._+%".toList := by
  obtain ⟨b, -, hb⟩ := List.mem_flatMap.mp h
  exact mem_encodeByte hb

theorem notMem_encodeText (s : String) : '&' ∉ encodeText s ∧ '=' ∉ encodeText s :=
  ⟨fun h => absurd (mem_encodeText h) (by decide), fun h => absurd (mem_encodeText h) (by decide)⟩

theorem notMem_encodePair (p : String × String) : '&' ∉ encodePair p := by
  simp [encodePair, notMem_encodeText]

/-- **The characters of a query** are letters, digits and few marks. -/
theorem mem_encode {pairs : List (String × String)} {c : Char} (h : c ∈ encode pairs) :
    c.isAlphanum ∨ c ∈ "*-._+%&=".toList := by
  have htext : ∀ s, c ∈ encodeText s → c.isAlphanum ∨ c ∈ "*-._+%&=".toList := by
    intro s hs
    have hmarks : "*-._+%".toList ⊆ "*-._+%&=".toList := by decide
    exact (mem_encodeText hs).imp_right fun hc => hmarks hc
  have hpair : ∀ p, c ∈ encodePair p → c.isAlphanum ∨ c ∈ "*-._+%&=".toList := by
    intro p hp
    rcases List.mem_append.mp hp with hname | hvalue
    · exact htext _ hname
    · rcases List.mem_cons.mp hvalue with rfl | hvalue
      · exact .inr (by decide)
      · exact htext _ hvalue
  fun_induction encode pairs with
  | case1 => contradiction
  | case2 p => exact hpair p h
  | case3 p q pairs ih =>
    rcases List.mem_append.mp h with hp | hrest
    · exact hpair p hp
    · rcases List.mem_cons.mp hrest with rfl | hrest
      · exact .inr (by decide)
      · exact ih hrest

theorem span_append_cons {x : Char} {cs : List Char} (h : x ∉ cs) (more : List Char) :
    (cs ++ x :: more).span (· != x) = (cs, x :: more) := by
  have hne : ∀ c ∈ cs, (c != x) = true := fun c hc => bne_iff_ne.mpr fun heq => h (heq ▸ hc)
  rw [List.span_eq_takeWhile_dropWhile, List.takeWhile_append_of_pos hne,
    List.dropWhile_append_of_pos hne]
  simp

theorem decodePair?_encodePair (p : String × String) : decodePair? (encodePair p) = some p := by
  unfold decodePair? encodePair
  rw [span_append_cons (notMem_encodeText p.1).2]
  simp [decodeText?_encodeText]

theorem encode_eq_intercalate (pairs : List (String × String)) :
    encode pairs = ['&'].intercalate (pairs.map encodePair) := by
  fun_induction encode pairs with
  | case1 => rfl
  | case2 p => simp
  | case3 p q pairs ih =>
    rw [ih, List.map_cons, List.map_cons, List.map_cons, List.intercalate_cons_cons,
      List.append_assoc, List.singleton_append]

theorem mapM_decodePair? (pairs : List (String × String)) :
    (pairs.map encodePair).mapM decodePair? = some pairs := by
  induction pairs with
  | nil => rfl
  | cons p pairs ih => rw [List.map_cons, List.mapM_cons, decodePair?_encodePair, ih]; rfl

/-- **A query is read back**, whatever texts are in its pairs. -/
theorem decode?_encode (pairs : List (String × String)) : decode? (encode pairs) = some pairs := by
  cases pairs with
  | nil => rfl
  | cons p pairs =>
    have hsplit : (encode (p :: pairs)).splitOn '&' = (p :: pairs).map encodePair := by
      rw [encode_eq_intercalate]
      refine List.splitOn_intercalate '&' (fun cs hcs => ?_) (by simp)
      obtain ⟨q, -, rfl⟩ := List.mem_map.mp hcs
      exact notMem_encodePair q
    have hne : encode (p :: pairs) ≠ [] := by
      cases pairs <;> simp [encode, encodePair]
    rw [decode?, if_neg hne, hsplit, mapM_decodePair?]

/-! ## Numbers -/

theorem encodeByte_digit {c : Char} (h : c.isDigit) :
    (String.utf8EncodeChar c).flatMap encodeByte = [c] := by
  have hrange : 48 ≤ c.toNat ∧ c.toNat ≤ 57 := by
    simp only [Char.isDigit, Bool.and_eq_true, decide_eq_true_eq] at h
    exact h
  obtain ⟨hlo, hhi⟩ := hrange
  rw [← Char.ofNat_toNat c]
  interval_cases c.toNat <;> rfl

theorem encodeText_toString (n : Nat) : encodeText (toString n) = (toString n).toList := by
  have hdigits : toString n = String.ofList (Nat.toDigits 10 n) := rfl
  have hone : ∀ c ∈ Nat.toDigits 10 n, (String.utf8EncodeChar c).flatMap encodeByte = [c] :=
    fun c hc => encodeByte_digit (Nat.isDigit_of_mem_toDigits (by decide) (by decide) hc)
  rw [hdigits, encodeText, Text.utf8_ofList, String.toList_ofList, List.flatMap_assoc,
    List.flatMap_congr hone, List.flatMap_singleton']

end CandleArchive.Web.Form
