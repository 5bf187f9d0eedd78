import CandleArchive.Text.Utf8
import Mathlib.Data.List.Basic

/-!
# UTF-8 — where a text stands among bytes

The bytes of a text are those of its characters, one after another. An ASCII character is one byte,
and such a byte is no part of any other character. An ASCII text therefore stands among the bytes of
a text where it stands among the characters, and a cut beside it splits no character.

* `utf8_eq`, `utf8_append`, `ofUtf8?_eq_some`: the bytes of a text, and the text of bytes;
* `isValid_append`, `exists_of_isValid`, `isValid_of_getElem_lt`: where no character is split;
* `OccursAt`, `FirstAt`, `LastAt`: where a text stands in another one;
* **`occursAt_iff`**, `firstAt_iff`, `lastAt_iff`: the same in terms of texts;
* `FirstAt.append_congr`, `exists_append_of_length_le`: what stands in front.
-/

namespace CandleArchive.Text

/-! ## The bytes of a text -/

theorem toList_loop (bytes : ByteArray) (i : Nat) (done : List UInt8) :
    ByteArray.toList.loop bytes i done = done.reverse ++ bytes.data.toList.drop i := by
  fun_induction ByteArray.toList.loop bytes i done with
  | case1 i done hi ih =>
    have hlt : i < bytes.data.toList.length := hi
    have hget : bytes.get! i = bytes.data.toList[i] := getElem!_pos bytes.data i hi
    rw [ih, List.drop_eq_getElem_cons hlt, hget, List.reverse_cons, List.append_assoc]
    rfl
  | case2 i done hi => rw [List.drop_eq_nil_of_le (Nat.le_of_not_lt hi), List.append_nil]

theorem utf8_eq_data (s : String) : utf8 s = s.toByteArray.data.toList := by
  rw [utf8, ByteArray.toList, toList_loop]
  rfl

theorem utf8_ofList (cs : List Char) :
    utf8 (String.ofList cs) = cs.flatMap String.utf8EncodeChar := by
  rw [utf8_eq_data, String.toByteArray_ofList, List.utf8Encode, List.toList_data_toByteArray]

theorem utf8_eq (s : String) : utf8 s = s.toList.flatMap String.utf8EncodeChar := by
  rw [← utf8_ofList, String.ofList_toList]

theorem utf8_append (s t : String) : utf8 (s ++ t) = utf8 s ++ utf8 t := by
  rw [utf8_eq, String.toList_append, List.flatMap_append, ← utf8_eq, ← utf8_eq]

theorem length_utf8 (s : String) : (utf8 s).length = s.utf8ByteSize := by
  rw [utf8_eq_data]
  rfl

/-- **The text of bytes** is the one that they encode. -/
theorem ofUtf8?_eq_some {bytes : List UInt8} {s : String} :
    ofUtf8? bytes = some s ↔ bytes = utf8 s := by
  rw [ofUtf8?, String.fromUTF8?]
  constructor
  · intro h
    split at h
    · rw [← Option.some.inj h, utf8_eq_data]
      rfl
    · contradiction
  · rintro rfl
    have hbytes : (⟨(utf8 s).toArray⟩ : ByteArray) = s.toByteArray := by
      rw [utf8_eq_data, Array.toArray_toList]
    rw [hbytes, dif_pos s.isValidUTF8]
    rfl

theorem ofUtf8?_utf8 (s : String) : ofUtf8? (utf8 s) = some s := ofUtf8?_eq_some.mpr rfl

theorem isValid_append (s t : String) : (⟨(utf8 s).length⟩ : String.Pos.Raw).IsValid (s ++ t) :=
  String.Pos.Raw.isValid_iff_exists_append.mpr
    ⟨s, t, rfl, String.Pos.Raw.ext (length_utf8 s)⟩

theorem exists_of_isValid {s : String} {i : Nat} (h : (⟨i⟩ : String.Pos.Raw).IsValid s) :
    ∃ left right, s = left ++ right ∧ (utf8 left).length = i := by
  obtain ⟨left, right, hs, hi⟩ := String.Pos.Raw.isValid_iff_exists_append.mp h
  exact ⟨left, right, hs, (length_utf8 left).trans (congrArg String.Pos.Raw.byteIdx hi).symm⟩

/-- A text whose bytes start with those of another one starts with that text. -/
theorem exists_append_of_utf8_eq {s t : String} {rest : List UInt8} (h : utf8 t = utf8 s ++ rest) :
    ∃ u, t = s ++ u := by
  have hbytes : s.toList.utf8Encode ++ rest.toByteArray = t.toList.utf8Encode := by
    rw [utf8_eq, utf8_eq] at h
    rw [List.utf8Encode, List.utf8Encode, h, List.toByteArray_append]
  obtain ⟨cs, hcs⟩ := List.isPrefix_of_utf8Encode_append_eq_utf8Encode _ hbytes
  exact ⟨.ofList cs, String.toList_injective (by simp [hcs])⟩

theorem isUTF8FirstByte_of_lt : ∀ n < 0x80, (UInt8.ofNat n).IsUTF8FirstByte := by
  decide

/-- In front of an ASCII byte no character is split: no longer character holds such a byte. -/
theorem isValid_of_getElem_lt {s : String} {i : Nat} (hi : i < (utf8 s).length)
    (hb : (utf8 s)[i].toNat < 0x80) : (⟨i⟩ : String.Pos.Raw).IsValid s := by
  have hpos : (⟨i⟩ : String.Pos.Raw) < s.rawEndPos := by
    rw [String.Pos.Raw.lt_iff, String.byteIdx_rawEndPos, ← length_utf8]
    exact hi
  have hbyte : s.getUTF8Byte ⟨i⟩ hpos = UInt8.ofNat (utf8 s)[i].toNat := by
    rw [UInt8.ofNat_toNat]
    simp only [utf8_eq_data]
    rfl
  refine String.Pos.Raw.isValid_iff_isUTF8FirstByte.mpr (.inr ⟨hpos, ?_⟩)
  rw [hbyte]
  exact isUTF8FirstByte_of_lt _ hb

/-! ## Where a text stands -/

/-- The text `pattern` stands in `text` from byte `i` on. -/
def OccursAt (pattern text : String) (i : Nat) : Prop := utf8 pattern <+: (utf8 text).drop i

instance (pattern text : String) (i : Nat) : Decidable (OccursAt pattern text i) :=
  inferInstanceAs (Decidable (utf8 pattern <+: (utf8 text).drop i))

/-- It stands there and nowhere before. -/
def FirstAt (pattern text : String) (i : Nat) : Prop :=
  OccursAt pattern text i ∧ ∀ k < i, ¬ OccursAt pattern text k

/-- It stands there and nowhere behind. -/
def LastAt (pattern text : String) (i : Nat) : Prop :=
  OccursAt pattern text i ∧ ∀ k > i, ¬ OccursAt pattern text k

/-- The text starts with an ASCII character. -/
def StartsAscii (s : String) : Prop := ∃ c cs, s.toList = c :: cs ∧ c.toNat < 0x80

theorem utf8_of_startsAscii {s : String} (h : StartsAscii s) :
    ∃ b rest, b.toNat < 0x80 ∧ utf8 s = b :: rest := by
  obtain ⟨c, cs, hs, hc⟩ := h
  refine ⟨UInt8.ofNat c.toNat, cs.flatMap String.utf8EncodeChar, ?_, ?_⟩
  · rw [UInt8.toNat_ofNat']
    omega
  · rw [utf8_eq, hs, List.flatMap_cons, String.utf8EncodeChar]
    exact congrArg (· ++ _) (if_pos (Nat.le_of_lt_succ hc))

variable {pattern text : String} {i : Nat}

/-- **A text that starts with an ASCII character** stands among the bytes of another one only where
it stands among the characters. -/
theorem occursAt_iff (hp : StartsAscii pattern) :
    OccursAt pattern text i ↔
      ∃ left right, text = left ++ pattern ++ right ∧ (utf8 left).length = i := by
  constructor
  · rintro ⟨rest, hrest⟩
    obtain ⟨b, more, hb, hpattern⟩ := utf8_of_startsAscii hp
    have hi : i < (utf8 text).length := by
      by_contra hi
      rw [List.drop_eq_nil_of_le (Nat.le_of_not_lt hi), hpattern] at hrest
      contradiction
    have hbyte : (utf8 text)[i] = b := by
      rw [List.drop_eq_getElem_cons hi, hpattern] at hrest
      exact (List.cons.inj hrest).1.symm
    obtain ⟨left, right, rfl, hleft⟩ :=
      exists_of_isValid (isValid_of_getElem_lt hi (hbyte ▸ hb))
    rw [utf8_append, ← hleft, List.drop_left] at hrest
    obtain ⟨after, rfl⟩ := exists_append_of_utf8_eq hrest.symm
    exact ⟨left, after, String.append_assoc.symm, hleft⟩
  · rintro ⟨left, right, rfl, rfl⟩
    rw [OccursAt, utf8_append, utf8_append, List.append_assoc, List.drop_left]
    exact List.prefix_append _ _

theorem firstAt_iff (hp : StartsAscii pattern) :
    FirstAt pattern text i ↔
      ∃ left right, text = left ++ pattern ++ right ∧ (utf8 left).length = i ∧
        ∀ before after, text = before ++ pattern ++ after → i ≤ (utf8 before).length := by
  simp only [FirstAt, occursAt_iff hp]
  constructor
  · rintro ⟨⟨left, right, hparts, hi⟩, hfirst⟩
    exact ⟨left, right, hparts, hi, fun before after h =>
      Nat.le_of_not_lt fun hlt => hfirst _ hlt ⟨before, after, h, rfl⟩⟩
  · rintro ⟨left, right, hparts, hi, hfirst⟩
    refine ⟨⟨left, right, hparts, hi⟩, ?_⟩
    rintro k hk ⟨before, after, h, rfl⟩
    exact absurd (hfirst before after h) (Nat.not_le_of_lt hk)

theorem lastAt_iff (hp : StartsAscii pattern) :
    LastAt pattern text i ↔
      ∃ left right, text = left ++ pattern ++ right ∧ (utf8 left).length = i ∧
        ∀ before after, text = before ++ pattern ++ after → (utf8 before).length ≤ i := by
  simp only [LastAt, occursAt_iff hp]
  constructor
  · rintro ⟨⟨left, right, hparts, hi⟩, hlast⟩
    exact ⟨left, right, hparts, hi, fun before after h =>
      Nat.le_of_not_lt fun hlt => hlast _ hlt ⟨before, after, h, rfl⟩⟩
  · rintro ⟨left, right, hparts, hi, hlast⟩
    refine ⟨⟨left, right, hparts, hi⟩, ?_⟩
    rintro k hk ⟨before, after, h, rfl⟩
    exact absurd (hlast before after h) (Nat.not_le_of_lt hk)

theorem occursAt_append_iff {left right : String} {k : Nat} (hk : k ≤ (utf8 left).length) :
    OccursAt pattern (left ++ pattern ++ right) k ↔ OccursAt pattern (left ++ pattern) k := by
  have hle : k ≤ (utf8 left ++ utf8 pattern).length := by
    rw [List.length_append]
    omega
  have hroom : (utf8 pattern).length ≤ ((utf8 left ++ utf8 pattern).drop k).length := by
    rw [List.length_drop, List.length_append]
    omega
  rw [OccursAt, OccursAt, utf8_append, utf8_append, List.drop_append_of_le_length hle]
  constructor
  · intro h
    exact List.prefix_of_prefix_length_le h (List.prefix_append _ _) hroom
  · intro h
    exact h.trans (List.prefix_append _ _)

theorem FirstAt.append_congr {left right : String}
    (h : FirstAt pattern (left ++ pattern ++ right) (utf8 left).length) (other : String) :
    FirstAt pattern (left ++ pattern ++ other) (utf8 left).length := by
  have hcongr : ∀ k ≤ (utf8 left).length,
      OccursAt pattern (left ++ pattern ++ other) k ↔
        OccursAt pattern (left ++ pattern ++ right) k :=
    fun k hk => (occursAt_append_iff hk).trans (occursAt_append_iff hk).symm
  refine ⟨(hcongr _ (Nat.le_refl _)).mpr h.1, fun k hk hoccurs => ?_⟩
  exact h.2 k hk ((hcongr k (Nat.le_of_lt hk)).mp hoccurs)

theorem exists_append_of_length_le {left right before after : String}
    (h : left ++ right = before ++ after)
    (hle : (utf8 left).length ≤ (utf8 before).length) : ∃ between, before = left ++ between := by
  have hleft : utf8 left <+: utf8 (before ++ after) := by
    rw [← h, utf8_append]
    exact List.prefix_append _ _
  have hbefore : utf8 before <+: utf8 (before ++ after) := by
    rw [utf8_append]
    exact List.prefix_append _ _
  obtain ⟨rest, hrest⟩ := List.prefix_of_prefix_length_le hleft hbefore hle
  exact exists_append_of_utf8_eq hrest.symm

end CandleArchive.Text
