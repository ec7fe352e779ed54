/-
# Text that is written and read

The bytes of a text are read back as the text.  A character takes one to four bytes; the first one
says how many, and bounds the second one so that no character is written in two ways.

Texts that are in the order of their characters are in the order of their bytes.  Higher characters
have more bytes and higher first ones, and where these are the same the following ones decide.

## Key statements

* `utf8Pieces_encodeChar`: the bytes of a character are read as the character.
* `utf8?_toUTF8`: the bytes of a text are read as the text.
* `encodeChar_lt`, `toUTF8_lt`: the order of the bytes of two characters, and of two texts.
-/
import Mathlib.Data.List.Basic
import Mathlib.Data.String.Basic
import SchemaBridge.Text.Utf8

namespace SchemaBridge.Text

/-! ## Single bytes -/

/-- A byte has its value. -/
theorem toNat_ofNat_byte {n : Nat} (h : n < 256) : (UInt8.ofNat n).toNat = n := by
  rw [UInt8.toNat_ofNat']
  exact Nat.mod_eq_of_lt h

/-- What a first byte says, by its value. -/
theorem utf8Shape_ofNat {n : Nat} (h : n < 256) : utf8Shape (UInt8.ofNat n) =
    if n < 128 then some (0, 128, 191)
    else if n < 194 then none
    else if n < 224 then some (1, 128, 191)
    else if n = 224 then some (2, 160, 191)
    else if n = 237 then some (2, 128, 159)
    else if n < 240 then some (2, 128, 191)
    else if n = 240 then some (3, 144, 191)
    else if n < 244 then some (3, 128, 191)
    else if n = 244 then some (3, 128, 143)
    else none := by
  unfold utf8Shape
  simp only [UInt8.lt_iff_toNat_lt, ← UInt8.toNat_inj, toNat_ofNat_byte h]
  rfl

/-- A byte that continues a character adds six bits. -/
theorem utf8Tail_ofNat {low high : UInt8} {b : Nat} (hlow : low.toNat ≤ b) (hhigh : b ≤ high.toNat)
    (n value taken : Nat) (r : List UInt8) :
    utf8Tail (n + 1) low high value taken (UInt8.ofNat b :: r)
      = utf8Tail n 128 191 (64 * value + (b - 128)) (taken + 1) r := by
  have hb : b < 256 := Nat.lt_of_le_of_lt hhigh high.toNat_lt
  have hbounds : (low ≤ UInt8.ofNat b && UInt8.ofNat b ≤ high) = true := by
    rw [Bool.and_eq_true, decide_eq_true_eq, decide_eq_true_eq, UInt8.le_iff_toNat_le,
      UInt8.le_iff_toNat_le, toNat_ofNat_byte hb]
    exact ⟨hlow, hhigh⟩
  rw [utf8Tail, if_pos hbounds, toNat_ofNat_byte hb]

/-! ## Characters -/

/-- Bytes that belong to a character are skipped. -/
theorem utf8Pieces_skip (skipped rest : List UInt8) :
    utf8Pieces skipped.length (skipped ++ rest) = utf8Pieces 0 rest := by
  induction skipped with
  | nil => rfl
  | cons b skipped ih => exact ih

/-- A first byte and those that complete its character. -/
theorem utf8Pieces_of_head (tail : List UInt8) {b : UInt8} {rest : List UInt8} {c : Char}
    (h : utf8Head b (tail ++ rest) = (some c, tail.length)) :
    utf8Pieces 0 (b :: (tail ++ rest)) = some c :: utf8Pieces 0 rest := by
  rw [utf8Pieces, h]
  exact congrArg _ (utf8Pieces_skip tail rest)

/-- A character of one byte. -/
theorem utf8Pieces_one {v : Nat} (h : v < 128) (rest : List UInt8) :
    utf8Pieces 0 ([UInt8.ofNat v] ++ rest) = some (Char.ofNat v) :: utf8Pieces 0 rest := by
  refine utf8Pieces_of_head [] ?_
  rw [utf8Head, utf8Shape_ofNat (by omega), if_pos h, toNat_ofNat_byte (by omega)]
  rfl

/-- A character of two bytes. -/
theorem utf8Pieces_two {v : Nat} (hlow : 128 ≤ v) (hhigh : v < 2048) (rest : List UInt8) :
    utf8Pieces 0 ([UInt8.ofNat (v / 64 % 32 + 192), UInt8.ofNat (v % 64 + 128)] ++ rest)
      = some (Char.ofNat v) :: utf8Pieces 0 rest := by
  refine utf8Pieces_of_head [_] ?_
  have hvalue : 64 * (v / 64 % 32 + 192 - 192) + (v % 64 + 128 - 128) = v := by omega
  rw [utf8Head, utf8Shape_ofNat (by omega), if_neg (by omega), if_neg (by omega),
    if_pos (by omega), toNat_ofNat_byte (by omega)]
  dsimp only
  rw [List.cons_append, utf8Tail_ofNat (by show 128 ≤ _; omega) (by show _ ≤ 191; omega)]
  show (some (Char.ofNat (64 * (v / 64 % 32 + 192 - 192) + (v % 64 + 128 - 128))), 1) = _
  rw [hvalue]
  rfl

/-- A first byte of three bounds the second one away from what two bytes hold, and from surrogates. -/
theorem utf8Shape_three {v : Nat} (hlow : 2048 ≤ v) (hhigh : v < 65536)
    (hvalid : v < 0xd800 ∨ 0xdfff < v) :
    ∃ low high, utf8Shape (UInt8.ofNat (v / 4096 % 16 + 224)) = some (2, low, high)
      ∧ low.toNat ≤ v / 64 % 64 + 128 ∧ v / 64 % 64 + 128 ≤ high.toNat := by
  rw [utf8Shape_ofNat (by omega), if_neg (by omega), if_neg (by omega), if_neg (by omega)]
  split
  · exact ⟨160, 191, rfl, by show 160 ≤ _; omega, by show _ ≤ 191; omega⟩
  · split
    · exact ⟨128, 159, rfl, by show 128 ≤ _; omega, by show _ ≤ 159; omega⟩
    · rw [if_pos (by omega)]
      exact ⟨128, 191, rfl, by show 128 ≤ _; omega, by show _ ≤ 191; omega⟩

/-- A character of three bytes. -/
theorem utf8Pieces_three {v : Nat} (hlow : 2048 ≤ v) (hhigh : v < 65536)
    (hvalid : v < 0xd800 ∨ 0xdfff < v) (rest : List UInt8) :
    utf8Pieces 0 ([UInt8.ofNat (v / 4096 % 16 + 224), UInt8.ofNat (v / 64 % 64 + 128),
      UInt8.ofNat (v % 64 + 128)] ++ rest) = some (Char.ofNat v) :: utf8Pieces 0 rest := by
  refine utf8Pieces_of_head [_, _] ?_
  have hvalue : 64 * (64 * (v / 4096 % 16 + 224 - 224) + (v / 64 % 64 + 128 - 128))
      + (v % 64 + 128 - 128) = v := by omega
  obtain ⟨low, high, hshape, hsecond, hsecond'⟩ := utf8Shape_three hlow hhigh hvalid
  rw [utf8Head, hshape, toNat_ofNat_byte (by omega)]
  dsimp only
  rw [List.cons_append, utf8Tail_ofNat hsecond hsecond', List.cons_append,
    utf8Tail_ofNat (by show 128 ≤ _; omega) (by show _ ≤ 191; omega)]
  show (some (Char.ofNat (64 * (64 * (v / 4096 % 16 + 224 - 224) + (v / 64 % 64 + 128 - 128))
    + (v % 64 + 128 - 128))), 2) = _
  rw [hvalue]
  rfl

/-- A first byte of four bounds the second one away from what three bytes hold, and from what is
beyond all characters. -/
theorem utf8Shape_four {v : Nat} (hlow : 65536 ≤ v) (hhigh : v < 0x110000) :
    ∃ low high, utf8Shape (UInt8.ofNat (v / 262144 % 8 + 240)) = some (3, low, high)
      ∧ low.toNat ≤ v / 4096 % 64 + 128 ∧ v / 4096 % 64 + 128 ≤ high.toNat := by
  rw [utf8Shape_ofNat (by omega), if_neg (by omega), if_neg (by omega), if_neg (by omega),
    if_neg (by omega), if_neg (by omega), if_neg (by omega)]
  split
  · exact ⟨144, 191, rfl, by show 144 ≤ _; omega, by show _ ≤ 191; omega⟩
  · split
    · exact ⟨128, 191, rfl, by show 128 ≤ _; omega, by show _ ≤ 191; omega⟩
    · rw [if_pos (by omega)]
      exact ⟨128, 143, rfl, by show 128 ≤ _; omega, by show _ ≤ 143; omega⟩

/-- A character of four bytes. -/
theorem utf8Pieces_four {v : Nat} (hlow : 65536 ≤ v) (hhigh : v < 0x110000) (rest : List UInt8) :
    utf8Pieces 0 ([UInt8.ofNat (v / 262144 % 8 + 240), UInt8.ofNat (v / 4096 % 64 + 128),
      UInt8.ofNat (v / 64 % 64 + 128), UInt8.ofNat (v % 64 + 128)] ++ rest)
      = some (Char.ofNat v) :: utf8Pieces 0 rest := by
  refine utf8Pieces_of_head [_, _, _] ?_
  have hvalue : 64 * (64 * (64 * (v / 262144 % 8 + 240 - 240) + (v / 4096 % 64 + 128 - 128))
      + (v / 64 % 64 + 128 - 128)) + (v % 64 + 128 - 128) = v := by omega
  obtain ⟨low, high, hshape, hsecond, hsecond'⟩ := utf8Shape_four hlow hhigh
  rw [utf8Head, hshape, toNat_ofNat_byte (by omega)]
  dsimp only
  rw [List.cons_append, utf8Tail_ofNat hsecond hsecond', List.cons_append,
    utf8Tail_ofNat (by show 128 ≤ _; omega) (by show _ ≤ 191; omega), List.cons_append,
    utf8Tail_ofNat (by show 128 ≤ _; omega) (by show _ ≤ 191; omega)]
  show (some (Char.ofNat (64 * (64 * (64 * (v / 262144 % 8 + 240 - 240)
    + (v / 4096 % 64 + 128 - 128)) + (v / 64 % 64 + 128 - 128)) + (v % 64 + 128 - 128))), 3) = _
  rw [hvalue]
  rfl

/-- The bytes of a character are read as the character. -/
theorem utf8Pieces_encodeChar (c : Char) (rest : List UInt8) :
    utf8Pieces 0 (String.utf8EncodeChar c ++ rest) = some c :: utf8Pieces 0 rest := by
  have hchar : Char.ofNat c.val.toNat = c := Char.ofNat_toNat c
  have hvalid : c.val.toNat < 0xd800 ∨ 0xdfff < c.val.toNat ∧ c.val.toNat < 0x110000 := c.valid
  unfold String.utf8EncodeChar
  generalize c.val.toNat = v at hchar hvalid
  rw [← hchar]
  dsimp only
  split
  · exact utf8Pieces_one (by omega) rest
  split
  · exact utf8Pieces_two (by omega) (by omega) rest
  split
  · exact utf8Pieces_three (by omega) (by omega) (by omega) rest
  · exact utf8Pieces_four (by omega) (by omega) rest

/-! ## Texts -/

/-- A text that is encoded is decoded. -/
theorem utf8Pieces_encode (s : List Char) :
    utf8Pieces 0 (s.flatMap String.utf8EncodeChar) = s.map some := by
  induction s with
  | nil => rfl
  | cons c s ih => rw [List.flatMap_cons, utf8Pieces_encodeChar, ih, List.map_cons]

/-- Who goes through some bytes collects those that are left. -/
theorem toList_loop_append (front rest collected : List UInt8) :
    ByteArray.toList.loop ⟨⟨front ++ rest⟩⟩ front.length collected = collected.reverse ++ rest := by
  induction rest generalizing front collected with
  | nil =>
    have hend : ¬front.length < (ByteArray.mk ⟨front ++ []⟩).size := by simp [ByteArray.size]
    rw [ByteArray.toList.loop, if_neg hend, List.append_nil]
  | cons b rest ih =>
    have hnext := ih (front ++ [b]) (b :: collected)
    rw [List.append_assoc, List.length_append] at hnext
    have hless : front.length < (ByteArray.mk ⟨front ++ b :: rest⟩).size := by
      simp [ByteArray.size]
    have hbyte : (ByteArray.mk ⟨front ++ b :: rest⟩).get! front.length = b := by
      simp [ByteArray.get!]
    rw [ByteArray.toList.loop, if_pos hless, hbyte]
    exact hnext.trans (by simp)

/-- A text is encoded character by character. -/
theorem toList_toUTF8 (s : String) : s.toUTF8.toList = s.toList.flatMap String.utf8EncodeChar := by
  have hbytes : s.toUTF8 = (s.toList.flatMap String.utf8EncodeChar).toByteArray :=
    String.utf8Encode_toList.symm
  have hlist : s.toUTF8.data.toList = s.toList.flatMap String.utf8EncodeChar := by
    rw [hbytes]
    simp
  rw [← hlist]
  exact toList_loop_append [] _ []

/-- **The bytes of a text are read as the text.** -/
theorem utf8?_toUTF8 (s : String) : utf8? s.toUTF8.toList = some s := by
  have hall (l : List Char) : (l.map some).mapM id = some l := by
    induction l with
    | nil => rfl
    | cons c l ih => simp [ih]
  rw [utf8?, toList_toUTF8, utf8Pieces_encode, hall]
  exact congrArg some String.ofList_toList

/-! ## The order of bytes -/

/-- Bytes are compared by their values. -/
theorem ofNat_byte_lt_iff {a b : Nat} (ha : a < 256) (hb : b < 256) :
    UInt8.ofNat a < UInt8.ofNat b ↔ a < b := by
  rw [UInt8.lt_iff_toNat_lt, toNat_ofNat_byte ha, toNat_ofNat_byte hb]

/-- Bytes are the same if their values are. -/
theorem ofNat_byte_inj {a b : Nat} (ha : a < 256) (hb : b < 256) :
    UInt8.ofNat a = UInt8.ofNat b ↔ a = b := by
  rw [← UInt8.toNat_inj, toNat_ofNat_byte ha, toNat_ofNat_byte hb]

/-- Two lists whose first bytes decide, or are the same. -/
theorem cons_byte_lt {a b : Nat} {l l' : List UInt8} (ha : a < 256) (hb : b < 256)
    (h : a < b ∨ a = b ∧ l < l') : UInt8.ofNat a :: l < UInt8.ofNat b :: l' := by
  rw [List.cons_lt_cons_iff, ofNat_byte_lt_iff ha hb, ofNat_byte_inj ha hb]
  exact h

section Digits

variable {v w : Nat} (h : v < w) {l l' : List UInt8}

include h

/-- A byte with a digit of a value decides if the digits differ.  The digits before it are the same. -/
theorem digitByte_lt (unit : Nat) {base first : Nat} (hbase : 0 < base) (hbyte : base + first ≤ 256)
    (hsame : v / unit / base = w / unit / base) (hrest : v / unit = w / unit → l < l') :
    UInt8.ofNat (v / unit % base + first) :: l < UInt8.ofNat (w / unit % base + first) :: l' := by
  have hle : v / unit ≤ w / unit := Nat.div_le_div_right h.le
  have hv := Nat.div_add_mod (v / unit) base
  have hw := Nat.div_add_mod (w / unit) base
  have hvdigit := Nat.mod_lt (v / unit) hbase
  have hwdigit := Nat.mod_lt (w / unit) hbase
  rw [hsame] at hv
  refine cons_byte_lt (by omega) (by omega) ?_
  by_cases hdigit : v / unit = w / unit
  · exact Or.inr ⟨by rw [hdigit], hrest hdigit⟩
  · exact Or.inl (by omega)

/-- The last byte of a character has six bits of its value. -/
theorem lastByte_lt (hsame : v / 64 = w / 64) :
    UInt8.ofNat (v % 64 + 128) :: l < UInt8.ofNat (w % 64 + 128) :: l' :=
  cons_byte_lt (by omega) (by omega) (Or.inl (by omega))

/-- So has the last byte but one. -/
theorem lastTwoBytes_lt (hsame : v / 4096 = w / 4096) :
    UInt8.ofNat (v / 64 % 64 + 128) :: UInt8.ofNat (v % 64 + 128) :: l
      < UInt8.ofNat (w / 64 % 64 + 128) :: UInt8.ofNat (w % 64 + 128) :: l' :=
  digitByte_lt h 64 (by decide) (by decide) (by omega) (lastByte_lt h)

/-- The last three bytes decide where the first one does not. -/
theorem lastThreeBytes_lt (hsame : v / 262144 = w / 262144) :
    UInt8.ofNat (v / 4096 % 64 + 128) :: UInt8.ofNat (v / 64 % 64 + 128)
        :: UInt8.ofNat (v % 64 + 128) :: l
      < UInt8.ofNat (w / 4096 % 64 + 128) :: UInt8.ofNat (w / 64 % 64 + 128)
        :: UInt8.ofNat (w % 64 + 128) :: l' :=
  digitByte_lt h 4096 (by decide) (by decide) (by omega) (lastTwoBytes_lt h)

end Digits

/-- The lower one of two characters has the lower bytes. -/
theorem encodeChar_lt {c d : Char} (h : c < d) (l l' : List UInt8) :
    String.utf8EncodeChar c ++ l < String.utf8EncodeChar d ++ l' := by
  have hvalue : c.val.toNat < d.val.toNat := UInt32.lt_iff_toNat_lt.1 (Char.lt_def.1 h)
  have hbound : d.val.toNat < 0x110000 := by
    rcases d.valid with hlow | ⟨-, hhigh⟩
    · exact Nat.lt_trans hlow (by decide)
    · exact hhigh
  unfold String.utf8EncodeChar
  generalize c.val.toNat = v at hvalue
  generalize d.val.toNat = w at hvalue hbound
  dsimp only
  -- where the numbers of bytes differ the first bytes do, and else the digits decide
  split
  · split
    · exact cons_byte_lt (by omega) (by omega) (Or.inl hvalue)
    all_goals
      repeat' split
      all_goals exact cons_byte_lt (by omega) (by omega) (Or.inl (by omega))
  split
  · rw [if_neg (by omega)]
    split
    · exact digitByte_lt hvalue 64 (by decide) (by decide) (by omega) (lastByte_lt hvalue)
    · split
      all_goals exact cons_byte_lt (by omega) (by omega) (Or.inl (by omega))
  split
  · rw [if_neg (by omega), if_neg (by omega)]
    split
    · exact digitByte_lt hvalue 4096 (by decide) (by decide) (by omega) (lastTwoBytes_lt hvalue)
    · exact cons_byte_lt (by omega) (by omega) (Or.inl (by omega))
  · rw [if_neg (by omega), if_neg (by omega), if_neg (by omega)]
    exact digitByte_lt hvalue 262144 (by decide) (by decide) (by omega) (lastThreeBytes_lt hvalue)

/-- Texts in the order of their characters are in the order of their bytes. -/
theorem flatMap_encodeChar_lt {s t : List Char} (h : s < t) :
    s.flatMap String.utf8EncodeChar < t.flatMap String.utf8EncodeChar := by
  induction h with
  | @nil d t =>
    have hsome : String.utf8EncodeChar d ≠ [] := String.utf8EncodeChar_ne_nil
    obtain ⟨b, bs, hbytes⟩ := List.exists_cons_of_ne_nil hsome
    rw [List.flatMap_cons, hbytes]
    exact List.nil_lt_cons b _
  | rel h =>
    rw [List.flatMap_cons, List.flatMap_cons]
    exact encodeChar_lt h _ _
  | cons h ih =>
    rw [List.flatMap_cons, List.flatMap_cons]
    exact List.append_left_lt ih

/-- **The lower one of two texts has the lower bytes.** -/
theorem toUTF8_lt {s t : String} (h : s < t) : s.toUTF8.toList < t.toUTF8.toList := by
  rw [toList_toUTF8, toList_toUTF8]
  exact flatMap_encodeChar_lt (String.lt_iff_toList_lt.1 h)

end SchemaBridge.Text
