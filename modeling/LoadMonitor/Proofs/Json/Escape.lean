import LoadMonitor.Json.Value
import LoadMonitor.Proofs.Json.Scanning

/-!
# Escapes are read back

A string in quotes is read back whatever its characters are: the bytes of a character that needs no
escape are none of those that mean something in a string, and every escape stands for the bytes of
its character.
-/

namespace LoadMonitor.Json

/-! ## Bytes of text -/

/-- The UTF-8 bytes of characters. -/
def utf8 (cs : List Char) : Bytes := cs.flatMap String.utf8EncodeChar

@[simp] theorem utf8_nil : utf8 [] = [] := rfl

theorem utf8_cons (c : Char) (cs : List Char) :
    utf8 (c :: cs) = String.utf8EncodeChar c ++ utf8 cs := List.flatMap_cons

@[simp] theorem utf8_append (cs ds : List Char) : utf8 (cs ++ ds) = utf8 cs ++ utf8 ds :=
  List.flatMap_append

theorem byteArray_toList (bytes : ByteArray) : bytes.toList = bytes.data.toList := by
  have hloop : ∀ i acc, ByteArray.toList.loop bytes i acc =
      acc.reverse ++ bytes.data.toList.drop i := by
    intro i acc
    fun_induction ByteArray.toList.loop bytes i acc with
    | case1 i acc hi ih =>
        have hlength : i < bytes.data.toList.length := hi
        have hget : bytes.get! i = bytes.data.toList[i] := getElem!_pos bytes.data i hi
        rw [ih, List.drop_eq_getElem_cons hlength, hget, List.reverse_cons, List.append_assoc]
        rfl
    | case2 i acc hi =>
        rw [List.drop_eq_nil_of_le (Nat.le_of_not_lt hi), List.append_nil]
  rw [ByteArray.toList, hloop]
  simp

theorem toUTF8_ofList (cs : List Char) : (String.ofList cs).toUTF8.toList = utf8 cs := by
  rw [byteArray_toList]
  show (String.ofList cs).toByteArray.data.toList = _
  rw [String.toByteArray_ofList, List.utf8Encode, List.toList_data_toByteArray, utf8]

/-- What is read from the bytes of a text is the text. -/
theorem fromUTF8?_utf8 (s : String) : String.fromUTF8? ⟨(utf8 s.toList).toArray⟩ = some s := by
  have hbytes : (⟨(utf8 s.toList).toArray⟩ : ByteArray) = s.toByteArray := by
    rw [← String.utf8Encode_toList]
    exact ByteArray.ext (List.data_toByteArray).symm
  rw [hbytes, String.fromUTF8?, dif_pos s.isValidUTF8]
  rfl

theorem utf8EncodeChar_ascii {c : Char} (h : c.toNat < 0x80) :
    String.utf8EncodeChar c = [byte c] := by
  have hle : c.val.toNat ≤ 0x7f := Nat.le_of_lt_succ h
  simp only [String.utf8EncodeChar, hle, if_true]
  rfl

theorem byte_toNat {c : Char} (h : c.toNat < 0x80) : (byte c).toNat = c.toNat :=
  UInt8.toNat_ofNat_of_lt' (h.trans (by decide))

theorem byte_inj {c d : Char} (hc : c.toNat < 0x80) (hd : d.toNat < 0x80) (h : byte c = byte d) :
    c = d := by
  have hnat := congrArg UInt8.toNat h
  rwa [byte_toNat hc, byte_toNat hd, Char.toNat_inj] at hnat

/-- The bytes of a character beyond ASCII are beyond ASCII. -/
theorem le_of_mem_utf8EncodeChar {c : Char} (h : 0x80 ≤ c.toNat) {b : UInt8}
    (hb : b ∈ String.utf8EncodeChar c) : 0x80 ≤ b := by
  have hlt : ¬ c.val.toNat ≤ 0x7f := by
    have := h
    simp only [Char.toNat] at this
    omega
  -- There are two, three or four bytes, each of which has its highest bit set.
  rw [UInt8.le_iff_toNat_le]
  simp only [String.utf8EncodeChar, hlt, if_false] at hb
  split at hb
  · simp only [List.mem_cons, List.not_mem_nil, or_false] at hb
    obtain rfl | rfl := hb <;> simp <;> omega
  · split at hb
    · simp only [List.mem_cons, List.not_mem_nil, or_false] at hb
      obtain rfl | rfl | rfl := hb <;> simp <;> omega
    · simp only [List.mem_cons, List.not_mem_nil, or_false] at hb
      obtain rfl | rfl | rfl | rfl := hb <;> simp <;> omega

theorem codePointBytes_eq (c : Char) : codePointBytes c.toNat = String.utf8EncodeChar c := by
  rw [codePointBytes, Char.ofNat_toNat, String.singleton_eq_ofList, toUTF8_ofList, utf8_cons,
    utf8_nil, List.append_nil]

/-! ## How characters are written -/

/-- The forms that a character may have in a string. -/
inductive Escaped (c : Char) : List Char → Prop
  /-- A letter stands for it. -/
  | short {letter : Char} (hletter : 0x20 ≤ letter.toNat ∧ letter.toNat < 0x80)
      (hc : c.toNat < 0x80) (hshort : shortEscape? (byte letter) = some (byte c)) :
      Escaped c ['\\', letter]
  /-- It is a control character and given by its number. -/
  | control (hc : c.toNat < 0x20) :
      Escaped c ['\\', 'u', '0', '0', JsonValue.hexDigit (c.toNat / 16),
        JsonValue.hexDigit (c.toNat % 16)]
  | plain (hquote : c ≠ '"') (hslash : c ≠ '\\') (hc : 0x20 ≤ c.toNat) : Escaped c [c]

theorem Escaped.of_eq {c d letter : Char} (hc : c = d)
    (hletter : 0x20 ≤ letter.toNat ∧ letter.toNat < 0x80) (hd : d.toNat < 0x80)
    (hshort : shortEscape? (byte letter) = some (byte d)) : Escaped c ['\\', letter] := by
  subst hc
  exact .short hletter hd hshort

theorem escaped_escapeChar (c : Char) : Escaped c (JsonValue.escapeChar c) := by
  -- Quote, backslash and five controls have letters, and the other controls their numbers.
  unfold JsonValue.escapeChar
  split
  next hc => exact .of_eq hc (by decide) (by decide) rfl
  next hquote =>
  split
  next hc => exact .of_eq hc (by decide) (by decide) rfl
  next hslash =>
  split
  next hc => exact .of_eq hc (by decide) (by decide) rfl
  next =>
  split
  next hc => exact .of_eq hc (by decide) (by decide) rfl
  next =>
  split
  next hc => exact .of_eq hc (by decide) (by decide) rfl
  next =>
  split
  next hc => exact .of_eq hc (by decide) (by decide) rfl
  next =>
  split
  next hc => exact .of_eq hc (by decide) (by decide) rfl
  next =>
  split
  next hc => exact .control hc
  next hc => exact .plain hquote hslash (Nat.le_of_not_lt hc)

/-! ## Pieces of strings -/

/-- With any sufficient bound, the pieces of a string are read as the given bytes. -/
def ReadsPieces (bs cs rest : Bytes) : Prop :=
  ∀ pieces, bs.length ≤ pieces → readPieces pieces bs = .ok (cs, rest)

namespace ReadsPieces

variable {bs cs rest : Bytes}

theorem quote (rest : Bytes) : ReadsPieces (byte '"' :: rest) [] rest := by
  intro pieces hpieces
  obtain ⟨pieces, rfl⟩ : ∃ k, pieces = k + 1 := ⟨pieces - 1, by simp at hpieces; omega⟩
  simp [readPieces]

theorem escape {mid : Bytes} {c : Bytes} (hescape : readEscape mid = .ok (c, bs))
    (h : ReadsPieces bs cs rest) : ReadsPieces (byte '\\' :: mid) (c ++ cs) rest := by
  intro pieces hpieces
  have hlength := readEscape_length hescape
  rw [List.length_cons] at hpieces
  obtain ⟨pieces, rfl⟩ : ∃ k, pieces = k + 1 := ⟨pieces - 1, by omega⟩
  have hread := h pieces (by omega)
  simp +decide [readPieces, hescape, hread]

theorem byte {b : UInt8} (hquote : b ≠ Json.byte '"') (hslash : b ≠ Json.byte '\\')
    (hcontrol : ¬ b < 0x20) (h : ReadsPieces bs cs rest) :
    ReadsPieces (b :: bs) (b :: cs) rest := by
  intro pieces hpieces
  rw [List.length_cons] at hpieces
  obtain ⟨pieces, rfl⟩ : ∃ k, pieces = k + 1 := ⟨pieces - 1, by omega⟩
  have hread := h pieces (by omega)
  simp [readPieces, hquote, hslash, hcontrol, hread]

theorem bytes {l : Bytes} (hl : ∀ b ∈ l, 0x80 ≤ b) (h : ReadsPieces bs cs rest) :
    ReadsPieces (l ++ bs) (l ++ cs) rest := by
  induction l with
  | nil => exact h
  | cons b l ih =>
      have hb : 0x80 ≤ b := hl b List.mem_cons_self
      refine byte ?_ ?_ ?_ (ih fun b hb => hl b (List.mem_cons_of_mem _ hb))
      · rintro rfl
        exact absurd hb (by decide)
      · rintro rfl
        exact absurd hb (by decide)
      · exact fun hlt => absurd (UInt8.lt_of_le_of_lt hb hlt) (by decide)

/-- A character that needs no escape stands for itself. -/
theorem plain {c : Char} (hquote : c ≠ '"') (hslash : c ≠ '\\') (hc : 0x20 ≤ c.toNat)
    (h : ReadsPieces bs cs rest) :
    ReadsPieces (String.utf8EncodeChar c ++ bs) (String.utf8EncodeChar c ++ cs) rest := by
  by_cases hascii : c.toNat < 0x80
  · rw [utf8EncodeChar_ascii hascii]
    refine byte (fun heq => hquote (byte_inj hascii (by decide) heq))
      (fun heq => hslash (byte_inj hascii (by decide) heq)) (fun hlt => ?_) h
    rw [UInt8.lt_iff_toNat_lt, byte_toNat hascii] at hlt
    exact Nat.not_lt_of_le hc hlt
  · exact bytes (fun b => le_of_mem_utf8EncodeChar (Nat.le_of_not_lt hascii)) h

/-- A control character stands for itself as a number of four digits. -/
theorem control {c : Char} (hcontrol : c.toNat < 0x20) (h : ReadsPieces bs cs rest) :
    ReadsPieces
      (utf8 ['\\', 'u', '0', '0', JsonValue.hexDigit (c.toNat / 16),
        JsonValue.hexDigit (c.toNat % 16)] ++ bs)
      (String.utf8EncodeChar c ++ cs) rest := by
  -- The characters are few enough to look at the digits of every one.
  have hdigits : ∀ n < 0x20, utf8 [JsonValue.hexDigit (n / 16), JsonValue.hexDigit (n % 16)] =
      [Json.byte (JsonValue.hexDigit (n / 16)), Json.byte (JsonValue.hexDigit (n % 16))] ∧
      unit? (Json.byte '0') (Json.byte '0') (Json.byte (JsonValue.hexDigit (n / 16)))
        (Json.byte (JsonValue.hexDigit (n % 16))) = some n ∧
      isTrailingUnit n = false ∧ isLeadingUnit n = false := by
    decide
  obtain ⟨hutf, hunit, htrailing, hleading⟩ := hdigits c.toNat hcontrol
  rw [utf8_cons, utf8_cons, utf8_cons, utf8_cons, hutf]
  have hread : readEscape (Json.byte 'u' :: Json.byte '0' :: Json.byte '0' ::
      Json.byte (JsonValue.hexDigit (c.toNat / 16)) ::
      Json.byte (JsonValue.hexDigit (c.toNat % 16)) :: bs) = .ok (String.utf8EncodeChar c, bs) := by
    have hletter : shortEscape? (Json.byte 'u') = none := rfl
    simp [readEscape, hletter, readUnit, hunit, htrailing, hleading, codePointBytes_eq]
  exact escape hread h

/-- A letter after a backslash stands for its character. -/
theorem short {c letter : Char} (hletter : letter.toNat < 0x80) (hc : c.toNat < 0x80)
    (hshort : shortEscape? (Json.byte letter) = some (Json.byte c)) (h : ReadsPieces bs cs rest) :
    ReadsPieces (utf8 ['\\', letter] ++ bs) (String.utf8EncodeChar c ++ cs) rest := by
  have hread : readEscape (Json.byte letter :: bs) = .ok ([Json.byte c], bs) := by
    rw [readEscape, hshort]
  rw [utf8_cons, utf8_cons, utf8EncodeChar_ascii hletter, utf8EncodeChar_ascii hc]
  exact escape hread h

/-- What a character is written as in a string is read as its bytes. -/
theorem char (c : Char) (h : ReadsPieces bs cs rest) :
    ReadsPieces (utf8 (JsonValue.escapeChar c) ++ bs) (String.utf8EncodeChar c ++ cs) rest := by
  have hescaped := escaped_escapeChar c
  generalize JsonValue.escapeChar c = form at hescaped
  cases hescaped with
  | short hletter hc hshort => exact short hletter.2 hc hshort h
  | control hc => exact control hc h
  | plain hquote hslash hc =>
      rw [utf8_cons, utf8_nil, List.append_nil]
      exact plain hquote hslash hc h

theorem chars (l : List Char) (rest : Bytes) :
    ReadsPieces (utf8 (l.flatMap JsonValue.escapeChar) ++ Json.byte '"' :: rest) (utf8 l) rest := by
  induction l with
  | nil => exact quote rest
  | cons c l ih =>
      rw [List.flatMap_cons, utf8_append, List.append_assoc, utf8_cons]
      exact ih.char c

end ReadsPieces

theorem readString_escaped (s : String) (rest : Bytes) :
    readString (utf8 (s.toList.flatMap JsonValue.escapeChar) ++ byte '"' :: rest) =
      .ok (s, rest) :=
  readString_eq_ok.mpr
    ⟨utf8 s.toList, ReadsPieces.chars s.toList rest _ (Nat.le_refl _), fromUTF8?_utf8 s⟩

theorem utf8_quote (s : String) (rest : Bytes) :
    utf8 (JsonValue.quote s) ++ rest =
      byte '"' :: (utf8 (s.toList.flatMap JsonValue.escapeChar) ++ byte '"' :: rest) := by
  rw [JsonValue.quote, utf8_cons, utf8_append, List.append_assoc, List.append_assoc]
  rfl

/-! ## Control characters -/

theorem hexDigit_printable {n : Nat} (h : n < 16) : 0x20 ≤ (JsonValue.hexDigit n).toNat := by
  revert n
  decide

/-- No control character is left by itself. -/
theorem Escaped.printable {c d : Char} {form : List Char} (h : Escaped c form) (hd : d ∈ form) :
    0x20 ≤ d.toNat := by
  cases h with
  | short hletter _ _ =>
      obtain rfl | rfl := List.mem_pair.mp hd
      · decide
      · exact hletter.1
  | control hc =>
      simp only [List.mem_cons, List.not_mem_nil, or_false] at hd
      obtain rfl | rfl | rfl | rfl | rfl | rfl := hd
      iterate 4 decide
      · exact hexDigit_printable (by omega)
      · exact hexDigit_printable (by omega)
  | plain _ _ hc =>
      rw [List.mem_singleton.mp hd]
      exact hc

theorem quote_printable {s : String} {c : Char} (h : c ∈ JsonValue.quote s) : 0x20 ≤ c.toNat := by
  simp only [JsonValue.quote, List.mem_cons, List.mem_append, List.mem_flatMap, List.not_mem_nil,
    or_false] at h
  obtain rfl | ⟨d, -, h⟩ | rfl := h
  · decide
  · exact (escaped_escapeChar d).printable h
  · decide

end LoadMonitor.Json
