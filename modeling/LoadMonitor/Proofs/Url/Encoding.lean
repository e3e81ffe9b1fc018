import LoadMonitor.Proofs.Json.Integer
import LoadMonitor.Proofs.Text.Split
import LoadMonitor.Url.Encoding

/-!
# Encoded text stays encoded

A percent sign with two digits is made of characters that are encoded nowhere. So text that is
encoded already is not changed by encoding it again, and a text without percent signs is what its
bytes say.
-/

namespace LoadMonitor.Url

/-! ## Encoding -/

/-- Characters that encoding writes. -/
def isEscape (c : Char) : Bool := c == '%' || c.isDigit || ('A' ≤ c && c ≤ 'F')

theorem isEscape_ascii {c : Char} (h : isEscape c = true) : c.toNat < 128 := by
  have hF : 'F'.toNat < 128 := by decide
  simp only [isEscape, Bool.or_eq_true, Bool.and_eq_true, beq_iff_eq, decide_eq_true_eq] at h
  rcases h with (rfl | hdigit) | ⟨-, hle⟩
  · decide
  · have := (Json.digit_range hdigit).2
    omega
  · exact Nat.lt_of_le_of_lt (UInt32.le_iff_toNat_le.mp hle) hF

theorem isEscape_upperHexDigit {n : Nat} (h : n < 16) : isEscape (upperHexDigit n) = true := by
  have hall : ∀ n ∈ List.range 16, isEscape (upperHexDigit n) = true := by decide
  exact hall n (List.mem_range.mpr h)

theorem isEscape_of_mem_encodeByte {b : UInt8} {c : Char} (h : c ∈ encodeByte b) :
    isEscape c = true := by
  have hb : b.toNat < 256 := b.toNat_lt
  simp only [encodeByte, List.mem_cons, List.not_mem_nil, or_false] at h
  rcases h with rfl | rfl | rfl
  · rfl
  · exact isEscape_upperHexDigit (by omega)
  · exact isEscape_upperHexDigit (by omega)

theorem charBytes_eq (c : Char) : charBytes c = String.utf8EncodeChar c := by
  rw [charBytes, String.singleton_eq_ofList, Json.toUTF8_ofList, Json.utf8_cons, Json.utf8_nil,
    List.append_nil]

variable {set : Char → Bool}

theorem charBytes_ne_nil (c : Char) : charBytes c ≠ [] := by
  intro hnil
  have hlength := congrArg List.length (charBytes_eq c)
  rw [hnil, String.length_utf8EncodeChar] at hlength
  exact absurd hlength (Nat.ne_of_lt (Char.utf8Size_pos c))

theorem encodeChar_ne_nil (c : Char) : encodeChar set c ≠ [] := by
  rw [encodeChar]
  split
  · cases hbytes : charBytes c with
    | nil => exact absurd hbytes (charBytes_ne_nil c)
    | cons b rest => nofun
  · nofun

theorem encode_ne_nil {cs : List Char} (h : cs ≠ []) : encode set cs ≠ [] := by
  cases cs with
  | nil => exact absurd rfl h
  | cons c rest => exact List.append_ne_nil_of_left_ne_nil (encodeChar_ne_nil c) _

/-- What encoded text holds. -/
theorem mem_encode {cs : List Char} {c : Char} (h : c ∈ encode set cs) :
    (c ∈ cs ∧ set c = false) ∨ isEscape c = true := by
  obtain ⟨d, hd, hc⟩ := List.mem_flatMap.mp h
  rw [encodeChar] at hc
  split at hc
  · obtain ⟨b, -, hb⟩ := List.mem_flatMap.mp hc
    exact .inr (isEscape_of_mem_encodeByte hb)
  · next hset =>
    rw [List.mem_singleton.mp hc]
    exact .inl ⟨hd, Bool.eq_false_iff.mpr hset⟩

/-- A text without characters of the set stays as it is. -/
theorem encode_of_forall {cs : List Char} (h : ∀ c ∈ cs, set c = false) : encode set cs = cs := by
  induction cs with
  | nil => rfl
  | cons c rest ih =>
      obtain ⟨hc, hrest⟩ := List.forall_mem_cons.mp h
      rw [encode, List.flatMap_cons, ← encode, ih hrest, encodeChar, hc]
      rfl

/-- A set of characters that no percent sign with digits is made of. -/
def IsEncodable (set : Char → Bool) : Prop := ∀ c, isEscape c = true → set c = false

theorem IsEncodable.of_ascii
    (h : (List.range 128).all (fun n => isEscape (Char.ofNat n) → set (Char.ofNat n) = false) = true) :
    IsEncodable set :=
  fun _ hc => forall_ascii (p := fun c => isEscape c → set c = false) h (isEscape_ascii hc) hc

theorem isEncodable_pathSet : IsEncodable inPathSet := .of_ascii (by decide)
theorem isEncodable_userSet : IsEncodable inUserSet := .of_ascii (by decide)
theorem isEncodable_specialQuerySet : IsEncodable inSpecialQuerySet := .of_ascii (by decide)
theorem isEncodable_fragmentSet : IsEncodable inFragmentSet := .of_ascii (by decide)

/-- Encoded text holds nothing of the set. -/
theorem set_eq_false_of_mem_encode (hset : IsEncodable set) {cs : List Char} :
    ∀ c ∈ encode set cs, set c = false :=
  fun c hc => (mem_encode hc).elim (·.2) (hset c)

/-! ## Decoding -/

/-- A text without percent signs says its own bytes. -/
theorem decode_of_not_mem {cs : List Char} (h : '%' ∉ cs) : decode cs = Json.utf8 cs := by
  induction cs with
  | nil => rfl
  | cons c rest ih =>
      obtain ⟨hc, hrest⟩ := List.ne_and_not_mem_of_not_mem_cons h
      rw [decode, ih hrest, charBytes_eq, Json.utf8_cons]
      rintro a b rest' rfl
      exact absurd rfl hc

theorem textOfBytes?_utf8 (cs : List Char) : textOfBytes? (Json.utf8 cs) = some cs := by
  have htext := Json.fromUTF8?_utf8 (String.ofList cs)
  rw [String.toList_ofList] at htext
  rw [textOfBytes?, htext, Option.map_some, String.toList_ofList]

end LoadMonitor.Url
