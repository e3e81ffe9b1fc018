import LoadMonitor.Proofs.Json.Escape

/-!
# The order of texts

Texts are compared by their code points. That is the same as to compare their bytes: of two
characters the lesser one has the lesser bytes, whatever their lengths are.
-/

namespace LoadMonitor

open Json

/-! ## Bytes -/

theorem ofNat_lt_iff {m n : Nat} (hm : m < 256) (hn : n < 256) :
    UInt8.ofNat m < UInt8.ofNat n ↔ m < n := by
  rw [UInt8.lt_iff_toNat_lt, UInt8.toNat_ofNat', UInt8.toNat_ofNat', Nat.mod_eq_of_lt hm,
    Nat.mod_eq_of_lt hn]

theorem ofNat_eq_iff {m n : Nat} (hm : m < 256) (hn : n < 256) :
    UInt8.ofNat m = UInt8.ofNat n ↔ m = n := by
  rw [← UInt8.toNat_inj, UInt8.toNat_ofNat', UInt8.toNat_ofNat', Nat.mod_eq_of_lt hm,
    Nat.mod_eq_of_lt hn]

/-- A difference within equally many bytes decides, whatever follows. -/
theorem append_lt_append {a b : Bytes} (h : a < b) (hlength : a.length = b.length) (x y : Bytes) :
    a ++ x < b ++ y := by
  induction a generalizing b with
  | nil =>
      cases b with
      | nil => exact absurd h (List.lt_irrefl [])
      | cons c b => cases hlength
  | cons c a ih =>
      cases b with
      | nil => cases hlength
      | cons d b =>
          rw [List.cons_append, List.cons_append, List.cons_lt_cons_iff]
          rcases List.cons_lt_cons_iff.mp h with hlt | ⟨heq, hrest⟩
          · exact .inl hlt
          · exact .inr ⟨heq, ih hrest (Nat.succ.inj hlength)⟩

theorem nil_lt_nil_iff : ([] : Bytes) < [] ↔ False := iff_of_false (List.lt_irrefl []) id

/-- A difference in the first byte decides. -/
theorem ofNat_cons_lt {m n : Nat} (h : m < n) (hn : n < 256) (x y : Bytes) :
    UInt8.ofNat m :: x < UInt8.ofNat n :: y := by
  rw [List.cons_lt_cons_iff]
  exact .inl ((ofNat_lt_iff (h.trans hn) hn).mpr h)

/-! ## Characters of the same length -/

section Lengths

variable {v w : Nat}

/-- In base 64 the last digit decides where the others do not. -/
theorem digits_lt (h : v < w) : v / 64 < w / 64 ∨ v / 64 = w / 64 ∧ v % 64 < w % 64 := by
  omega

theorem twoBytes_lt (h : v < w) (hw : w ≤ 2047) :
    [UInt8.ofNat (v / 64 % 32 + 192), UInt8.ofNat (v % 64 + 128)] <
      [UInt8.ofNat (w / 64 % 32 + 192), UInt8.ofNat (w % 64 + 128)] := by
  simp (disch := omega) only [List.cons_lt_cons_iff, ofNat_lt_iff, ofNat_eq_iff, nil_lt_nil_iff]
  omega

theorem threeBytes_lt (h : v < w) (hw : w ≤ 65535) :
    [UInt8.ofNat (v / 4096 % 16 + 224), UInt8.ofNat (v / 64 % 64 + 128),
        UInt8.ofNat (v % 64 + 128)] <
      [UInt8.ofNat (w / 4096 % 16 + 224), UInt8.ofNat (w / 64 % 64 + 128),
        UInt8.ofNat (w % 64 + 128)] := by
  simp (disch := omega) only [List.cons_lt_cons_iff, ofNat_lt_iff, ofNat_eq_iff, nil_lt_nil_iff]
  omega

theorem fourBytes_lt (h : v < w) (hw : w < 0x110000) :
    [UInt8.ofNat (v / 262144 % 8 + 240), UInt8.ofNat (v / 4096 % 64 + 128),
        UInt8.ofNat (v / 64 % 64 + 128), UInt8.ofNat (v % 64 + 128)] <
      [UInt8.ofNat (w / 262144 % 8 + 240), UInt8.ofNat (w / 4096 % 64 + 128),
        UInt8.ofNat (w / 64 % 64 + 128), UInt8.ofNat (w % 64 + 128)] := by
  simp (disch := omega) only [List.cons_lt_cons_iff, ofNat_lt_iff, ofNat_eq_iff, nil_lt_nil_iff]
  rw [Nat.mod_eq_of_lt (show v / 262144 < 8 by omega),
    Nat.mod_eq_of_lt (show w / 262144 < 8 by omega)]
  -- The digit that decides is found from the last one upwards.
  rcases digits_lt h with hhigh | ⟨heq, hlow⟩
  · rcases digits_lt hhigh with hhigh | ⟨heq, hlow⟩
    · rcases digits_lt hhigh with hhigh | ⟨heq, hlow⟩
      all_goals
        simp only [Nat.div_div_eq_div_mul, Nat.reduceMul] at *
        omega
    · simp only [Nat.div_div_eq_div_mul, Nat.reduceMul] at *
      omega
  · omega

end Lengths

/-! ## Characters and texts -/

/-- Of two characters the lesser one has the lesser bytes, whatever follows. -/
theorem utf8EncodeChar_append_lt {c d : Char} (h : c < d) (x y : Bytes) :
    String.utf8EncodeChar c ++ x < String.utf8EncodeChar d ++ y := by
  have hlt : c.val.toNat < d.val.toNat := h
  have hmax : d.val.toNat < 0x110000 := by
    have hvalid := d.valid
    unfold UInt32.isValidChar Nat.isValidChar at hvalid
    omega
  unfold String.utf8EncodeChar
  generalize c.val.toNat = v, d.val.toNat = w at hlt hmax ⊢
  dsimp only
  -- The first byte tells how many bytes there are, and more of them for greater characters.
  by_cases hone : w ≤ 127
  · rw [if_pos hone, if_pos (by omega)]
    exact ofNat_cons_lt (by omega) (by omega) _ _
  rw [if_neg hone]
  by_cases htwo : w ≤ 2047
  · rw [if_pos htwo]
    split
    · exact ofNat_cons_lt (by omega) (by omega) _ _
    · rw [if_pos (by omega)]
      exact append_lt_append (twoBytes_lt hlt htwo) (by rfl) x y
  rw [if_neg htwo]
  by_cases hthree : w ≤ 65535
  · rw [if_pos hthree]
    split
    · exact ofNat_cons_lt (by omega) (by omega) _ _
    split
    · exact ofNat_cons_lt (by omega) (by omega) _ _
    · rw [if_pos (by omega)]
      exact append_lt_append (threeBytes_lt hlt hthree) (by rfl) x y
  · rw [if_neg hthree]
    split
    · exact ofNat_cons_lt (by omega) (by omega) _ _
    split
    · exact ofNat_cons_lt (by omega) (by omega) _ _
    split
    · exact ofNat_cons_lt (by omega) (by omega) _ _
    · exact append_lt_append (fourBytes_lt hlt hmax) (by rfl) x y

theorem utf8_lt_utf8 {cs ds : List Char} (h : cs < ds) : utf8 cs < utf8 ds := by
  induction cs generalizing ds with
  | nil =>
      cases ds with
      | nil => exact absurd h (List.lt_irrefl [])
      | cons d ds =>
          rw [utf8_cons]
          have hbytes : 0 < (String.utf8EncodeChar d).length := by
            rw [String.length_utf8EncodeChar]
            exact d.utf8Size_pos
          obtain ⟨b, bs, hcons⟩ := List.exists_cons_of_length_pos hbytes
          rw [hcons]
          exact List.nil_lt_cons _ _
  | cons c cs ih =>
      cases ds with
      | nil => exact absurd h (List.not_lt_nil _)
      | cons d ds =>
          rw [utf8_cons, utf8_cons]
          rcases List.cons_lt_cons_iff.mp h with hlt | ⟨rfl, hrest⟩
          · exact utf8EncodeChar_append_lt hlt _ _
          · exact List.append_left_lt (ih hrest)

/-- A text that is less than another one has bytes that are less than the other one's. -/
theorem toUTF8_lt_toUTF8 {s t : String} (h : s < t) : s.toUTF8.toList < t.toUTF8.toList := by
  have hbytes := utf8_lt_utf8 (String.lt_iff.mp h)
  rwa [← toUTF8_ofList, ← toUTF8_ofList, String.ofList_toList, String.ofList_toList] at hbytes

end LoadMonitor
