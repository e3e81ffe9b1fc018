import LoadMonitor.Proofs.Json.Integer
import LoadMonitor.Proofs.Text.Split
import LoadMonitor.Url.Address
import Mathlib.Algebra.Ring.Nat

/-!
# Numeric hosts are read back

The text of an address with four parts or with eight groups is read as that address.
-/

namespace LoadMonitor.Url

/-! ## Numerals -/

theorem numeralValue_append (base : Nat) (cs : List Char) (c : Char) :
    numeralValue base (cs ++ [c]) = (numeralValue base cs).bind fun n =>
      (hexValue? c).bind fun d => if d < base then some (base * n + d) else none := by
  rw [numeralValue, List.foldl_append, ← numeralValue]
  rfl

theorem hexValue?_digitChar {d : Nat} (h : d < 16) : hexValue? d.digitChar = some d := by
  have hall : ∀ d ∈ List.range 16, hexValue? d.digitChar = some d := by decide
  exact hall d (List.mem_range.mpr h)

/-- The digits of a number. -/
theorem mem_toDigits {base : Nat} (hbase : 1 < base) {n : Nat} {c : Char}
    (h : c ∈ Nat.toDigits base n) : ∃ d < base, c = d.digitChar := by
  induction n using Nat.strongRecOn with
  | ind n ih =>
      by_cases hlt : n < base
      · rw [Nat.toDigits_of_lt_base hlt, List.mem_singleton] at h
        exact ⟨n, hlt, h⟩
      · rw [Nat.toDigits_of_base_le hbase (by omega), List.mem_append, List.mem_singleton] at h
        rcases h with h | h
        · exact ih _ (Nat.div_lt_self (by omega) hbase) h
        · exact ⟨n % base, Nat.mod_lt _ (by omega), h⟩

/-- The digits of a number are read as the number. -/
theorem numeralValue_toDigits {base : Nat} (hbase : 1 < base) (hhex : base ≤ 16) (n : Nat) :
    numeralValue base (Nat.toDigits base n) = some n := by
  induction n using Nat.strongRecOn with
  | ind n ih =>
      by_cases hlt : n < base
      · rw [Nat.toDigits_of_lt_base hlt, ← List.nil_append [_], numeralValue_append,
          hexValue?_digitChar (by omega)]
        simp [numeralValue, hlt]
      · have hmod : n % base < base := Nat.mod_lt _ (by omega)
        rw [Nat.toDigits_of_base_le hbase (by omega), numeralValue_append,
          ih _ (Nat.div_lt_self (by omega) hbase), hexValue?_digitChar (by omega)]
        rw [Option.bind_some, Option.bind_some, if_pos hmod, Nat.div_add_mod]

/-- A numeral of so many digits is below that power of the base. -/
theorem numeralValue_lt {base : Nat} {cs : List Char} {n : Nat}
    (h : numeralValue base cs = some n) : n < base ^ cs.length := by
  induction hlength : cs.length generalizing cs n with
  | zero =>
      obtain rfl := List.eq_nil_of_length_eq_zero hlength
      obtain rfl := Option.some.inj h
      exact Nat.one_pos
  | succ length ih =>
      obtain rfl | ⟨front, c, rfl⟩ := List.eq_nil_or_concat cs
      · cases hlength
      rw [List.concat_eq_append] at h hlength
      rw [numeralValue_append] at h
      obtain ⟨m, hm, h⟩ := Option.bind_eq_some_iff.mp h
      obtain ⟨d, -, h⟩ := Option.bind_eq_some_iff.mp h
      split at h
      · next hd =>
        obtain rfl := Option.some.inj h
        have hfront := ih hm (by simpa using hlength)
        calc base * m + d < base * (m + 1) := by rw [Nat.mul_succ]; omega
          _ ≤ base * base ^ length := Nat.mul_le_mul_left base hfront
          _ = base ^ (length + 1) := by rw [Nat.pow_succ, Nat.mul_comm]
      · cases h

/-! ## Four parts -/

namespace Ipv4

theorem isDigit_ne_dot {c : Char} (h : c.isDigit = true) : (c == '.') = false := by
  have := Json.digit_range h
  refine beq_false_of_ne ?_
  rintro rfl
  cases h

/-- The four parts of an address. -/
def parts (address : Nat) : List Nat :=
  [address / 16777216 % 256, address / 65536 % 256, address / 256 % 256, address % 256]

theorem splitAtChars_text (address : Nat) :
    splitAtChars (· == '.') (text address) = (parts address).map (Nat.toDigits 10) := by
  refine splitAtChars_intercalate (c := '.') rfl nofun fun piece hpiece c hc => ?_
  obtain ⟨n, -, rfl⟩ := List.mem_map.mp hpiece
  exact isDigit_ne_dot (Json.isDigit_of_mem_toDigits c hc)

theorem splitParts_text (address : Nat) :
    splitParts (text address) = (parts address).map (Nat.toDigits 10) := by
  have hlast : Nat.toDigits 10 (address % 256) ≠ [] := Nat.toDigits_ne_nil
  rw [splitParts, splitAtChars_text]
  simp [parts, hlast]

/-- A part is read back. -/
theorem readPart_toDigits (n : Nat) : readPart (Nat.toDigits 10 n) = some n := by
  have hvalue : numeralValue 10 (Nat.toDigits 10 n) = some n :=
    numeralValue_toDigits (by decide) (by decide) n
  rcases Nat.eq_zero_or_pos n with rfl | hn
  · rfl
  · obtain ⟨d, ds, hdigits, hd⟩ := Json.toDigits_head hn
    have hzero : d ≠ '0' := by
      rintro rfl
      exact hd rfl
    rw [hdigits] at hvalue ⊢
    rw [← hvalue, readPart]
    · nofun
    · exact fun h => hzero (List.cons.inj h).1
    · exact fun c rest h => hzero (List.cons.inj h).1

theorem mem_text {address : Nat} {c : Char} (h : c ∈ text address) : c.isDigit = true ∨ c = '.' := by
  rcases mem_intercalate h with h | ⟨piece, hpiece, h⟩
  · exact .inr (List.mem_singleton.mp h)
  · obtain ⟨n, -, rfl⟩ := List.mem_map.mp hpiece
    exact .inl (Json.isDigit_of_mem_toDigits c h)

theorem text_ne_nil (address : Nat) : text address ≠ [] := by
  intro hnil
  have hlength := congrArg List.length (splitAtChars_text address)
  rw [hnil] at hlength
  cases hlength

theorem looksNumeric_text (address : Nat) : looksNumeric (text address) = true := by
  have hlast : Nat.toDigits 10 (address % 256) ≠ [] := Nat.toDigits_ne_nil
  rw [looksNumeric, splitParts_text]
  simp only [parts, List.map_cons, List.map_nil, List.getLast?_cons_cons, List.getLast?_singleton]
  rw [readPart_toDigits]
  simp

theorem ofParts_bytes {a b c d : Nat} (ha : a < 256) (hb : b < 256) (hc : c < 256) (hd : d < 256) :
    ofParts [a, b, c, d] = some (256 * (256 * (256 * a + b) + c) + d) := by
  simp [ofParts, ha, hb, hc, hd]
  omega

theorem read_text {address : Nat} (h : address < 4294967296) :
    read (text address) = some address := by
  have hparts : ((parts address).map (Nat.toDigits 10)).mapM readPart = some (parts address) := by
    simp [parts, readPart_toDigits]
  rw [read, splitParts_text, hparts, Option.bind_eq_bind, Option.bind_some, parts,
    ofParts_bytes (by omega) (by omega) (by omega) (by omega)]
  congr 1
  omega

/-- Bytes from the top make a number with as many places to the base of 256. -/
theorem foldl_bytes_lt {bytes : List Nat} (h : ∀ b ∈ bytes, b < 256) (n : Nat) :
    bytes.foldl (fun n b => 256 * n + b) n < (n + 1) * 256 ^ bytes.length := by
  induction bytes generalizing n with
  | nil => simp
  | cons b rest ih =>
      obtain ⟨hb, hrest⟩ := List.forall_mem_cons.mp h
      calc rest.foldl (fun n b => 256 * n + b) (256 * n + b)
          < (256 * n + b + 1) * 256 ^ rest.length := ih hrest _
        _ ≤ (n + 1) * 256 * 256 ^ rest.length := Nat.mul_le_mul_right _ (by omega)
        _ = (n + 1) * 256 ^ (rest.length + 1) := by rw [Nat.mul_assoc, ← Nat.pow_succ']

/-- What is read is an address of four bytes. -/
theorem lt_of_ofParts {parts : List Nat} {address : Nat} (h : ofParts parts = some address) :
    address < 4294967296 := by
  rw [ofParts] at h
  split at h
  · cases h
  · next last front hparts =>
    dsimp only at h
    split at h
    · next hbytes =>
      obtain ⟨hlength, hall, hlast⟩ := hbytes
      obtain rfl := Option.some.inj h
      have hbytes : ∀ b ∈ front.reverse, b < 256 := by simpa using hall
      have hfront := foldl_bytes_lt hbytes 0
      generalize front.reverse.foldl (fun n b => 256 * n + b) 0 = n at hfront ⊢
      generalize front.reverse.length = k at hlength hfront hlast ⊢
      -- The last part stands for all bytes that the others leave.
      calc n * 256 ^ (4 - k) + last < (n + 1) * 256 ^ (4 - k) := by
            rw [Nat.succ_mul]
            exact Nat.add_lt_add_left hlast _
        _ ≤ 256 ^ k * 256 ^ (4 - k) := Nat.mul_le_mul_right _ (by omega)
        _ = 4294967296 := by
            rw [← Nat.pow_add, Nat.add_sub_cancel' (Nat.le_of_lt hlength)]
    · cases h

theorem lt_of_read {cs : List Char} {address : Nat} (h : read cs = some address) :
    address < 4294967296 := by
  obtain ⟨parts, -, hparts⟩ := Option.bind_eq_some_iff.mp h
  exact lt_of_ofParts hparts

end Ipv4

/-! ## Eight groups -/

namespace Ipv6

/-- A group has at most four hexadecimal digits. -/
theorem lt_of_readGroup {cs : List Char} {g : Nat} (h : readGroup cs = some g) : g < 65536 := by
  rw [readGroup] at h
  split at h
  · cases h
  · next hlength =>
    have hg := numeralValue_lt h
    have hpow : 16 ^ cs.length ≤ 16 ^ 4 := Nat.pow_le_pow_right (by decide) (by simp at hlength; omega)
    omega

theorem mapM_forall {α β : Type} {f : α → Option β} {p : β → Prop}
    (h : ∀ a b, f a = some b → p b) {as : List α} {bs : List β} (hbs : as.mapM f = some bs) :
    ∀ b ∈ bs, p b := by
  induction as generalizing bs with
  | nil =>
      rw [List.mapM_nil] at hbs
      obtain rfl := Option.some.inj hbs
      nofun
  | cons a rest ih =>
      rw [List.mapM_cons] at hbs
      obtain ⟨b, hb, hbs⟩ := Option.bind_eq_some_iff.mp hbs
      obtain ⟨bs', hbs', hbs⟩ := Option.bind_eq_some_iff.mp hbs
      obtain rfl := Option.some.inj hbs
      exact List.forall_mem_cons.mpr ⟨h a b hb, ih hbs'⟩

theorem lt_of_readByte {cs : List Char} {b : Nat} (h : readByte cs = some b) : b < 256 := by
  rw [readByte.eq_def] at h
  split at h
  · cases h
  · cases h
  · exact of_decide_eq_true (Option.filter_eq_some_iff.mp h).2

theorem lt_of_readLast {mayBeIpv4 : Bool} {cs : List Char} {groups : List Nat}
    (h : readLast mayBeIpv4 cs = some groups) : ∀ g ∈ groups, g < 65536 := by
  rw [readLast] at h
  split at h
  · rw [readTail] at h
    split at h
    · next a b c d hbytes =>
      have hlt := mapM_forall (p := (· < 256)) (fun _ _ => lt_of_readByte) hbytes
      simp only [List.forall_mem_cons, List.not_mem_nil, false_imp_iff, implies_true, and_true] at hlt
      obtain rfl := Option.some.inj h
      simp only [List.forall_mem_cons, List.not_mem_nil, false_imp_iff, implies_true, and_true]
      omega
    · cases h
  · obtain ⟨g, hg, rfl⟩ := Option.map_eq_some_iff.mp h
    exact List.forall_mem_cons.mpr ⟨lt_of_readGroup hg, List.forall_mem_nil _⟩

theorem lt_of_readGroups {mayEndIpv4 : Bool} {cs : List Char} {groups : List Nat}
    (h : readGroups mayEndIpv4 cs = some groups) : ∀ g ∈ groups, g < 65536 := by
  rw [readGroups] at h
  split at h
  · obtain rfl := Option.some.inj h
    nofun
  · obtain ⟨front, hfront, h⟩ := Option.bind_eq_some_iff.mp h
    obtain ⟨last, hlast, h⟩ := Option.bind_eq_some_iff.mp h
    obtain rfl := Option.some.inj h
    exact List.forall_mem_append.mpr
      ⟨mapM_forall (p := (· < 65536)) (fun _ _ => lt_of_readGroup) hfront, lt_of_readLast hlast⟩

/-- What is read are eight groups. -/
theorem read_groups {cs : List Char} {groups : List Nat} (h : read cs = some groups) :
    groups.length = 8 ∧ ∀ g ∈ groups, g < 65536 := by
  rw [read] at h
  split at h
  · obtain ⟨hread, hlength⟩ := Option.filter_eq_some_iff.mp h
    exact ⟨by simpa using hlength, lt_of_readGroups hread⟩
  · obtain ⟨front, hfront, h⟩ := Option.bind_eq_some_iff.mp h
    obtain ⟨back, hback, h⟩ := Option.bind_eq_some_iff.mp h
    split at h
    · next hlength =>
      obtain rfl := Option.some.inj h
      refine ⟨by simp only [List.length_append, List.length_replicate]; omega, ?_⟩
      refine List.forall_mem_append.mpr ⟨List.forall_mem_append.mpr
        ⟨lt_of_readGroups hfront, fun g hg => ?_⟩, lt_of_readGroups hback⟩
      rw [(List.mem_replicate.mp hg).2]
      decide
    · cases h

/-! ### Groups as they are written -/

theorem readGroup_toDigits {g : Nat} (h : g < 65536) : readGroup (Nat.toDigits 16 g) = some g := by
  have hne : Nat.toDigits 16 g ≠ [] := Nat.toDigits_ne_nil
  have hlength := (Nat.length_toDigits_le_iff (b := 16) (k := 4) (by decide) (by decide)).mpr h
  rw [readGroup, if_neg, numeralValue_toDigits (by decide) (Nat.le_refl 16)]
  simpa [hne] using hlength

/-- A group holds neither colons nor dots. -/
theorem ne_of_mem_toDigits {g : Nat} {c : Char} (h : c ∈ Nat.toDigits 16 g) : c ≠ ':' ∧ c ≠ '.' := by
  obtain ⟨d, hd, rfl⟩ := mem_toDigits (by decide : 1 < 16) h
  have hall : ∀ d ∈ List.range 16, d.digitChar ≠ ':' ∧ d.digitChar ≠ '.' := by decide
  exact hall d (List.mem_range.mpr hd)

theorem groupsText_cons (g h : Nat) (rest : List Nat) :
    groupsText (g :: h :: rest) = Nat.toDigits 16 g ++ ':' :: groupsText (h :: rest) := by
  rw [groupsText, List.map_cons, List.map_cons, List.intercalate_cons_cons, ← List.map_cons,
    ← groupsText, List.append_assoc, List.singleton_append]

theorem groupsText_singleton (g : Nat) : groupsText [g] = Nat.toDigits 16 g := by
  rw [groupsText, List.map_singleton, List.intercalate_singleton]

theorem splitAtChars_groupsText {groups : List Nat} (h : groups ≠ []) :
    splitAtChars (· == ':') (groupsText groups) = groups.map (Nat.toDigits 16) := by
  refine splitAtChars_intercalate (c := ':') rfl (mt List.map_eq_nil_iff.mp h) fun piece hpiece c hc => ?_
  obtain ⟨g, -, rfl⟩ := List.mem_map.mp hpiece
  exact beq_false_of_ne (ne_of_mem_toDigits hc).1

theorem mapM_readGroup {groups : List Nat} (h : ∀ g ∈ groups, g < 65536) :
    (groups.map (Nat.toDigits 16)).mapM readGroup = some groups := by
  induction groups with
  | nil => rfl
  | cons g rest ih =>
      obtain ⟨hg, hrest⟩ := List.forall_mem_cons.mp h
      rw [List.map_cons, List.mapM_cons, readGroup_toDigits hg, ih hrest]
      rfl

theorem readGroups_groupsText (mayEndIpv4 : Bool) {groups : List Nat}
    (h : ∀ g ∈ groups, g < 65536) : readGroups mayEndIpv4 (groupsText groups) = some groups := by
  obtain rfl | ⟨front, last, hgroups⟩ := List.eq_nil_or_concat groups
  · rfl
  · rw [List.concat_eq_append] at hgroups
    have hne : groups ≠ [] := by
      rw [hgroups]
      exact List.append_ne_nil_of_right_ne_nil _ nofun
    have hsplit := splitAtChars_groupsText hne
    have hempty : (groupsText groups).isEmpty = false := by
      rw [← Bool.not_eq_true, List.isEmpty_iff]
      intro hnil
      rw [hnil, hgroups, List.map_append] at hsplit
      have hlast := congrArg List.getLast? hsplit
      simp [splitAtChars, Nat.toDigits_ne_nil] at hlast
    have hdot : (Nat.toDigits 16 last).contains '.' = false := by
      rw [← Bool.not_eq_true, List.contains_iff_mem]
      exact fun hdot => (ne_of_mem_toDigits hdot).2 rfl
    obtain ⟨hfront, hlast⟩ := List.forall_mem_append.mp (hgroups ▸ h)
    rw [readGroups, hempty, hsplit, hgroups, List.map_append, List.map_singleton]
    simp only [List.dropLast_concat, List.getLast?_concat, Option.getD_some, mapM_readGroup hfront,
      readLast, hdot, Bool.and_false, readGroup_toDigits (hlast last (List.mem_singleton_self last))]
    rfl

/-! ### The gap -/

/-- The zeros at the beginning of a list. -/
theorem leadingZeros_eq (groups : List Nat) :
    ∃ back, groups = List.replicate (leadingZeros groups) 0 ++ back := by
  refine ⟨groups.dropWhile (· == 0), ?_⟩
  have hzeros : groups.takeWhile (· == 0) = List.replicate (leadingZeros groups) 0 :=
    List.eq_replicate_iff.mpr ⟨rfl, fun g hg => by simpa using List.mem_takeWhile_imp hg⟩
  rw [← hzeros, List.takeWhile_append_dropWhile]

/-- The longest gap is a run of zeros. -/
theorem longestGap_eq (i : Nat) (groups : List Nat) :
    (longestGap i groups).2 = 0 ∨ ∃ front back, (longestGap i groups).1 = i + front.length ∧
      groups = front ++ (List.replicate (longestGap i groups).2 0 ++ back) := by
  induction groups generalizing i with
  | nil => exact .inl rfl
  | cons g rest ih =>
      rw [longestGap]
      split
      · obtain ⟨back, hback⟩ := leadingZeros_eq (g :: rest)
        exact .inr ⟨[], back, rfl, hback⟩
      · rcases ih (i + 1) with hzero | ⟨front, back, hstart, hrest⟩
        · exact .inl hzero
        · refine .inr ⟨g :: front, back, ?_, ?_⟩
          · rw [hstart, List.length_cons]
            omega
          · rw [List.cons_append, ← hrest]

theorem cutAtGap_cons {c : Char} {rest : List Char} (h : c = ':' → rest.head? ≠ some ':') :
    cutAtGap (c :: rest) = (c :: (cutAtGap rest).1, (cutAtGap rest).2) := by
  rw [cutAtGap]
  rintro rest' rfl rfl
  exact h rfl rfl

theorem cutAtGap_append {piece : List Char} (h : ∀ c ∈ piece, c ≠ ':') (rest : List Char) :
    cutAtGap (piece ++ rest) = (piece ++ (cutAtGap rest).1, (cutAtGap rest).2) := by
  induction piece with
  | nil => rfl
  | cons c piece ih =>
      obtain ⟨hc, hpiece⟩ := List.forall_mem_cons.mp h
      rw [List.cons_append, cutAtGap_cons fun heq => absurd heq hc, ih hpiece]
      rfl

/-- Groups hold no gap. -/
theorem cutAtGap_groupsText (groups : List Nat) (rest : List Char) :
    cutAtGap (groupsText groups ++ rest) =
      (groupsText groups ++ (cutAtGap rest).1, (cutAtGap rest).2) := by
  have hdigits : ∀ g, ∀ c ∈ Nat.toDigits 16 g, c ≠ ':' := fun _ _ hc => (ne_of_mem_toDigits hc).1
  induction groups with
  | nil => rfl
  | cons g groups ih =>
      cases groups with
      | nil => rw [groupsText_singleton, cutAtGap_append (hdigits g)]
      | cons next groups =>
          have hhead : (groupsText (next :: groups) ++ rest).head? ≠ some ':' := by
            obtain ⟨d, ds, hds⟩ := List.exists_cons_of_ne_nil
              (Nat.toDigits_ne_nil (n := next) (b := 16))
            have hd := hdigits next d (hds ▸ List.mem_cons_self)
            cases groups with
            | nil => simpa [groupsText_singleton, hds] using hd
            | cons => simpa [groupsText_cons, hds] using hd
          rw [groupsText_cons, List.append_assoc, cutAtGap_append (hdigits g), List.cons_append,
            cutAtGap_cons fun _ => hhead, ih, List.append_assoc, List.cons_append]

/-- What the text of an address holds. -/
theorem mem_text {groups : List Nat} {c : Char} (h : c ∈ text groups) :
    c = ':' ∨ ∃ d < 16, c = d.digitChar := by
  have hgroups : ∀ {gs : List Nat}, c ∈ groupsText gs → c = ':' ∨ ∃ d < 16, c = d.digitChar := by
    intro gs hc
    rcases mem_intercalate hc with hc | ⟨piece, hpiece, hc⟩
    · exact .inl (List.mem_singleton.mp hc)
    · obtain ⟨g, -, rfl⟩ := List.mem_map.mp hpiece
      exact .inr (mem_toDigits (by decide) hc)
  rw [text] at h
  dsimp only at h
  split at h
  · exact hgroups h
  · rw [List.mem_append, List.mem_cons, List.mem_cons] at h
    rcases h with h | h | h | h
    · exact hgroups h
    · exact .inl h
    · exact .inl h
    · exact hgroups h

/-- An address is read back. -/
theorem read_text {groups : List Nat} (hlength : groups.length = 8)
    (h : ∀ g ∈ groups, g < 65536) : read (text groups) = some groups := by
  rw [text]
  dsimp only
  split
  · have hcut := cutAtGap_groupsText groups []
    rw [List.append_nil, cutAtGap, List.append_nil] at hcut
    rw [read, hcut]
    simp only [readGroups_groupsText true h, Option.filter_some, hlength, beq_self_eq_true, if_true]
  · next hgap =>
    rcases longestGap_eq 0 groups with hzero | ⟨front, back, hstart, hgroups⟩
    · omega
    · generalize (longestGap 0 groups).2 = zeros at hgap hgroups ⊢
      rw [hstart, Nat.zero_add]
      subst hgroups
      have hcut := cutAtGap_groupsText front (':' :: ':' :: groupsText back)
      rw [cutAtGap, List.append_nil] at hcut
      rw [List.forall_mem_append, List.forall_mem_append] at h
      rw [List.length_append, List.length_append, List.length_replicate] at hlength
      -- The gap is read as the zeros that it stands for.
      have hdrop : (front ++ (List.replicate zeros 0 ++ back)).drop (front.length + zeros) = back := by
        rw [List.drop_append, List.drop_eq_nil_of_le (by omega), List.nil_append, List.drop_append]
        simp
      rw [List.take_left, hdrop, read, hcut]
      simp only [readGroups_groupsText _ h.1, readGroups_groupsText _ h.2.2, Option.bind_eq_bind,
        Option.bind_some]
      rw [if_pos (by omega), List.append_assoc]
      congr 4
      omega

end Ipv6
end LoadMonitor.Url
