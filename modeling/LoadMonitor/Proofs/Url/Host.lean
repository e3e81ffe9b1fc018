import LoadMonitor.Proofs.Url.Address
import LoadMonitor.Proofs.Url.Domain
import LoadMonitor.Proofs.Url.Encoding
import LoadMonitor.Url.Parser

/-!
# Stored hosts are read back

The text of a host is read as the host. Only a name with a label that is too long is refused.
-/

namespace LoadMonitor

namespace UrlHost

/-- A host as it is stored. -/
inductive Stored : UrlHost → Prop
  | name {text : List Char} (hstored : ∃ cs, Url.Domain.ofChars? cs = some text) (hne : text ≠ [])
      (hnumeric : Url.Ipv4.looksNumeric text = false) : Stored (.name text)
  | ipv4 {address : Nat} (h : address < 4294967296) : Stored (.ipv4 address)
  | ipv6 {groups : List Nat} (hlength : groups.length = 8) (h : ∀ g ∈ groups, g < 65536) :
      Stored (.ipv6 groups)

/-- Whether a host is a name with an encoded label that is too long to be read. -/
def hasLongLabel : UrlHost → Bool
  | name text => Url.Domain.hasLongLabel text
  | _ => false

end UrlHost

namespace Url

open Domain (IsStored)

/-! ## What is stored -/

theorem stored_of_readDomain {cs : List Char} {host : UrlHost} (h : readDomain cs = .ok host) :
    host.Stored := by
  rw [readDomain] at h
  split at h
  · cases h
  · next name hname =>
    obtain ⟨text, -, hname⟩ := Option.bind_eq_some_iff.mp hname
    split at h
    · cases h
    · next hne =>
      split at h
      · split at h
        · next address haddress =>
          cases h
          exact .ipv4 (Ipv4.lt_of_read haddress)
        · cases h
      · next hnumeric =>
        cases h
        exact .name ⟨text, hname⟩ (by simpa using hne) (Bool.eq_false_iff.mpr hnumeric)

/-- The host of a well-known scheme. -/
theorem stored_of_readHost {cs : List Char} {host : UrlHost} (h : readHost .special cs = .ok host) :
    host.Stored := by
  rw [readHost.eq_def] at h
  split at h
  · next inner =>
    rw [readBracketed.eq_def] at h
    split at h
    · next reversed hreversed =>
      split at h
      · next groups hgroups =>
        cases h
        obtain ⟨hlength, hlt⟩ := Ipv6.read_groups hgroups
        exact .ipv6 hlength hlt
      · cases h
    · cases h
  · exact stored_of_readDomain h

/-! ## What is read back -/

theorem textOfBytes?_decode {cs : List Char} (h : '%' ∉ cs) : textOfBytes? (decode cs) = some cs := by
  rw [decode_of_not_mem h, textOfBytes?_utf8]

/-- A name that is stored. -/
theorem readDomain_name {text : List Char} (hstored : ∃ cs, Domain.ofChars? cs = some text)
    (hne : text ≠ []) (hnumeric : Ipv4.looksNumeric text = false) :
    readDomain text =
      if Domain.hasLongLabel text then .error .invalidDomain else .ok (.name text) := by
  obtain ⟨cs, hcs⟩ := hstored
  have hpercent : '%' ∉ text := fun hmem => by
    have hallowed := (Domain.isStored_of_ofChars? hcs '%' hmem).allowed
    revert hallowed
    decide
  have hempty : text.isEmpty = false := by simpa using hne
  rw [readDomain, textOfBytes?_decode hpercent, Option.bind_some, Domain.ofChars?_stored hcs]
  cases Domain.hasLongLabel text with
  | true => rfl
  | false => simp only [hempty, hnumeric, Bool.false_eq_true, if_false]

/-- A name whose characters can be stored is read as it is. -/
theorem readDomain_of_isStored {cs : List Char} (h : ∀ c ∈ cs, IsStored c) (hne : cs ≠ [])
    (hlabels : ∀ label ∈ splitAtChars (· == '.') cs,
      Domain.looksEncoded label = false ∧ label.length ≤ 1000)
    (hnumeric : Ipv4.looksNumeric cs = false) : readDomain cs = .ok (.name cs) := by
  have hpercent : '%' ∉ cs := fun hmem => absurd (h '%' hmem) (by decide)
  have hempty : cs.isEmpty = false := by simpa using hne
  rw [readDomain, textOfBytes?_decode hpercent, Option.bind_some, Domain.ofChars?_of_isStored h hlabels]
  simp only [hempty, hnumeric, Bool.false_eq_true, if_false]

theorem readDomain_ipv4 {address : Nat} (h : address < 4294967296) :
    readDomain (Ipv4.text address) = .ok (.ipv4 address) := by
  have hpercent : '%' ∉ Ipv4.text address := fun hmem => by
    rcases Ipv4.mem_text hmem with hdigit | hdot
    · cases hdigit
    · cases hdot
  have hname : Domain.ofChars? (Ipv4.text address) = some (Ipv4.text address) := by
    refine Domain.ofChars?_of_numeric (fun c => Ipv4.mem_text) fun label hlabel => ?_
    rw [Ipv4.splitAtChars_text, List.mem_map] at hlabel
    obtain ⟨part, hpart, rfl⟩ := hlabel
    have hlt : part < 256 := by
      simp only [Ipv4.parts, List.mem_cons, List.not_mem_nil, or_false] at hpart
      omega
    have hlength := (Nat.length_toDigits_le_iff (b := 10) (k := 3) (by decide) (by decide)).mpr
      (Nat.lt_trans hlt (by decide))
    omega
  have hempty : (Ipv4.text address).isEmpty = false := by simpa using Ipv4.text_ne_nil address
  rw [readDomain, textOfBytes?_decode hpercent, Option.bind_some, hname]
  simp only [hempty, Ipv4.looksNumeric_text, Ipv4.read_text h, Bool.false_eq_true, if_false, if_true]

/-! ## Characters of hosts -/

/-- Characters that may stand in the text of a host outside of brackets. -/
def isHostChar (c : Char) : Bool := 0x20 < c.toNat && !"/?#@\\:[]".toList.contains c

theorem isHostChar_of_isStored {c : Char} (h : IsStored c) : isHostChar c = true :=
  forall_ascii (p := fun c => IsStored c → isHostChar c = true) (by decide) h.ascii h

theorem isHostChar_name {text : List Char} (hstored : ∃ cs, Domain.ofChars? cs = some text) :
    ∀ c ∈ text, isHostChar c = true := by
  obtain ⟨cs, hcs⟩ := hstored
  exact fun c hc => isHostChar_of_isStored (Domain.isStored_of_ofChars? hcs c hc)

theorem isHostChar_of_isDigit {c : Char} (h : c.isDigit = true) : isHostChar c = true := by
  have hascii : c.toNat < 128 := by
    have := (Json.digit_range h).2
    omega
  exact forall_ascii (p := fun c => c.isDigit = true → isHostChar c = true) (by decide)
    hascii h

theorem isHostChar_ipv4 {address : Nat} : ∀ c ∈ Ipv4.text address, isHostChar c = true := by
  intro c hc
  rcases Ipv4.mem_text hc with hdigit | rfl
  · exact isHostChar_of_isDigit hdigit
  · decide

theorem isHostChar_ipv6 {groups : List Nat} {c : Char} (h : c ∈ Ipv6.text groups) :
    c = ':' ∨ isHostChar c = true := by
  rcases Ipv6.mem_text h with rfl | ⟨d, hd, rfl⟩
  · exact .inl rfl
  · have hall : ∀ d ∈ List.range 16, isHostChar d.digitChar = true := by decide
    exact .inr (hall d (List.mem_range.mpr hd))

/-- The text of a host ends at no character but a colon. -/
theorem hostText_chars {host : UrlHost} (h : host.Stored) :
    ∀ c ∈ host.text, isHostChar c = true ∨ c = ':' ∨ c = '[' ∨ c = ']' := by
  cases h with
  | name hstored hne hnumeric => exact fun c hc => .inl (isHostChar_name hstored c hc)
  | ipv4 haddress => exact fun c hc => .inl (isHostChar_ipv4 c hc)
  | ipv6 hlength hgroups =>
      intro c hc
      rw [UrlHost.text, List.mem_cons, List.mem_append, List.mem_singleton] at hc
      rcases hc with rfl | hc | rfl
      · exact .inr (.inr (.inl rfl))
      · rcases isHostChar_ipv6 hc with rfl | hc
        · exact .inr (.inl rfl)
        · exact .inl hc
      · exact .inr (.inr (.inr rfl))

theorem hostText_ne_nil {host : UrlHost} (h : host.Stored) : host.text ≠ [] := by
  cases h with
  | name hstored hne hnumeric => exact hne
  | ipv4 haddress => exact Ipv4.text_ne_nil _
  | ipv6 hlength hgroups => nofun

/-- A host without brackets is a domain name or a number. -/
theorem readHost_of_isHostChar {cs : List Char} (h : ∀ c ∈ cs, isHostChar c = true) :
    readHost .special cs = readDomain cs := by
  rw [readHost.eq_def]
  split
  · exact absurd (h '[' List.mem_cons_self) (by decide)
  · rfl

/-- A host is read back, unless a label is too long for that. -/
theorem readHost_text {host : UrlHost} (h : host.Stored) :
    readHost .special host.text =
      if host.hasLongLabel then .error .invalidDomain else .ok host := by
  cases h with
  | name hstored hne hnumeric =>
      rw [UrlHost.text, readHost_of_isHostChar (isHostChar_name hstored), readDomain_name hstored hne hnumeric]
      rfl
  | ipv4 haddress =>
      rw [UrlHost.text, readHost_of_isHostChar isHostChar_ipv4, readDomain_ipv4 haddress]
      rfl
  | ipv6 hlength hgroups =>
      rw [UrlHost.text, readHost, readBracketed.eq_def, List.reverse_append, List.reverse_singleton,
        List.singleton_append]
      simp only [List.reverse_reverse, Ipv6.read_text hlength hgroups]
      rfl

/-! ## Where a host ends -/

theorem splitHost_append (bracketed : Bool) {cs : List Char}
    (h : ∀ c ∈ cs, c ≠ '[' ∧ c ≠ ']' ∧ (c = ':' → bracketed = true)) (rest : List Char) :
    splitHost bracketed (cs ++ rest) =
      (cs ++ (splitHost bracketed rest).1, (splitHost bracketed rest).2) := by
  induction cs with
  | nil => rfl
  | cons c cs ih =>
      obtain ⟨⟨hopen, hclose, hcolon⟩, hcs⟩ := List.forall_mem_cons.mp h
      have hnot : (c == ':' && !bracketed) = false := by
        rw [Bool.and_eq_false_imp, Bool.not_eq_false', beq_iff_eq]
        exact hcolon
      rw [List.cons_append, splitHost, hnot]
      simp only [Bool.false_eq_true, if_false, beq_false_of_ne hopen, beq_false_of_ne hclose, ih hcs]
      rfl

theorem isHostChar_bounds {c : Char} (h : isHostChar c = true) :
    c ≠ ':' ∧ c ≠ '[' ∧ c ≠ ']' := by
  refine ⟨?_, ?_, ?_⟩ <;> rintro rfl <;> revert h <;> decide

theorem splitHost_port {rest : List Char} (hrest : rest = [] ∨ ∃ port, rest = ':' :: port) :
    splitHost false rest = ([], rest.tail?) := by
  rcases hrest with rfl | ⟨port, rfl⟩ <;> rfl

theorem splitHost_of_isHostChar {cs : List Char} (h : ∀ c ∈ cs, isHostChar c = true)
    {rest : List Char} (hrest : rest = [] ∨ ∃ port, rest = ':' :: port) :
    splitHost false (cs ++ rest) = (cs, rest.tail?) := by
  rw [splitHost_append false, splitHost_port hrest, List.append_nil]
  intro c hc
  obtain ⟨hcolon, hopen, hclose⟩ := isHostChar_bounds (h c hc)
  exact ⟨hopen, hclose, fun h => absurd h hcolon⟩

/-- A host ends before the colon of its port. -/
theorem splitHost_text {host : UrlHost} (h : host.Stored) {rest : List Char}
    (hrest : rest = [] ∨ ∃ port, rest = ':' :: port) :
    splitHost false (host.text ++ rest) = (host.text, rest.tail?) := by
  cases h with
  | name hstored hne hnumeric => exact splitHost_of_isHostChar (isHostChar_name hstored) hrest
  | ipv4 haddress => exact splitHost_of_isHostChar isHostChar_ipv4 hrest
  | @ipv6 groups hlength hgroups =>
      have hinner : splitHost true (Ipv6.text groups ++ ']' :: rest) =
          (Ipv6.text groups ++ [']'], rest.tail?) := by
        rw [splitHost_append true]
        · simp [splitHost, splitHost_port hrest]
        · intro c hc
          refine ⟨?_, ?_, fun _ => rfl⟩ <;> rintro rfl <;>
            rcases isHostChar_ipv6 hc with hcolon | hc
          · cases hcolon
          · exact (isHostChar_bounds hc).2.1 rfl
          · cases hcolon
          · exact (isHostChar_bounds hc).2.2 rfl
      rw [UrlHost.text, List.cons_append, List.append_assoc, List.singleton_append]
      simp [splitHost, hinner]

end Url
end LoadMonitor
