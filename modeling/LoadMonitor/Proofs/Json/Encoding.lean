import LoadMonitor.Proofs.Json.Grammar
import LoadMonitor.Proofs.Json.Integer

/-!
# Values are read back

The text of a value without doubles is JSON, and its tree stands for the value. The proof goes by the
value and leaves open what stands behind its text, as long as no numeral can go on there: a comma, a
closing bracket or nothing.
-/

namespace LoadMonitor.Json

/-! ## What trees stand for -/

/-- The value of a number. -/
def Number.toJson : Number → JsonValue
  | integer i => .integer i
  | floating x => .double x

mutual

/-- The value that a tree stands for, if doubles reach as far as its numerals. -/
def Tree.value? : Tree → Option JsonValue
  | .null => some .null
  | .bool b => some (.bool b)
  | .number n => n.value.map Number.toJson
  | .string s => some (.string s)
  | .array items => (itemValues? items).map .array
  | .object members => (memberValues? members).map .object

/-- The values that the elements of an array stand for. -/
def itemValues? : List Tree → Option (List JsonValue)
  | [] => some []
  | tree :: trees => do return (← tree.value?) :: (← itemValues? trees)

/-- The members of an object with the values that they stand for. -/
def memberValues? : List (String × Tree) → Option JsonMembers
  | [] => some []
  | (key, tree) :: members => do return (key, ← tree.value?) :: (← memberValues? members)

end

end LoadMonitor.Json

namespace LoadMonitor.JsonValue

/-- Values without doubles. Integers need no more than 64 bits. -/
inductive Plain : JsonValue → Prop
  | null : Plain .null
  | bool (b : Bool) : Plain (.bool b)
  | integer {i : Int} (h : Json.InRange i) : Plain (.integer i)
  | string (s : String) : Plain (.string s)
  | array {items : List JsonValue} (h : ∀ v ∈ items, Plain v) : Plain (.array items)
  | object {members : JsonMembers} (h : ∀ m ∈ members, Plain m.2) : Plain (.object members)

/-! ## Texts with commas -/

/-- The text of a member. -/
def memberText (m : String × JsonValue) : List Char := quote m.1 ++ ':' :: chars m.2

theorem itemChars_cons (v : JsonValue) (items : List JsonValue) :
    itemChars (v :: items) = chars v ++ items.flatMap fun w => ',' :: chars w := by
  induction items generalizing v with
  | nil => rw [itemChars, List.flatMap_nil, List.append_nil]
  | cons w items ih => rw [itemChars, ih, List.flatMap_cons, List.cons_append]

theorem memberChars_cons (m : String × JsonValue) (members : JsonMembers) :
    memberChars (m :: members) = memberText m ++ members.flatMap fun n => ',' :: memberText n := by
  induction members generalizing m with
  | nil => rw [memberChars, List.flatMap_nil, List.append_nil, memberText]
  | cons n members ih =>
      rw [memberChars, ih, List.flatMap_cons]
      simp only [memberText, List.append_assoc, List.cons_append]

end LoadMonitor.JsonValue

namespace LoadMonitor.Json

/-! ## Beginnings and ends -/

theorem utf8_cons_ascii {c : Char} (h : c.toNat < 0x80) (cs : List Char) :
    utf8 (c :: cs) = byte c :: utf8 cs := by
  rw [utf8_cons, utf8EncodeChar_ascii h, List.singleton_append]

theorem skipBlanks_numeral {atEnd : DecodeError} {bs rest : Bytes} {n : Numeral}
    (h : readNumeral atEnd bs = .ok (n, rest)) : skipBlanks bs = bs := by
  -- A numeral begins with a sign or with a digit, and neither is a blank.
  obtain ⟨b, more, rfl, hb⟩ := isDigit_head h
  refine skipBlanks_cons ?_ more
  by_contra hblank
  simp only [isBlank, Bool.not_eq_false, Bool.or_eq_true, beq_iff_eq] at hblank
  obtain ((rfl | rfl) | rfl) | rfl := hblank <;> exact absurd hb (by decide)

theorem ends_cons {c : Char} (hc : c ∈ [',', ']', '\x7d']) (rest : Bytes) :
    Ends (byte c :: rest) := by
  simp only [List.mem_cons, List.not_mem_nil, or_false] at hc
  rintro b ⟨⟩
  obtain rfl | rfl | rfl := hc <;> simp

/-- Behind a piece of a list stands a comma or the closing bracket. -/
theorem ends_tail {α : Type} (close : Char) (hclose : close ∈ [',', ']', '\x7d'])
    (text : α → List Char) (l : List α) (rest : Bytes) :
    Ends (utf8 (l.flatMap fun a => ',' :: text a) ++ byte close :: rest) := by
  cases l with
  | nil => exact ends_cons hclose rest
  | cons a l =>
      rw [List.flatMap_cons, List.cons_append, utf8_cons_ascii (by decide)]
      exact ends_cons (by decide) _

/-! ## Reading back -/

/-- Wherever the text of a value may stand, it is read as the value. -/
def ReadsBack (v : JsonValue) : Prop :=
  ∀ rest, Ends rest →
    ∃ tree, Spells (.value tree) (utf8 v.chars ++ rest) rest ∧ tree.value? = some v

namespace ReadsBack

theorem string (s : String) : ReadsBack (.string s) := by
  intro rest _
  refine ⟨.string s, .string ?_ (readString_escaped s rest), by rw [Tree.value?]⟩
  rw [JsonValue.chars, utf8_quote]
  exact skipBlanks_cons rfl _

theorem integer {i : Int} (h : InRange i) : ReadsBack (.integer i) := by
  intro rest hrest
  have hread := readNumeral_integer .truncated hrest i
  refine ⟨.number (.ofInt i), .number ?_ ?_, ?_⟩
  · rw [JsonValue.chars, skipBlanks_numeral hread, hread]
  · rw [Numeral.value_ofInt h]
    rfl
  · rw [Tree.value?, Numeral.value_ofInt h]
    rfl

/-- The elements behind the first one. -/
theorem tail {items : List JsonValue} (h : ∀ v ∈ items, ReadsBack v) (rest : Bytes) :
    ∃ trees, Spells (.items false trees)
        (utf8 (items.flatMap fun v => ',' :: v.chars) ++ byte ']' :: rest) rest ∧
      itemValues? trees = some items := by
  induction items with
  | nil => exact ⟨[], .itemsEnd (skipBlanks_cons rfl rest), by rw [itemValues?]⟩
  | cons v items ih =>
      obtain ⟨hv, hitems⟩ := List.forall_mem_cons.mp h
      obtain ⟨trees, hspells, hvalues⟩ := ih hitems
      obtain ⟨tree, hspell, hvalue⟩ := hv _ (ends_tail ']' (by decide) JsonValue.chars items rest)
      refine ⟨tree :: trees, .itemsNext ?_ hspell hspells, ?_⟩
      · rw [List.flatMap_cons, List.cons_append, utf8_cons_ascii (by decide), utf8_append,
          List.cons_append, List.append_assoc]
        exact skipBlanks_cons rfl _
      · simp [itemValues?, hvalue, hvalues]

theorem array {items : List JsonValue} (h : ∀ v ∈ items, ReadsBack v) :
    ReadsBack (.array items) := by
  intro rest _
  -- No comma stands in front of the first element, so it does not fall under `tail`.
  have hbody : ∃ trees, Spells (.items true trees)
      (utf8 (JsonValue.itemChars items) ++ byte ']' :: rest) rest ∧
      itemValues? trees = some items := by
    cases items with
    | nil => exact ⟨[], .itemsEnd (skipBlanks_cons rfl rest), by rw [itemValues?]⟩
    | cons v items =>
        obtain ⟨hv, hitems⟩ := List.forall_mem_cons.mp h
        obtain ⟨trees, hspells, hvalues⟩ := tail hitems rest
        obtain ⟨tree, hspell, hvalue⟩ := hv _ (ends_tail ']' (by decide) JsonValue.chars items rest)
        refine ⟨tree :: trees, ?_, by simp [itemValues?, hvalue, hvalues]⟩
        rw [JsonValue.itemChars_cons, utf8_append, List.append_assoc]
        exact .itemsFirst hspell hspells
  obtain ⟨trees, hspells, hvalues⟩ := hbody
  refine ⟨.array trees, .array ?_ hspells, by rw [Tree.value?, hvalues]; rfl⟩
  rw [JsonValue.chars, utf8_cons_ascii (by decide), utf8_append, List.cons_append, List.append_assoc]
  exact skipBlanks_cons rfl _

/-- A member, with its key and its colon. -/
theorem member {m : String × JsonValue} (h : ReadsBack m.2) {rest : Bytes} (hrest : Ends rest) :
    ∃ tree, Spells (.member m.1 tree) (utf8 (JsonValue.memberText m) ++ rest) rest ∧
      tree.value? = some m.2 := by
  obtain ⟨tree, hspell, hvalue⟩ := h rest hrest
  refine ⟨tree, .member ?_ (readString_escaped m.1 _) (skipBlanks_cons rfl _) hspell, hvalue⟩
  rw [JsonValue.memberText, utf8_append, List.append_assoc, utf8_quote, utf8_cons_ascii (by decide)]
  exact skipBlanks_cons rfl _

/-- The members behind the first one. -/
theorem membersTail {members : JsonMembers} (h : ∀ m ∈ members, ReadsBack m.2) (rest : Bytes) :
    ∃ trees, Spells (.members false trees)
        (utf8 (members.flatMap fun m => ',' :: JsonValue.memberText m) ++ byte '\x7d' :: rest) rest ∧
      memberValues? trees = some members := by
  induction members with
  | nil => exact ⟨[], .membersEnd (skipBlanks_cons rfl rest), by rw [memberValues?]⟩
  | cons m members ih =>
      obtain ⟨hm, hmembers⟩ := List.forall_mem_cons.mp h
      obtain ⟨trees, hspells, hvalues⟩ := ih hmembers
      obtain ⟨tree, hspell, hvalue⟩ :=
        member hm (ends_tail '\x7d' (by decide) JsonValue.memberText members rest)
      refine ⟨(m.1, tree) :: trees, .membersNext ?_ hspell hspells, ?_⟩
      · rw [List.flatMap_cons, List.cons_append, utf8_cons_ascii (by decide), utf8_append,
          List.cons_append, List.append_assoc]
        exact skipBlanks_cons rfl _
      · simp [memberValues?, hvalue, hvalues]

theorem object {members : JsonMembers} (h : ∀ m ∈ members, ReadsBack m.2) :
    ReadsBack (.object members) := by
  intro rest _
  have hbody : ∃ trees, Spells (.members true trees)
      (utf8 (JsonValue.memberChars members) ++ byte '\x7d' :: rest) rest ∧
      memberValues? trees = some members := by
    cases members with
    | nil => exact ⟨[], .membersEnd (skipBlanks_cons rfl rest), by rw [memberValues?]⟩
    | cons m members =>
        obtain ⟨hm, hmembers⟩ := List.forall_mem_cons.mp h
        obtain ⟨trees, hspells, hvalues⟩ := membersTail hmembers rest
        obtain ⟨tree, hspell, hvalue⟩ :=
          member hm (ends_tail '\x7d' (by decide) JsonValue.memberText members rest)
        refine ⟨(m.1, tree) :: trees, ?_, by simp [memberValues?, hvalue, hvalues]⟩
        rw [JsonValue.memberChars_cons, utf8_append, List.append_assoc]
        exact .membersFirst hspell hspells
  obtain ⟨trees, hspells, hvalues⟩ := hbody
  refine ⟨.object trees, .object ?_ hspells, by rw [Tree.value?, hvalues]; rfl⟩
  rw [JsonValue.chars, utf8_cons_ascii (by decide), utf8_append, List.cons_append, List.append_assoc]
  exact skipBlanks_cons rfl _

end ReadsBack

theorem readsBack_of_plain {v : JsonValue} (h : v.Plain) : ReadsBack v := by
  induction h with
  | null =>
      intro rest _
      refine ⟨.null, .null ?_, by rw [Tree.value?]⟩
      rw [JsonValue.chars, nullRest, toUTF8_ofList ['u', 'l', 'l'], utf8_cons_ascii (by decide)]
      exact skipBlanks_cons rfl _
  | bool b =>
      intro rest _
      cases b with
      | true =>
          refine ⟨.bool true, .yes ?_, by rw [Tree.value?]⟩
          rw [JsonValue.chars, trueRest, toUTF8_ofList ['r', 'u', 'e'], utf8_cons_ascii (by decide)]
          exact skipBlanks_cons rfl _
      | false =>
          refine ⟨.bool false, .no ?_, by rw [Tree.value?]⟩
          rw [JsonValue.chars, falseRest, toUTF8_ofList ['a', 'l', 's', 'e'],
            utf8_cons_ascii (by decide)]
          exact skipBlanks_cons rfl _
  | integer h => exact .integer h
  | string s => exact .string s
  -- What stands behind an element or a member is left open, so the hypothesis serves anywhere.
  | array _ ih => exact .array ih
  | object _ ih => exact .object ih

end LoadMonitor.Json

namespace LoadMonitor.JsonValue

open Json

/-- The text of a plain value is read as the value. -/
theorem Plain.ofBytes_text {v : JsonValue} (h : v.Plain) :
    ∃ tree, Tree.ofBytes v.text.toUTF8.toList = .ok tree ∧ tree.value? = some v := by
  obtain ⟨tree, hspells, hvalue⟩ := readsBack_of_plain h [] (fun _ hb => nomatch hb)
  rw [List.append_nil] at hspells
  rw [text, toUTF8_ofList]
  exact ⟨tree, Tree.ofBytes_eq_ok.mpr ⟨[], hspells, rfl⟩, hvalue⟩

theorem Plain.text_inj {v w : JsonValue} (hv : v.Plain) (hw : w.Plain) (h : v.text = w.text) :
    v = w := by
  obtain ⟨tree, htree, hvalue⟩ := hv.ofBytes_text
  obtain ⟨tree', htree', hvalue'⟩ := hw.ofBytes_text
  rw [h, htree'] at htree
  cases htree
  exact Option.some.inj (hvalue.symm.trans hvalue')

/-! ## Control characters -/

theorem mem_itemChars {c : Char} {items : List JsonValue} (h : c ∈ itemChars items) :
    c = ',' ∨ ∃ v ∈ items, c ∈ chars v := by
  cases items with
  | nil => simp [itemChars] at h
  | cons v items =>
      simp only [itemChars_cons, List.mem_append, List.mem_flatMap, List.mem_cons] at h
      obtain h | ⟨w, hw, rfl | h⟩ := h
      · exact .inr ⟨v, List.mem_cons_self, h⟩
      · exact .inl rfl
      · exact .inr ⟨w, List.mem_cons_of_mem _ hw, h⟩

theorem mem_memberChars {c : Char} {members : JsonMembers} (h : c ∈ memberChars members) :
    c = ',' ∨ ∃ m ∈ members, c ∈ memberText m := by
  cases members with
  | nil => simp [memberChars] at h
  | cons m members =>
      simp only [memberChars_cons, List.mem_append, List.mem_flatMap, List.mem_cons] at h
      obtain h | ⟨n, hn, rfl | h⟩ := h
      · exact .inr ⟨m, List.mem_cons_self, h⟩
      · exact .inl rfl
      · exact .inr ⟨n, List.mem_cons_of_mem _ hn, h⟩

theorem integer_printable {i : Int} {c : Char} (h : c ∈ (toString i).toList) : 0x20 ≤ c.toNat := by
  have hdigit : ∀ {n : Nat}, c ∈ Nat.toDigits 10 n → 0x20 ≤ c.toNat := fun hc =>
    Nat.le_trans (by decide) (digit_range (isDigit_of_mem_toDigits c hc)).1
  rw [Int.toString_eq_repr, Int.repr_eq_if] at h
  split at h
  · rw [Nat.toList_repr] at h
    exact hdigit h
  · rw [String.toList_append, Nat.toList_repr] at h
    obtain h | h := List.mem_append.mp h
    · obtain rfl : c = '-' := List.mem_singleton.mp h
      decide
    · exact hdigit h

/-- No control character stands in the text of a plain value. -/
theorem Plain.printable {v : JsonValue} (h : v.Plain) : ∀ c ∈ v.chars, 0x20 ≤ c.toNat := by
  induction h with
  | null => simp [chars]
  | bool b => cases b <;> simp [chars]
  | integer _ =>
      rw [chars]
      exact fun c => integer_printable
  | string s =>
      rw [chars]
      exact fun c => quote_printable
  | array _ ih =>
      intro c hc
      simp only [chars, List.mem_cons, List.mem_append, List.not_mem_nil, or_false] at hc
      obtain rfl | hc | rfl := hc
      · decide
      · obtain rfl | ⟨v, hv, hc⟩ := mem_itemChars hc
        · decide
        · exact ih v hv c hc
      · decide
  | object _ ih =>
      intro c hc
      simp only [chars, List.mem_cons, List.mem_append, List.not_mem_nil, or_false] at hc
      obtain rfl | hc | rfl := hc
      · decide
      · obtain rfl | ⟨m, hm, hc⟩ := mem_memberChars hc
        · decide
        obtain hc | rfl | hc := by simpa only [memberText, List.mem_append, List.mem_cons] using hc
        · exact quote_printable hc
        · decide
        · exact ih m hm c hc
      · decide

end LoadMonitor.JsonValue
