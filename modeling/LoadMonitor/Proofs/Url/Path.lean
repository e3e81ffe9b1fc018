import LoadMonitor.Proofs.Json.Escape
import LoadMonitor.Proofs.Text.Split
import LoadMonitor.Proofs.Url.Encoding
import LoadMonitor.Url.Path

/-!
# Resolved paths stay resolved

The path of a well-known scheme is read into segments that are encoded, hold no separators and mean
neither the directory itself nor the one above it. Such segments are read as they are, wherever they
stand. What has to be shown for this is that encoding does not make dots of a segment that had none.
-/

namespace LoadMonitor.Url

/-! ## Segments -/

/-- A segment as it is stored. -/
structure StoredSegment (segment : List Char) : Prop where
  encoded : ∀ c ∈ segment, inPathSet c = false
  whole : ∀ c ∈ segment, isSegmentEnd .special c = false
  notHere : isSingleDot segment = false
  notAbove : isDoubleDot segment = false

instance (segment : List Char) : Decidable (StoredSegment segment) :=
  decidable_of_iff
    (segment.all (fun c => inPathSet c = false ∧ isSegmentEnd .special c = false) = true ∧
      isSingleDot segment = false ∧ isDoubleDot segment = false)
    ⟨fun ⟨hchars, hhere, habove⟩ =>
      ⟨fun c hc => (forall_mem_of_all hchars c hc).1, fun c hc => (forall_mem_of_all hchars c hc).2,
        hhere, habove⟩,
    fun ⟨hencoded, hwhole, hhere, habove⟩ =>
      ⟨List.all_eq_true.mpr fun c hc => decide_eq_true ⟨hencoded c hc, hwhole c hc⟩, hhere, habove⟩⟩

theorem storedSegment_nil : StoredSegment [] := ⟨nofun, nofun, rfl, rfl⟩

theorem contains_ofList {texts : List String} {cs : List Char} :
    texts.contains (String.ofList cs) = true ↔ cs ∈ texts.map String.toList := by
  rw [List.contains_iff_mem, List.mem_map]
  constructor
  · exact fun h => ⟨_, h, String.toList_ofList⟩
  · rintro ⟨text, h, rfl⟩
    rwa [String.ofList_toList]

/-- The segments of dots. -/
def dots : List (List Char) :=
  [".", "%2e", "%2E", "..", "%2e%2e", "%2e%2E", "%2E%2e", "%2E%2E", "%2e.", "%2E.", ".%2e", ".%2E"].map
    String.toList

theorem mem_dots {segment : List Char} :
    segment ∈ dots ↔ isSingleDot segment = true ∨ isDoubleDot segment = true := by
  rw [isSingleDot, isDoubleDot, contains_ofList, contains_ofList, ← List.mem_append, ← List.map_append]
  rfl

theorem encodeByte_within {set : Char → Bool} {cs : List Char} {c : Char} (hc : c ∈ cs)
    (hset : set c = true) {b : UInt8} (hb : b ∈ charBytes c) : encodeByte b <:+: encode set cs := by
  have hchar : encodeByte b <:+: encodeChar set c := by
    rw [encodeChar, if_pos hset]
    exact List.infix_of_mem_flatten (List.mem_map_of_mem hb)
  exact hchar.trans (List.infix_of_mem_flatten (List.mem_map_of_mem hc))

/-- The byte of a full stop is part of no other character. -/
theorem eq_dot_of_mem_charBytes {c : Char} (h : 0x2e ∈ charBytes c) : c = '.' := by
  rw [charBytes_eq] at h
  by_cases hc : c.toNat < 0x80
  · rw [Json.utf8EncodeChar_ascii hc, List.mem_singleton] at h
    exact Json.byte_inj hc (by decide) h.symm
  · have hle := Json.le_of_mem_utf8EncodeChar (Nat.le_of_not_lt hc) h
    exact absurd hle (by decide)

/-- The escapes of a full stop. -/
def dotEscapes : List (List Char) := ["%2e".toList, "%2E".toList]

theorem eq_dot_of_encodeByte {b : UInt8} (h : encodeByte b ∈ dotEscapes) : b = 0x2e := by
  have hbytes : ∀ n ∈ List.range 256, encodeByte (UInt8.ofNat n) ∈ dotEscapes → n = 0x2e := by
    decide +kernel
  have hn := hbytes b.toNat (List.mem_range.mpr b.toNat_lt)
  rw [UInt8.ofNat_toNat] at hn
  exact UInt8.toNat_inj.mp (hn h)

/-- In the segments of dots no other escapes occur. -/
theorem mem_dotEscapes {text : List Char} {b : UInt8} (ht : text ∈ dots)
    (hb : encodeByte b <:+: text) : encodeByte b ∈ dotEscapes := by
  have hrest : ∀ t ∈ dots, ∀ k ∈ List.range t.length, (t.drop k).head? = some '%' →
      (t.drop k).take 3 ∈ dotEscapes := by
    decide
  obtain ⟨front, back, rfl⟩ := hb
  have hlength : front.length ∈ List.range (front ++ encodeByte b ++ back).length := by
    simp only [List.mem_range, List.length_append, encodeByte, List.length_cons]
    omega
  have hescape := hrest _ ht _ hlength
  rw [List.append_assoc, List.drop_left] at hescape
  exact hescape rfl

/-- Encoding makes no dots. -/
theorem encode_of_mem_dots {cs : List Char} (h : encode inPathSet cs ∈ dots) :
    encode inPathSet cs = cs := by
  refine encode_of_forall fun c hc => ?_
  rw [← Bool.not_eq_true]
  intro hset
  obtain ⟨b, hb⟩ := List.exists_mem_of_ne_nil _ (charBytes_ne_nil c)
  have hdot := eq_dot_of_encodeByte (mem_dotEscapes h (encodeByte_within hc hset hb))
  rw [hdot] at hb
  rw [eq_dot_of_mem_charBytes hb] at hset
  exact absurd hset (by decide)

theorem isSegmentEnd_of_isEscape {c : Char} (h : isEscape c = true) :
    isSegmentEnd .special c = false :=
  forall_ascii (p := fun c => isEscape c = true → isSegmentEnd .special c = false)
    (by decide) (isEscape_ascii h) h

/-- A segment that is encoded, unless it means a directory, is stored. -/
theorem storedSegment_encode {text : List Char} (hwhole : ∀ c ∈ text, isSegmentEnd .special c = false)
    (hhere : isSingleDot text = false) (habove : isDoubleDot text = false) :
    StoredSegment (encode inPathSet text) := by
  have hdots : encode inPathSet text ∉ dots := by
    intro hmem
    rw [encode_of_mem_dots hmem, mem_dots, hhere, habove] at hmem
    simp at hmem
  rw [mem_dots, not_or, Bool.not_eq_true, Bool.not_eq_true] at hdots
  refine ⟨set_eq_false_of_mem_encode isEncodable_pathSet, fun c hc => ?_, hdots.1, hdots.2⟩
  exact (mem_encode hc).elim (fun h => hwhole c h.1) isSegmentEnd_of_isEscape

/-! ## Steps -/

/-- What a piece of the path of a well-known scheme means. -/
theorem ofPiece_special (isFirst : Bool) (piece : List Char) :
    Step.ofPiece .special isFirst piece =
      if isDoubleDot (dropBreaks piece) then .above
      else if isSingleDot (dropBreaks piece) then .here
      else .down [encode inPathSet (dropBreaks piece)] false := by
  have hfile : (isFirst && SchemeKind.special == .file) = false := Bool.and_false _
  rw [Step.ofPiece, hfile]
  simp only [Bool.false_eq_true, if_false, Bool.false_and]

/-- A piece without separators means a directory or a stored segment. -/
theorem ofPiece_cases (isFirst : Bool) {piece : List Char}
    (h : ∀ c ∈ piece, isSegmentEnd .special c = false) :
    Step.ofPiece .special isFirst piece = .above ∨ Step.ofPiece .special isFirst piece = .here ∨
      ∃ segment, StoredSegment segment ∧
        Step.ofPiece .special isFirst piece = .down [segment] false := by
  rw [ofPiece_special]
  split
  · exact .inl rfl
  · next habove =>
    split
    · exact .inr (.inl rfl)
    · next hhere =>
      refine .inr (.inr ⟨_, storedSegment_encode (fun c hc => ?_) ?_ ?_, rfl⟩)
      · exact h c (List.mem_of_mem_filter hc)
      · exact Bool.eq_false_iff.mpr hhere
      · exact Bool.eq_false_iff.mpr habove

theorem isBreak_of_inPathSet {c : Char} (h : inPathSet c = false) : isBreak c = false := by
  rw [← Bool.not_eq_true]
  intro hbreak
  rw [isBreak, Bool.or_eq_true, Bool.or_eq_true, beq_iff_eq, beq_iff_eq, beq_iff_eq] at hbreak
  rcases hbreak with (rfl | rfl) | rfl <;> exact absurd h (by decide)

/-- Dropping breaks changes nothing where there are none. -/
theorem dropBreaks_of_forall {cs : List Char} (h : ∀ c ∈ cs, isBreak c = false) :
    dropBreaks cs = cs :=
  List.filter_eq_self.mpr fun c hc => by rw [h c hc]; rfl

/-- A stored segment is gone down to as it is. -/
theorem ofPiece_stored (isFirst : Bool) {segment : List Char} (h : StoredSegment segment) :
    Step.ofPiece .special isFirst segment = .down [segment] false := by
  rw [ofPiece_special, dropBreaks_of_forall fun c hc => isBreak_of_inPathSet (h.encoded c hc),
    h.notAbove, h.notHere, encode_of_forall h.encoded]
  rfl

/-! ## Resolving -/

theorem mem_leave {directories : List (List Char)} {d : List Char} (h : d ∈ leave directories) :
    d ∈ directories := by
  rw [leave.eq_def] at h
  split at h
  · exact h
  · split at h
    · exact h
    · exact List.mem_cons_of_mem _ h

variable {directories list : List (List Char)}

/-- Paths are resolved to stored segments. -/
theorem stored_of_resolve (hdirectories : ∀ d ∈ directories, StoredSegment d)
    (hlist : ∀ piece ∈ list, ∀ c ∈ piece, isSegmentEnd .special c = false) :
    ∀ segment ∈ resolve .special directories list, StoredSegment segment := by
  induction list generalizing directories with
  | nil => simpa [resolve] using hdirectories
  | cons piece rest ih =>
      obtain ⟨hpiece, hrest⟩ := List.forall_mem_cons.mp hlist
      have hleave : ∀ d ∈ leave directories, StoredSegment d :=
        fun d hd => hdirectories d (mem_leave hd)
      rcases ofPiece_cases directories.isEmpty hpiece with habove | hhere | ⟨segment, hsegment, hdown⟩
      · cases rest with
        | nil => simpa [resolve, habove, or_imp, forall_and, storedSegment_nil] using hleave
        | cons next rest => simpa [resolve, habove] using ih hleave hrest
      · cases rest with
        | nil => simpa [resolve, hhere, or_imp, forall_and, storedSegment_nil] using hdirectories
        | cons next rest => simpa [resolve, hhere] using ih hdirectories hrest
      · have hdeeper := List.forall_mem_cons.mpr ⟨hsegment, hdirectories⟩
        cases rest with
        | nil => simpa [resolve, hdown, or_imp, forall_and, and_comm] using hdeeper
        | cons next rest => simpa [resolve, hdown] using ih hdeeper hrest

theorem resolve_ne_nil (hlist : ∀ piece ∈ list, ∀ c ∈ piece, isSegmentEnd .special c = false)
    (hne : list ≠ []) : resolve .special directories list ≠ [] := by
  induction list generalizing directories with
  | nil => exact absurd rfl hne
  | cons piece rest ih =>
      obtain ⟨hpiece, hrest⟩ := List.forall_mem_cons.mp hlist
      rcases ofPiece_cases directories.isEmpty hpiece with habove | hhere | ⟨segment, -, hdown⟩
      all_goals cases rest with
      | nil => simp [resolve, *]
      | cons next rest => simpa [resolve, *] using ih hrest nofun

/-- Stored segments are gone down to. -/
theorem resolve_stored (h : ∀ segment ∈ list, StoredSegment segment) :
    resolve .special directories list = directories.reverse ++ list := by
  induction list generalizing directories with
  | nil => rw [resolve, List.append_nil]
  | cons segment rest ih =>
      obtain ⟨hsegment, hrest⟩ := List.forall_mem_cons.mp h
      cases rest with
      | nil => rw [resolve, ofPiece_stored _ hsegment]
      | cons next rest =>
          rw [resolve, ofPiece_stored _ hsegment]
          simp only [ih hrest]
          simp

/-! ## Reading -/

theorem readSegments_special (cs : List Char) : readSegments .special directories cs =
    resolve .special directories (pieces .special cs) := rfl

/-- The path of a well-known scheme, as it is stored. -/
structure StoredPath (list : List (List Char)) : Prop where
  nonempty : list ≠ []
  segments : ∀ segment ∈ list, StoredSegment segment

instance (list : List (List Char)) : Decidable (StoredPath list) :=
  decidable_of_iff (list ≠ [] ∧ ∀ segment ∈ list, StoredSegment segment)
    ⟨fun ⟨hne, hsegments⟩ => ⟨hne, hsegments⟩, fun ⟨hne, hsegments⟩ => ⟨hne, hsegments⟩⟩

theorem stored_of_readSegments (hdirectories : ∀ d ∈ directories, StoredSegment d)
    (cs : List Char) : StoredPath (readSegments .special directories cs) := by
  have hpieces : ∀ piece ∈ pieces .special cs, ∀ c ∈ piece, isSegmentEnd .special c = false :=
    fun piece hpiece c hc => isSeparator_of_mem_splitAtChars hpiece hc
  exact ⟨resolve_ne_nil hpieces (splitAtChars_ne_nil cs), stored_of_resolve hdirectories hpieces⟩

theorem stored_of_readPath (cs : List Char) : StoredPath (readPath .special cs) := by
  have hroot : ∀ d ∈ ([] : List (List Char)), StoredSegment d := nofun
  rw [readPath, if_neg (by simp)]
  exact stored_of_readSegments hroot _

theorem pathText_eq (h : list ≠ []) :
    (UrlPath.segments list).text = '/' :: ['/'].intercalate list := by
  rw [UrlPath.text]
  induction list with
  | nil => exact absurd rfl h
  | cons segment rest ih =>
      cases rest with
      | nil => simp
      | cons next rest =>
          rw [List.flatMap_cons, ih nofun, List.intercalate_cons_cons, List.append_assoc,
            List.cons_append, List.singleton_append]

/-- Stored segments are gone down to from any directory. -/
theorem readSegments_text (h : StoredPath list) :
    readSegments .special directories (['/'].intercalate list) = directories.reverse ++ list := by
  have hpieces : pieces .special (['/'].intercalate list) = list :=
    splitAtChars_intercalate rfl h.nonempty fun segment hsegment => (h.segments segment hsegment).whole
  rw [readSegments_special, hpieces, resolve_stored h.segments]

/-- A stored path is read back. -/
theorem readPath_text (h : StoredPath list) :
    readPath .special (UrlPath.segments list).text = list := by
  have hslash : dropSlash .special ('/' :: ['/'].intercalate list) = ['/'].intercalate list := rfl
  rw [pathText_eq h.nonempty, readPath, if_neg (by simp), hslash, readSegments_text h]
  rfl

/-- What the text of a path does not hold. -/
theorem pathText_chars (h : StoredPath list) :
    ∀ c ∈ (UrlPath.segments list).text, c = '/' ∨ inPathSet c = false := by
  intro c hc
  obtain ⟨segment, hsegment, hc⟩ := List.mem_flatMap.mp hc
  rcases List.mem_cons.mp hc with rfl | hc
  · exact .inl rfl
  · exact .inr ((h.segments segment hsegment).encoded c hc)

/-! ## Directories -/

/-- A path with a slash at its end. -/
def slashed (path : List Char) : List Char :=
  if path.getLast? = some '/' then path else path ++ ['/']

/-- A path ends with a slash if its last segment is empty. -/
theorem getLast?_pathText (h : StoredPath list) :
    (UrlPath.segments list).text.getLast? = some '/' ↔ list.getLast? = some [] := by
  obtain hnil | ⟨front, last, hlist⟩ := List.eq_nil_or_concat list
  · exact absurd hnil h.nonempty
  rw [List.concat_eq_append] at hlist
  have hlast : StoredSegment last := h.segments last (by simp [hlist])
  have hend : (UrlPath.segments list).text.getLast? = some (last.getLast?.getD '/') := by
    rw [hlist, UrlPath.text, List.flatMap_append, List.flatMap_singleton, List.getLast?_append,
      List.getLast?_cons, Option.some_or]
  rw [hend, hlist, List.getLast?_concat, Option.some_inj, Option.some_inj]
  cases hc : last.getLast? with
  | none => exact iff_of_true rfl (List.getLast?_eq_none_iff.mp hc)
  | some c =>
      have hmem := List.mem_of_getLast? hc
      have hslash : c ≠ '/' := by
        rintro rfl
        exact absurd (hlast.whole '/' hmem) (by decide)
      exact iff_of_false hslash (List.ne_nil_of_mem hmem)

/-- The segments of a path with a slash at its end. -/
def directory (list : List (List Char)) : List (List Char) :=
  if list.getLast? == some [] then list else list ++ [[]]

theorem stored_directory (h : StoredPath list) : StoredPath (directory list) := by
  rw [directory]
  split
  · exact h
  · refine ⟨List.append_ne_nil_of_right_ne_nil _ nofun, List.forall_mem_append.mpr ⟨h.segments, ?_⟩⟩
    exact List.forall_mem_singleton.mpr storedSegment_nil

theorem getLast?_directory (list : List (List Char)) : (directory list).getLast? = some [] := by
  rw [directory]
  split
  · next h => exact beq_iff_eq.mp h
  · exact List.getLast?_concat

theorem directory_directory (list : List (List Char)) : directory (directory list) = directory list :=
  if_pos (beq_iff_eq.mpr (getLast?_directory list))

theorem pathText_directory (h : StoredPath list) :
    (UrlPath.segments (directory list)).text = slashed (UrlPath.segments list).text := by
  rw [slashed, directory]
  simp only [getLast?_pathText h, beq_iff_eq]
  split
  · rfl
  · rw [UrlPath.text, List.flatMap_append, List.flatMap_singleton, UrlPath.text]

/-- A path below a directory is put after it. -/
theorem pathText_below (hlast : list.getLast? = some []) {below : List (List Char)} (hne : below ≠ []) :
    (UrlPath.segments (list.dropLast ++ below)).text =
      (UrlPath.segments list).text ++ ['/'].intercalate below := by
  have hlist : list = list.dropLast ++ [[]] := by
    obtain ⟨front, rfl⟩ := List.getLast?_eq_some_iff.mp hlast
    rw [List.dropLast_concat]
  have hbelow : below.flatMap ('/' :: ·) = '/' :: ['/'].intercalate below := pathText_eq hne
  conv_rhs => rw [hlist]
  simp only [UrlPath.text, List.flatMap_append, List.flatMap_singleton, hbelow, List.append_assoc,
    List.singleton_append]

end LoadMonitor.Url
