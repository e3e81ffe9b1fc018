import LoadMonitor.Proofs.Url.Authority
import LoadMonitor.Proofs.Url.Path

/-!
# Stored addresses are read back

The parts of an address that is read are in the form in which they are stored, and its text is cut
into those parts again. So the text is read as the address, unless it has a host with a label that is
too long to be read.
-/

namespace LoadMonitor.Url

/-! ## Characters -/

/-- Characters that are not dropped around an address or within it. -/
def isVisible (c : Char) : Bool := 0x20 < c.toNat

theorem isVisible_of_isAuthorityChar {c : Char} (h : isAuthorityChar c = true) :
    isVisible c = true :=
  (Bool.and_eq_true_iff.mp h).1

theorem isVisible_of_isControl {c : Char} (hcontrol : isControl c = false)
    (hblank : (c == ' ') = false) : isVisible c = true := by
  have hne : c.toNat ≠ ' '.toNat := mt Char.toNat_inj.mp (ne_of_beq_false hblank)
  rw [isControl, Bool.or_eq_false_iff, decide_eq_false_iff_not, Nat.not_lt] at hcontrol
  exact decide_eq_true (Nat.lt_of_le_of_ne hcontrol.1 (Ne.symm hne))

theorem isVisible_of_inFragmentSet {c : Char} (h : inFragmentSet c = false) : isVisible c = true := by
  simp only [inFragmentSet, Bool.or_eq_false_iff] at h
  exact isVisible_of_isControl h.1.1.1.1.1 h.1.1.1.1.2

theorem isVisible_of_inPathSet {c : Char} (h : inPathSet c = false) : isVisible c = true := by
  simp only [inPathSet, Bool.or_eq_false_iff] at h
  exact isVisible_of_inFragmentSet h.1.1.1.1

theorem isVisible_of_inSpecialQuerySet {c : Char} (h : inSpecialQuerySet c = false) :
    isVisible c = true := by
  simp only [inSpecialQuerySet, inQuerySet, Bool.or_eq_false_iff] at h
  exact isVisible_of_isControl h.1.1.1.1.1.1 h.1.1.1.1.1.2

theorem isSegmentEnd_of_isAuthorityChar {c : Char} (h : isAuthorityChar c = true) :
    isSegmentEnd .special c = false := by
  simp_all [isAuthorityChar, isSegmentEnd]

theorem isBreak_of_isVisible {c : Char} (h : isVisible c = true) : isBreak c = false := by
  rw [← Bool.not_eq_true]
  intro hbreak
  rw [isBreak, Bool.or_eq_true, Bool.or_eq_true, beq_iff_eq, beq_iff_eq, beq_iff_eq] at hbreak
  rcases hbreak with (rfl | rfl) | rfl <;> exact absurd h (by decide)

theorem dropBreaks_of_isVisible {cs : List Char} (h : ∀ c ∈ cs, isVisible c = true) :
    dropBreaks cs = cs :=
  dropBreaks_of_forall fun c hc => isBreak_of_isVisible (h c hc)

theorem trim_of_isVisible {cs : List Char} (h : ∀ c ∈ cs, isVisible c = true) : trim cs = cs := by
  have hdrop : ∀ {cs : List Char}, (∀ c ∈ cs, isVisible c = true) →
      cs.dropWhile (fun c => decide (c.toNat ≤ 0x20)) = cs := by
    intro cs hcs
    cases cs with
    | nil => rfl
    | cons c rest =>
        have hc := hcs c List.mem_cons_self
        rw [List.dropWhile_cons_of_neg]
        simpa [isVisible] using hc
  rw [trim]
  simp only [hdrop h]
  rw [hdrop fun c hc => h c (List.mem_reverse.mp hc), List.reverse_reverse]

/-! ## Schemes -/

/-- The schemes of the web. -/
def isWeb (scheme : List Char) : Prop := scheme = "http".toList ∨ scheme = "https".toList

variable {scheme : List Char}

theorem kindOf_web (h : isWeb scheme) : kindOf scheme = .special := by
  rcases h with rfl | rfl <;> decide

theorem isVisible_web (h : isWeb scheme) : ∀ c ∈ scheme, isVisible c = true := by
  rcases h with rfl | rfl <;> exact forall_mem_of_all (by decide)

theorem splitScheme_web (h : isWeb scheme) (body : List Char) :
    splitScheme (scheme ++ ':' :: body) = some (scheme, body) := by
  have hcolon : ':' ∉ scheme := by rcases h with rfl | rfl <;> decide
  have hchars : scheme.head?.any Char.isAlpha && scheme.all isSchemeChar := by
    rcases h with rfl | rfl <;> decide
  have hlower : scheme.map Char.toLower = scheme := by rcases h with rfl | rfl <;> decide
  rw [splitScheme, cutAtChar_append hcolon]
  simp only [dropBreaks_of_isVisible (isVisible_web h), hchars, hlower, if_true]

/-! ## Stored addresses -/

/-- An address of the web as it is stored. -/
structure Stored (u : Url) : Prop where
  web : isWeb u.scheme
  authority : ∃ a, u.authority = some a ∧ a.Stored u.scheme
  path : ∃ list, u.path = .segments list ∧ StoredPath list
  query : ∀ cs, u.query = some cs → ∀ c ∈ cs, inSpecialQuerySet c = false
  fragment : ∀ cs, u.fragment = some cs → ∀ c ∈ cs, inFragmentSet c = false

theorem encoded_of_map {set : Char → Bool} (hset : IsEncodable set) {given : Option (List Char)}
    {f : List Char → List Char} : ∀ cs, given.map (encode set ∘ f) = some cs →
      ∀ c ∈ cs, set c = false := by
  intro cs hcs
  obtain ⟨_, -, rfl⟩ := Option.map_eq_some_iff.mp hcs
  exact set_eq_false_of_mem_encode hset

/-! ## Bodies -/

/-- The authority in what follows the scheme. -/
def authorityPart (body : List Char) : List Char :=
  (body.dropWhile (isSegmentEnd .special)).takeWhile (!isSegmentEnd .special ·)

/-- The path in what follows the scheme. -/
def pathPart (body : List Char) : List Char :=
  (body.dropWhile (isSegmentEnd .special)).dropWhile (!isSegmentEnd .special ·)

theorem readBody_special (isLast : Bool) (body : List Char) :
    readBody scheme .special isLast body =
      (readAuthority scheme .special (isLast && (pathPart body).isEmpty) (authorityPart body)).map
        fun read => (some read.1, .segments (readPath .special (read.2 ++ pathPart body))) := by
  rw [readBody, readHierarchy]
  change (readAuthority scheme .special (isLast && (pathPart body).isEmpty) (authorityPart body) >>= _)
    >>= _ = _
  cases readAuthority scheme .special (isLast && (pathPart body).isEmpty) (authorityPart body) <;> rfl

/-- An address of the web is read part by part. -/
theorem parse_web {text : String} {body : List Char}
    (hscheme : splitScheme (trim text.toList) = some (scheme, body)) (hweb : isWeb scheme) :
    parse text = (readBody scheme .special ((splitTail body).2.1.isNone && (splitTail body).2.2.isNone)
        (dropBreaks (splitTail body).1)).map
      fun read => ⟨scheme, read.1, read.2,
        (splitTail body).2.1.map (encode inSpecialQuerySet ∘ dropBreaks),
        (splitTail body).2.2.map (encode inFragmentSet ∘ dropBreaks)⟩ := by
  rw [parse, hscheme]
  dsimp only
  rw [kindOf_web hweb, if_neg nofun]
  cases readBody scheme .special ((splitTail body).2.1.isNone && (splitTail body).2.2.isNone)
    (dropBreaks (splitTail body).1) <;> rfl

theorem splitScheme_of_parse {text : String} {u : Url} (h : parse text = .ok u) :
    ∃ body, splitScheme (trim text.toList) = some (u.scheme, body) := by
  rw [parse] at h
  split at h
  · cases h
  · next scheme body hscheme =>
    simp only [Except.bind, bind, pure, Except.pure] at h
    split at h
    · cases h
    · injection h with h
      exact ⟨body, by rw [hscheme, ← h]⟩

/-- What is read is stored. -/
theorem stored_of_parse {text : String} {u : Url} (h : parse text = .ok u) (hweb : isWeb u.scheme) :
    u.Stored := by
  obtain ⟨body, hscheme⟩ := splitScheme_of_parse h
  generalize u.scheme = scheme at hscheme hweb
  rw [parse_web hscheme hweb] at h
  obtain ⟨⟨authority, path⟩, hbody, rfl⟩ := eq_ok_of_map h
  rw [readBody_special] at hbody
  obtain ⟨⟨a, rest⟩, hread, hparts⟩ := eq_ok_of_map hbody
  obtain ⟨rfl, rfl⟩ := Prod.mk.inj hparts
  have hbackslash : '\\' ∉ authorityPart (dropBreaks (splitTail body).1) := by
    intro hmem
    have hend := List.mem_takeWhile_imp hmem
    revert hend
    decide
  obtain ⟨hauthority, rfl⟩ := stored_of_readAuthority hbackslash hread
  exact ⟨hweb, ⟨a, rfl, hauthority⟩, ⟨_, rfl, stored_of_readPath _⟩,
    encoded_of_map isEncodable_specialQuerySet, encoded_of_map isEncodable_fragmentSet⟩

/-! ## Reading back -/

/-- The query and the fragment are cut off again. -/
theorem splitTail_text {u : Url} {front : List Char} (hfront : ∀ c ∈ front, c ≠ '?' ∧ c ≠ '#')
    (hquery : ∀ cs, u.query = some cs → '#' ∉ cs) :
    splitTail (front ++ u.queryText ++ u.fragmentText) = (front, u.query, u.fragment) := by
  have hmark : '?' ∉ front := fun hmem => (hfront '?' hmem).1 rfl
  have hcut : cutAtChar '?' (front ++ u.queryText) = (front, u.query) := by
    rw [queryText]
    cases u.query with
    | none => rw [List.append_nil, cutAtChar_of_not_mem hmark]
    | some cs => rw [cutAtChar_append hmark]
  have hnumber : '#' ∉ front ++ u.queryText := by
    rw [List.mem_append, not_or, queryText]
    refine ⟨fun hmem => (hfront '#' hmem).2 rfl, ?_⟩
    cases hcs : u.query with
    | none => exact List.not_mem_nil
    | some cs => exact List.not_mem_cons_of_ne_of_not_mem (by decide) (hquery cs hcs)
  rw [splitTail, fragmentText]
  cases u.fragment with
  | none => simp only [List.append_nil, cutAtChar_of_not_mem hnumber, hcut]
  | some cs => simp only [cutAtChar_append hnumber, hcut]

/-- The slashes before the authority and the one after it are where it is cut off. -/
theorem parts_text {authority path : List Char} (hne : authority ≠ [])
    (hauthority : ∀ c ∈ authority, isSegmentEnd .special c = false)
    (hpath : path = [] ∨ ∃ rest, path = '/' :: rest) :
    authorityPart ('/' :: '/' :: (authority ++ path)) = authority ∧
      pathPart ('/' :: '/' :: (authority ++ path)) = path := by
  have hslash : isSegmentEnd .special '/' = true := rfl
  have hslashes : ('/' :: '/' :: (authority ++ path)).dropWhile (isSegmentEnd .special) =
      authority ++ path := by
    obtain ⟨c, rest, rfl⟩ := List.exists_cons_of_ne_nil hne
    simp [hslash, hauthority c List.mem_cons_self]
  have hnot : ∀ c ∈ authority, (!isSegmentEnd .special c) = true := fun c hc => by
    rw [hauthority c hc]
    rfl
  rw [authorityPart, pathPart, hslashes, List.takeWhile_append_of_pos hnot,
    List.dropWhile_append_of_pos hnot]
  rcases hpath with rfl | ⟨rest, rfl⟩ <;> simp [hslash]

/-- Whether the host of an address is a name with an encoded label that is too long to be read. -/
def hasLongLabel (u : Url) : Bool := u.authority.any (·.host.hasLongLabel)

theorem authorityText_eq {u : Url} {a : UrlAuthority} (ha : u.authority = some a) :
    u.authorityText = '/' :: '/' :: (a.userText ++ a.host.text ++ a.portText) := by
  rw [authorityText, ha]
  rfl

/-- The authority and the path are read back, unless a label of the host is too long for that. -/
theorem readBody_text {u : Url} (h : u.Stored) (isLast : Bool) :
    readBody u.scheme .special isLast (u.authorityText ++ u.path.text) =
      if u.hasLongLabel then .error .invalidDomain else .ok (u.authority, u.path) := by
  obtain ⟨a, ha, hauthority⟩ := h.authority
  obtain ⟨list, hlist, hpath⟩ := h.path
  have hchars := authority_chars hauthority
  have hne : a.userText ++ a.host.text ++ a.portText ≠ [] := by
    simp [hostText_ne_nil hauthority.host]
  obtain ⟨hauthorityPart, hpathPart⟩ := parts_text hne
    (fun c hc => isSegmentEnd_of_isAuthorityChar (hchars c hc)) (.inr ⟨_, pathText_eq hpath.nonempty⟩)
  have hlong : u.hasLongLabel = a.host.hasLongLabel := by rw [hasLongLabel, ha, Option.any_some]
  rw [hlong, authorityText_eq ha, ha, hlist, List.cons_append, List.cons_append, readBody_special,
    hauthorityPart, hpathPart, readAuthority_text hauthority]
  cases a.host.hasLongLabel with
  | true => rfl
  | false => simp only [Bool.false_eq_true, if_false, Except.map, List.nil_append, readPath_text hpath]

/-- The characters before the query and the fragment. -/
theorem front_chars {u : Url} (h : u.Stored) :
    ∀ c ∈ u.authorityText ++ u.path.text, isVisible c = true ∧ c ≠ '?' ∧ c ≠ '#' := by
  obtain ⟨a, ha, hauthority⟩ := h.authority
  obtain ⟨list, hlist, hpath⟩ := h.path
  rw [authorityText_eq ha, hlist]
  intro c hc
  rw [List.mem_append, List.mem_cons, List.mem_cons] at hc
  have hslash : isVisible '/' = true ∧ '/' ≠ '?' ∧ '/' ≠ '#' := by decide
  rcases hc with (rfl | rfl | hc) | hc
  · exact hslash
  · exact hslash
  · have hchar := authority_chars hauthority c hc
    refine ⟨isVisible_of_isAuthorityChar hchar, ?_, ?_⟩ <;> rintro rfl <;>
      exact absurd hchar (by decide)
  · rcases pathText_chars hpath c hc with rfl | hchar
    · exact hslash
    · refine ⟨isVisible_of_inPathSet hchar, ?_, ?_⟩ <;> rintro rfl <;>
        exact absurd hchar (by decide)

theorem isVisible_chars {u : Url} (h : u.Stored) : ∀ c ∈ u.chars, isVisible c = true := by
  have hmark : isVisible '?' = true ∧ isVisible '#' = true ∧ isVisible ':' = true := by decide
  have hquery : ∀ c ∈ u.queryText, isVisible c = true := by
    rw [queryText]
    cases hcs : u.query with
    | none => nofun
    | some cs =>
        refine List.forall_mem_cons.mpr ⟨hmark.1, fun c hc => ?_⟩
        exact isVisible_of_inSpecialQuerySet (h.query cs hcs c hc)
  have hfragment : ∀ c ∈ u.fragmentText, isVisible c = true := by
    rw [fragmentText]
    cases hcs : u.fragment with
    | none => nofun
    | some cs =>
        refine List.forall_mem_cons.mpr ⟨hmark.2.1, fun c hc => ?_⟩
        exact isVisible_of_inFragmentSet (h.fragment cs hcs c hc)
  rw [chars]
  refine List.forall_mem_append.mpr ⟨isVisible_web h.web, List.forall_mem_cons.mpr ⟨hmark.2.2, ?_⟩⟩
  refine List.forall_mem_append.mpr ⟨List.forall_mem_append.mpr ⟨fun c hc => ?_, hquery⟩, hfragment⟩
  exact (front_chars h c hc).1

theorem map_encode_dropBreaks {set : Char → Bool} {part : Option (List Char)}
    (h : ∀ cs, part = some cs → ∀ c ∈ cs, set c = false)
    (hvisible : ∀ c, set c = false → isVisible c = true) :
    part.map (encode set ∘ dropBreaks) = part := by
  cases part with
  | none => rfl
  | some cs =>
      rw [Option.map_some, Function.comp_apply,
        dropBreaks_of_isVisible fun c hc => hvisible c (h cs rfl c hc), encode_of_forall (h cs rfl)]

/-- An address of the web is read back, unless a label of its host is too long for that. -/
theorem parse_text {u : Url} (h : u.Stored) :
    parse u.text = if u.hasLongLabel then .error .invalidDomain else .ok u := by
  have hfront := front_chars h
  have hscheme : splitScheme (trim u.text.toList) =
      some (u.scheme, u.authorityText ++ u.path.text ++ u.queryText ++ u.fragmentText) := by
    rw [text, String.toList_ofList, trim_of_isVisible (isVisible_chars h), chars, splitScheme_web h.web]
  have hquery : ∀ cs, u.query = some cs → '#' ∉ cs := fun cs hcs hmem =>
    absurd (h.query cs hcs '#' hmem) (by decide)
  rw [parse_web hscheme h.web, splitTail_text (fun c hc => (hfront c hc).2) hquery,
    dropBreaks_of_isVisible fun c hc => (hfront c hc).1,
    map_encode_dropBreaks h.query fun _ => isVisible_of_inSpecialQuerySet,
    map_encode_dropBreaks h.fragment fun _ => isVisible_of_inFragmentSet, readBody_text h]
  cases u.hasLongLabel <;> rfl

/-! ## Hosts alone -/

/-- An address that consists of a host is read with the path of its directory. -/
theorem parse_host {cs : List Char} {host : UrlHost} (hne : cs ≠ [])
    (hchars : ∀ c ∈ cs, isHostChar c = true) (hhost : readDomain cs = .ok host) :
    parse (String.ofList ("http://".toList ++ cs)) =
      .ok ⟨"http".toList, some ⟨[], none, host, none⟩, .segments [[]], none, none⟩ := by
  have hauthority := fun c hc => isAuthorityChar_of_isHostChar (hchars c hc)
  have hvisible := fun c hc => isVisible_of_isAuthorityChar (hauthority c hc)
  have hnot : ∀ {d : Char}, isHostChar d = false → d ∉ cs := fun hd hmem => by
    rw [hchars _ hmem] at hd
    cases hd
  have htext : (String.ofList ("http://".toList ++ cs)).toList =
      "http".toList ++ ':' :: '/' :: '/' :: cs := by
    rw [String.toList_ofList]
    rfl
  have hslashes : ∀ c ∈ '/' :: '/' :: cs, isVisible c = true := by
    simpa [or_imp, forall_and] using ⟨by decide, hvisible⟩
  have hweb : isWeb "http".toList := .inl rfl
  -- Nothing is trimmed, and the scheme ends at the colon.
  have hscheme : splitScheme (trim (String.ofList ("http://".toList ++ cs)).toList) =
      some ("http".toList, '/' :: '/' :: cs) := by
    rw [htext, trim_of_isVisible, splitScheme_web hweb]
    exact List.forall_mem_append.mpr
      ⟨isVisible_web hweb, List.forall_mem_cons.mpr ⟨by decide, hslashes⟩⟩
  have hmark : '?' ∉ '/' :: '/' :: cs := by simpa using hnot (by decide)
  have hnumber : '#' ∉ '/' :: '/' :: cs := by simpa using hnot (by decide)
  -- There is neither a query nor a fragment.
  have htail : splitTail ('/' :: '/' :: cs) = ('/' :: '/' :: cs, none, none) := by
    rw [splitTail, cutAtChar_of_not_mem hnumber]
    simp only [cutAtChar_of_not_mem hmark]
  obtain ⟨hauthorityPart, hpathPart⟩ := parts_text hne
    (fun c hc => isSegmentEnd_of_isAuthorityChar (hauthority c hc)) (.inl rfl)
  rw [List.append_nil] at hauthorityPart hpathPart
  have hhostPart := splitHost_of_isHostChar hchars (.inl rfl)
  rw [List.append_nil] at hhostPart
  rw [parse_web hscheme hweb, htail, dropBreaks_of_isVisible hslashes, readBody_special,
    hauthorityPart, hpathPart, readAuthority_special, cutAtLastChar_of_not_mem (hnot (by decide)),
    hhostPart, if_neg hne, readHost_of_isHostChar hchars, hhost]
  rfl

/-! ## Directories -/

variable {u : Url} {list : List (List Char)}

theorem withTrailingSlash_eq (h : u.Stored) (hlist : u.path = .segments list) :
    u.withTrailingSlash = { u with path := .segments (directory list) } := by
  rw [withTrailingSlash, directory, hlist, kindOf_web h.web]
  dsimp only
  split
  · rw [← hlist]
  · rfl

theorem Stored.withTrailingSlash (h : u.Stored) : u.withTrailingSlash.Stored := by
  obtain ⟨list, hlist, hpath⟩ := h.path
  rw [withTrailingSlash_eq h hlist]
  exact ⟨h.web, h.authority, ⟨_, rfl, stored_directory hpath⟩, h.query, h.fragment⟩

/-- A path ends with one slash. -/
theorem withTrailingSlash_withTrailingSlash (h : u.Stored) :
    u.withTrailingSlash.withTrailingSlash = u.withTrailingSlash := by
  obtain ⟨list, hlist, hpath⟩ := h.path
  have hslash := withTrailingSlash_eq h hlist
  rw [withTrailingSlash_eq h.withTrailingSlash (congrArg Url.path hslash), hslash,
    directory_directory]

/-- An address below the directory of an address is its path with the relative one after it. -/
theorem join_withTrailingSlash (h : u.Stored) {relative : String} {below : List (List Char)}
    (hbelow : StoredPath below) (hrelative : relative.toList = ['/'].intercalate below) :
    ∃ path, u.withTrailingSlash.join relative =
        .ok { u with path := path, query := none, fragment := none } ∧
      path.text = slashed u.path.text ++ relative.toList := by
  obtain ⟨list, hlist, hpath⟩ := h.path
  refine ⟨.segments ((directory list).dropLast ++ below), ?_, ?_⟩
  · rw [withTrailingSlash_eq h hlist, join, hrelative]
    dsimp only
    rw [kindOf_web h.web, readSegments_text hbelow, List.reverse_reverse]
  · rw [pathText_below (getLast?_directory list) hbelow.nonempty, pathText_directory hpath, hlist,
      hrelative]

end LoadMonitor.Url
