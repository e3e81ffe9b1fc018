import LoadMonitor.Proofs.Url.Host
import LoadMonitor.Proofs.Url.Path

/-!
# Addresses can be printed

Whatever is read as an address, its text is made of ASCII characters that are no controls: all
others have been refused, dropped or encoded. The same is true of the addresses below it.
-/

namespace LoadMonitor

namespace Url

variable {α β : Type} {kind : SchemeKind}

/-! ## Printable characters -/

/-- A text that holds neither controls nor anything beyond ASCII. -/
def Printable (cs : List Char) : Prop := ∀ c ∈ cs, isControl c = false

theorem isControl_eq_false_iff {c : Char} :
    isControl c = false ↔ 0x20 ≤ c.toNat ∧ c.toNat ≤ 0x7e := by
  simp only [isControl, Bool.or_eq_false_iff, decide_eq_false_iff_not]
  omega

theorem printable_nil : Printable [] := nofun

theorem isControl_of_isDigit {c : Char} (h : c.isDigit = true) : isControl c = false := by
  have hrange := Json.digit_range h
  rw [isControl_eq_false_iff]
  omega

theorem isAlpha_range {c : Char} (h : c.isAlpha = true) : 0x41 ≤ c.toNat ∧ c.toNat ≤ 0x7a := by
  rcases Bool.or_eq_true_iff.mp h with hupper | hlower
  · obtain ⟨hlow, hhigh⟩ := of_decide_eq_true hupper
    have hlow : 0x41 ≤ c.toNat := UInt32.le_iff_toNat_le.mp hlow
    have hhigh : c.toNat ≤ 0x5a := UInt32.le_iff_toNat_le.mp hhigh
    omega
  · obtain ⟨hlow, hhigh⟩ := Bool.and_eq_true_iff.mp hlower
    have hlow : 0x61 ≤ c.toNat := UInt32.le_iff_toNat_le.mp (of_decide_eq_true hlow)
    have hhigh : c.toNat ≤ 0x7a := UInt32.le_iff_toNat_le.mp (of_decide_eq_true hhigh)
    omega

theorem isControl_of_isAlpha {c : Char} (h : c.isAlpha = true) : isControl c = false := by
  have hrange := isAlpha_range h
  rw [isControl_eq_false_iff]
  omega

theorem isControl_of_isEscape {c : Char} (h : isEscape c = true) : isControl c = false :=
  forall_ascii (p := fun c => isEscape c → isControl c = false) (by decide) (isEscape_ascii h) h

/-- Encoded text can be printed. -/
theorem printable_encode {set : Char → Bool} (hset : ∀ c, set c = false → isControl c = false)
    (cs : List Char) : Printable (encode set cs) := by
  intro c hc
  rcases mem_encode hc with ⟨-, hplain⟩ | hescape
  · exact hset c hplain
  · exact isControl_of_isEscape hescape

theorem isControl_of_inFragmentSet (c : Char) (h : inFragmentSet c = false) :
    isControl c = false := by
  simp only [inFragmentSet, Bool.or_eq_false_iff] at h
  exact h.1.1.1.1.1

theorem isControl_of_inPathSet (c : Char) (h : inPathSet c = false) : isControl c = false := by
  simp only [inPathSet, Bool.or_eq_false_iff] at h
  exact isControl_of_inFragmentSet c h.1.1.1.1

theorem isControl_of_inUserSet (c : Char) (h : inUserSet c = false) : isControl c = false := by
  simp only [inUserSet, Bool.or_eq_false_iff] at h
  exact isControl_of_inPathSet c h.1.1.1.1.1.1.1.1.1.1

theorem isControl_of_inQuerySet (c : Char) (h : inQuerySet c = false) : isControl c = false := by
  simp only [inQuerySet, Bool.or_eq_false_iff] at h
  exact h.1.1.1.1.1

theorem isControl_of_inSpecialQuerySet (c : Char) (h : inSpecialQuerySet c = false) :
    isControl c = false := by
  simp only [inSpecialQuerySet, Bool.or_eq_false_iff] at h
  exact isControl_of_inQuerySet c h.1

/-! ## What reading yields -/

/-- If something is read, it has the property. -/
def Yields (x : Except UrlError α) (p : α → Prop) : Prop := ∀ a, x = .ok a → p a

namespace Yields

variable {x : Except UrlError α} {p : α → Prop} {q : β → Prop}

theorem ok {a : α} (h : p a) : Yields (.ok a) p := by
  intro b hb
  cases hb
  exact h

theorem error (e : UrlError) : Yields (.error e) p := nofun

theorem bind {next : α → Except UrlError β} (h : Yields x p)
    (hnext : ∀ a, p a → Yields (next a) q) : Yields (x >>= next) q := by
  cases x with
  | ok a => exact hnext a (h a rfl)
  | error e => exact error e

/-- A check that may fail on the way. -/
theorem guarded {condition : Prop} [Decidable condition] {e : UrlError}
    {next : β → Except UrlError α} (h : Yields x p) :
    Yields (if condition then throw e >>= next else x) p := by
  split
  · exact error e
  · exact h

/-- What is read on the way does not matter. -/
theorem skip {next : α → Except UrlError β} (hnext : ∀ a, Yields (next a) q) :
    Yields (x >>= next) q :=
  bind (p := fun _ => True) (fun _ _ => trivial) fun a _ => hnext a

end Yields

/-! ## Hosts -/

theorem printable_stored {host : UrlHost} (h : host.Stored) : Printable host.text := by
  cases h with
  | name hstored _ _ =>
      obtain ⟨cs, hcs⟩ := hstored
      intro c hc
      have hchar := Domain.isStored_of_ofChars? hcs c hc
      -- What is stored of a name is ASCII, so its characters can be gone through.
      exact forall_ascii (p := fun c => Domain.IsStored c → isControl c = false) (by decide)
        hchar.ascii hchar
  | ipv4 _ =>
      intro c hc
      rcases Ipv4.mem_text hc with hdigit | rfl
      · exact isControl_of_isDigit hdigit
      · decide
  | @ipv6 groups _ _ =>
      have hhex : ∀ d ∈ List.range 16, isControl d.digitChar = false := by decide
      unfold UrlHost.text Printable
      rw [List.forall_mem_cons, List.forall_mem_append, List.forall_mem_singleton]
      refine ⟨by decide, ?_, by decide⟩
      intro c hc
      rcases Ipv6.mem_text hc with rfl | ⟨d, hd, rfl⟩
      · decide
      · exact hhex d (List.mem_range.mpr hd)

theorem readHost_printable (kind : SchemeKind) (cs : List Char) :
    Yields (readHost kind cs) fun host => Printable host.text := by
  intro host h
  by_cases hkind : kind = .other
  · rw [readHost.eq_def] at h
    split at h
    · -- What stands in brackets is read alike for all schemes.
      next inner => exact printable_stored (@stored_of_readHost ('[' :: inner) host h)
    · rw [if_pos hkind] at h
      unfold readName at h
      split at h
      · cases h
      · cases h
        exact printable_encode (fun _ h => h) cs
  · have hspecial : readHost kind cs = readHost .special cs := by
      rw [readHost.eq_def, readHost.eq_def, if_neg hkind,
        if_neg SchemeKind.noConfusion]
    exact printable_stored (stored_of_readHost (hspecial ▸ h))

/-! ## Authorities -/

end Url

/-- The parts of an authority can be printed. -/
structure UrlAuthority.Printable (a : UrlAuthority) : Prop where
  user : Url.Printable a.user
  password : ∀ password, a.password = some password → Url.Printable password
  host : Url.Printable a.host.text

theorem UrlAuthority.Printable.text {a : UrlAuthority} (h : a.Printable) : Url.Printable a.text := by
  have hmark : Url.isControl '/' = false ∧ Url.isControl ':' = false ∧
    Url.isControl '@' = false := by decide
  have huser : Url.Printable a.userText := by
    unfold userText Url.Printable
    split
    · next password hpassword =>
      simp only [List.forall_mem_append, List.forall_mem_cons]
      exact ⟨⟨h.user, hmark.2.1, h.password password hpassword⟩, hmark.2.2, List.forall_mem_nil _⟩
    split
    · exact Url.printable_nil
    · simp only [List.forall_mem_append, List.forall_mem_cons]
      exact ⟨h.user, hmark.2.2, List.forall_mem_nil _⟩
  have hport : Url.Printable a.portText := by
    unfold portText Url.Printable
    split
    · rw [List.forall_mem_cons]
      exact ⟨hmark.2.1, fun c hc => Url.isControl_of_isDigit (Json.isDigit_of_mem_toDigits c hc)⟩
    · exact Url.printable_nil
  unfold UrlAuthority.text Url.Printable
  simp only [List.cons_append, List.forall_mem_cons, List.forall_mem_append]
  exact ⟨hmark.1, hmark.1, ⟨huser, h.host⟩, hport⟩

namespace Url

theorem readUser_printable (cs : List Char) : Printable (readUser cs).1 ∧
    ∀ password, (readUser cs).2 = some password → Printable password := by
  have hencode := printable_encode isControl_of_inUserSet
  unfold readUser
  split
  · exact ⟨hencode _, nofun⟩
  · exact ⟨hencode _, nofun⟩
  · refine ⟨hencode _, ?_⟩
    rintro _ ⟨⟩
    exact hencode _

theorem readAuthority_printable (scheme : List Char) (kind : SchemeKind) (isLast : Bool)
    (cs : List Char) :
    Yields (readAuthority scheme kind isLast cs) fun read => read.1.Printable := by
  have huser := readUser_printable ((cutAtLastChar '@' cs).1.getD [])
  unfold readAuthority
  dsimp only
  refine .guarded <| .guarded <| .bind (readHost_printable _ _) fun host hhost => .guarded ?_
  split
  · exact .skip fun port => .guarded <| .ok ⟨huser.1, huser.2, hhost⟩
  · exact .skip fun port => .guarded <| .ok ⟨huser.1, huser.2, hhost⟩

/-! ## Paths -/

variable {directories : List (List Char)}

/-- A letter with a colon after it. -/
theorem drive_printable {c : Char} (h : c.isAlpha = true) : Printable [c, ':'] := by
  unfold Printable
  rw [List.forall_mem_cons, List.forall_mem_singleton]
  exact ⟨isControl_of_isAlpha h, by decide⟩

theorem brokenDrive_printable {piece drive rest : List Char}
    (h : brokenDrive? piece = some (drive, rest)) : Printable drive := by
  unfold brokenDrive? at h
  split at h
  · split at h
    · next halpha =>
      cases h
      exact drive_printable (Bool.and_eq_true_iff.mp halpha).1
    · cases h
  · cases h

/-- A drive is written with a colon, also if it was given with a bar. -/
theorem isDrive_printable {text : List Char} (h : isDrive text = true) :
    Printable (text.take 1 ++ [':']) := by
  unfold isDrive at h
  split at h
  · exact drive_printable (Bool.and_eq_true_iff.mp h).1
  · cases h

theorem ofPiece_printable {isFirst toDrive : Bool} {piece : List Char} {segments : List (List Char)}
    (h : Step.ofPiece kind isFirst piece = .down segments toDrive) :
    ∀ segment ∈ segments, Printable segment := by
  have hencode := printable_encode isControl_of_inPathSet
  rw [Step.ofPiece] at h
  split at h
  · next drive rest hbroken =>
    cases h
    rw [List.forall_mem_cons, List.forall_mem_singleton]
    refine ⟨?_, hencode _⟩
    split at hbroken
    · exact brokenDrive_printable hbroken
    · cases hbroken
  · split at h
    · cases h
    split at h
    · cases h
    split at h
    · next hfirst =>
      cases h
      rw [List.forall_mem_singleton]
      exact isDrive_printable (Bool.and_eq_true_iff.mp hfirst).2
    · cases h
      rw [List.forall_mem_singleton]
      exact hencode _

theorem resolve_printable {pieces : List (List Char)}
    (h : ∀ directory ∈ directories, Printable directory) :
    ∀ segment ∈ resolve kind directories pieces, Printable segment := by
  have hreverse : ∀ {ds : List (List Char)}, (∀ d ∈ ds, Printable d) → ∀ d ∈ ds.reverse, Printable d :=
    fun hds d hd => hds d (List.mem_reverse.mp hd)
  have hlast : ∀ segment ∈ [([] : List Char)], Printable segment := by
    rw [List.forall_mem_singleton]
    exact printable_nil
  -- Directories are kept in reverse and only ever left or entered.
  induction pieces generalizing directories with
  | nil => exact hreverse h
  | cons piece rest ih =>
      have hleave : ∀ d ∈ leave directories, Printable d := fun d hd => h d (mem_leave hd)
      cases rest with
      | nil =>
          rw [resolve]
          split
          · exact List.forall_mem_append.mpr ⟨hreverse h, hlast⟩
          · exact List.forall_mem_append.mpr ⟨hreverse hleave, hlast⟩
          · next hdown => exact List.forall_mem_append.mpr ⟨hreverse h, ofPiece_printable hdown⟩
      | cons next rest =>
          rw [resolve]
          split
          · exact ih h
          · exact ih hleave
          · next hdown =>
            exact ih (List.forall_mem_append.mpr ⟨hreverse (ofPiece_printable hdown), h⟩)

theorem mem_dropLeadingEmpty {segments : List (List Char)} {segment : List Char}
    (h : segment ∈ dropLeadingEmpty segments) : segment ∈ segments := by
  induction segments with
  | nil => exact h
  | cons first rest ih =>
      unfold dropLeadingEmpty at h
      split at h
      · next heq =>
        cases heq
        exact List.mem_cons_of_mem _ (ih h)
      · exact h

theorem readSegments_printable (h : ∀ directory ∈ directories, Printable directory)
    (cs : List Char) : ∀ segment ∈ readSegments kind directories cs, Printable segment := by
  unfold readSegments
  dsimp only
  split
  · exact fun segment hsegment => resolve_printable h segment (mem_dropLeadingEmpty hsegment)
  · exact resolve_printable h

theorem readPath_printable (kind : SchemeKind) (cs : List Char) :
    ∀ segment ∈ readPath kind cs, Printable segment := by
  unfold readPath
  split
  · nofun
  · exact readSegments_printable (by nofun) _

end Url

/-- The parts of a path can be printed. -/
def UrlPath.Printable : UrlPath → Prop
  | segments list => ∀ segment ∈ list, Url.Printable segment
  | unstructured text => Url.Printable text

theorem UrlPath.Printable.text {path : UrlPath} (h : path.Printable) : Url.Printable path.text := by
  cases path with
  | segments list =>
      intro c hc
      obtain ⟨segment, hsegment, hc⟩ := List.mem_flatMap.mp hc
      rcases List.mem_cons.mp hc with rfl | hc
      · decide
      · exact h segment hsegment c hc
  | unstructured text => exact h

namespace Url

/-! ## Whole addresses -/

/-- The parts of what follows the scheme can be printed. -/
def BodyPrintable (body : Option UrlAuthority × UrlPath) : Prop :=
  (∀ a, body.1 = some a → a.Printable) ∧ body.2.Printable

theorem readHierarchy_printable (scheme : List Char) (kind : SchemeKind) (isLast : Bool)
    (cs : List Char) :
    Yields (readHierarchy scheme kind isLast cs) fun read => read.1.Printable ∧ read.2.Printable :=
  .bind (readAuthority_printable _ _ _ _) fun _ h => .ok ⟨h, readPath_printable _ _⟩

theorem nobody_printable : nobody.Printable := ⟨printable_nil, nofun, printable_nil⟩

theorem readFileOnHost_printable (cs : List Char) :
    Yields (readFileOnHost cs) fun read => read.1.Printable ∧ read.2.Printable := by
  have hsegments : ∀ cs, (UrlPath.segments (readSegments .file [] cs)).Printable :=
    readSegments_printable (by nofun)
  unfold readFileOnHost
  dsimp only
  split
  · exact .ok ⟨nobody_printable, hsegments _⟩
  split
  · exact .ok ⟨nobody_printable, hsegments _⟩
  refine .bind (readHost_printable _ _) fun host hhost => ?_
  split
  · exact .ok ⟨nobody_printable, hsegments _⟩
  · refine .ok ⟨?_, readPath_printable _ _⟩
    dsimp only
    split
    · exact nobody_printable
    · exact ⟨printable_nil, nofun, hhost⟩

theorem readFile_printable (cs : List Char) :
    Yields (readFile cs) fun read => read.1.Printable ∧ read.2.Printable := by
  have hpath : Yields (.ok (nobody, UrlPath.segments (readPath .file cs)))
      fun read => read.1.Printable ∧ read.2.Printable :=
    .ok ⟨nobody_printable, readPath_printable _ _⟩
  unfold readFile
  split
  · split
    · split
      · exact readFileOnHost_printable _
      · exact hpath
    · exact hpath
  · exact hpath

theorem readBody_printable (scheme : List Char) (kind : SchemeKind) (isLast : Bool)
    (cs : List Char) : Yields (readBody scheme kind isLast cs) BodyPrintable := by
  have hsome : ∀ {a : UrlAuthority}, a.Printable → ∀ b, some a = some b → b.Printable := by
    rintro a ha b ⟨⟩
    exact ha
  have hhierarchy := fun cs => Yields.bind (readHierarchy_printable scheme kind isLast cs)
    fun (read : UrlAuthority × UrlPath) h =>
      Yields.ok (p := BodyPrintable) (a := (some read.1, read.2)) ⟨hsome h.1, h.2⟩
  unfold readBody
  split
  · exact .bind (readFile_printable _) fun _ h => .ok ⟨hsome h.1, h.2⟩
  · exact hhierarchy _
  · split
    · exact hhierarchy _
    · exact .ok ⟨nofun, readSegments_printable (by nofun) _⟩
    · exact .ok ⟨nofun, printable_encode (fun _ h => h) _⟩

end Url

/-- The parts of an address can be printed. -/
structure Url.IsPrintable (u : Url) : Prop where
  scheme : Url.Printable u.scheme
  authority : ∀ a, u.authority = some a → a.Printable
  path : u.path.Printable
  query : ∀ cs, u.query = some cs → Url.Printable cs
  fragment : ∀ cs, u.fragment = some cs → Url.Printable cs

namespace Url

/-- The text of an address can be printed if its parts can. -/
theorem IsPrintable.chars {u : Url} (h : u.IsPrintable) : Printable u.chars := by
  have hauthority : Printable u.authorityText := by
    unfold authorityText
    split
    · next a ha => exact (h.authority a ha).text
    · exact forall_mem_of_all (by decide)
    · exact printable_nil
  have hquery : Printable u.queryText := by
    unfold queryText
    split
    · next query hq => exact List.forall_mem_cons.mpr ⟨by decide, h.query query hq⟩
    · exact printable_nil
  have hfragment : Printable u.fragmentText := by
    unfold fragmentText
    split
    · next fragment hf => exact List.forall_mem_cons.mpr ⟨by decide, h.fragment fragment hf⟩
    · exact printable_nil
  unfold Url.chars Printable
  simp only [List.forall_mem_append, List.forall_mem_cons]
  exact ⟨h.scheme, by decide, ⟨⟨hauthority, h.path.text⟩, hquery⟩, hfragment⟩

/-- A scheme is made of letters, digits and three signs. -/
theorem splitScheme_printable {cs scheme body : List Char} (h : splitScheme cs = some (scheme, body)) :
    Printable scheme := by
  have hchar : ∀ c, isSchemeChar c = true → isControl c.toLower = false := by
    intro c hc
    have hascii : c.toNat < 128 := by
      simp only [isSchemeChar, Char.isAlphanum, Bool.or_eq_true, beq_iff_eq] at hc
      rcases hc with (((halpha | hdigit) | rfl) | rfl) | rfl
      · have hrange := isAlpha_range halpha
        omega
      · have hrange := Json.digit_range hdigit
        omega
      all_goals decide
    exact forall_ascii (p := fun c => isSchemeChar c = true → isControl c.toLower = false)
      (by decide) hascii hc
  unfold splitScheme at h
  split at h
  · cases h
  · dsimp only at h
    split at h
    · next hchars =>
      cases h
      intro c hc
      obtain ⟨d, hd, rfl⟩ := List.mem_map.mp hc
      exact hchar d (List.all_eq_true.mp (Bool.and_eq_true_iff.mp hchars).2 d hd)
    · cases h

/-- Whatever is read as an address can be printed. -/
theorem isPrintable_of_parse {text : String} {u : Url} (h : parse text = .ok u) :
    u.IsPrintable := by
  have hencoded : ∀ {set : Char → Bool}, (∀ c, set c = false → isControl c = false) →
      ∀ {given : Option (List Char)} {cs : List Char},
        given.map (encode set ∘ dropBreaks) = some cs → Printable cs := by
    intro set hset given cs hcs
    obtain ⟨given, -, rfl⟩ := Option.map_eq_some_iff.mp hcs
    exact printable_encode hset _
  suffices Yields (parse text) IsPrintable from this u h
  unfold parse
  split
  · exact .error _
  · next scheme body hscheme =>
    refine .bind (readBody_printable _ _ _ _) fun read hbody => .ok ?_
    refine ⟨splitScheme_printable hscheme, hbody.1, hbody.2, ?_, fun cs =>
      hencoded isControl_of_inFragmentSet⟩
    intro cs hquery
    -- Which characters a query keeps depends on the scheme, but controls are never among them.
    refine @hencoded (if kindOf scheme = .other then inQuerySet else inSpecialQuerySet) ?_ _ _
      hquery
    split
    · exact isControl_of_inQuerySet
    · exact isControl_of_inSpecialQuerySet

/-! ## Addresses made from others -/

variable {u : Url}

theorem IsPrintable.withTrailingSlash (h : u.IsPrintable) : u.withTrailingSlash.IsPrintable := by
  have hpath := h.path
  unfold Url.withTrailingSlash
  split
  · next list hlist =>
    rw [hlist] at hpath
    split
    · exact h
    split
    · exact { h with path := readPath_printable _ _ }
    · refine { h with path := List.forall_mem_append.mpr ⟨hpath, ?_⟩ }
      exact List.forall_mem_singleton.mpr printable_nil
  · exact { h with path := forall_mem_of_all (by decide) }
  · next text _ htext =>
    rw [htext] at hpath
    split
    · exact h
    · refine { h with path := List.forall_mem_append.mpr ⟨hpath, ?_⟩ }
      exact List.forall_mem_singleton.mpr (by decide)

theorem IsPrintable.join (h : u.IsPrintable) (relative : String) :
    Yields (u.join relative) IsPrintable := by
  have hpath := h.path
  unfold Url.join
  split
  · exact .error _
  · next list hlist =>
    rw [hlist] at hpath
    refine .ok { h with path := readSegments_printable ?_ _, query := nofun, fragment := nofun }
    intro directory hdirectory
    exact hpath directory ((List.dropLast_sublist _).mem (List.mem_reverse.mp hdirectory))

end Url
end LoadMonitor
