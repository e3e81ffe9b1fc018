import LoadMonitor.Client.Basic
import LoadMonitor.Proofs.Url.LongName

/-!
# Endpoints keep the address that the client was given

An endpoint has the scheme and the authority of the given address, and its path with the one of the
call after it. The address that the client stores makes the same client, unless its host has an
encoded label that is too long to be read.
-/

namespace LoadMonitor

open Url (StoredPath slashed)

/-- The path of a call goes down from the base address. -/
theorem ServiceCall.path_below (call : ServiceCall) :
    StoredPath (Url.pieces .special call.path.toList) ∧
      call.path.toList = ['/'].intercalate (Url.pieces .special call.path.toList) := by
  have hall : ∀ path ∈ ["monitoring/health/live", "monitoring/health", "monitoring/metrics",
      "monitoring/alerts/active", "ingest/logs", "ingest/bulk", "query/execute"],
      StoredPath (Url.pieces .special path.toList) ∧
        path.toList = ['/'].intercalate (Url.pieces .special path.toList) := by
    decide
  refine hall call.path ?_
  cases call with
  | postLogs route records => cases route <;> simp [path, IngestRoute.path]
  | _ => simp [path]

namespace Client

/-! ## Base addresses -/

theorem isWeb_of_speaks {u : Url} (h : speaks u = true) : Url.isWeb u.scheme := by
  rw [speaks, Url.contains_ofList] at h
  simpa [Url.isWeb] using h

theorem scheme_withTrailingSlash (u : Url) : u.withTrailingSlash.scheme = u.scheme := by
  rw [Url.withTrailingSlash]
  split
  · split
    · rfl
    · split <;> rfl
  · rfl
  · split <;> rfl

variable {text : String} {c : Client}

/-- A client of the web stores an address that was read, with a slash at its end. -/
theorem stored_of_ofBase (h : ofBase text = .ok c) (hweb : speaks c.base = true) :
    ∃ u, Url.parse text = .ok u ∧ u.Stored ∧ c.base = u.withTrailingSlash := by
  rw [ofBase] at h
  split at h
  · next u hu =>
    obtain rfl := Except.ok.inj h
    have hscheme := isWeb_of_speaks hweb
    rw [scheme_withTrailingSlash] at hscheme
    exact ⟨u, hu, Url.stored_of_parse hu hscheme, rfl⟩
  · cases h

/-- The stored address is read as the same client, unless a label of its host is too long. -/
theorem ofBase_text (h : ofBase text = .ok c) (hweb : speaks c.base = true) :
    ofBase c.base.text =
      if c.base.hasLongLabel then .error ⟨c.base.text, .invalidDomain⟩ else .ok c := by
  obtain ⟨u, -, hstored, hbase⟩ := stored_of_ofBase h hweb
  have hslash : c.base.withTrailingSlash = c.base := by
    rw [hbase, Url.withTrailingSlash_withTrailingSlash hstored]
  rw [ofBase, Url.parse_text (hbase ▸ hstored.withTrailingSlash)]
  cases c.base.hasLongLabel with
  | true => rfl
  | false => simp only [Bool.false_eq_true, if_false, hslash]

/-! ## Endpoints -/

/-- Every endpoint is below the given address, and the stored address makes the same client, unless
a label of its host is too long to be read in its encoded form. -/
theorem endpoints_of_base (h : ofBase text = .ok c) (hweb : speaks c.base = true) :
    ∃ u, Url.parse text = .ok u ∧
      (∀ call : ServiceCall, ∃ url, c.endpoint call.path = .ok url ∧
        url.scheme = u.scheme ∧ url.authority = u.authority ∧
        url.query = none ∧ url.fragment = none ∧
        url.path.text = slashed u.path.text ++ call.path.toList) ∧
      ofBase c.base.text =
        if c.base.hasLongLabel then .error ⟨c.base.text, .invalidDomain⟩ else .ok c := by
  obtain ⟨u, hparse, hstored, hbase⟩ := stored_of_ofBase h hweb
  refine ⟨u, hparse, fun call => ?_, ofBase_text h hweb⟩
  obtain ⟨hbelow, hpath⟩ := call.path_below
  obtain ⟨path, hjoin, htext⟩ := Url.join_withTrailingSlash hstored hbelow hpath
  refine ⟨{ u with path := path, query := none, fragment := none }, ?_, rfl, rfl, rfl, rfl, htext⟩
  rw [endpoint, hbase, hjoin]

/-- A base address with everything that can be given, and a path that has to be resolved. -/
def fullBase : Client where
  base :=
    { scheme := "http".toList
      authority := some ⟨"me".toList, some "a%20b".toList, .ipv6 [0, 0, 0, 0, 0, 0, 0, 1], none⟩
      path := .segments ["api".toList, "v1".toList, []]
      query := some "q".toList
      fragment := some "f".toList }

theorem endpoints_of_fullBase :
    ofBase "HTTP://me:a b@[::1]:080\\x\\..\\api/./v1?q#f" = .ok fullBase ∧
      speaks fullBase.base = true ∧
      ∃ u, Url.parse "HTTP://me:a b@[::1]:080\\x\\..\\api/./v1?q#f" = .ok u ∧
        (∀ call : ServiceCall, ∃ url, fullBase.endpoint call.path = .ok url ∧
          url.scheme = u.scheme ∧ url.authority = u.authority ∧
          url.query = none ∧ url.fragment = none ∧
          url.path.text = slashed u.path.text ++ call.path.toList) ∧
        ofBase fullBase.base.text =
          if fullBase.base.hasLongLabel then .error ⟨fullBase.base.text, .invalidDomain⟩
          else .ok fullBase := by
  have hbase : ofBase "HTTP://me:a b@[::1]:080\\x\\..\\api/./v1?q#f" = .ok fullBase := by
    decide +kernel
  have hweb : speaks fullBase.base = true := by decide
  exact ⟨hbase, hweb, endpoints_of_base hbase hweb⟩

/-- A client for a host with a label that is too long is not made again from what it stores. -/
theorem refused_of_hasLongLabel {host : List Char} (hlong : Url.Domain.hasLongLabel host = true)
    (hparse : Url.parse text =
      .ok ⟨"http".toList, some ⟨[], none, .name host, none⟩, .segments [[]], none, none⟩) :
    ∃ c, ofBase text = .ok c ∧ speaks c.base = true ∧
      ofBase c.base.text = .error ⟨c.base.text, .invalidDomain⟩ := by
  have hbase : ofBase text =
      .ok ⟨⟨"http".toList, some ⟨[], none, .name host, none⟩, .segments [[]], none, none⟩⟩ := by
    rw [ofBase, hparse]
    rfl
  refine ⟨_, hbase, rfl, ?_⟩
  rw [ofBase_text hbase rfl]
  exact if_pos hlong

/-- A base address with eight hundred ideographs as its host. It is stored with the encoded form of
that host, which is longer than an encoded label may be, and so is not read again. -/
theorem long_name_not_read_again :
    ∃ c, ofBase (String.ofList ("http://".toList ++ Url.longName)) = .ok c ∧
      speaks c.base = true ∧ ofBase c.base.text = .error ⟨c.base.text, .invalidDomain⟩ :=
  refused_of_hasLongLabel
    (Url.hasLongLabel_encoded (Url.dot_not_mem_encode Url.isIdeograph_longName)
      Url.length_encode_longName)
    (Url.parse_of_isIdeograph Url.isIdeograph_longName (by decide +kernel) (by decide +kernel))

end Client
end LoadMonitor
