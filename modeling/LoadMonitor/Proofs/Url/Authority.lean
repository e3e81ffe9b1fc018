import LoadMonitor.Proofs.Url.Host

/-!
# Stored authorities are read back

Each part of an authority is cut off where it was put on, and is already in the form in which it is
stored.
-/

namespace LoadMonitor

/-- An authority of a well-known scheme as it is stored. -/
structure UrlAuthority.Stored (scheme : List Char) (a : UrlAuthority) : Prop where
  user : ∀ c ∈ a.user, Url.inUserSet c = false
  password : ∀ password, a.password = some password →
    password ≠ [] ∧ ∀ c ∈ password, Url.inUserSet c = false
  host : a.host.Stored
  port : ∀ port, a.port = some port → port ≤ 65535 ∧ some port ≠ Url.defaultPort scheme

namespace Url

/-! ## Steps of reading -/

theorem eq_ok_of_bind {α β ε : Type} {f : α → Except ε β} {x : Except ε α} {b : β}
    (h : x.bind f = .ok b) : ∃ a, x = .ok a ∧ f a = .ok b := by
  cases x with
  | error e => cases h
  | ok a => exact ⟨a, rfl, h⟩

theorem eq_ok_of_map {α β ε : Type} {f : α → β} {x : Except ε α} {b : β} (h : x.map f = .ok b) :
    ∃ a, x = .ok a ∧ f a = b := by
  cases x with
  | error e => cases h
  | ok a => exact ⟨a, rfl, Except.ok.inj h⟩

variable {scheme : List Char}

/-! ## Users -/

theorem readUser_eq (cs : List Char) : ∃ user password, readUser cs =
    (encode inUserSet user, password.map (encode inUserSet)) ∧ password ≠ some [] := by
  rw [readUser]
  split
  · next user _ => exact ⟨user, none, rfl, nofun⟩
  · next user _ => exact ⟨user, none, rfl, nofun⟩
  · next user password hne _ => exact ⟨user, some password, rfl, fun h => hne (Option.some.inj h)⟩

/-- The user and the password are found again, with anything behind them. -/
theorem readUser_userText {a : UrlAuthority} (h : a.Stored scheme) {after : List Char}
    (hafter : '@' ∉ after) : ∃ user?, cutAtLastChar '@' (a.userText ++ after) = (user?, after) ∧
      readUser (user?.getD []) = (a.user, a.password) := by
  -- The name is encoded, so the first colon is the one behind it.
  have hcolon : ':' ∉ a.user := fun hmem => absurd (h.user ':' hmem) (by decide)
  rw [UrlAuthority.userText]
  cases hpassword : a.password with
  | some password =>
      obtain ⟨hne, hencoded⟩ := h.password password hpassword
      refine ⟨some (a.user ++ ':' :: password), ?_, ?_⟩
      · rw [List.append_assoc, List.singleton_append, cutAtLastChar_append _ hafter]
      · rw [Option.getD_some, readUser, cutAtChar_append hcolon]
        simp only [encode_of_forall h.user, encode_of_forall hencoded]
  | none =>
      dsimp only
      split
      · next hempty =>
        refine ⟨none, cutAtLastChar_of_not_mem hafter, ?_⟩
        rw [List.isEmpty_iff.mp hempty]
        rfl
      · refine ⟨some a.user, ?_, ?_⟩
        · rw [List.append_assoc, List.singleton_append, cutAtLastChar_append _ hafter]
        · rw [Option.getD_some, readUser, cutAtChar_of_not_mem hcolon]
          simp only [encode_of_forall h.user]

/-! ## Ports -/

/-- Read a port if there is one. -/
def readPort? (scheme : List Char) : Option (List Char) → Except UrlError (Option Nat × List Char)
  | none => .ok (none, [])
  | some cs => readPort scheme cs

/-- A port that is read is stored only if it is not meant anyway. What follows it begins with a
backslash. -/
theorem port_of_readPort {cs rest : List Char} {port? : Option Nat}
    (h : readPort scheme cs = .ok (port?, rest)) :
    (∀ port, port? = some port → port ≤ 65535 ∧ some port ≠ defaultPort scheme) ∧
      (rest = [] ∨ '\\' ∈ cs) := by
  rw [readPort] at h
  split at h
  · next hrest =>
    split at h
    · next n hn =>
      split at h
      · cases h
      · next hlt =>
        injection h with h
        obtain ⟨rfl, rfl⟩ := Prod.mk.inj h
        constructor
        · -- The default port is meant anyway and left out.
          intro port hport
          split at hport
          · cases hport
          · next hdefault =>
            obtain rfl := Option.some.inj hport
            simp only [Bool.or_eq_true, not_or, beq_iff_eq] at hdefault
            exact ⟨Nat.le_of_not_lt hlt, hdefault.2⟩
        · rw [Bool.or_eq_true, List.isEmpty_iff, beq_iff_eq] at hrest
          exact hrest.imp_right fun hhead =>
            (List.dropWhile_sublist _).mem (List.mem_of_mem_head? hhead)
    · cases h
  · cases h

theorem port_of_readPort? {cs? : Option (List Char)} {port? : Option Nat} {rest : List Char}
    (h : readPort? scheme cs? = .ok (port?, rest)) :
    (∀ port, port? = some port → port ≤ 65535 ∧ some port ≠ defaultPort scheme) ∧
      (rest = [] ∨ ∃ cs, cs? = some cs ∧ '\\' ∈ cs) := by
  cases cs? with
  | none =>
      obtain ⟨rfl, rfl⟩ := Prod.mk.inj (Except.ok.inj h)
      exact ⟨nofun, .inl rfl⟩
  | some cs =>
      obtain ⟨hport, hrest⟩ := port_of_readPort h
      exact ⟨hport, hrest.imp_right fun hmem => ⟨cs, rfl, hmem⟩⟩

theorem readPort_toDigits {port : Nat} (hlt : port ≤ 65535) (hdefault : some port ≠ defaultPort scheme) :
    readPort scheme (Nat.toDigits 10 port) = .ok (some port, []) := by
  have hdigits := fun c hc => Json.isDigit_of_mem_toDigits (n := port) c hc
  have hne : Nat.toDigits 10 port ≠ [] := Nat.toDigits_ne_nil
  rw [readPort, List.takeWhile_eq_self_iff.mpr hdigits, List.dropWhile_eq_nil_iff.mpr hdigits,
    numeralValue_toDigits (by decide) (by decide)]
  simp [Nat.not_lt.mpr hlt, hne, hdefault]

/-! ## Authorities -/

/-- An authority of a well-known scheme is read part by part. -/
theorem readAuthority_special (isLast : Bool) (cs : List Char) :
    readAuthority scheme .special isLast cs =
      if (splitHost false (cutAtLastChar '@' cs).2).1 = [] then .error .emptyHost
      else (readHost .special (splitHost false (cutAtLastChar '@' cs).2).1).bind fun host =>
        (readPort? scheme (splitHost false (cutAtLastChar '@' cs).2).2).map fun read =>
          (⟨(readUser ((cutAtLastChar '@' cs).1.getD [])).1,
            (readUser ((cutAtLastChar '@' cs).1.getD [])).2, host, read.1⟩, read.2) := by
  rw [readAuthority]
  simp only [Except.bind, bind, throw, throwThe, MonadExceptOf.throw, pure, Except.pure]
  generalize (cutAtLastChar '@' cs).1 = user?
  generalize (cutAtLastChar '@' cs).2 = after
  by_cases hhost : (splitHost false after).1 = []
  · simp [hhost]
  have hafter : after ≠ [] := by
    rintro rfl
    exact hhost rfl
  cases hread : readHost .special (splitHost false after).1 with
  | error cause => simp [hhost, hafter]
  | ok host =>
      -- The host is not empty, so nothing that is said about empty ones applies.
      have hname : (host == .name []) = false := by
        refine beq_false_of_ne ?_
        rintro rfl
        exact hostText_ne_nil (stored_of_readHost hread) rfl
      cases hport : (splitHost false after).2 with
      | none => simp [hhost, hafter, hname, readPort?, Except.map]
      | some port =>
          cases hvalue : readPort scheme port <;>
            simp [hhost, hafter, hname, readPort?, hvalue, Except.map]

theorem mem_splitHost {bracketed : Bool} {cs port : List Char} {c : Char}
    (hport : (splitHost bracketed cs).2 = some port) (hc : c ∈ port) : c ∈ cs := by
  induction cs generalizing bracketed with
  | nil => cases hport
  | cons d rest ih =>
      rw [splitHost] at hport
      split at hport
      · obtain rfl := Option.some.inj hport
        exact List.mem_cons_of_mem d hc
      · exact List.mem_cons_of_mem d (ih hport)

theorem mem_cutAtLastChar {d : Char} {cs : List Char} {c : Char} (h : c ∈ (cutAtLastChar d cs).2) :
    c ∈ cs := by
  induction cs with
  | nil => cases h
  | cons e rest ih =>
      rw [cutAtLastChar] at h
      split at h
      · next front after hcut => exact List.mem_cons_of_mem e (ih (by rwa [hcut]))
      · next after hcut =>
        split at h
        · exact List.mem_cons_of_mem e h
        · rcases List.mem_cons.mp h with rfl | h
          · exact List.mem_cons_self
          · exact List.mem_cons_of_mem e (ih (by rwa [hcut]))

/-- What is read is stored, and is all there is. -/
theorem stored_of_readAuthority {isLast : Bool} {cs rest : List Char} {a : UrlAuthority}
    (hbackslash : '\\' ∉ cs) (h : readAuthority scheme .special isLast cs = .ok (a, rest)) :
    a.Stored scheme ∧ rest = [] := by
  rw [readAuthority_special] at h
  split at h
  · cases h
  obtain ⟨host, hhost, h⟩ := eq_ok_of_bind h
  obtain ⟨⟨port?, rest⟩, hport, h⟩ := eq_ok_of_map h
  obtain ⟨rfl, rfl⟩ := Prod.mk.inj h
  obtain ⟨user, password, hread, hpassword⟩ := readUser_eq ((cutAtLastChar '@' cs).1.getD [])
  have hstored := port_of_readPort? hport
  refine ⟨⟨?_, ?_, stored_of_readHost hhost, hstored.1⟩, ?_⟩
  · rw [hread]
    exact set_eq_false_of_mem_encode isEncodable_userSet
  · rw [hread]
    intro secret hsecret
    obtain ⟨given, rfl, rfl⟩ := Option.map_eq_some_iff.mp hsecret
    exact ⟨encode_ne_nil fun hnil => hpassword (congrArg some hnil),
      set_eq_false_of_mem_encode isEncodable_userSet⟩
  · refine hstored.2.resolve_right fun ⟨port, hcs, hmem⟩ => ?_
    exact hbackslash (mem_cutAtLastChar (mem_splitHost hcs hmem))

/-! ## Characters of authorities -/

/-- Characters that may stand in the text of an authority. -/
def isAuthorityChar (c : Char) : Bool := 0x20 < c.toNat && !"/?#\\".toList.contains c

theorem toNat_lt_of_inUserSet {c : Char} (h : inUserSet c = false) : c.toNat < 128 := by
  simp only [inUserSet, inPathSet, inFragmentSet, isControl, Bool.or_eq_false_iff,
    decide_eq_false_iff_not] at h
  omega

theorem isAuthorityChar_of_inUserSet {c : Char} (h : inUserSet c = false) :
    isAuthorityChar c = true :=
  forall_ascii (p := fun c => inUserSet c = false → isAuthorityChar c = true) (by decide)
    (toNat_lt_of_inUserSet h) h

theorem isAuthorityChar_of_isHostChar {c : Char} (h : isHostChar c = true) :
    isAuthorityChar c = true := by
  simp_all [isHostChar, isAuthorityChar]

theorem userText_chars {a : UrlAuthority} (h : a.Stored scheme) :
    ∀ c ∈ a.userText, isAuthorityChar c = true := by
  have huser := fun c hc => isAuthorityChar_of_inUserSet (h.user c hc)
  rw [UrlAuthority.userText]
  cases hpassword : a.password with
  | some password =>
      have hsecret := fun c hc =>
        isAuthorityChar_of_inUserSet ((h.password password hpassword).2 c hc)
      refine List.forall_mem_append.mpr ⟨List.forall_mem_append.mpr ⟨huser, ?_⟩,
        forall_mem_of_all (by decide)⟩
      exact List.forall_mem_cons.mpr ⟨by decide, hsecret⟩
  | none =>
      dsimp only
      split
      · nofun
      · exact List.forall_mem_append.mpr ⟨huser, forall_mem_of_all (by decide)⟩

theorem placeText_chars {a : UrlAuthority} (h : a.Stored scheme) :
    ∀ c ∈ a.host.text ++ a.portText, isHostChar c = true ∨ c = ':' ∨ c = '[' ∨ c = ']' := by
  refine List.forall_mem_append.mpr ⟨hostText_chars h.host, fun c hc => ?_⟩
  rw [UrlAuthority.portText] at hc
  split at hc
  · rcases List.mem_cons.mp hc with rfl | hc
    · exact .inr (.inl rfl)
    · exact .inl (isHostChar_of_isDigit (Json.isDigit_of_mem_toDigits c hc))
  · cases hc

/-- No character of an authority ends it. -/
theorem authority_chars {a : UrlAuthority} (h : a.Stored scheme) :
    ∀ c ∈ a.userText ++ a.host.text ++ a.portText, isAuthorityChar c = true := by
  rw [List.append_assoc]
  refine List.forall_mem_append.mpr ⟨userText_chars h, fun c hc => ?_⟩
  rcases placeText_chars h c hc with hchar | rfl | rfl | rfl
  · exact isAuthorityChar_of_isHostChar hchar
  all_goals decide

/-! ## Reading back -/

/-- An authority is read back, unless a label of its host is too long for that. -/
theorem readAuthority_text {a : UrlAuthority} (h : a.Stored scheme) (isLast : Bool) :
    readAuthority scheme .special isLast (a.userText ++ a.host.text ++ a.portText) =
      if a.host.hasLongLabel then .error .invalidDomain else .ok (a, []) := by
  have hport : readPort? scheme a.portText.tail? = .ok (a.port, []) := by
    rw [UrlAuthority.portText]
    cases hport : a.port with
    | none => rfl
    | some port =>
        obtain ⟨hlt, hdefault⟩ := h.port port hport
        exact readPort_toDigits hlt hdefault
  have hrest : a.portText = [] ∨ ∃ port, a.portText = ':' :: port := by
    rw [UrlAuthority.portText]
    cases a.port with
    | none => exact .inl rfl
    | some port => exact .inr ⟨_, rfl⟩
  have hat : '@' ∉ a.host.text ++ a.portText := fun hmem =>
    absurd (placeText_chars h '@' hmem) (by decide)
  obtain ⟨user?, hcut, huser⟩ := readUser_userText h hat
  rw [readAuthority_special, List.append_assoc, hcut, splitHost_text h.host hrest]
  simp only [huser, hport, readHost_text h.host, if_neg (hostText_ne_nil h.host)]
  cases a.host.hasLongLabel <;> rfl

end Url
end LoadMonitor
