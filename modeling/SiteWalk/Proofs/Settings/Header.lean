import SiteWalk.Proofs.Settings.Cookie
import SiteWalk.Text.Utf8

/-!
# Values of headers

A request carries texts of the settings in its headers.  A byte of such a text has to be a
printable one, a tab or no ASCII.  What the settings say about headers and cookies is checked
so; what they say about the user agent is not.

    isHeaderValue s = true ↔ LegalValue s                              (isHeaderValue_iff)
    ofSettings s = .ok p →
      ((∀ t ∈ p.headerValues, LegalValue t) ↔ LegalValue p.settings.request.userAgent)
                                                                          (legal_or_agent)
-/

namespace SiteWalk

open Text

namespace Settings

/-! ## Bytes -/

/-- A byte that may stand in the value of a header. -/
def LegalByte (b : UInt8) : Prop := b = 9 ∨ (32 ≤ b ∧ b ≠ 127)

/-- A text that may be the value of a header. -/
def LegalValue (s : String) : Prop := ∀ b ∈ bytes s.toList, LegalByte b

instance (b : UInt8) : Decidable (LegalByte b) := inferInstanceAs (Decidable (_ ∨ _))

instance (s : String) : Decidable (LegalValue s) := inferInstanceAs (Decidable (∀ b ∈ _, _))

variable {c : Char} {s : String}

theorem isHeaderChar_iff : isHeaderChar c = true ↔ ∀ b ∈ String.utf8EncodeChar c, LegalByte b := by
  unfold isHeaderChar LegalByte
  by_cases ascii : c.toNat < 128
  · have byte : (UInt8.ofNat c.toNat).toNat = c.toNat := by
      rw [UInt8.toNat_ofNat', Nat.mod_eq_of_lt (by omega)]
    rw [utf8EncodeChar_of_lt ascii, List.forall_mem_singleton, ← UInt8.toNat_inj,
      UInt8.le_iff_toNat_le, ne_eq, ← UInt8.toNat_inj, byte]
    have tab : c = '\t' ↔ c.toNat = 9 := by
      rw [← Char.toNat_inj]
      exact Iff.rfl
    simp [tab]
  · have other : 128 ≤ c.toNat := Nat.le_of_not_lt ascii
    constructor
    · intro _ b hb
      have high := le_of_mem_utf8EncodeChar other hb
      right
      rw [UInt8.le_iff_toNat_le, ne_eq, ← UInt8.toNat_inj]
      exact ⟨Nat.le_trans (by decide) high, by
        intro same
        rw [same] at high
        exact absurd high (by decide)⟩
    · intro _
      simp
      omega

theorem isHeaderValue_iff : isHeaderValue s = true ↔ LegalValue s := by
  unfold isHeaderValue LegalValue bytes
  rw [List.all_eq_true]
  simp only [isHeaderChar_iff, List.mem_flatMap]
  exact ⟨fun h b ⟨c, hc, hb⟩ => h c hc b hb, fun h c hc b hb => h b ⟨c, hc, hb⟩⟩

/-! ## Checked texts -/

theorem isHeaderValue_of_headerFault? {e : String × String} (h : headerFault? e = none) :
    isHeaderValue e.2 = true := by
  unfold headerFault? at h
  split at h
  · cases h
  · split at h
    · cases h
    · next good => simpa using good

theorem isControl_of_isCookieNameChar (h : isCookieNameChar c = true) : isControl c = false := by
  simp only [isCookieNameChar, Bool.not_eq_true', Bool.or_eq_false_iff] at h
  exact h.2

theorem isControl_of_isCookieChar (h : isCookieChar c = true) : isControl c = false := by
  simp only [isCookieChar, Bool.not_eq_true', Bool.or_eq_false_iff] at h
  exact h.2

theorem isHeaderChar_of_not_isControl (h : isControl c = false) : isHeaderChar c = true := by
  simp only [isControl, Bool.or_eq_false_iff, Bool.and_eq_false_iff, decide_eq_false_iff_not] at h
  simp only [isHeaderChar, Bool.or_eq_true, Bool.and_eq_true, decide_eq_true_eq, bne_iff_ne]
  right
  omega

end Settings

namespace Profile

open Settings

variable {s : Settings} {p : Profile}

theorem fault?_of_ofSettings (h : ofSettings s = .ok p) : s.fault? = none :=
  (ofSettings_eq_ok_iff.1 h).1

/-- The user agent has no part in what is made of the settings, as long as it is not blank. -/
theorem ofSettings_withAgent (h : ofSettings s = .ok p) {agent : String}
    (inked : isBlankString agent = false) :
    ofSettings { s with request := { s.request with userAgent := agent } } =
      .ok { p with settings := { s with request := { s.request with userAgent := agent } } } := by
  obtain ⟨valid, included?, barred?, selector, included, barred, read, rfl⟩ :=
    ofSettings_eq_ok_iff.1 h
  have unchanged : Settings.fault? { s with request := { s.request with userAgent := agent } } =
      none := by
    have before := (of_fault?_eq_none valid).1
    unfold Settings.fault? Request.fault? at valid ⊢
    rw [before] at valid
    rw [inked]
    exact valid
  exact ofSettings_eq_ok_iff.2
    ⟨unchanged, included?, barred?, selector, included, barred, read, rfl⟩

/-! ## Texts of a request -/

/-- The texts that the headers of every request carry. -/
def headerValues (p : Profile) : List String :=
  p.settings.request.userAgent ::
    (p.settings.request.headers.entries.map Prod.snd ++ p.cookieHeader?.toList)

theorem isHeaderValue_of_cookieHeader?
    (pass : ∀ e ∈ p.settings.request.cookies.entries, cookieFault? e = none) {header : String}
    (h : p.cookieHeader? = some header) : isHeaderValue header = true := by
  unfold isHeaderValue
  rw [List.all_eq_true, toList_of_cookieHeader? h, ← join_eq_intercalate]
  intro c hc
  rcases of_mem_join hc with between | ⟨t, ht, inside⟩
  · exact List.all_eq_true.1 (by decide : "; ".toList.all isHeaderChar = true) c between
  · obtain ⟨e, he, rfl⟩ := List.mem_map.1 ht
    obtain ⟨-, name, value⟩ := cookieFault?_eq_none_iff.1 (pass e he)
    rcases List.mem_append.1 inside with inName | inValue
    · exact isHeaderChar_of_not_isControl (isControl_of_isCookieNameChar (name c inName))
    · rcases List.mem_cons.1 inValue with rfl | inValue
      · decide
      · exact isHeaderChar_of_not_isControl (isControl_of_isCookieChar (value c inValue))

/-- **Checked headers are legal but for the user agent.**  The value of every header of checked
settings is legal, and so is that of the header made of their cookies.  So all headers of a
request are legal just if the user agent is; and the settings are let through with every user
agent that is not blank. -/
theorem legal_or_agent (h : ofSettings s = .ok p) :
    (∀ e ∈ p.settings.request.headers.entries, LegalValue e.2) ∧
    (∀ header, p.cookieHeader? = some header → LegalValue header) ∧
    ((∀ t ∈ p.headerValues, LegalValue t) ↔ LegalValue p.settings.request.userAgent) ∧
    ∀ agent, isBlankString agent = false →
      ∃ q, ofSettings { s with request := { s.request with userAgent := agent } } = .ok q ∧
        agent ∈ q.headerValues := by
  have valid : p.settings.fault? = none := by
    rw [settings_of_ofSettings h]
    exact fault?_of_ofSettings h
  obtain ⟨-, headers, cookies⟩ := of_fault?_eq_none valid
  have legal : ∀ e ∈ p.settings.request.headers.entries, LegalValue e.2 := fun e he =>
    isHeaderValue_iff.1 (isHeaderValue_of_headerFault? (headers e he))
  have legalCookies : ∀ header, p.cookieHeader? = some header → LegalValue header := fun _ given =>
    isHeaderValue_iff.1 (isHeaderValue_of_cookieHeader? cookies given)
  refine ⟨legal, legalCookies, ⟨fun all => all _ List.mem_cons_self, ?_⟩, ?_⟩
  · intro agent t ht
    rcases List.mem_cons.1 ht with rfl | ht
    · exact agent
    · rcases List.mem_append.1 ht with ht | ht
      · obtain ⟨e, he, rfl⟩ := List.mem_map.1 ht
        exact legal e he
      · exact legalCookies t (Option.mem_toList.1 ht)
  · intro agent inked
    exact ⟨_, ofSettings_withAgent h inked, List.mem_cons_self⟩

/-- A tab in the value of a header, and cookies that are no ASCII. -/
def tabbed : Settings :=
  { walk := { Walk.standard with excludedPages := "" }
    content := .standard
    request := { Request.standard with
      headers := .ofList [("x", "a\tb")], cookies := .ofList [("é", "=\u00a0")] } }

theorem legal_or_agent_tabbed : ∃ p, ofSettings tabbed = .ok p ∧
    (∀ header, p.cookieHeader? = some header → LegalValue header) ∧
    (∀ t ∈ p.headerValues, LegalValue t) ∧
    ∃ q, ofSettings { tabbed with request := { tabbed.request with userAgent := "a\nb" } } =
      .ok q ∧ "a\nb" ∈ q.headerValues := by
  obtain ⟨p, read, agent⟩ : ∃ p, ofSettings tabbed = .ok p ∧
      p.settings.request.userAgent = "depthcrawl/1.0.0" := ⟨_, rfl, rfl⟩
  obtain ⟨-, cookies, all, others⟩ := legal_or_agent read
  refine ⟨p, read, cookies, all.2 ?_, others _ (by decide +kernel)⟩
  rw [agent]
  decide +kernel

/-- Settings with a line end in the user agent. -/
def broken : Settings :=
  { tabbed with request := { tabbed.request with userAgent := "a\nb" } }

theorem illegal_agent : ∃ p, ofSettings broken = .ok p ∧
    "a\nb" ∈ p.headerValues ∧ ¬ LegalValue "a\nb" :=
  ⟨_, rfl, List.mem_cons_self, by decide +kernel⟩

end Profile

end SiteWalk
