import NetworkMapper.Classification.Matching

/-!
# Order and letter case

Two devices whose evidence is the same up to the case of ASCII letters, and whose
services are the same set of entries, match the same rules.
-/

open Python

namespace Python

/-! ## ASCII letters -/

/-- The same text up to the case of ASCII letters. -/
def SameLetters (a b : Str) : Prop := ascii.lower a = ascii.lower b

theorem isSpace_lower (c : CodePoint) :
    isSpace (if 65 ≤ c.val ∧ c.val ≤ 90 then codePoint (c.val + 32) else c) = isSpace c := by
  split_ifs with h
  · unfold isSpace
    rw [codePoint_val (c.val + 32) (by omega), decide_eq_decide]
    omega
  · rfl

theorem lower_strip (s : Str) : ascii.lower (strip s) = strip (ascii.lower s) := by
  have hspace : (isSpace ∘ fun c : CodePoint => if 65 ≤ c.val ∧ c.val ≤ 90 then codePoint (c.val + 32) else c) =
      isSpace := funext isSpace_lower
  unfold strip ascii List.rdropWhile
  simp only [List.dropWhile_map, ← List.map_reverse, hspace]

theorem SameLetters.strip {a b : Str} (h : SameLetters a b) : SameLetters (strip a) (strip b) := by
  unfold SameLetters at *
  rw [lower_strip, lower_strip, h]

theorem SameLetters.nil_iff {a b : Str} (h : SameLetters a b) : a = [] ↔ b = [] := by
  have hlength := congrArg List.length h
  unfold ascii at hlength
  simp only [List.length_map] at hlength
  rw [← List.length_eq_zero_iff, ← List.length_eq_zero_iff, hlength]

end Python

namespace NetworkMapper

/-! ## The same evidence -/

/-- A text up to the case of its ASCII letters. -/
def foldCase (text : Option Str) : Option Str := text.map ascii.lower

/-- What counts of an entry: all but its protocol and its version, up to the case of ASCII letters. -/
def foldEntry (e : ServiceEvidence) : ServiceEvidence where
  port := e.port
  protocol := []
  service := foldCase e.service
  product := foldCase e.product
  version := none
  httpTitle := foldCase e.httpTitle
  tlsSubject := foldCase e.tlsSubject
  tlsIssuer := foldCase e.tlsIssuer
  httpAuthRealm := foldCase e.httpAuthRealm

/-- Entries may be in another order and repeated, and everything that is not named here is arbitrary. -/
structure SameEvidence (d e : Device) : Prop where
  hostname : foldCase d.hostname = foldCase e.hostname
  vendor : foldCase d.vendor = foldCase e.vendor
  operatingSystem : foldCase d.operatingSystem = foldCase e.operatingSystem
  snmpSysDescr : foldCase d.snmpSysDescr = foldCase e.snmpSysDescr
  services : ∀ entry, entry ∈ d.services.map foldEntry ↔ entry ∈ e.services.map foldEntry

theorem SameEvidence.symm {d e : Device} (h : SameEvidence d e) : SameEvidence e d :=
  ⟨h.hostname.symm, h.vendor.symm, h.operatingSystem.symm, h.snmpSysDescr.symm, fun entry => (h.services entry).symm⟩

theorem foldCase_some {a b : Option Str} (h : foldCase a = foldCase b) {v : Str} (ha : a = some v) :
    ∃ w, b = some w ∧ SameLetters v w := by
  rw [ha] at h
  obtain ⟨w, hb, hw⟩ := Option.map_eq_some_iff.mp h.symm
  exact ⟨w, hb, hw.symm⟩

theorem foldCase_truthy {a b : Option Str} (h : foldCase a = foldCase b) {v : Str} (ha : truthy a = some v) :
    ∃ w, truthy b = some w ∧ SameLetters v w := by
  rw [truthy_eq_some] at ha
  obtain ⟨w, hb, hw⟩ := foldCase_some h ha.1
  exact ⟨w, (truthy_eq_some b w).mpr ⟨hb, mt hw.nil_iff.mpr ha.2⟩, hw⟩

/-! ## Evidence, one kind after the other -/

/-- Each entry of the one list has its like in the other. -/
def Covers (services services' : List ServiceEvidence) : Prop :=
  ∀ a ∈ services, ∃ b ∈ services', foldEntry a = foldEntry b

theorem SameEvidence.covers {d e : Device} (h : SameEvidence d e) : Covers d.services e.services := by
  intro a ha
  obtain ⟨b, hb, heq⟩ := List.mem_map.mp ((h.services _).mp (List.mem_map_of_mem ha))
  exact ⟨b, hb, heq.symm⟩

theorem foldEntry_port {a b : ServiceEvidence} (h : foldEntry a = foldEntry b) : a.port = b.port := by
  have hport := congrArg ServiceEvidence.port h
  exact hport

theorem findSome?_covers {β : Type} {f : ServiceEvidence → Option β} {services services' : List ServiceEvidence}
    (h : Covers services services')
    (hf : ∀ a b, foldEntry a = foldEntry b → (f a).isSome = true → (f b).isSome = true)
    (hsome : services.findSome? f ≠ none) : services'.findSome? f ≠ none := by
  simp only [← Option.isSome_iff_ne_none, List.isSome_findSome?, List.any_eq_true] at *
  obtain ⟨a, ha, hfound⟩ := hsome
  obtain ⟨b, hb, heq⟩ := h a ha
  exact ⟨b, hb, hf a b heq hfound⟩

theorem identifierTexts_covers {services services' : List ServiceEvidence} {sysDescr sysDescr' : Option Str}
    (h : Covers services services') (hsysDescr : foldCase sysDescr = foldCase sysDescr') {v : Str}
    (hv : some v ∈ identifierTexts services sysDescr) :
    ∃ w, some w ∈ identifierTexts services' sysDescr' ∧ SameLetters v w := by
  unfold identifierTexts at *
  simp only [List.mem_append, List.mem_flatMap, List.mem_cons, List.not_mem_nil, or_false] at *
  rcases hv with ⟨a, ha, hv⟩ | hv
  · obtain ⟨b, hb, heq⟩ := h a ha
    simp only [foldEntry, ServiceEvidence.mk.injEq] at heq
    obtain ⟨-, -, -, hproduct, -, htitle, hsubject, hissuer, hrealm⟩ := heq
    rcases hv with hv | hv | hv | hv | hv
    · obtain ⟨w, hw, hsame⟩ := foldCase_some hproduct hv.symm
      exact ⟨w, .inl ⟨b, hb, .inl hw.symm⟩, hsame⟩
    · obtain ⟨w, hw, hsame⟩ := foldCase_some htitle hv.symm
      exact ⟨w, .inl ⟨b, hb, .inr (.inl hw.symm)⟩, hsame⟩
    · obtain ⟨w, hw, hsame⟩ := foldCase_some hsubject hv.symm
      exact ⟨w, .inl ⟨b, hb, .inr (.inr (.inl hw.symm))⟩, hsame⟩
    · obtain ⟨w, hw, hsame⟩ := foldCase_some hissuer hv.symm
      exact ⟨w, .inl ⟨b, hb, .inr (.inr (.inr (.inl hw.symm)))⟩, hsame⟩
    · obtain ⟨w, hw, hsame⟩ := foldCase_some hrealm hv.symm
      exact ⟨w, .inl ⟨b, hb, .inr (.inr (.inr (.inr hw.symm)))⟩, hsame⟩
  · obtain ⟨w, hw, hsame⟩ := foldCase_some hsysDescr hv.symm
    exact ⟨w, .inr hw.symm, hsame⟩

section Lower

variable {u : Unicode} (hlower : ∀ a b, SameLetters a b → u.lower a = u.lower b)

include hlower

theorem normalizeText_same {a b : Option Str} (h : foldCase a = foldCase b) (stripped : Bool) :
    normalizeText u stripped a = normalizeText u stripped b := by
  have hsame : SameLetters (a.getD []) (b.getD []) := by
    cases ha : a with
    | none =>
      rw [ha] at h
      rw [Option.map_eq_none_iff.mp h.symm]
      exact rfl
    | some v =>
      obtain ⟨w, hb, hw⟩ := foldCase_some h ha
      rw [hb]
      exact hw
  unfold normalizeText
  split_ifs
  · exact hlower _ _ hsame.strip
  · exact hlower _ _ hsame

theorem firstMatchingIdentifier_covers {services services' : List ServiceEvidence} {sysDescr sysDescr' : Option Str}
    (keywords : List Str) (h : Covers services services') (hsysDescr : foldCase sysDescr = foldCase sysDescr')
    (hsome : (firstMatchingIdentifier u services keywords sysDescr).isSome) :
    (firstMatchingIdentifier u services' keywords sysDescr').isSome := by
  rw [firstMatchingIdentifier_isSome] at *
  obtain ⟨v, hv, hne, hkeyword⟩ := hsome
  obtain ⟨w, hw, hsame⟩ := identifierTexts_covers h hsysDescr hv
  refine ⟨w, hw, mt hsame.nil_iff.mpr hne, ?_⟩
  rw [← hlower v w hsame]
  exact hkeyword

theorem isMicrosoftProduct_same {a b : Option Str} (h : foldCase a = foldCase b) :
    PrinterVendorRule.isMicrosoftProduct u a = PrinterVendorRule.isMicrosoftProduct u b := by
  unfold PrinterVendorRule.isMicrosoftProduct
  cases ha : truthy a with
  | some v =>
    obtain ⟨w, hb, hw⟩ := foldCase_truthy h ha
    simp only [hb, hlower v w hw]
  | none =>
    cases hb : truthy b with
    | none => rfl
    | some w =>
      obtain ⟨v, hv, -⟩ := foldCase_truthy h.symm hb
      rw [ha] at hv
      cases hv

theorem foldEntry_without {a b : ServiceEvidence} (h : foldEntry a = foldEntry b) :
    foldEntry (PrinterVendorRule.withoutRedirectNoticeTitle u a) =
      foldEntry (PrinterVendorRule.withoutRedirectNoticeTitle u b) := by
  -- A notice is a notice in any case of its letters.
  have htitle : foldCase a.httpTitle = foldCase b.httpTitle := congrArg ServiceEvidence.httpTitle h
  have hnone : foldEntry { a with httpTitle := none } = foldEntry { b with httpTitle := none } :=
    congrArg (fun e : ServiceEvidence => { e with httpTitle := none }) h
  unfold PrinterVendorRule.withoutRedirectNoticeTitle
  cases ha : truthy a.httpTitle with
  | some v =>
    obtain ⟨w, hb, hw⟩ := foldCase_truthy htitle ha
    simp only [hb, hlower _ _ hw.strip]
    split_ifs
    · exact hnone
    · exact h
  | none =>
    cases hb : truthy b.httpTitle with
    | none => exact h
    | some w =>
      obtain ⟨v, hv, -⟩ := foldCase_truthy htitle.symm hb
      rw [ha] at hv
      cases hv

theorem findPrinterService_covers {services services' : List ServiceEvidence} (h : Covers services services')
    (hsome : PrinterVendorRule.findPrinterService u services ≠ none) :
    PrinterVendorRule.findPrinterService u services' ≠ none := by
  apply findSome?_covers h _ hsome
  intro a b heq hfound
  obtain ⟨name, hname⟩ := Option.isSome_iff_exists.mp hfound
  obtain ⟨service, hservice, hmatch⟩ := Option.bind_eq_some_iff.mp hname
  have hproduct := isMicrosoftProduct_same hlower (congrArg ServiceEvidence.product heq)
  obtain ⟨w, hw, hsame⟩ := foldCase_truthy (congrArg ServiceEvidence.service heq) hservice
  rw [hlower _ _ hsame.strip, hproduct] at hmatch
  split_ifs at hmatch with hkeyword
  rw [hw, Option.bind_some, if_pos hkeyword]
  rfl

theorem firstMatchingService_covers {services services' : List ServiceEvidence} (h : Covers services services')
    (names : List Str) (returnLower : Bool)
    (hsome : firstMatchingService u (serviceNames services) names returnLower ≠ none) :
    firstMatchingService u (serviceNames services') names returnLower ≠ none := by
  unfold firstMatchingService serviceNames at *
  simp only [← Option.isSome_iff_ne_none, List.isSome_findSome?, List.any_eq_true, List.mem_filterMap] at *
  obtain ⟨name, ⟨a, ha, hname⟩, hfound⟩ := hsome
  obtain ⟨b, hb, heq⟩ := h a ha
  obtain ⟨w, hw, hsame⟩ := foldCase_truthy (congrArg ServiceEvidence.service heq) hname
  refine ⟨w, ⟨b, hb, hw⟩, ?_⟩
  rw [hlower _ _ hsame.strip] at hfound
  split_ifs at hfound ⊢ <;> trivial

theorem sameEvidence_keepsEvidence : KeepsEvidence u SameEvidence where
  vendor := by
    intro stripped P _ d e h
    exact (congrArg P (normalizeText_same hlower h.vendor stripped)).mp
  hostname := by
    intro stripped P _ d e h
    exact (congrArg P (normalizeText_same hlower h.hostname stripped)).mp
  strippedHostname := by
    rintro P d e h ⟨hne, hp⟩
    have hsame := normalizeText_same hlower h.hostname true
    refine ⟨?_, (congrArg P hsame).mp hp⟩
    cases hd : d.hostname with
    | none =>
      rw [hd] at hne
      exact absurd rfl hne
    | some v =>
      obtain ⟨w, hw, hvw⟩ := foldCase_some h.hostname hd
      rw [hd] at hne
      rw [hw]
      exact mt hvw.strip.nil_iff.mpr hne
  operatingSystem := by
    intro P _ d e h
    exact (congrArg P (normalizeText_same hlower h.operatingSystem true)).mp
  identifier := fun keywords _ _ h => firstMatchingIdentifier_covers hlower keywords h.covers h.snmpSysDescr
  port := by
    intro ports d e h
    unfold firstMatchingPort servicePorts
    simp only [← Option.isSome_iff_ne_none, List.find?_isSome, List.mem_map]
    rintro ⟨port, ⟨a, ha, rfl⟩, hport⟩
    obtain ⟨b, hb, heq⟩ := h.covers a ha
    rw [foldEntry_port heq] at hport
    exact ⟨b.port, ⟨b, hb, rfl⟩, hport⟩
  service := fun names returnLower _ _ h => firstMatchingService_covers hlower h.covers names returnLower
  guestPortal := by
    intro d e h
    unfold UbiquitiAccessPointRule.findGuestPortalIdentifier serviceHttpTitles
    simp only [firstContaining_isSome, List.mem_map, List.mem_filterMap, Option.some.injEq, exists_eq_right]
    rintro ⟨title, ⟨a, ha, htitle⟩, -, hkeyword⟩
    obtain ⟨b, hb, heq⟩ := h.covers a ha
    obtain ⟨w, hw, hsame⟩ := foldCase_truthy (congrArg ServiceEvidence.httpTitle heq) htitle
    refine ⟨w, ⟨b, hb, hw⟩, ((truthy_eq_some _ _).mp hw).2, ?_⟩
    rw [← hlower _ _ hsame]
    exact hkeyword
  printerIdentifier := by
    intro d e h
    apply firstMatchingIdentifier_covers hlower _ _ h.snmpSysDescr
    intro entry hentry
    obtain ⟨a, ha, rfl⟩ := List.mem_map.mp hentry
    obtain ⟨b, hb, heq⟩ := h.covers a ha
    exact ⟨_, List.mem_map_of_mem hb, foldEntry_without hlower heq⟩
  printerPort := by
    intro d e h
    apply findSome?_covers h.covers
    intro a b heq
    have hproduct := isMicrosoftProduct_same hlower (congrArg ServiceEvidence.product heq)
    rw [foldEntry_port heq, hproduct]
    exact id
  printerService := fun _ _ h => findPrinterService_covers hlower h.covers

end Lower

/-! ## The verdict -/

/-- Letter case, order and repetition of the evidence do not change the type, nor does anything else about
the device. -/
theorem classify_same_evidence (u : Unicode) (hlower : ∀ a b, SameLetters a b → u.lower a = u.lower b)
    (classifier classifier' : DeviceClassifier) (d e : Device) (h : SameEvidence d e) :
    (classifier.classify u d).2.deviceType = (classifier'.classify u e).2.deviceType := by
  have hkeeps := sameEvidence_keepsEvidence hlower
  have hle : ∀ d e, SameEvidence d e → firstMatching u e ≤ firstMatching u d := fun d e h =>
    List.findIdx_le_findIdx fun rule hrule => rules_kept hkeeps rule hrule d e h
  rw [classify_suggested, classify_suggested, le_antisymm (hle e d h.symm) (hle d e h)]

/-- Two spellings of one device. -/
def sampleSpelled (hostname : String) (services : List ServiceEvidence) : Device :=
  { ipAddress := str "192.0.2.32", hostname := some (str hostname), services := services }

theorem classify_same_evidence_sample :
    ((⟨[]⟩ : DeviceClassifier).classify ascii (sampleSpelled "Core-SW1"
      [{ port := 443, protocol := str "tcp" },
        { port := 22, protocol := str "tcp", service := some (str "SSH") }])).2.deviceType =
    ((⟨[]⟩ : DeviceClassifier).classify ascii (sampleSpelled "core-sw1"
      [{ port := 22, protocol := [], service := some (str "ssh"), version := some (str "9.6") },
        { port := 443, protocol := [] }, { port := 443, protocol := [] }])).2.deviceType := by
  refine classify_same_evidence ascii (fun _ _ => id) ⟨[]⟩ ⟨[]⟩ _ _ ⟨by decide, rfl, rfl, rfl, ?_⟩
  intro entry
  have hsub : ∀ l l' : List ServiceEvidence, l ⊆ l' → l' ⊆ l → (entry ∈ l ↔ entry ∈ l') :=
    fun l l' h h' => ⟨fun hmem => h hmem, fun hmem => h' hmem⟩
  exact hsub _ _ (by decide) (by decide)

end NetworkMapper
