import NetworkMapper.Classification.Rules

/-!
# Redirect notices

The scanner writes a notice where a page redirects, with the target in it. The
printer rule gives a device the result that it gives the device without notices.
-/

open Python

namespace NetworkMapper

namespace PrinterVendorRule

variable (u : Unicode)

/-- A title that is commentary of the scanner. -/
def RedirectNotice (title : Option Str) : Prop :=
  ∃ text, title = some text ∧ redirectNoticePrefix.isPrefixOf (u.lower (strip text)) = true

/-- The same title, or a notice where the other has a notice or nothing. -/
def SameTitle (a b : Option Str) : Prop :=
  a = b ∨ (RedirectNotice u a ∧ RedirectNotice u b) ∨ (RedirectNotice u a ∧ b = none) ∨
    (a = none ∧ RedirectNotice u b)

/-- The entries differ at most in the text of a notice. -/
def SameEntry (a b : ServiceEvidence) : Prop :=
  b = { a with httpTitle := b.httpTitle } ∧ SameTitle u a.httpTitle b.httpTitle

/-- The devices differ in notices only. -/
def SameButNotices (d e : Device) : Prop :=
  e = { d with services := e.services } ∧ List.Forall₂ (SameEntry u) d.services e.services

/-! ## One entry -/

theorem without_notice {title : Option Str} (h : RedirectNotice u title) (entry : ServiceEvidence) :
    withoutRedirectNoticeTitle u { entry with httpTitle := title } = { entry with httpTitle := none } := by
  obtain ⟨text, rfl, hnotice⟩ := h
  have htruthy : truthy (some text) = some text := by
    cases text with
    | nil =>
      -- No notice starts like the empty title.
      have hempty : redirectNoticePrefix.isPrefixOf [] = false := by decide
      rw [show strip [] = [] from rfl, u.lower_nil, hempty] at hnotice
      cases hnotice
    | cons c text => rfl
  unfold withoutRedirectNoticeTitle
  simp only [htruthy, hnotice, if_true]

theorem without_unread {title : Option Str} (h : RedirectNotice u title ∨ title = none) (entry : ServiceEvidence) :
    withoutRedirectNoticeTitle u { entry with httpTitle := title } = { entry with httpTitle := none } := by
  rcases h with hnotice | rfl
  · exact without_notice u hnotice entry
  · rfl

theorem without_eq {a b : ServiceEvidence} (h : SameEntry u a b) :
    withoutRedirectNoticeTitle u a = withoutRedirectNoticeTitle u b := by
  obtain ⟨hb, htitle⟩ := h
  rw [hb]
  have hnone : ∀ title title', RedirectNotice u title ∨ title = none → RedirectNotice u title' ∨ title' = none →
      withoutRedirectNoticeTitle u { a with httpTitle := title } =
        withoutRedirectNoticeTitle u { a with httpTitle := title' } := by
    intro title title' h h'
    rw [without_unread u h, without_unread u h']
  rcases htitle with heq | ⟨ha, hb⟩ | ⟨ha, hb⟩ | ⟨ha, hb⟩
  · rw [← heq]
  · exact hnone a.httpTitle b.httpTitle (.inl ha) (.inl hb)
  · exact hnone a.httpTitle b.httpTitle (.inl ha) (.inr hb)
  · exact hnone a.httpTitle b.httpTitle (.inr ha) (.inl hb)

theorem without_fields (entry : ServiceEvidence) : (withoutRedirectNoticeTitle u entry).port = entry.port ∧
    (withoutRedirectNoticeTitle u entry).service = entry.service ∧
    (withoutRedirectNoticeTitle u entry).product = entry.product := by
  unfold withoutRedirectNoticeTitle
  split
  · split_ifs <;> exact ⟨rfl, rfl, rfl⟩
  · exact ⟨rfl, rfl, rfl⟩

/-! ## The whole rule -/

theorem findPrinterPort_without (services : List ServiceEvidence) :
    findPrinterPort u (services.map (withoutRedirectNoticeTitle u)) = findPrinterPort u services := by
  -- The networking tiers read no title.
  unfold findPrinterPort
  rw [List.findSome?_map]
  congr 1
  funext entry
  obtain ⟨hport, -, hproduct⟩ := without_fields u entry
  simp only [Function.comp, hport, hproduct]

theorem findPrinterService_without (services : List ServiceEvidence) :
    findPrinterService u (services.map (withoutRedirectNoticeTitle u)) = findPrinterService u services := by
  unfold findPrinterService
  rw [List.findSome?_map]
  congr 1
  funext entry
  obtain ⟨-, hservice, hproduct⟩ := without_fields u entry
  simp only [Function.comp, hservice, hproduct]

theorem map_without_eq {services services' : List ServiceEvidence} (h : List.Forall₂ (SameEntry u) services services') :
    services.map (withoutRedirectNoticeTitle u) = services'.map (withoutRedirectNoticeTitle u) := by
  induction h with
  | nil => rfl
  | cons hentry _ ih => rw [List.map_cons, List.map_cons, without_eq u hentry, ih]

/-- Where a page redirects to is no evidence of a printer. -/
theorem classify_ignores_notices (d e : Device) (h : SameButNotices u d e) : classify u d = classify u e := by
  obtain ⟨he, hservices⟩ := h
  have hsame := map_without_eq u hservices
  have hport : findPrinterPort u d.services = findPrinterPort u e.services := by
    rw [← findPrinterPort_without, hsame, findPrinterPort_without]
  have hservice : findPrinterService u d.services = findPrinterService u e.services := by
    rw [← findPrinterService_without, hsame, findPrinterService_without]
  have hvendor : e.vendor = d.vendor := by rw [he]
  have hidentifier : findPrinterVendorIdentifier u d = findPrinterVendorIdentifier u e := by
    have hsysDescr : e.snmpSysDescr = d.snmpSysDescr := by rw [he]
    unfold findPrinterVendorIdentifier
    rw [hsame, hsysDescr]
  unfold classify
  rw [hidentifier, hport, hservice, hvendor]

/-- A page on another host of the scanned network, and the notice that the scanner leaves for it. -/
def sampleRedirected (title : Option Str) : Device :=
  { ipAddress := str "192.0.2.30"
    services := [{ port := 443, protocol := str "tcp", httpTitle := title },
      { port := 80, protocol := str "tcp", httpTitle := some (str "Status") }] }

theorem classify_ignores_notices_sample :
    classify ascii (sampleRedirected (some (str "Did not follow redirect to https://hp-laserjet.example/")))
      = classify ascii (sampleRedirected none) := by
  refine classify_ignores_notices ascii _ _ ⟨rfl, ?_⟩
  refine .cons ⟨rfl, .inr (.inr (.inl ⟨⟨_, rfl, ?_⟩, rfl⟩))⟩ (.cons ⟨rfl, .inl rfl⟩ .nil)
  decide

end PrinterVendorRule

end NetworkMapper
