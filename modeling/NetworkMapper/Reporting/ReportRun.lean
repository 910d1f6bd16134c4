import NetworkMapper.Knowledge.Repository

/-!
# The directory of a report run

Its name is the second and the profile of the run. A path is the list of its names.
-/

open Python

namespace NetworkMapper

/-- The whole of `RunMetadata`. -/
structure RunMetadata extends Knowledge.RunMetadata where
  generatedAt : DateTime
  deviceCount : Nat

structure ReportRunPaths where
  runDirectory : List Str
  markdownPath : List Str
  csvPath : List Str
  relationshipsCsvPath : List Str
  observationsJsonPath : List Str

/-- `:%Y-%m-%d`, of a year that has four digits. -/
def dateText (d : DateTime) : Str := pad 4 d.year ++ ch '-' :: pad 2 d.month ++ ch '-' :: pad 2 d.day

def runDirectoryName (runMetadata : RunMetadata) : Str :=
  let d := runMetadata.generatedAt
  dateText d ++ ch '_' :: pad 2 d.hour ++ pad 2 d.minute ++ pad 2 d.second ++ ch '_' :: runMetadata.scanProfile.value

def buildReportRunPaths (outputRoot : List Str) (runMetadata : RunMetadata) : ReportRunPaths :=
  let runDirectory := outputRoot ++ [runDirectoryName runMetadata]
  { runDirectory := runDirectory
    markdownPath := runDirectory ++ [str "report.md"]
    csvPath := runDirectory ++ [str "devices.csv"]
    relationshipsCsvPath := runDirectory ++ [str "relationships.csv"]
    observationsJsonPath := runDirectory ++ [str "observations.json"] }

/-! ## Names -/

/-- The numbers of a `datetime` down to its second. -/
def secondOf (d : DateTime) : List Nat := [d.year, d.month, d.day, d.hour, d.minute, d.second]

theorem pad_append_inj {k m n : Nat} {s t : Str} (hm : m < 10 ^ k) (hn : n < 10 ^ k) (h : pad k m ++ s = pad k n ++ t) :
    m = n ∧ s = t := by
  have hread := readDigits_zero_pad k m s hm
  rw [h, readDigits_zero_pad k n t hn, Option.some.injEq, Prod.mk.injEq] at hread
  exact ⟨hread.1.symm, hread.2.symm⟩

theorem value_injective (profile profile' : ScanProfile) (h : profile.value = profile'.value) : profile = profile' := by
  revert h
  cases profile <;> cases profile' <;> decide

theorem runDirectoryName_inj {m m' : RunMetadata} (h : runDirectoryName m = runDirectoryName m') :
    secondOf m.generatedAt = secondOf m'.generatedAt ∧ m.scanProfile = m'.scanProfile := by
  have hdate := m.generatedAt.date_valid
  have hdate' := m'.generatedAt.date_valid
  have htime := m.generatedAt.time_valid
  have htime' := m'.generatedAt.time_valid
  have hdays := daysInMonth_le m.generatedAt.year m.generatedAt.month
  have hdays' := daysInMonth_le m'.generatedAt.year m'.generatedAt.month
  unfold runDirectoryName dateText at h
  simp only [List.append_assoc, List.cons_append] at h
  obtain ⟨hyear, h⟩ := pad_append_inj (by omega) (by omega) h
  obtain ⟨hmonth, h⟩ := pad_append_inj (by omega) (by omega) (List.cons.inj h).2
  obtain ⟨hday, h⟩ := pad_append_inj (by omega) (by omega) (List.cons.inj h).2
  obtain ⟨hhour, h⟩ := pad_append_inj (by omega) (by omega) (List.cons.inj h).2
  obtain ⟨hminute, h⟩ := pad_append_inj (by omega) (by omega) h
  obtain ⟨hsecond, h⟩ := pad_append_inj (by omega) (by omega) h
  refine ⟨?_, value_injective _ _ (List.cons.inj h).2⟩
  unfold secondOf
  rw [hyear, hmonth, hday, hhour, hminute, hsecond]

end NetworkMapper
