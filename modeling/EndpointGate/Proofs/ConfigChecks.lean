import EndpointGate.Config.Load

/-! What the checks of a configuration ask of it, part by part. -/

namespace EndpointGate.Config

variable {c : Config}

structure InBounds (c : Config) : Prop where
  interval_pos : c.backupIntervalSecs ≠ 0
  interval_le : c.backupIntervalSecs ≤ maxPeriodSecs
  lifetime_pos : ∀ secs, c.sessionTtlSecs = some secs → secs ≠ 0
  lifetime_le : ∀ secs, c.sessionTtlSecs = some secs → secs ≤ maxPeriodSecs
  origins : ∀ origin ∈ c.listener.corsOrigins, Http.Cors.isHeaderValue origin = true

structure Sensible (c : Config) : Prop extends InBounds c where
  path : c.databasePath.isEmpty = false
  adminKey : c.adminKey ≠ some ""
  backupPath : ∀ target, c.backupPath = some target → Path.same target c.databasePath = false
  schemas : ∀ p ∈ c.schemas, p.2.any Text.allBlank = false

theorem faults_eq_nil_iff : c.faults = [] ↔ c.Sensible := by
  simp only [faults, List.append_eq_nil_iff, ite_eq_right_iff, List.cons_ne_nil, imp_false, Bool.not_eq_true,
    List.map_eq_nil_iff, Option.toList_eq_nil_iff, Option.map_eq_none_iff, Http.Listener.invalidOrigins,
    blankField?, List.filter_eq_nil_iff, List.find?_eq_none, beq_eq_false_iff_ne, decide_eq_false_iff_not,
    Bool.not_eq_false', Option.any_eq_false, UInt64.not_lt]
  constructor
  · rintro ⟨⟨⟨⟨⟨⟨⟨⟨hpath, hpos⟩, hle⟩, hlifePos⟩, hlifeLe⟩, hkey⟩, hbackup⟩, horigins⟩, hschemas⟩
    exact ⟨⟨hpos, hle, fun secs h hzero => hlifePos (hzero ▸ h), hlifeLe, horigins⟩, hpath, hkey, hbackup,
      hschemas⟩
  · rintro ⟨⟨hpos, hle, hlifePos, hlifeLe, horigins⟩, hpath, hkey, hbackup, hschemas⟩
    exact ⟨⟨⟨⟨⟨⟨⟨⟨hpath, hpos⟩, hle⟩, fun h => hlifePos 0 h rfl⟩, hlifeLe⟩, hkey⟩, hbackup⟩, horigins⟩, hschemas⟩

theorem validate_eq_ok_iff : c.validate = .ok () ↔ c.Sensible := by
  rw [← faults_eq_nil_iff]
  refine ⟨faults_of_validate, fun h => ?_⟩
  rw [validate, h]

theorem sensible_ofPath {path : String} (h : path.isEmpty = false) : (ofPath path).Sensible where
  interval_pos := show (3600 : UInt64) ≠ 0 by decide
  interval_le := show 3600 ≤ maxPeriodSecs by decide
  lifetime_pos _ hsecs := by cases hsecs
  lifetime_le _ hsecs := by cases hsecs
  origins := show ∀ origin ∈ ["http://localhost:3000"], _ by decide +kernel
  path := h
  adminKey hkey := by cases hkey
  backupPath _ htarget := by cases htarget
  schemas _ hp := by cases hp

end EndpointGate.Config
