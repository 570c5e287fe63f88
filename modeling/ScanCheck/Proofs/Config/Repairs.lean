import Mathlib.Data.List.Perm.Subperm
import ScanCheck.Proofs.Config.Defects

namespace ScanCheck.HarnessConfig

/-- The named defect is done away with, and nothing else is changed. -/
inductive Repair (config : HarnessConfig) : Defect → HarnessConfig → Prop
  | host {host : String} (given : host ≠ "") : Repair config .emptyHost { config with host }
  | username {username : String} (given : username ≠ "") : Repair config .emptyUsername { config with username }
  | scheme {scheme : String} (known : scheme = "http" ∨ scheme = "https") :
      Repair config .unknownScheme { config with scheme }
  | service (service : String) (endpoint : ServiceEndpoint) :
      Repair config (.missingService service) { config with services := config.services.insert service endpoint }
  | port (service : String) {endpoint : ServiceEndpoint} (listens : endpoint.port ≠ 0) :
      Repair config (.zeroPort service) { config with services := config.services.insert service endpoint }

/-- Repairs one after the other, each of the defect that is named first, with the defects in turn. -/
inductive Repairs : HarnessConfig → List Defect → HarnessConfig → Prop
  | done (config : HarnessConfig) : Repairs config [] config
  | step {config repaired final : HarnessConfig} {defect : Defect} {defects : List Defect}
      (named : config.validate = .error (.invalid defect)) (repair : Repair config defect repaired)
      (others : Repairs repaired defects final) : Repairs config (defect :: defects) final

theorem validate_eq_error_iff {config : HarnessConfig} {error : ConfigError} :
    config.validate = .error error ↔ ∃ defect, error = .invalid defect ∧ config.firstDefect? = some defect := by
  rw [validate]
  cases config.firstDefect? with
  | none => simp
  | some defect => simp [eq_comm]

theorem validate_eq_ok_iff_no_defect {config : HarnessConfig} :
    config.validate = .ok () ↔ ∀ defect, ¬ config.HasDefect defect := by
  rw [validate_eq_ok_iff, ← firstDefect?_eq_none_iff, firstDefect?_eq_none]

theorem hasDefect_of_named {config : HarnessConfig} {defect : Defect}
    (named : config.validate = .error (.invalid defect)) : config.HasDefect defect := by
  obtain ⟨found, same, first⟩ := validate_eq_error_iff.mp named
  cases same
  exact (config.firstDefect?_eq_some_iff.mp first).1

variable {config repaired final : HarnessConfig} {defect other : Defect} {defects : List Defect}

theorem Repair.gone (repair : Repair config defect repaired) : ¬ repaired.HasDefect defect := by
  intro has
  cases repair with
  | host given => cases has with | emptyHost empty => exact given empty
  | username given => cases has with | emptyUsername empty => exact given empty
  | scheme known => cases has with | unknownScheme http https => exact known.elim http https
  | service service endpoint => cases has with | missingService _ missing => simp at missing
  | port service listens =>
      cases has with
      | zeroPort listed zero =>
          rw [NameMap.get?_insert, if_pos rfl] at listed
          cases listed
          exact listens zero

/-- A repair brings no defect with it, unless a service is put in with a port that is zero. -/
theorem Repair.origin (repair : Repair config defect repaired) (has : repaired.HasDefect other) :
    config.HasDefect other ∨ ∃ service, defect = .missingService service ∧ other = .zeroPort service := by
  cases has with
  | emptyHost empty =>
      cases repair with
      | host given => exact absurd empty given
      | username | scheme | service | port => exact .inl (.emptyHost empty)
  | emptyUsername empty =>
      cases repair with
      | username given => exact absurd empty given
      | host | scheme | service | port => exact .inl (.emptyUsername empty)
  | unknownScheme http https =>
      cases repair with
      | scheme known => exact absurd known (not_or.mpr ⟨http, https⟩)
      | host | username | service | port => exact .inl (.unknownScheme http https)
  | missingService required missing =>
      cases repair with
      | host | username | scheme => exact .inl (.missingService required missing)
      | service | port =>
          rw [NameMap.get?_insert] at missing
          split at missing
          · cases missing
          · exact .inl (.missingService required missing)
  | @zeroPort name endpoint listed zero =>
      cases repair with
      | host | username | scheme => exact .inl (.zeroPort listed zero)
      | service service =>
          by_cases same : name = service
          · exact .inr ⟨service, rfl, by rw [same]⟩
          · rw [NameMap.get?_insert, if_neg same] at listed
            exact .inl (.zeroPort listed zero)
      | port service listens =>
          by_cases same : name = service
          · rw [NameMap.get?_insert, if_pos same] at listed
            cases listed
            exact absurd zero listens
          · rw [NameMap.get?_insert, if_neg same] at listed
            exact .inl (.zeroPort listed zero)

theorem HasDefect.repair (has : config.HasDefect defect) : ∃ repaired, Repair config defect repaired ∧
    ∀ other, repaired.HasDefect other → config.HasDefect other := by
  obtain ⟨endpoint, listens⟩ : ∃ endpoint : ServiceEndpoint, endpoint.port ≠ 0 := ⟨{ port := 1 }, by decide⟩
  have repairable : ∃ repaired, Repair config defect repaired ∧
      ∀ service, repaired.HasDefect (.zeroPort service) → defect ≠ .missingService service := by
    cases has with
    | emptyHost => exact ⟨_, @Repair.host config "localhost" (by decide), by simp⟩
    | emptyUsername => exact ⟨_, @Repair.username config "anonymous" (by decide), by simp⟩
    | unknownScheme => exact ⟨_, .scheme (.inl rfl), by simp⟩
    | @zeroPort service => exact ⟨_, .port service listens, by simp⟩
    | @missingService service =>
        refine ⟨_, .service service endpoint, fun other zero same => ?_⟩
        cases same
        exact (Repair.port service listens).gone zero
  obtain ⟨repaired, repair, apart⟩ := repairable
  refine ⟨repaired, repair, fun other has => ?_⟩
  rcases repair.origin has with before | ⟨service, missing, zero⟩
  · exact before
  · exact absurd missing (apart service (zero ▸ has))

/-- A defect that is met was there before the repairs, or is the port of a service that was put in. -/
theorem Repairs.origin (repairs : Repairs config defects final) : ∀ other ∈ defects, config.HasDefect other ∨
    ∃ service, other = .zeroPort service ∧ config.HasDefect (.missingService service) := by
  induction repairs with
  | done => simp
  | step named repair others ih =>
      intro other member
      have first := hasDefect_of_named named
      rcases List.mem_cons.mp member with same | later
      · exact .inl (same ▸ first)
      rcases ih other later with has | ⟨service, zero, missing⟩
      · rcases repair.origin has with before | ⟨service, put, zero⟩
        · exact .inl before
        · exact .inr ⟨service, zero, put ▸ first⟩
      · rcases repair.origin missing with before | ⟨service, -, port⟩
        · exact .inr ⟨service, zero, before⟩
        · cases port

theorem Repairs.nodup (repairs : Repairs config defects final) : defects.Nodup := by
  induction repairs with
  | done => exact .nil
  | step named repair others ih =>
      refine List.nodup_cons.mpr ⟨fun again => ?_, ih⟩
      rcases others.origin _ again with has | ⟨service, rfl, missing⟩
      · exact repair.gone has
      · -- The service whose port was repaired is listed, and so it is not missing afterwards.
        cases repair with
        | port => cases missing with | missingService _ missing => simp at missing

theorem Repairs.concat (repairs : Repairs config defects final) (named : final.validate = .error (.invalid defect))
    (repair : Repair final defect repaired) : Repairs config (defects ++ [defect]) repaired := by
  induction repairs with
  | done => exact .step named repair (.done repaired)
  | step first before others ih => exact .step first before (ih named repair)

theorem mem_candidates_iff : other ∈ config.candidates ↔
    other ∈ [Defect.emptyHost, .emptyUsername, .unknownScheme, .missingService "clamav", .missingService "klocwork"] ∨
      ∃ service, config.services.contains service = true ∧ .zeroPort service = other := by
  have listed (service : String) : config.services.contains service = true ↔
      ∃ endpoint, (service, endpoint) ∈ config.services.entries := by
    simp only [NameMap.contains, Option.isSome_iff_exists, NameMap.get?_eq_some_iff_mem]
  simp only [candidates, List.mem_append, List.mem_map, Prod.exists, listed, exists_and_right]

/-- No service is ever lost. -/
theorem Repair.candidates (repair : Repair config defect repaired) : config.candidates ⊆ repaired.candidates := by
  intro other candidate
  rw [mem_candidates_iff] at candidate ⊢
  refine candidate.imp_right fun zero => ?_
  obtain ⟨service, listed, same⟩ := zero
  refine ⟨service, ?_, same⟩
  cases repair with
  | host | username | scheme => exact listed
  | service | port =>
      rw [NameMap.contains, NameMap.get?_insert]
      split
      · rfl
      · exact listed

theorem Repairs.candidates (repairs : Repairs config defects final) :
    config.candidates ⊆ final.candidates ∧ defects ⊆ final.candidates := by
  induction repairs with
  | done => simp
  | step named repair others ih =>
      have first := (hasDefect_iff _).mp (hasDefect_of_named named)
      have kept := List.Subset.trans repair.candidates ih.1
      exact ⟨kept, List.cons_subset.mpr ⟨kept first.1, ih.2⟩⟩

/-- What can be said of repairs in turn, wherever they end. -/
structure Repairs.Bounded (config : HarnessConfig) (defects : List Defect) (final : HarnessConfig) : Prop where
  distinct : defects.Nodup
  byFinalServices : defects.length ≤ 5 + final.services.entries.length
  /-- Two more, as the two services that can be missing can be put in with a port that is zero. -/
  byServices : defects.length ≤ 7 + config.services.entries.length
  ofListening : (∀ service, .zeroPort service ∈ defects → config.HasDefect (.zeroPort service)) →
    defects.length ≤ 5 + config.services.entries.length
  onwards : final.validate = .ok () ∨ ∃ defect repaired, final.validate = .error (.invalid defect) ∧
    Repair final defect repaired ∧ Repairs config (defects ++ [defect]) repaired

theorem Repairs.length_le (repairs : Repairs config defects final)
    (before : ∀ other ∈ defects, config.HasDefect other) : defects.length ≤ 5 + config.services.entries.length := by
  have candidates : defects ⊆ config.candidates := fun other member =>
    (config.hasDefect_iff.mp (before other member)).1
  rw [← length_candidates]
  exact (List.Nodup.subperm repairs.nodup candidates).length_le

theorem Repairs.bounded (repairs : Repairs config defects final) : Bounded config defects final where
  distinct := repairs.nodup
  byFinalServices := by
    rw [← length_candidates]
    exact (List.Nodup.subperm repairs.nodup repairs.candidates.2).length_le
  byServices := by
    have candidates : defects ⊆ config.candidates ++ [.zeroPort "clamav", .zeroPort "klocwork"] := by
      intro other member
      rcases repairs.origin other member with has | ⟨service, rfl, missing⟩
      · exact List.mem_append_left _ (config.hasDefect_iff.mp has).1
      · cases missing with
        | missingService required => simp [required]
    have bounded := (List.Nodup.subperm repairs.nodup candidates).length_le
    simp only [List.length_append, length_candidates, List.length_cons, List.length_nil] at bounded
    omega
  ofListening := by
    intro listening
    refine repairs.length_le fun other member => ?_
    rcases repairs.origin other member with has | ⟨service, rfl, missing⟩
    · exact has
    · exact listening service member
  onwards := by
    cases verdict : final.validate with
    | ok => exact .inl rfl
    | error error =>
        obtain ⟨defect, rfl, first⟩ := validate_eq_error_iff.mp verdict
        obtain ⟨repaired, repair, -⟩ := (hasDefect_of_named verdict).repair
        exact .inr ⟨defect, repaired, rfl, repair, repairs.concat verdict repair⟩

/-- Repairs can be made for as long as there is something to repair, of defects that were there from the start. -/
theorem exists_repairs (count : Nat) (config : HarnessConfig) : ∃ defects final, Repairs config defects final ∧
    (∀ other ∈ defects, config.HasDefect other) ∧ (final.validate = .ok () ∨ defects.length = count) := by
  induction count generalizing config with
  | zero => exact ⟨[], config, .done config, by simp, .inr rfl⟩
  | succ count ih =>
      cases verdict : config.validate with
      | ok => exact ⟨[], config, .done config, by simp, .inl verdict⟩
      | error error =>
          obtain ⟨defect, rfl, first⟩ := validate_eq_error_iff.mp verdict
          have has := hasDefect_of_named verdict
          obtain ⟨repaired, repair, before⟩ := has.repair
          obtain ⟨defects, final, repairs, met, ended⟩ := ih repaired
          refine ⟨defect :: defects, final, .step verdict repair repairs, ?_, ended.imp_right (congrArg (· + 1))⟩
          intro other member
          rcases List.mem_cons.mp member with same | later
          · exact same ▸ has
          · exact before other (met other later)

theorem exists_repairs_valid (config : HarnessConfig) : ∃ defects final, Repairs config defects final ∧
    final.validate = .ok () ∧ defects.length ≤ 5 + config.services.entries.length := by
  obtain ⟨defects, final, repairs, before, ended⟩ := exists_repairs (6 + config.services.entries.length) config
  have bounded := repairs.length_le before
  rcases ended with valid | long
  · exact ⟨defects, final, repairs, valid, bounded⟩
  · omega

/-- What the validator says of a configuration. -/
structure Judged (config : HarnessConfig) : Prop where
  accepted_iff : config.validate = .ok () ↔ config.host ≠ "" ∧ config.username ≠ "" ∧
    (config.scheme = "http" ∨ config.scheme = "https") ∧
    config.services.contains "clamav" = true ∧ config.services.contains "klocwork" = true ∧
    ∀ service endpoint, config.services.get? service = some endpoint → endpoint.port ≠ 0
  refused_iff : ∀ error, config.validate = .error error ↔ ∃ defect, error = .invalid defect ∧
    config.HasDefect defect ∧ ∀ other, config.HasDefect other → other = defect ∨ defect.Before other
  worded : ∀ error, config.validate = .error error → ∃ defect wording, error = .invalid defect ∧
    defect.Wording wording ∧ error.message = "invalid configuration: " ++ wording
  /-- A service that listens can be put in under any name, a new one or one that is there. -/
  widened : config.validate = .ok () → ∀ (service : String) (endpoint : ServiceEndpoint), endpoint.port ≠ 0 →
    { config with services := config.services.insert service endpoint }.validate = .ok ()
  unaffected : ∀ (interCallDelayMs : UInt64) (insecureSkipVerify : Bool) (credentials : Option Credentials),
    { config with interCallDelayMs, insecureSkipVerify, credentials }.validate = config.validate
  repairs : ∀ defects final, Repairs config defects final → Repairs.Bounded config defects final
  repaired : ∃ defects final, Repairs config defects final ∧ final.validate = .ok () ∧
    defects.length ≤ 5 + config.services.entries.length

theorem HasDefect.worded (has : config.HasDefect defect) : ∃ wording, defect.Wording wording := by
  cases has with
  | emptyHost => exact ⟨_, .emptyHost⟩
  | emptyUsername => exact ⟨_, .emptyUsername⟩
  | unknownScheme => exact ⟨_, .unknownScheme⟩
  | @missingService service => exact ⟨_, .missingService service⟩
  | @zeroPort service => exact ⟨_, .zeroPort service⟩

theorem configurations_judged (config : HarnessConfig) : Judged config where
  accepted_iff := by
    rw [validate_eq_ok_iff]
    constructor
    · intro usable
      refine ⟨usable.host, usable.username, usable.scheme, usable.services clamav (by decide),
        usable.services klocwork (by decide), fun service endpoint listed => ?_⟩
      exact usable.ports (service, endpoint) (config.services.get?_eq_some_iff_mem.mp listed)
    · intro conditions
      obtain ⟨host, username, scheme, hasClamav, hasKlocwork, ports⟩ := conditions
      have services : ∀ service ∈ requiredServices, config.services.contains service = true := by
        simp [requiredServices, clamav, klocwork, hasClamav, hasKlocwork]
      refine { host, username, scheme, services, ports := fun entry member => ?_ }
      exact ports entry.1 entry.2 (config.services.get?_eq_some_iff_mem.mpr member)
  refused_iff := by
    intro error
    simp only [validate_eq_error_iff, firstDefect?_eq_some_iff]
  worded := by
    intro error refused
    obtain ⟨defect, rfl, first⟩ := validate_eq_error_iff.mp refused
    obtain ⟨wording, worded⟩ := (hasDefect_of_named refused).worded
    exact ⟨defect, wording, rfl, worded, worded.message⟩
  widened := by
    intro valid service endpoint listens
    rw [validate_eq_ok_iff_no_defect] at valid ⊢
    intro other has
    rcases (Repair.port service listens).origin has with before | ⟨name, missing, -⟩
    · exact valid other before
    · cases missing
  unaffected _ _ _ := rfl
  repairs _ _ repairs := repairs.bounded
  repaired := exists_repairs_valid config

end ScanCheck.HarnessConfig
