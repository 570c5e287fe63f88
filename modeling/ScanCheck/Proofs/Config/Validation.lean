import ScanCheck.Config.Validation

namespace ScanCheck.HarnessConfig

structure Usable (config : HarnessConfig) : Prop where
  host : config.host ≠ ""
  username : config.username ≠ ""
  scheme : config.scheme = "http" ∨ config.scheme = "https"
  services : ∀ service ∈ requiredServices, config.services.contains service = true
  ports : ∀ entry ∈ config.services.entries, entry.2.port ≠ 0

theorem firstDefect?_eq_none_iff (config : HarnessConfig) : config.firstDefect? = none ↔ config.Usable := by
  constructor
  · intro sound
    -- The defects are looked for one after another, and each is out once the next one is looked for.
    have host : config.host ≠ "" := by
      intro empty
      rw [firstDefect?, if_pos empty] at sound
      cases sound
    rw [firstDefect?, if_neg host] at sound
    have username : config.username ≠ "" := by
      intro empty
      rw [if_pos empty] at sound
      cases sound
    rw [if_neg username] at sound
    have scheme : config.scheme = "http" ∨ config.scheme = "https" := by
      refine Decidable.byContradiction fun unknown => ?_
      rw [if_pos unknown] at sound
      cases sound
    rw [if_neg (not_not_intro scheme)] at sound
    cases missing : requiredServices.find? fun service => !config.services.contains service with
    | some service =>
        rw [missing] at sound
        cases sound
    | none =>
        rw [missing] at sound
        have ports := List.find?_eq_none.mp (Option.map_eq_none_iff.mp sound)
        exact {
          host, username, scheme
          services := fun service required => by
            simpa using List.find?_eq_none.mp missing service required
          ports := fun entry member => by simpa using ports entry member }
  · intro usable
    have missing : requiredServices.find? (fun service => !config.services.contains service) = none :=
      List.find?_eq_none.mpr fun service required => by simp [usable.services service required]
    have zero : config.services.entries.find? (fun entry => entry.2.port == 0) = none :=
      List.find?_eq_none.mpr fun entry member => by simpa using usable.ports entry member
    rw [firstDefect?, if_neg usable.host, if_neg usable.username, if_neg (not_not_intro usable.scheme), missing,
      zero]
    rfl

theorem validate_eq_ok_iff (config : HarnessConfig) : config.validate = .ok () ↔ config.Usable := by
  rw [← firstDefect?_eq_none_iff, validate]
  cases config.firstDefect? <;> simp

theorem Usable.endpoint {config : HarnessConfig} (usable : config.Usable) {service : String}
    (required : service ∈ requiredServices) : ∃ endpoint, config.services.get? service = some endpoint :=
  Option.isSome_iff_exists.mp (usable.services service required)

end ScanCheck.HarnessConfig
