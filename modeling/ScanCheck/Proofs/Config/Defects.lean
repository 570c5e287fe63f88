import Mathlib.Data.List.Find
import ScanCheck.Proofs.Config.Settlement
import ScanCheck.Proofs.Config.Validation
import ScanCheck.Proofs.NameMap
import ScanCheck.Proofs.Text.ByteOrder

namespace ScanCheck

/-- What is wrong with a configuration. -/
inductive HarnessConfig.HasDefect (config : HarnessConfig) : Defect → Prop
  | emptyHost (empty : config.host = "") : HasDefect config .emptyHost
  | emptyUsername (empty : config.username = "") : HasDefect config .emptyUsername
  | unknownScheme (http : config.scheme ≠ "http") (https : config.scheme ≠ "https") :
      HasDefect config .unknownScheme
  | missingService {service : String} (required : service = "clamav" ∨ service = "klocwork")
      (missing : config.services.get? service = none) : HasDefect config (.missingService service)
  | zeroPort {service : String} {endpoint : ServiceEndpoint}
      (listed : config.services.get? service = some endpoint) (zero : endpoint.port = 0) :
      HasDefect config (.zeroPort service)

namespace Defect

def rank : Defect → Nat
  | .emptyHost => 0
  | .emptyUsername => 1
  | .unknownScheme => 2
  | .missingService service => if service = "clamav" then 3 else 4
  | .zeroPort _ => 5
  | .notADelay _ | .notAFlag _ => 6

/-- The order in which defects are named. -/
inductive Before : Defect → Defect → Prop
  | rank {first second : Defect} (less : first.rank < second.rank) : Before first second
  | name {first second : String} (less : utf8 first < utf8 second) : Before (.zeroPort first) (.zeroPort second)

theorem Before.asymm {first second : Defect} (before : Before first second) : ¬ Before second first := by
  intro after
  cases before with
  | rank less =>
      cases after with
      | rank more => omega
      | name => exact absurd less (Nat.lt_irrefl _)
  | name less =>
      cases after with
      | rank more => exact absurd more (Nat.lt_irrefl _)
      | name more => exact List.lt_asymm less more

/-- The words for a defect. -/
inductive Wording : Defect → String → Prop
  | emptyHost : Wording .emptyHost "host: must not be empty"
  | emptyUsername : Wording .emptyUsername "username: must not be empty"
  | unknownScheme : Wording .unknownScheme "scheme: must be http or https"
  | missingService (service : String) :
      Wording (.missingService service) ("services: missing entry for " ++ service)
  | zeroPort (service : String) : Wording (.zeroPort service) ("services." ++ service ++ ".port: must not be 0")

theorem Wording.message {defect : Defect} {wording : String} (worded : Wording defect wording) :
    (ConfigError.invalid defect).message = "invalid configuration: " ++ wording := by
  cases worded with
  | emptyHost => decide +kernel
  | emptyUsername => decide +kernel
  | unknownScheme => decide +kernel
  | missingService service =>
      have reason : (Defect.missingService service).reason = "missing entry for " ++ service := rfl
      have field : (Defect.missingService service).field = "services" := rfl
      have front : "invalid configuration: " ++ "services" ++ ": " ++ "missing entry for " =
          "invalid configuration: " ++ "services: missing entry for " := by decide +kernel
      rw [HarnessConfig.invalid_message _ reason (field ▸ front), String.append_assoc]
  | zeroPort service =>
      have message : (ConfigError.invalid (.zeroPort service)).message =
        "invalid configuration: " ++ ("services." ++ service ++ ".port") ++ ": " ++ "must not be 0" := rfl
      have back : ".port: must not be 0" = ".port" ++ (": " ++ "must not be 0") := by decide +kernel
      rw [message, back]
      simp only [String.append_assoc]

end Defect

/-- In an ordered list the first element with a property comes before all others that have it. -/
theorem first_of_find? {α : Type} {property : α → Bool} {before : α → α → Prop} {candidates : List α}
    (ordered : candidates.Pairwise before) {first : α} (found : candidates.find? property = some first) :
    ∀ other ∈ candidates, property other = true → other = first ∨ before first other := by
  obtain ⟨-, front, back, split, earlier⟩ := List.find?_eq_some_iff_append.mp found
  rw [split] at ordered ⊢
  intro other member has
  rcases List.mem_append.mp member with inFront | behind
  · have lacks := earlier other inFront
    simp [has] at lacks
  · rcases List.mem_cons.mp behind with same | inBack
    · exact .inl same
    · exact .inr ((List.pairwise_cons.mp (List.pairwise_append.mp ordered).2.1).1 other inBack)

namespace HarnessConfig

variable (config : HarnessConfig)

/-- The defects that a configuration can have, in the order in which they are named. -/
def candidates : List Defect :=
  [.emptyHost, .emptyUsername, .unknownScheme, .missingService "clamav", .missingService "klocwork"] ++
    config.services.entries.map fun entry => .zeroPort entry.1

/-- Whether a configuration has a defect. -/
def shows : Defect → Bool
  | .emptyHost => config.host = ""
  | .emptyUsername => config.username = ""
  | .unknownScheme => !(config.scheme = "http" || config.scheme = "https")
  | .missingService service => !config.services.contains service
  | .zeroPort service => (config.services.get? service).any (·.port == 0)
  | .notADelay _ | .notAFlag _ => false

theorem length_candidates : config.candidates.length = 5 + config.services.entries.length := by
  rw [candidates, List.length_append, List.length_map]
  rfl

theorem candidates_ordered : config.candidates.Pairwise Defect.Before := by
  have fixed : [Defect.emptyHost, .emptyUsername, .unknownScheme, .missingService "clamav",
      .missingService "klocwork"].Pairwise fun first second => first.rank < second.rank := by decide
  have last : ∀ first ∈ [Defect.emptyHost, .emptyUsername, .unknownScheme, .missingService "clamav",
      .missingService "klocwork"], first.rank < 5 := by decide
  refine List.pairwise_append.mpr ⟨fixed.imp .rank, ?_, ?_⟩
  · have names := List.pairwise_map.mp config.services.ascending
    exact List.pairwise_map.mpr (names.imp fun less => .name (utf8_lt_iff.mpr less))
  · intro first member second behind
    obtain ⟨entry, -, rfl⟩ := List.mem_map.mp behind
    exact .rank (last first member)

theorem hasDefect_iff {defect : Defect} :
    config.HasDefect defect ↔ defect ∈ config.candidates ∧ config.shows defect = true := by
  constructor
  · intro has
    cases has with
    | emptyHost empty => simp [candidates, shows, empty]
    | emptyUsername empty => simp [candidates, shows, empty]
    | unknownScheme http https => simp [candidates, shows, http, https]
    | missingService required missing => simp [candidates, shows, NameMap.contains, required, missing]
    | @zeroPort service endpoint listed zero =>
        have member := config.services.get?_eq_some_iff_mem.mp listed
        have candidate : Defect.zeroPort service ∈ config.candidates :=
          List.mem_append_right _ (List.mem_map.mpr ⟨_, member, rfl⟩)
        simp [candidate, shows, listed, zero]
  · intro shown
    obtain ⟨candidate, shown⟩ := shown
    cases defect with
    | emptyHost => exact .emptyHost (by simpa [shows] using shown)
    | emptyUsername => exact .emptyUsername (by simpa [shows] using shown)
    | unknownScheme =>
        simp [shows] at shown
        exact .unknownScheme shown.1 shown.2
    | missingService service =>
        refine .missingService ?_ (by simpa [shows, NameMap.contains] using shown)
        simpa [candidates] using candidate
    | zeroPort service =>
        cases listed : config.services.get? service with
        | none => simp [shows, listed] at shown
        | some endpoint => exact .zeroPort listed (by simpa [shows, listed] using shown)
    | notADelay given => cases shown
    | notAFlag given => cases shown

theorem find?_required : (requiredServices.find? fun service => !config.services.contains service) =
    if !config.services.contains "clamav" then some "clamav"
    else if !config.services.contains "klocwork" then some "klocwork" else none := by
  have names : requiredServices = ["clamav", "klocwork"] := rfl
  rw [names, List.find?_cons, List.find?_cons, List.find?_nil]
  cases config.services.contains "clamav" <;> cases config.services.contains "klocwork" <;> rfl

theorem find?_zeroPort : (config.services.entries.find? fun entry => config.shows (.zeroPort entry.1)) =
    config.services.entries.find? fun entry => entry.2.port == 0 := by
  refine List.find?_congr fun entry member => ?_
  have listed := config.services.get?_eq_some_iff_mem.mpr member
  simp [shows, listed]

/-- The validator looks for the candidates one after the other. -/
theorem firstDefect?_eq_find? : config.firstDefect? = config.candidates.find? config.shows := by
  have ports : (config.services.entries.map fun entry => Defect.zeroPort entry.1).find? config.shows =
      (config.services.entries.find? fun entry => entry.2.port == 0).map fun entry => .zeroPort entry.1 := by
    rw [List.find?_map, ← find?_zeroPort]
    rfl
  rw [firstDefect?, find?_required, candidates, List.find?_append, ports]
  simp only [List.find?_cons, List.find?_nil, shows]
  by_cases host : config.host = ""
  · simp [host]
  by_cases username : config.username = ""
  · simp [host, username]
  by_cases unknown : config.scheme ≠ "http" ∧ config.scheme ≠ "https"
  · simp [host, username, unknown]
  · have known : config.scheme = "http" ∨ config.scheme = "https" := by
      simpa [or_iff_not_imp_left] using unknown
    rcases known with scheme | scheme
    all_goals
      cases config.services.contains "clamav" <;> cases config.services.contains "klocwork" <;>
        simp [host, username, scheme]

theorem firstDefect?_eq_none : config.firstDefect? = none ↔ ∀ defect, ¬ config.HasDefect defect := by
  simp only [firstDefect?_eq_find?, List.find?_eq_none, hasDefect_iff, not_and]

/-- A configuration has the defect that is named, and all its other defects come behind it. -/
theorem firstDefect?_eq_some_iff {defect : Defect} : config.firstDefect? = some defect ↔
    config.HasDefect defect ∧ ∀ other, config.HasDefect other → other = defect ∨ defect.Before other := by
  have forward (named : Defect) (found : config.firstDefect? = some named) : config.HasDefect named ∧
      ∀ other, config.HasDefect other → other = named ∨ named.Before other := by
    rw [firstDefect?_eq_find?] at found
    refine ⟨config.hasDefect_iff.mpr ⟨List.mem_of_find?_eq_some found, List.find?_some found⟩, ?_⟩
    intro other has
    obtain ⟨candidate, shown⟩ := config.hasDefect_iff.mp has
    exact first_of_find? config.candidates_ordered found other candidate shown
  refine ⟨forward defect, fun least => ?_⟩
  cases found : config.firstDefect? with
  | none => exact absurd least.1 (config.firstDefect?_eq_none.mp found defect)
  | some named =>
      obtain ⟨has, first⟩ := forward named found
      rcases least.2 named has with same | after
      · rw [same]
      · rcases first defect least.1 with same | before
        · rw [same]
        · exact absurd before after.asymm

end HarnessConfig

end ScanCheck
