import ScanCheck.Harness.Suite

namespace ScanCheck

/-- What becomes of the value of a result does not depend on what becomes of its error. -/
theorem map_mapError {ε φ α β : Type} (result : Except ε α) (onError : ε → φ) (change : α → β) :
    (result.mapError onError).map change = (result.map change).mapError onError := by
  cases result <;> rfl

namespace HarnessConfig

variable {config : HarnessConfig} {service : String}

theorem baseUrl_unconfigured (missing : config.services.get? service = none) :
    config.baseUrl service = .error (.unknownService service) := by
  simp only [baseUrl, missing]

theorem baseUrl_configured {endpoint : ServiceEndpoint}
    (known : config.services.get? service = some endpoint) :
    config.baseUrl service = .ok (config.scheme ++ "://" ++ endpoint.host.getD config.host ++ ":" ++
      Decimal.text endpoint.port.toNat) := by
  simp only [baseUrl, known]

/-- The client of a service that listens at an address. -/
def clientAt (config : HarnessConfig) (origin : String) : ClientConfig where
  baseUrl := origin
  username := (config.credentials.map Credentials.username).getD ""
  password := (config.credentials.map Credentials.password).getD ""
  insecureSkipVerify := config.insecureSkipVerify

theorem clientConfig_eq (config : HarnessConfig) (service : String) :
    config.clientConfig service = (config.baseUrl service).map config.clientAt := by
  unfold clientConfig clientAt
  cases config.baseUrl service with
  | error error => rfl
  | ok origin => cases config.credentials <;> rfl

theorem clientConfig_unconfigured (missing : config.services.get? service = none) :
    config.clientConfig service = .error (.unknownService service) := by
  rw [clientConfig_eq, baseUrl_unconfigured missing, Except.map]

theorem clientConfig_configured {endpoint : ServiceEndpoint}
    (known : config.services.get? service = some endpoint) :
    ∃ client, config.clientConfig service = .ok client := by
  rw [clientConfig_eq, baseUrl_configured known]
  exact ⟨_, rfl⟩

end HarnessConfig

namespace Harness

variable {config : HarnessConfig} {service : String}

theorem buildFor_of_client {client : ClientConfig} (found : config.clientConfig service = .ok client)
    (path : String) (payload : Serialized) :
    buildFor config service path payload = (client.buildPost path payload).mapError .client := by
  simp only [buildFor, found, bind, Except.bind]

theorem buildFor_of_error {error : HarnessError} (refused : config.clientConfig service = .error error)
    (path : String) (payload : Serialized) : buildFor config service path payload = .error error := by
  simp only [buildFor, refused, bind, Except.bind]

theorem buildFor_configured {endpoint : ServiceEndpoint}
    (known : config.services.get? service = some endpoint) (path body : String) :
    ∃ request, buildFor config service path (.ok body) = .ok request := by
  obtain ⟨client, found⟩ := HarnessConfig.clientConfig_configured known
  rw [buildFor_of_client found]
  exact ⟨_, rfl⟩

theorem buildFor_eq (config : HarnessConfig) (service path body : String) :
    buildFor config service path (.ok body) = (config.baseUrl service).map fun origin =>
      { method := .post, url := origin ++ path, headers := (config.clientAt origin).headers, body := some body } := by
  rw [buildFor, HarnessConfig.clientConfig_eq]
  cases config.baseUrl service <;> rfl

end Harness

end ScanCheck
