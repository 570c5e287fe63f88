import ScanCheck.Proofs.Client.Authorization
import ScanCheck.Proofs.Config.Validation
import ScanCheck.Proofs.Decimal.Numerals
import ScanCheck.Proofs.Harness.Requests
import ScanCheck.Proofs.NameMap

namespace ScanCheck

/-- The text is the address of a port of a host. -/
structure Address (text scheme host : String) (port : Nat) : Prop where
  known : scheme = "http" ∨ scheme = "https"
  listens : 1 ≤ port ∧ port ≤ 65535
  spelled : ∃ row, text = scheme ++ "://" ++ host ++ ":" ++ String.ofList row ∧
    (∀ digit ∈ row, digit.isDigit) ∧ row.head? ≠ some '0' ∧ Decimal.placeValue row = port

namespace Address

variable {text scheme host other machine : String} {port number : Nat}

/-- What stands before and behind the last of several marks. -/
theorem split_last {mark : Char} {front before row digits : List Char} (absent : mark ∉ row) (lacks : mark ∉ digits)
    (same : front ++ mark :: row = before ++ mark :: digits) : front = before ∧ row = digits := by
  have splits (front row : List Char) (absent : mark ∉ row) :
      Text.splitFirst? mark (front ++ mark :: row).reverse = some (row.reverse, front.reverse) := by
    rw [List.reverse_append, List.reverse_cons, List.append_assoc]
    exact Text.splitFirst?_joined (by simpa using absent)
  have read := splits front row absent
  rw [same, splits before digits lacks] at read
  simp at read
  exact ⟨read.2.symm, read.1.symm⟩

/-- No address can be read in two ways: the digits of the port hold no colon, and the schemes part at once. -/
theorem unique (address : Address text scheme host port) (again : Address text other machine number) :
    scheme = other ∧ host = machine ∧ port = number := by
  obtain ⟨row, spelled, decimal, -, rfl⟩ := address.spelled
  obtain ⟨digits, respelled, numeral, -, rfl⟩ := again.spelled
  have noColon {row : List Char} (decimal : ∀ digit ∈ row, digit.isDigit) : ':' ∉ row :=
    fun colon => absurd (decimal ':' colon) (by decide)
  have texts : (scheme ++ "://" ++ host).toList ++ ':' :: row =
      (other ++ "://" ++ machine).toList ++ ':' :: digits := by
    simpa using congrArg String.toList (spelled.symm.trans respelled)
  obtain ⟨fronts, rows⟩ := split_last (noColon decimal) (noColon numeral) texts
  have same : scheme = other ∧ host = machine := by
    rcases address.known with rfl | rfl
    · rcases again.known with rfl | rfl
      · simpa [String.toList_inj] using fronts
      · simp at fronts
    · rcases again.known with rfl | rfl
      · simp at fronts
      · simpa [String.toList_inj] using fronts
  exact ⟨same.1, same.2, by rw [rows]⟩

end Address

namespace HarnessConfig

variable {config : HarnessConfig} {service : String} {endpoint : ServiceEndpoint}

/-- The address of a service in a valid configuration. It has no host exactly if the service's own host is empty. -/
theorem addresses_of_valid (valid : config.validate = .ok ())
    (listed : config.services.get? service = some endpoint) :
    ∃ text, config.baseUrl service = .ok text ∧
      Address text config.scheme (endpoint.host.getD config.host) endpoint.port.toNat ∧
      (endpoint.host.getD config.host = "" ↔ endpoint.host = some "") ∧
      ∀ scheme host port, Address text scheme host port →
        scheme = config.scheme ∧ host = endpoint.host.getD config.host ∧ port = endpoint.port.toNat := by
  have usable := config.validate_eq_ok_iff.mp valid
  have nonzero := usable.ports (service, endpoint) (config.services.get?_eq_some_iff_mem.mp listed)
  have positive : 1 ≤ endpoint.port.toNat :=
    Nat.pos_of_ne_zero fun zero => nonzero (UInt16.toNat_inj.mp zero)
  obtain ⟨digit, row, digits, leads⟩ := Decimal.digits_cons positive
  have address : Address (config.scheme ++ "://" ++ endpoint.host.getD config.host ++ ":" ++
      Decimal.text endpoint.port.toNat) config.scheme (endpoint.host.getD config.host) endpoint.port.toNat := {
    known := usable.scheme
    listens := ⟨positive, Nat.le_of_lt_succ endpoint.port.toNat_lt⟩
    spelled := ⟨_, rfl, Decimal.isDigit_digits _, by simpa [digits] using leads, Decimal.placeValue_digits _⟩ }
  refine ⟨_, baseUrl_configured listed, address, ?_, ?_⟩
  · cases endpoint.host with
    | none => simp [usable.host]
    | some host => simp
  · intro scheme host port read
    obtain ⟨schemes, hosts, ports⟩ := address.unique read
    exact ⟨schemes.symm, hosts.symm, ports.symm⟩

theorem addresses_of_default : HarnessConfig.default.validate = .ok () ∧
    HarnessConfig.default.services.get? "clamav" = some { port := 5002 } ∧
    ∃ text, HarnessConfig.default.baseUrl "clamav" = .ok text ∧ Address text "http" "127.0.0.1" 5002 := by
  have valid : HarnessConfig.default.validate = .ok () := by decide +kernel
  have listed : HarnessConfig.default.services.get? "clamav" = some { port := 5002 } := by decide +kernel
  obtain ⟨text, known, address, -⟩ := addresses_of_valid valid listed
  exact ⟨valid, listed, text, known, address⟩

/-- A service whose own host is empty passes, and its address has no host, however it is read. -/
theorem hostless_valid :
    let services := HarnessConfig.default.services.insert "clamav" { host := some "", port := 5002 }
    let config := { HarnessConfig.default with services }
    config.validate = .ok () ∧ config.services.contains "clamav" = true ∧
      config.baseUrl "clamav" = .ok "http://:5002" ∧
      ¬∃ scheme host port, Address "http://:5002" scheme host port ∧ host ≠ "" := by
  have address : Address "http://:5002" "http" "" 5002 := {
    known := .inl rfl
    listens := by decide
    spelled := ⟨Decimal.digits 5002, by decide +kernel, Decimal.isDigit_digits _, by decide +kernel,
      Decimal.placeValue_digits _⟩ }
  refine ⟨by decide +kernel, by decide +kernel, by decide +kernel, fun read => ?_⟩
  obtain ⟨scheme, host, port, other, given⟩ := read
  exact given (address.unique other).2.1.symm

end HarnessConfig

end ScanCheck
