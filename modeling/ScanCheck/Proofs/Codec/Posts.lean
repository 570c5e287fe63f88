import ScanCheck.Config.Basic
import ScanCheck.Proofs.Codec.Payloads
import ScanCheck.Proofs.Codec.Values

namespace ScanCheck

open Codec (flag_faithful list_faithful nameMap_faithful optional_faithful record_faithful record_present
  string_faithful string_present uint16_faithful uint64_faithful)

theorem SuiteFile.codec_faithful : SuiteFile.codec.Faithful :=
  record_faithful ⟨list_faithful ScanPayload.codec_faithful, list_faithful AnalysisPayload.codec_faithful, trivial⟩
    (by decide) fun _ => rfl

theorem Credentials.codec_faithful : Credentials.codec.Faithful :=
  record_faithful ⟨string_faithful, string_faithful, trivial⟩ (by decide) fun _ => rfl

theorem ServiceEndpoint.codec_faithful : ServiceEndpoint.codec.Faithful :=
  record_faithful ⟨optional_faithful string_faithful string_present, uint16_faithful, trivial⟩ (by decide)
    fun _ => rfl

theorem HarnessConfig.codec_faithful : HarnessConfig.codec.Faithful :=
  record_faithful
    ⟨string_faithful, string_faithful, string_faithful,
      optional_faithful Credentials.codec_faithful (record_present _ _ _), flag_faithful, uint64_faithful,
      nameMap_faithful ServiceEndpoint.codec_faithful, trivial⟩
    (by decide) fun _ => rfl

theorem Mock.Echo.codec_faithful : Mock.Echo.codec.Faithful :=
  record_faithful
    ⟨string_faithful, optional_faithful string_faithful string_present,
      optional_faithful string_faithful string_present, string_faithful, trivial⟩
    (by decide) fun _ => rfl

namespace Codec

variable {α : Type} {codec : Codec α}

/-- Every value can be posted and comes back from the body, which is the body of no other value, whichever
clients post the two. -/
structure ReturnsPosts [Codec.Wording] (codec : Codec α) : Prop where
  posted : ∀ (client : ClientConfig) (endpoint : String) (value : α), ∃ request,
    client.buildPost endpoint (.ofValue codec value) = .ok request ∧ request.body = some (codec.text value)
  returned : ∀ value, parseJson codec ⟨200, utf8 (codec.text value)⟩ = .ok value
  injective : ∀ (client other : ClientConfig) (endpoint elsewhere : String) (first second : α)
    (left right : Request), client.buildPost endpoint (.ofValue codec first) = .ok left →
    other.buildPost elsewhere (.ofValue codec second) = .ok right → left.body = right.body → first = second

theorem Faithful.text_injective (faithful : codec.Faithful) : Function.Injective codec.text := by
  intro first second same
  have decoded := congrArg (fun text => codec.decode (utf8 text)) same
  simp only [faithful.decode_text] at decoded
  exact Except.ok.inj decoded

theorem Faithful.returnsPosts [Codec.Wording] (faithful : codec.Faithful) : codec.ReturnsPosts where
  posted client endpoint value := ⟨_, rfl, rfl⟩
  returned value := by
    rw [parseJson, if_pos rfl, faithful.decode_text]
    rfl
  injective client other endpoint elsewhere first second left right posted reposted same := by
    cases posted
    cases reposted
    exact faithful.text_injective (Option.some.inj same)

end Codec

/-- Typed values come back from the bodies in which they are posted, whatever characters their texts hold,
whatever services they name, and whether their options are there or not. -/
theorem typed_values_return [Codec.Wording] :
    Component.codec.ReturnsPosts ∧ ScanPayload.codec.ReturnsPosts ∧ AnalysisPayload.codec.ReturnsPosts ∧
      Credentials.codec.ReturnsPosts ∧ ServiceEndpoint.codec.ReturnsPosts ∧ HarnessConfig.codec.ReturnsPosts ∧
      SuiteFile.codec.ReturnsPosts ∧ Mock.Echo.codec.ReturnsPosts :=
  ⟨Component.codec_faithful.returnsPosts, ScanPayload.codec_faithful.returnsPosts,
    AnalysisPayload.codec_faithful.returnsPosts, Credentials.codec_faithful.returnsPosts,
    ServiceEndpoint.codec_faithful.returnsPosts, HarnessConfig.codec_faithful.returnsPosts,
    SuiteFile.codec_faithful.returnsPosts, Mock.Echo.codec_faithful.returnsPosts⟩

end ScanCheck
