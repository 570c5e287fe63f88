import ScanCheck.Mock.Application
import ScanCheck.Payload
import ScanCheck.Proofs.Codec.RoundTrip

namespace ScanCheck

open Codec (list_faithful record_faithful string_faithful)

theorem Component.codec_faithful : Component.codec.Faithful :=
  record_faithful ⟨string_faithful, string_faithful, string_faithful, string_faithful, trivial⟩
    (by decide) fun _ => rfl

theorem ScanPayload.codec_faithful : ScanPayload.codec.Faithful :=
  record_faithful ⟨string_faithful, list_faithful Component.codec_faithful, trivial⟩ (by decide) fun _ => rfl

theorem AnalysisPayload.codec_faithful : AnalysisPayload.codec.Faithful :=
  record_faithful ⟨string_faithful, string_faithful, string_faithful, string_faithful, trivial⟩
    (by decide) fun _ => rfl

theorem Mock.Submission.codec_faithful : Mock.Submission.codec.Faithful :=
  record_faithful ⟨string_faithful, string_faithful, string_faithful, string_faithful, trivial⟩
    (by decide) fun _ => rfl

end ScanCheck
