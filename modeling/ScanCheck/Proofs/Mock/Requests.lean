import ScanCheck.Proofs.Codec.Payloads

namespace ScanCheck.Mock

open Codec (string_conveys)

/-- A component of a client as the services read it. -/
def Component.ofClient (component : ScanCheck.Component) : Component where
  name := component.name
  kind := component.kind
  branch := component.branch
  url := component.url

def ScanRequest.ofPayload (payload : ScanPayload) : ScanRequest where
  project := payload.project
  components := payload.components.map Component.ofClient

def SubmitRequest.ofPayload (payload : AnalysisPayload) : SubmitRequest where
  project := payload.project
  component := payload.component
  url := payload.url
  kwScanLink := payload.kwScanLink

/-- Client and services each declare a component for themselves, under the same names in the same order. -/
theorem Component.conveyed : ScanCheck.Component.codec.Conveys Component.codec .ofClient :=
  (Fields.Conveys.cons string_conveys (.cons string_conveys (.cons string_conveys (.cons string_conveys .nil)))).record
    (by decide) _ _ _ _

theorem ScanRequest.conveyed : ScanPayload.codec.Conveys ScanRequest.codec .ofPayload :=
  (Fields.Conveys.cons string_conveys (.cons Component.conveyed.list .nil)).record (by decide) _ _ _ _

theorem SubmitRequest.conveyed : AnalysisPayload.codec.Conveys SubmitRequest.codec .ofPayload :=
  (Fields.Conveys.cons string_conveys (.cons string_conveys (.cons string_conveys (.cons string_conveys .nil)))).record
    (by decide) _ _ _ _

/-- The text that a client posts for a payload is decoded by the malware scanner as its own request. -/
theorem ScanRequest.decode_payload (payload : ScanPayload) :
    ScanRequest.codec.decode (utf8 (ScanPayload.codec.text payload)) = .ok (.ofPayload payload) :=
  conveyed.decode_text payload

theorem SubmitRequest.decode_payload (payload : AnalysisPayload) :
    SubmitRequest.codec.decode (utf8 (AnalysisPayload.codec.text payload)) = .ok (.ofPayload payload) :=
  conveyed.decode_text payload

end ScanCheck.Mock
