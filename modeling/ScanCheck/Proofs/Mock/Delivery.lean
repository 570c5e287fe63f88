import ScanCheck.Mock.Transport
import ScanCheck.Proofs.Harness.Turns
import ScanCheck.Proofs.Mock.Log
import ScanCheck.Proofs.Mock.Routes

namespace ScanCheck.Mock

theorem target?_append (origin target : String) : target? origin (origin ++ target) = some target := by
  have front : origin.toList.isPrefixOf (origin ++ target).toList = true := by
    rw [List.isPrefixOf_iff_prefix, String.toList_append]
    exact List.prefix_append _ _
  rw [target?, if_pos front, String.toList_append, List.drop_left, String.ofList_toList]

theorem transport_origin [Refusal.Wording] (ids : Nat → String) {origin target : String} {request : Request}
    (url : request.url = origin ++ target) (log : Log) :
    transport ids origin log request =
      (.ok (respond ids log (.ofRequest target request)).1.response,
        (respond ids log (.ofRequest target request)).2) := by
  simp only [transport, url, target?_append]

theorem readUsername_plain {username : String} (plain : Target.isPlain username.toList = true) :
    readUsername username.toList = .ok username := by
  have unescaped : '%' ∉ username.toList := Target.notMem_of_isPlain plain (by decide)
  have literal := Target.notMem_encode unescaped
  rw [readUsername, Target.unescape_of_notMem literal, Bytes.text?_encode, String.ofList_toList]

theorem field?_contentType {call : Call} {client : ClientConfig} (headers : call.headers = client.headers) :
    call.field? "content-type" = some "application/json" := by
  have named : header? call.headers "content-type" = some "application/json" := by
    rw [headers, ClientConfig.headers, header?, List.find?_cons_of_pos (by decide +kernel)]
    rfl
  have visible : isVisible "application/json" = true := by decide +kernel
  rw [Call.field?, named, Option.filter_some, if_pos visible]

theorem declaresJson_headers {call : Call} {client : ClientConfig} (headers : call.headers = client.headers) :
    call.declaresJson = true := by
  have json : ((MediaType.parse? "application/json".toList).any MediaType.isJson) = true := by
    decide +kernel
  rw [Call.declaresJson, field?_contentType headers, Option.bind_some]
  cases parsed : MediaType.parse? "application/json".toList with
  | none => rw [parsed] at json; cases json
  | some mediaType =>
      rw [parsed] at json
      exact json

theorem payload_decoded {α : Type} {codec : Codec α} {call : Call} {text : String} {value : α}
    (json : call.declaresJson = true) (body : call.body = utf8 text) (fits : (utf8 text).length ≤ bodyLimit)
    (decoded : codec.decode (utf8 text) = .ok value) : call.payload codec = .ok value := by
  rw [Call.payload, json, body, Bool.not_true, if_neg Bool.false_ne_true, if_neg (Nat.not_lt.mpr fits), decoded]
  rfl

end ScanCheck.Mock
