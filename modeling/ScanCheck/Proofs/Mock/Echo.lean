import ScanCheck.Proofs.Client.Authorization
import ScanCheck.Proofs.Codec.Posts
import ScanCheck.Proofs.Json.Compact
import ScanCheck.Proofs.Json.Truncation
import ScanCheck.Proofs.Mock.Decisions
import ScanCheck.Proofs.Mock.Delivery
import ScanCheck.Proofs.Text.Lossy

namespace ScanCheck

namespace Base64

def IsPrintable (char : Char) : Prop := 32 ≤ char.toNat ∧ char.toNat < 127

theorem encode_printable (bytes : Bytes) : ∀ char ∈ encode bytes, IsPrintable char := by
  have all : alphabet.all (fun char => 32 ≤ char.toNat && char.toNat < 127) = true := by decide +kernel
  have printable : ∀ char ∈ alphabet, 32 ≤ char.toNat ∧ char.toNat < 127 := by simpa using all
  obtain ⟨symbols, padding, written, -, members, -⟩ := padded_encode bytes
  intro char member
  rw [written] at member
  rcases List.mem_append.mp member with symbol | filling
  · exact printable char (members char symbol)
  · rw [List.eq_of_mem_replicate filling]
    exact ⟨by decide, by decide⟩

end Base64

namespace ClientConfig

variable {config : ClientConfig}

theorem authorization?_visible : ∀ value ∈ config.authorization?, Mock.isVisible value = true := by
  intro value known
  unfold authorization? at known
  split at known
  · cases known
  · cases known
    rw [Mock.isVisible, String.toList_append, List.all_append, Bool.and_eq_true]
    refine ⟨?scheme, ?credentials⟩
    case scheme => decide +kernel
    case credentials =>
      rw [String.toList_ofList, List.all_eq_true]
      intro char encoded
      have printable := Base64.encode_printable _ char encoded
      simp [printable.1, printable.2]

end ClientConfig

namespace Mock

theorem field?_authorization {call : Call} {config : ClientConfig} (headers : call.headers = config.headers) :
    call.field? "authorization" = config.authorization? := by
  rw [Call.field?, headers, ClientConfig.header?_authorization]
  cases known : config.authorization? with
  | none => rfl
  | some value => rw [Option.filter_some, if_pos (ClientConfig.authorization?_visible value known)]

theorem find?_echo : Route.find? "/probe/echo" = some (.probe .echo) := by
  decide +kernel

/-- What the mock services saw of a POST request of a client. -/
def Echo.ofPost (config : ClientConfig) (body : String) : Echo :=
  { method := "POST", contentType := some "application/json", authorization := config.authorization?, body }

theorem echo_post {call : Call} {config : ClientConfig} {body : String} (post : call.method = "POST")
    (headers : call.headers = config.headers) (carries : call.body = utf8 body)
    (fits : (utf8 body).length ≤ bodyLimit) : echo call = .ok (.ofPost config body) := by
  have text : call.text = .ok body := by
    rw [Call.text, carries, if_neg (Nat.not_lt.mpr fits), Bytes.text?_eq_some_iff.mpr rfl]
  simp only [echo, text, post, field?_contentType headers, field?_authorization headers, bind, Except.bind]
  rfl

/-- A client gets back what it sent, and the log stays as it was. -/
theorem post_echo [Codec.Wording] [Refusal.Wording] (ids : Nat → String) (config : ClientConfig) (log : Log)
    (body : String) (fits : (utf8 body).length ≤ bodyLimit) :
    let client : Client Log := ⟨config, transport ids config.baseUrl⟩
    (client.post Echo.codec log "/probe/echo" (.ok body)).result = .ok (.ofPost config body) ∧
      (client.post Echo.codec log "/probe/echo" (.ok body)).transport = log := by
  intro client
  let request : Request :=
    { method := .post, url := config.baseUrl ++ "/probe/echo", headers := config.headers, body := some body }
  have seen : demand (.ofRequest "/probe/echo" request) = .answer (.json (Echo.codec.text (.ofPost config body))) := by
    rw [demand_routed find?_echo (by simp [Route.methods]), Route.demand, answerProbe,
      @echo_post (.ofRequest "/probe/echo" request) config body rfl rfl rfl fits]
    rfl
  have answered : respond ids log (.ofRequest "/probe/echo" request) =
      (.json (Echo.codec.text (.ofPost config body)), log) := by
    simp only [respond, seen, Demand.perform]
    rfl
  have delivered : transport ids config.baseUrl log request = _ := transport_origin ids rfl log
  rw [answered] at delivered
  have exchange : client.post Echo.codec log "/probe/echo" (.ok body) =
      (client.send log request).andThen (· >>= parseJson Echo.codec) := rfl
  have decoded : parseJson Echo.codec (Answer.json (Echo.codec.text (.ofPost config body))).response =
      .ok (.ofPost config body) := Echo.codec_faithful.returnsPosts.returned _
  rw [exchange]
  simp only [Client.send, client, delivered, Exchange.andThen, bind, Except.bind, decoded, and_self]

/-- A value whose numbers are integers of 64 bits and whose objects give no name twice is told back by the echo
with the header fields of the client and as the very text that was sent. That text is decoded as the value
itself, unless it nests too deep to be decoded at all. -/
theorem payload_echoed [Codec.Wording] [Refusal.Wording] (ids : Nat → String) (config : ClientConfig) (log : Log)
    {value : Json} (plain : value.Every Json.Plain) (fits : (utf8 value.compact).length ≤ bodyLimit) :
    let client : Client Log := ⟨config, transport ids config.baseUrl⟩
    let exchange := client.post Echo.codec log "/probe/echo" (.ofJson value)
    ∃ request echo, config.buildPost "/probe/echo" (.ofJson value) = .ok request ∧
      exchange.result = .ok echo ∧ exchange.transport = log ∧
      echo.method = "POST" ∧ echo.contentType = some "application/json" ∧
      echo.authorization = config.authorization? ∧ echo.authorization = request.header? "authorization" ∧
      (echo.authorization = none ↔ config.username = "") ∧
      some echo.body = request.body ∧ echo.body = value.compact ∧
      (value.NestsWithin 127 → parseJson Codec.json { status := 200, body := utf8 echo.body } = .ok value.sorted) ∧
      (value.Every Json.IsSorted → value.sorted = value) ∧
      (¬ value.NestsWithin 127 → ∃ fault,
        parseJson Codec.json { status := 200, body := utf8 echo.body } =
          .error (Codec.json.malformed (utf8 echo.body) fault)) := by
  intro client exchange
  obtain ⟨result, kept⟩ := post_echo ids config log value.compact fits
  refine ⟨_, _, rfl, result, kept, rfl, rfl, rfl, ?header, ?anonymous, rfl, rfl, ?shallow, Json.sorted_eq_self, ?deep⟩
  case header => exact ClientConfig.header?_authorization.symm
  case anonymous => exact ClientConfig.authorization?_eq_none_iff
  case shallow =>
    exact fun nests => parseJson_json_eq_ok_iff.mpr ⟨value, Json.written_compact plain nests, rfl⟩
  case deep =>
    intro deeper
    refine parseJson_malformed rfl fun read accepted => deeper ?_
    obtain ⟨tree, written, -⟩ := parseJson_json_eq_ok_iff.mp accepted
    exact Json.nests_of_written plain written

/-- The least integer, a quote and a line break come back to a client with credentials. -/
theorem payload_echoed_of_svc :
    let _ : Codec.Wording := { json := fun _ _ => "", toml := fun _ _ => "" }
    let _ : Refusal.Wording := { words := fun _ _ => "" }
    let config : ClientConfig := { baseUrl := "http://localhost:5002", username := "svc", password := "p:w" }
    let value : Json :=
      .object [("id", .number (.integer (-9223372036854775808))), ("lines", .array [.text "\"a\"\nb", .null])]
    let client : Client Log := ⟨config, transport toString config.baseUrl⟩
    ∃ echo, (client.post Echo.codec [] "/probe/echo" (.ofJson value)).result = .ok echo ∧
      echo.authorization = some "Basic c3ZjOnA6dw==" ∧
      parseJson Codec.json { status := 200, body := utf8 echo.body } = .ok value := by
  intro words refusals config value client
  have plain : value.Every Json.Plain := by
    have least : Json.Every Json.Plain (.number (.integer (-9223372036854775808))) := Json.plain_integer (by decide)
    have lines : Json.Every Json.Plain (.array [.text "\"a\"\nb", .null]) :=
      Json.plain_array (by simp [Json.plain_text, Json.plain_null])
    exact Json.plain_object (by decide) (by simp [least, lines])
  have sorted : value.Every Json.IsSorted := by
    have scalar (part : Json) (none : part.members? = none) : part.IsSorted := by
      rintro members rfl
      cases none
    have quoted := Json.Every.leaf (scalar (.text "\"a\"\nb") rfl) rfl
    have null := Json.Every.leaf (scalar .null rfl) rfl
    have lines : (Json.array [.text "\"a\"\nb", .null]).Every Json.IsSorted :=
      .intro (scalar _ rfl) (by simp [Json.children, quoted, null])
    have least := Json.Every.leaf (scalar (.number (.integer (-9223372036854775808))) rfl) rfl
    refine .intro ?_ (by simp [value, Json.children, least, lines])
    rintro members same
    cases Json.object.inj same
    decide
  have nests : Json.NestsWithin 2 value := by
    simp [value, Json.NestsWithin, Json.children, Json.IsCollection, Json.items?, Json.members?]
  obtain ⟨request, echo, -, result, -, -, -, authorization, -, -, -, -, decoded, same, -⟩ :=
    payload_echoed toString config [] plain (by decide +kernel)
  rw [same sorted] at decoded
  exact ⟨echo, result, authorization.trans (by decide +kernel), decoded (nests.mono (by decide))⟩

end Mock

end ScanCheck
