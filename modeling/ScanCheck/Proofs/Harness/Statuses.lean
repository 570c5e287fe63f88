import ScanCheck.Harness.Report
import ScanCheck.Proofs.Text.Lossy

namespace ScanCheck

/-- The text of a body whose bytes need not be UTF-8: it is the body as far as that is one, and the rest of it
has one replacement character for every malformed stretch. -/
structure LossyText (body : Bytes) (text : String) : Prop where
  valid : ∀ whole : String, body.text? = some whole → text = whole ∧ utf8 text = body
  front : ∀ (front : String) (back : Bytes), body = utf8 front ++ back → text = front ++ back.text
  replaced : ∀ characters, Utf8.Replaced body characters ↔ characters = text.toList
  again : (utf8 text).text = text

theorem text_lossy (body : Bytes) : LossyText body body.text where
  valid whole strict := by
    obtain rfl := Bytes.text?_eq_some_iff.mp strict
    exact ⟨Bytes.text_utf8 whole, congrArg utf8 (Bytes.text_utf8 whole)⟩
  front front back split := split ▸ Bytes.text_utf8_append front back
  replaced characters := by
    rw [Bytes.text, String.toList_ofList]
    exact Utf8.replaced_iff
  again := Bytes.text_utf8 _

variable {α : Type} {codec : Codec α} {response : Response}

theorem parseJson_refused [Codec.Wording] (other : response.status ≠ 200) :
    parseJson codec response = .error (.requestFailed response.status response.text) :=
  if_neg other

theorem parseJson_read [Codec.Wording] (codec : Codec α) (success : response.status = 200) :
    (∃ value, parseJson codec response = .ok value) ∨
      ∃ fault, parseJson codec response = .error (codec.malformed response.body fault) := by
  rw [parseJson, if_pos success]
  cases codec.decode response.body with
  | ok value => exact .inl ⟨value, rfl⟩
  | error fault => exact .inr ⟨fault, rfl⟩

theorem parseJson_malformed [Codec.Wording] (success : response.status = 200)
    (unread : ∀ value, parseJson codec response ≠ .ok value) :
    ∃ fault, parseJson codec response = .error (codec.malformed response.body fault) :=
  (parseJson_read codec success).resolve_left fun ⟨value, read⟩ => unread value read

theorem assertStatus_error_iff {error : HarnessError} : assertStatus response expectedStatus = .error error ↔
    response.status ≠ 200 ∧ error = .assertionFailed 200 response.status response.text := by
  unfold assertStatus expectedStatus
  split
  · simp_all
  · rename_i other
    simp [other, eq_comm]

/-- Client and harness refuse a response for its status alike, with the same status and text and whatever
values the client is to decode; a response of status 200 the client decodes or finds malformed. -/
theorem responses_classified [Codec.Wording] (codec : Codec α) (response : Response) :
    ((∃ status text, parseJson codec response = .error (.requestFailed status text)) ↔
      ∃ error, assertStatus response expectedStatus = .error error) ∧
    (∀ error, assertStatus response expectedStatus = .error error →
      error = .assertionFailed expectedStatus response.status response.text ∧
      parseJson codec response = .error (.requestFailed response.status response.text)) ∧
    (response.status = 200 → (∃ value, parseJson codec response = .ok value) ∨
      ∃ fault, parseJson codec response = .error (codec.malformed response.body fault)) ∧
    LossyText response.body response.text := by
  refine ⟨⟨?_, ?_⟩, ?_, parseJson_read codec, text_lossy response.body⟩
  · rintro ⟨status, text, refused⟩
    refine ⟨_, assertStatus_error_iff.mpr ⟨fun success => ?_, rfl⟩⟩
    obtain ⟨value, read⟩ | ⟨fault, read⟩ := parseJson_read codec success
    · rw [read] at refused
      cases refused
    · rw [read] at refused
      cases refused
  · rintro ⟨error, failed⟩
    exact ⟨_, _, parseJson_refused (assertStatus_error_iff.mp failed).1⟩
  · intro error failed
    obtain ⟨other, text⟩ := assertStatus_error_iff.mp failed
    exact ⟨text, parseJson_refused other⟩

end ScanCheck
