import VibeVoice.Server.Transcribe

/-!
# The other backend

`server/groq_client.py`: what `transcribe_audio_file` makes of the response it
gets.  The compression of the audio and the request are not modelled, and a
failure of either is an exception that `process_groq_job` is resumed with.

The response is given by its status, its text and what `response.json()` does.
Four things can be wrong with it, and each is raised; otherwise the text is
returned as it came, and it may be empty.
-/

namespace VibeVoice

/-- A response, as `httpx` hands it over. -/
structure GroqResponse where
  statusCode : ℕ
  /-- `response.text` -/
  text : String
  /-- `response.json()`, with the text of the exception. -/
  json : Except String PyJson

/-- `transcribe_audio_file`, from the response on. -/
def transcribeAudioFile (py : PythonText) (response : GroqResponse) : GroqReply :=
  let body := "response_body=" ++ py.repr (pyPrefix response.text 500)
  if response.statusCode ≠ 200 then
    .raised (runtimeError
      ("Groq API error " ++ toString response.statusCode ++ ": " ++ response.text))
  else
    match response.json with
    | .error e => .raised (runtimeError ("Groq response is not valid JSON: " ++ e ++ ". " ++ body))
    | .ok (.dict fields) =>
      match fields.lookup "text" with
      | none =>
        .raised (runtimeError ("Groq response missing 'text' key. keys=" ++
          py.reprList (fields.map Prod.fst) ++ ", " ++ body))
      | some (.str text) => .text text
      | some value =>
        .raised (runtimeError ("Groq response 'text' is " ++ value.typeName ++
          ", expected string. " ++ body))
    | .ok parsed =>
      .raised (runtimeError
        ("Groq response is " ++ parsed.typeName ++ ", expected object. " ++ body))

/-- A response with a text in it. -/
def GroqResponse.HasText (response : GroqResponse) (text : String) : Prop :=
  response.statusCode = 200 ∧
    ∃ fields, response.json = .ok (.dict fields) ∧ fields.lookup "text" = some (.str text)

/-- **Only such a response is returned.** -/
theorem transcribeAudioFile_eq_text_iff {py : PythonText} {response : GroqResponse}
    {text : String} : transcribeAudioFile py response = .text text ↔ response.HasText text := by
  unfold transcribeAudioFile GroqResponse.HasText
  by_cases hstatus : response.statusCode = 200
  · cases hjson : response.json with
    | error e => simp [hstatus]
    | ok value =>
      cases value with
      | dict fields =>
        cases hlookup : fields.lookup "text" with
        | none => simp [hstatus, hlookup]
        | some field => cases field <;> simp [hstatus, hlookup]
      | none | bool | int | float | str | list => simp [hstatus]
  · simp [hstatus]

/-- **Everything else is raised**, with a message. -/
theorem transcribeAudioFile_raised {py : PythonText} {response : GroqResponse}
    (h : ∀ text, ¬ response.HasText text) :
    ∃ message, transcribeAudioFile py response = .raised (runtimeError message) := by
  cases hreply : transcribeAudioFile py response with
  | text text => exact absurd (transcribeAudioFile_eq_text_iff.mp hreply) (h text)
  | raised exc =>
    unfold transcribeAudioFile at hreply
    split at hreply
    · exact ⟨_, hreply.symm⟩
    · split at hreply
      · exact ⟨_, hreply.symm⟩
      · split at hreply
        · exact ⟨_, hreply.symm⟩
        · exact absurd hreply (by simp)
        · exact ⟨_, hreply.symm⟩
      · exact ⟨_, hreply.symm⟩

end VibeVoice
