import AttachmentFetch.Proofs.Json.Record
import AttachmentFetch.Download.Transfer

/-! The compact text of a JSON envelope: it is a little longer than the blob in it, and
the blob is read from it. -/
namespace AttachmentFetch

namespace Json

def IsPlain (byte : UInt8) : Prop := 32 ≤ byte ∧ byte < 128 ∧ byte ≠ quote ∧ byte ≠ backslash

instance : DecidablePred IsPlain := fun byte =>
  inferInstanceAs (Decidable (32 ≤ byte ∧ byte < 128 ∧ byte ≠ quote ∧ byte ≠ backslash))

theorem stringBytes_plain {bytes : Bytes} (plain : ∀ byte ∈ bytes, IsPlain byte) {clock : Bytes}
    (rest : Bytes) (enough : bytes.length < clock.length) :
    stringBytes clock (bytes ++ quote :: rest) = .ok (bytes, rest) := by
  have verbatim : ∀ byte ∈ bytes, Verbatim byte := fun byte listed =>
    ⟨(plain byte listed).1, (plain byte listed).2.2⟩
  have ended : stringBytes (clock.drop bytes.length) (quote :: rest) = .ok ([], rest) := by
    rw [List.drop_eq_getElem_cons enough]
    rfl
  rw [stringBytes_verbatim verbatim enough.le ended, List.append_nil]

theorem string_plain {bytes : Bytes} (plain : ∀ byte ∈ bytes, IsPlain byte) (rest : Bytes) :
    string (bytes ++ quote :: rest) = .ok (Text.Utf8.ofAscii bytes, rest) := by
  have enough : bytes.length < (bytes ++ quote :: rest).length := by simp
  rw [string, stringBytes_plain plain rest enough]
  simp only [Text.Utf8.decode_ascii fun byte listed => (plain byte listed).2.1]

end Json

namespace Transfer

/-- The body of a response whose blob comes in a JSON envelope. -/
def compact (blob : Bytes) : Bytes :=
  Text.Utf8.encode ("\x7b\"result\":\"" ++ Text.Base64.text blob ++ "\"\x7d")

open Json (quote colon objectOpen objectClose) in
theorem compact_eq (blob : Bytes) :
    compact blob = objectOpen :: quote :: (Text.Utf8.encode "result" ++
      quote :: colon :: quote :: (Text.Base64.encode blob ++ [quote, objectClose])) := by
  rw [compact, Text.Utf8.encode_append, Text.Utf8.encode_append, Text.Base64.encode_text]
  simp
  rfl

theorem length_compact (blob : Bytes) :
    (compact blob).length = 4 * ((blob.length + 2) / 3) + 13 := by
  have name : (Text.Utf8.encode "result").length = 6 := by decide
  simp only [compact_eq, List.length_cons, List.length_append, name, Text.Base64.length_encode,
    List.length_nil]
  omega

theorem isPlain_encode {blob : Bytes} : ∀ byte ∈ Text.Base64.encode blob, Json.IsPlain byte := by
  intro byte listed
  obtain ⟨least, most, notBackslash⟩ := Text.Base64.encode_range byte listed
  refine ⟨UInt8.le_trans (by decide) least, UInt8.lt_trans most (by decide), ?_, notBackslash⟩
  rintro rfl
  exact absurd least (by decide)

theorem ofAscii_result : Text.Utf8.ofAscii (Text.Utf8.encode "result") = "result" := by decide

open Json (quote colon objectOpen objectClose) in
theorem read_compact (blob : Bytes) :
    Json.readAll responseShape.read (compact blob) = .ok (Text.Base64.text blob) := by
  have all : (Text.Utf8.encode "result").all (Json.IsPlain ·) = true := by decide
  have named : ∀ byte ∈ Text.Utf8.encode "result", Json.IsPlain byte := by simpa using all
  have name := Json.string_plain named
    (colon :: quote :: (Text.Base64.encode blob ++ [quote, objectClose]))
  have text := Json.string_plain (@isPlain_encode blob) [objectClose]
  rw [ofAscii_result] at name
  have known : responseShape.fields.find? (·.name = "result") = responseShape.fields.head? := by
    simp [responseShape]
  rw [compact_eq]
  generalize Text.Utf8.encode "result" ++ quote :: colon :: quote ::
    (Text.Base64.encode blob ++ [quote, objectClose]) = body at name ⊢
  have entry : responseShape.entries (objectOpen :: quote :: body) true none (quote :: body) =
      responseShape.entries (quote :: body) false (some (Text.Base64.text blob)) [objectClose] :=
    responseShape.entries_entry objectOpen (quote :: body) rfl name known rfl rfl
      (congrArg (Json.mapRead some) text)
  have object : responseShape.ofObject (quote :: body) = .ok (Text.Base64.text blob, []) := by
    rw [Json.Shape.ofObject, show responseShape.empty = none from rfl, entry]
    rfl
  rw [Json.readAll, show responseShape.read (objectOpen :: quote :: body) =
    responseShape.ofObject (quote :: body) from rfl, object]
  rfl

theorem decodeEnvelope_compact (blob : Bytes) : decodeEnvelope (compact blob) = .ok blob := by
  rw [decodeEnvelope, read_compact]
  simp only [Text.Base64.encode_text, Text.Base64.decode_encode]

end Transfer
end AttachmentFetch
