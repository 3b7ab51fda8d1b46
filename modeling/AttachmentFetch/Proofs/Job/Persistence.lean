import AttachmentFetch.Proofs.Job.Restoring
import AttachmentFetch.Proofs.Json.Record
import AttachmentFetch.Proofs.Json.RoundTrip

/-! What is kept of a job survives: a record is read from its own text as it was, and a task
comes back from the record that was made of it. -/
namespace AttachmentFetch

open Text.Utf8 (ofChars)

theorem Json.Value.Tidy.namesDistinct {depth : Nat} {v : Json.Value} (tidy : v.Tidy depth) :
    v.NamesDistinct := by
  cases tidy with
  | object ordered =>
    refine List.pairwise_map.2 (ordered.imp fun before same => ?_)
    exact String.lt_irrefl _ (same ▸ before)
  | null | bool | number | string | array => trivial

namespace JobRecord

variable {record : JobRecord} {text : String}

/-- How deep the payload of a record may nest, being itself inside of an object. -/
abbrev payloadDepth : Nat := Json.deepest - 1

theorem keeps_tidy :
    shape.Keeps fun fields => ∀ payload, fields.2 = some payload → payload.Tidy payloadDepth where
  empty _ none := by cases none
  field := by
    intro field listed fields next text rest held read
    simp only [shape, List.mem_cons, List.not_mem_nil, or_false] at listed
    rcases listed with rfl | rfl
    · obtain ⟨key, -, rfl⟩ := Json.of_mapRead read
      exact held
    · obtain ⟨payload, valued, rfl⟩ := Json.of_mapRead read
      rintro _ ⟨⟩
      exact Json.value_tidy valued

theorem of_finish {fields : Partial} (finished : shape.finish fields = .ok record) :
    fields = (some record.factoryKey, some record.payload) := by
  rcases fields with ⟨_ | key, _ | payload⟩ <;> cases finished
  rfl

theorem tidy_of_ofJson (read : ofJson text = .ok record) : record.payload.Tidy payloadDepth := by
  unfold ofJson ofBytes at read
  split at read
  next whole =>
    cases read
    obtain ⟨rest, entered⟩ := Json.of_readAll whole
    obtain ⟨fields, held, finished⟩ := keeps_tidy.read entered
    exact held _ (congrArg Prod.snd (of_finish finished))
  · cases read

theorem namesDistinct_of_ofJson (read : ofJson text = .ok record) :
    record.payload.NamesDistinct := (tidy_of_ofJson read).namesDistinct

theorem readString_text (key expected : String) {rest : Bytes} :
    Json.readString expected (ofChars (Json.Value.string key).chars ++ rest) = .ok (key, rest) := by
  change Json.readString expected (ofChars (Json.stringText key) ++ rest) = _
  rw [Json.ofChars_stringText, List.cons_append, List.append_assoc]
  exact Json.string_escaped key rest

open Json (quote comma colon objectOpen objectClose escape)

def inside (record : JobRecord) : Bytes :=
  quote :: (ofChars ("factory_key".toList.flatMap escape) ++ quote :: colon ::
    (ofChars (Json.Value.string record.factoryKey).chars ++ comma :: quote ::
      (ofChars ("payload".toList.flatMap escape) ++ quote :: colon ::
        (ofChars record.payload.chars ++ [objectClose]))))

theorem encode_toJson (record : JobRecord) :
    Text.Utf8.encode record.toJson = objectOpen :: record.inside := by
  rw [toJson, Json.Value.text, Text.Utf8.encode_ofList, ← List.append_nil (ofChars _),
    Json.ofChars_object, Json.entriesChars, Text.Utf8.ofChars_append, List.append_assoc,
    Json.ofChars_entry, Json.ofChars_moreEntries]
  rfl

theorem two_lt_length_inside (record : JobRecord) : 2 < record.inside.length := by
  simp only [inside, List.length_cons, List.length_append]
  omega

theorem entries_inside (tidy : record.payload.Tidy payloadDepth)
    (floatless : record.payload.Floatless) {clock : Bytes} (enough : 2 < clock.length) :
    shape.entries clock true shape.empty record.inside =
      .ok ((some record.factoryKey, some record.payload), [objectClose]) := by
  have closes : Json.Closes [objectClose] := Or.inr (Or.inr rfl)
  match clock, enough with
  | tick₁ :: tick₂ :: tick₃ :: clock, _ =>
    rw [inside, shape.entries_printed tick₁ _ rfl rfl rfl
      (congrArg (Json.mapRead _) (readString_text record.factoryKey "a string"))]
    rw [shape.entries_printed tick₂ _ rfl rfl rfl
      (congrArg (Json.mapRead _) (Json.value_chars tidy floatless _ closes))]
    rfl

theorem readAll_object {body : Bytes}
    (entered : shape.entries (objectOpen :: body) true shape.empty body =
      .ok ((some record.factoryKey, some record.payload), [objectClose])) :
    Json.readAll shape.read (objectOpen :: body) = .ok record := by
  have object : shape.ofObject body = .ok (record, []) := by
    rw [Json.Shape.ofObject, entered]
    rfl
  rw [Json.readAll, show shape.read (objectOpen :: body) = shape.ofObject body from rfl, object]
  rfl

theorem ofJson_toJson (tidy : record.payload.Tidy payloadDepth)
    (floatless : record.payload.Floatless) : ofJson record.toJson = .ok record := by
  have enough : 2 < (objectOpen :: record.inside).length :=
    Nat.lt_succ_of_lt record.two_lt_length_inside
  have whole := readAll_object (entries_inside tidy floatless enough)
  rw [ofJson, ofBytes, encode_toJson, whole]

end JobRecord

namespace DownloadTask

theorem toRecord_tidy (task : DownloadTask) :
    task.toRecord.payload.Tidy JobRecord.payloadDepth := by
  have before : "attachment_id" < "message_id" := by decide
  change Json.Value.Tidy (125 + 1) task.toRecord.payload
  refine .object (List.pairwise_pair.2 before) ?_
  exact List.forall_mem_cons.2 ⟨.number _, List.forall_mem_singleton.2 (.number _)⟩

theorem toRecord_floatless (task : DownloadTask) : task.toRecord.payload.Floatless :=
  .object (List.forall_mem_cons.2 ⟨.integer .., List.forall_mem_singleton.2 (.integer ..)⟩)

theorem ofRecord_toRecord (task : DownloadTask) : ofRecord task.toRecord = .ok task := by
  have payload : ofPayload task.toRecord.payload = .ok task :=
    (ofPayload_iff (by simp [toRecord, Json.Value.NamesDistinct])).2 (.object rfl rfl)
  rw [ofRecord, if_pos (show task.toRecord.factoryKey = downloadJobKey from rfl), payload]

end DownloadTask

/-- Every record that was read from a text is read back from its own, and so has that text
again, unless there is a float in it. And whatever task a job was made for, the record of that
task is written, read and restored to a job for the same task: of the same label, under the
same key, and doing the same. -/
theorem JobRecord.survives_restart (services : Services ρ) (settings : DownloadSettings) :
    (∀ text record, ofJson text = .ok record → record.payload.Floatless →
      ofJson record.toJson = .ok record ∧
        (ofJson record.toJson).map toJson = .ok record.toJson) ∧
    ∀ task : DownloadTask, ∃ record, ofJson task.toRecord.toJson = .ok record ∧
      DownloadTask.ofRecord record = .ok task ∧ record.factoryKey = task.toRecord.factoryKey ∧
      restoredJob services settings record = .ok (downloadJob services settings task) := by
  refine ⟨fun text record read floatless => ?_, fun task => ?_⟩
  · have again := ofJson_toJson (tidy_of_ofJson read) floatless
    exact ⟨again, by rw [again]; rfl⟩
  · refine ⟨task.toRecord, ofJson_toJson task.toRecord_tidy task.toRecord_floatless,
      task.ofRecord_toRecord, rfl, ?_⟩
    rw [restoredJob, task.ofRecord_toRecord]
    rfl

namespace JobRecord

def loose : String :=
  "\x7b \"payload\" : \x7b \"b\": 7, \"a\": \"\\u00e9\\n\", \"b\": [-1, null] \x7d," ++
    "\n  \"factory_key\": \"k\" \x7d\n"

def ofLoose : JobRecord where
  factoryKey := "k"
  payload := .object [("a", .string "é\n"),
    ("b", .array [.number (.integer (-1) (by decide)), .null])]

def isOfLoose : Except JobRecordError JobRecord → Bool
  | .ok ⟨"k", .object [("a", .string "é\n"),
      ("b", .array [.number (.integer (-1) _), .null])]⟩ => true
  | _ => false

theorem eq_of_isOfLoose {read : Except JobRecordError JobRecord} (fits : isOfLoose read) :
    read = .ok ofLoose := by
  unfold isOfLoose at fits
  split at fits
  · rfl
  · cases fits

theorem survives_restart_loose :
    ofJson loose = .ok ofLoose ∧ ofLoose.payload.Floatless ∧
      ofJson ofLoose.toJson = .ok ofLoose := by
  have read : ofJson loose = .ok ofLoose := eq_of_isOfLoose (by decide +kernel)
  have items : Json.Value.Floatless (.array [.number (.integer (-1) (by decide)), .null]) :=
    .array (List.forall_mem_cons.2 ⟨.integer .., List.forall_mem_singleton.2 .null⟩)
  have floatless : ofLoose.payload.Floatless :=
    .object (List.forall_mem_cons.2 ⟨.string _, List.forall_mem_singleton.2 items⟩)
  obtain ⟨kept, _⟩ :=
    survives_restart (⟨"/p"⟩ : Repository).services { cacheDirectory := "/c" }
  exact ⟨read, floatless, (kept loose ofLoose read floatless).1⟩

end JobRecord
end AttachmentFetch
