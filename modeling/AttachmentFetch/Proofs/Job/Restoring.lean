import AttachmentFetch.Client

/-! From which records a download job is restored. The key decides whose record it is; the
payload has to hold two integers under the right names, or as a list of just these. -/
namespace AttachmentFetch

/-- No two entries of an object have one name. Every value that was read, and every payload
that was made for a record, is of this kind. -/
def Json.Value.NamesDistinct : Json.Value → Prop
  | .object entries => (entries.map Prod.fst).Nodup
  | _ => True

namespace DownloadTask

/-- The payloads that stand for a task. -/
inductive Spells : Json.Value → DownloadTask → Prop
  | object {entries attachment message}
    (attached : entries.lookup "attachment_id" = some (Json.ofInt64 attachment))
    (messaged : entries.lookup "message_id" = some (Json.ofInt64 message)) :
    Spells (.object entries) ⟨⟨attachment⟩, ⟨message⟩⟩
  | list (attachment message : Int64) :
    Spells (.array [Json.ofInt64 attachment, Json.ofInt64 message]) ⟨⟨attachment⟩, ⟨message⟩⟩

theorem id_ofInt64 (value : Int64) : id (Json.ofInt64 value) = .ok value := by
  simp only [id, Json.ofInt64, Json.Number.toInt64, int64?_toInt]

theorem id_iff {value : Json.Value} {n : Int64} : id value = .ok n ↔ value = Json.ofInt64 n := by
  constructor
  · intro read
    cases value with
    | number value =>
      cases value with
      | integer value inRange =>
        unfold id Json.Number.toInt64 at read
        dsimp only at read
        split at read
        next found =>
          cases read
          simp only [Json.ofInt64, toInt_of_int64? found]
        next => cases read
      | float value => cases read
    | null | bool _ | string _ | array _ | object _ => cases read
  · rintro rfl
    exact id_ofInt64 n

def Gives (entries : List (String × Json.Value)) (name : String) (given : Option Int64)
    (n : Int64) : Prop :=
  match entries.lookup name with
  | some value => value = Json.ofInt64 n
  | none => given = some n

theorem gives_of_ne {entries : List (String × Json.Value)} {name other : String}
    {value : Json.Value} {given : Option Int64} {n : Int64} (differs : name ≠ other) :
    Gives ((other, value) :: entries) name given n ↔ Gives entries name given n := by
  rw [Gives, List.lookup_cons, beq_eq_false_iff_ne.2 differs]
  rfl

theorem gives_of_new {entries : List (String × Json.Value)} {name : String} {given n : Int64}
    (new : name ∉ entries.map Prod.fst) : Gives entries name (some given) n ↔ given = n := by
  have none : entries.lookup name = none := by
    rw [List.lookup_eq_none_iff]
    intro entry listed
    rw [bne_iff_ne]
    rintro rfl
    exact new (List.mem_map_of_mem listed)
  rw [Gives, none, Option.some_inj]

theorem gives_here {entries : List (String × Json.Value)} {name : String} {value : Json.Value}
    {given : Option Int64} {n : Int64} :
    Gives ((name, value) :: entries) name given n ↔ value = Json.ofInt64 n := by
  rw [Gives, List.lookup_cons, beq_self_eq_true]

theorem ofEntries_iff {entries : List (String × Json.Value)} {task : DownloadTask}
    (distinct : (entries.map Prod.fst).Nodup) (first second : Option Int64) :
    ofEntries entries first second = .ok task ↔
      Gives entries "attachment_id" first task.attachment.value ∧
        Gives entries "message_id" second task.message.value := by
  obtain ⟨⟨attachment⟩, ⟨message⟩⟩ := task
  induction entries generalizing first second with
  | nil => cases first <;> cases second <;> simp [ofEntries, Gives]
  | cons entry rest ih =>
    obtain ⟨name, value⟩ := entry
    obtain ⟨new, others⟩ : name ∉ rest.map Prod.fst ∧ (rest.map Prod.fst).Nodup :=
      List.nodup_cons.1 distinct
    unfold ofEntries
    split
    next named =>
      subst named
      rw [gives_here, gives_of_ne (by decide), ← id_iff]
      cases id value with
      | error cause => simp [bind, Except.bind]
      | ok n => simp [bind, Except.bind, ih others, gives_of_new new]
    next other =>
      split
      next named =>
        subst named
        rw [gives_here, gives_of_ne (by decide), ← id_iff]
        cases id value with
        | error cause => simp [bind, Except.bind]
        | ok n => simp [bind, Except.bind, ih others, gives_of_new new]
      next other' =>
        rw [gives_of_ne (Ne.symm other), gives_of_ne (Ne.symm other')]
        exact ih others first second

theorem gives_none_iff {entries : List (String × Json.Value)} {name : String} {n : Int64} :
    Gives entries name none n ↔ entries.lookup name = some (Json.ofInt64 n) := by
  unfold Gives
  split
  next value found => rw [found, Option.some_inj]
  next missing => simp [missing]

theorem ofPayload_iff {payload : Json.Value} (distinct : payload.NamesDistinct)
    {task : DownloadTask} : ofPayload payload = .ok task ↔ Spells payload task := by
  constructor
  · intro read
    unfold ofPayload at read
    dsimp only at read
    split at read
    next entries =>
      obtain ⟨attached, messaged⟩ := (ofEntries_iff distinct none none).1 read
      exact .object (gives_none_iff.1 attached) (gives_none_iff.1 messaged)
    next => cases read
    next attachment =>
      cases made : id attachment <;> simp [made, bind, Except.bind] at read
    next attachment message rest =>
      cases made : id attachment with
      | error cause => simp [made, bind, Except.bind] at read
      | ok n =>
        cases made' : id message with
        | error cause => simp [made, made', bind, Except.bind] at read
        | ok m =>
          cases rest with
          | nil =>
            simp [made, made', bind, Except.bind, pure, Except.pure] at read
            rw [← read, id_iff.1 made, id_iff.1 made']
            exact .list n m
          | cons more rest => simp [made, made', bind, Except.bind] at read
    next => cases read
  · rintro (⟨attached, messaged⟩ | ⟨attachment, message⟩)
    · exact (ofEntries_iff distinct none none).2
        ⟨gives_none_iff.2 attached, gives_none_iff.2 messaged⟩
    · simp [ofPayload, id_ofInt64, bind, Except.bind, pure, Except.pure]

/-- A record of another factory is refused by its key, whatever its payload. Of the others
those are restored whose payload is an object with an integer of 64 bits under each of the two
names, and whatever else, or a list of two such integers; any other is malformed. So entries
of other names can come, go and change without changing what is restored. -/
theorem restores_exactly (services : Services ρ) (settings : DownloadSettings)
    (record : JobRecord) (distinct : record.payload.NamesDistinct) :
    (∀ found, ofRecord record = .error (.factoryMismatch found) ↔
      record.factoryKey ≠ downloadJobKey ∧ found = record.factoryKey) ∧
    (∀ task, ofRecord record = .ok task ↔
      record.factoryKey = downloadJobKey ∧ Spells record.payload task) ∧
    ((∃ text, ofRecord record = .error (.malformed text)) ↔
      record.factoryKey = downloadJobKey ∧ ∀ task, ¬Spells record.payload task) ∧
    (∀ entries others, record.payload = .object entries →
      (Json.Value.object others).NamesDistinct →
      others.lookup "attachment_id" = entries.lookup "attachment_id" →
      others.lookup "message_id" = entries.lookup "message_id" →
      ∀ task, ofRecord { record with payload := .object others } = .ok task ↔
        ofRecord record = .ok task) ∧
    (∀ job, restoredJob services settings record = .ok job ↔
      ∃ task, ofRecord record = .ok task ∧ job = downloadJob services settings task) ∧
    ∀ error, restoredJob services settings record = .error error ↔
      ofRecord record = .error error := by
  have restored {record : JobRecord} (distinct : record.payload.NamesDistinct)
      (task : DownloadTask) : ofRecord record = .ok task ↔
        record.factoryKey = downloadJobKey ∧ Spells record.payload task := by
    rw [← ofPayload_iff distinct]
    unfold ofRecord
    split
    next own => cases ofPayload record.payload <;> simp [own]
    next foreign => simp [foreign]
  refine ⟨fun found => ?_, restored distinct, ?_, ?_, fun job => ?_, fun error => ?_⟩
  · unfold ofRecord
    split
    next own => cases ofPayload record.payload <;> simp [own]
    next foreign => simp [foreign, eq_comm]
  · simp only [← ofPayload_iff distinct]
    unfold ofRecord
    split
    next own => cases ofPayload record.payload <;> simp [own]
    next foreign => simp [foreign]
  · intro entries others object distinct' attached messaged task
    rw [restored distinct', restored distinct, object]
    refine and_congr_right fun own => ?_
    constructor <;> rintro (⟨attached', messaged'⟩ | _)
    · exact .object (attached ▸ attached') (messaged ▸ messaged')
    · exact .object (attached ▸ attached') (messaged ▸ messaged')
  · unfold restoredJob
    cases ofRecord record <;> simp [Except.map, eq_comm]
  · unfold restoredJob
    cases ofRecord record <;> simp [Except.map]

def annotated : JobRecord where
  factoryKey := downloadJobKey
  payload := .object [("attachment_id", Json.ofInt64 5), ("message_id", Json.ofInt64 10),
    ("note", .array [.null])]

theorem restores_exactly_annotated :
    let services := (⟨"/p"⟩ : Repository).services
    annotated.payload.NamesDistinct ∧
      restoredJob services { cacheDirectory := "/c" } annotated =
        .ok (downloadJob services { cacheDirectory := "/c" } ⟨⟨5⟩, ⟨10⟩⟩) := by
  intro services
  have distinct : annotated.payload.NamesDistinct := by
    simp [annotated, Json.Value.NamesDistinct]
  obtain ⟨_, accepted, _, _, restored, _⟩ :=
    restores_exactly services { cacheDirectory := "/c" } annotated distinct
  have spelled : Spells annotated.payload ⟨⟨5⟩, ⟨10⟩⟩ := .object rfl rfl
  exact ⟨distinct, (restored _).2 ⟨_, (accepted _).2 ⟨rfl, spelled⟩, rfl⟩⟩

end DownloadTask
end AttachmentFetch
