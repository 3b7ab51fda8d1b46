import AttachmentFetch.Proofs.Duration
import AttachmentFetch.Proofs.Machine
import AttachmentFetch.Proofs.Text.Utf8
import Mathlib.Algebra.Group.Nat.Defs

/-! What comes of a configuration file. Every field is read from its own entry, whatever the
rest of the tree looks like; no number wraps around on its way, and none comes out as 0 that
must not be; and what cannot be used is turned down while the machine is still as it was. -/
namespace AttachmentFetch

namespace Toml.Value

def entryAt? (tree : Value) (place : String × String) : Option Value :=
  (tree.get? place.1).bind (·.get? place.2)

def asText : Option Value → String
  | some (string text) => text
  | _ => ""

def asNumber : Option Value → Int
  | some (integer number) => number.toInt
  | _ => 0

theorem asNumber_lt (entry : Option Value) : (asNumber entry).toNat < 2 ^ 63 := by
  unfold asNumber
  split
  next number =>
    have bound := number.toInt_lt
    omega
  · decide

end Toml.Value

open Toml.Value (entryAt? asText asNumber)

namespace Config

inductive Field where
  | databasePath
  | partsDirectory
  | cacheDirectory
  | maxBytes
  | timeoutSeconds
  | responseFormat
  | maxFailures
  | backoffMillis
  | logsDirectory
  deriving DecidableEq, Repr

namespace Field

def place : Field → String × String
  | databasePath => ("storage", "database_path")
  | partsDirectory => ("storage", "parts_dir")
  | cacheDirectory => ("storage", "cache_dir")
  | maxBytes => ("download", "max_attachment_bytes")
  | timeoutSeconds => ("download", "timeout_secs")
  | responseFormat => ("download", "response_format")
  | maxFailures => ("jobs", "max_failure_count")
  | backoffMillis => ("jobs", "retry_backoff_ms")
  | logsDirectory => ("logging", "logs_dir")

def value (config : Config) : Field → String ⊕ Nat
  | databasePath => .inl config.databasePath
  | partsDirectory => .inl config.partsDirectory
  | cacheDirectory => .inl config.cacheDirectory
  | maxBytes => .inr config.maxBytes.toNat
  | timeoutSeconds => .inr config.timeoutSeconds.toNat
  | responseFormat => .inl config.responseFormat
  | maxFailures => .inr config.maxFailures.toNat
  | backoffMillis => .inr config.backoffMillis.toNat
  | logsDirectory => .inl config.logsDirectory

def read (entry : Option Toml.Value) : Field → String ⊕ Nat
  | databasePath | partsDirectory | cacheDirectory | responseFormat | logsDirectory =>
    .inl (asText entry)
  | maxBytes | timeoutSeconds | backoffMillis => .inr (asNumber entry).toNat
  | maxFailures => .inr (min (asNumber entry).toNat (2 ^ 32 - 1))

end Field

section Reading
variable (tree : Toml.Value) (table key : String)

theorem textAt_eq : textAt tree table key = asText (entryAt? tree (table, key)) := by
  unfold textAt entryAt?
  rcases (tree.get? table).bind (·.get? key) with _ | entry
  · rfl
  · cases entry <;> rfl

theorem numberAt_eq : numberAt tree table key = (asNumber (entryAt? tree (table, key))).toNat := by
  unfold numberAt entryAt?
  rcases (tree.get? table).bind (·.get? key) with _ | entry
  · rfl
  · cases entry <;> rfl

theorem toNat_numberAt :
    (UInt64.ofNat (numberAt tree table key)).toNat =
      (asNumber (entryAt? tree (table, key))).toNat := by
  rw [numberAt_eq, UInt64.toNat_ofNat_of_lt']
  exact Nat.lt_trans (Toml.Value.asNumber_lt _) (by decide)

theorem toNat_numberAt_capped :
    (UInt32.ofNat (min (numberAt tree table key) (UInt32.size - 1))).toNat =
      min (asNumber (entryAt? tree (table, key))).toNat (2 ^ 32 - 1) := by
  rw [numberAt_eq]
  exact UInt32.toNat_ofNat_of_lt' (Nat.lt_of_le_of_lt (Nat.min_le_right ..) (by decide))

/-- A field is what it makes of its own entry, and nothing else of the tree matters to it. -/
theorem value_ofToml (field : Field) :
    field.value (ofToml tree) = field.read (entryAt? tree field.place) := by
  cases field with
  | databasePath | partsDirectory | cacheDirectory | responseFormat | logsDirectory =>
    exact congrArg Sum.inl (textAt_eq tree _ _)
  | maxBytes | timeoutSeconds | backoffMillis => exact congrArg Sum.inr (toNat_numberAt tree _ _)
  | maxFailures => exact congrArg Sum.inr (toNat_numberAt_capped tree _ _)

end Reading

def asked (tree : Toml.Value) (field : Field) : Int := asNumber (entryAt? tree field.place)

/-- Settings that are what a tree asks for, with what stands in where it asks for nothing. -/
structure Honoured (tree : Toml.Value) (settings : DownloadSettings) : Prop where
  maxFailures : settings.maxFailures.toNat =
    if asked tree .maxFailures ≤ 0 then 20 else min (asked tree .maxFailures).toNat (2 ^ 32 - 1)
  maxBytes : settings.maxBytes.toNat =
    if asked tree .maxBytes ≤ 0 then 10485760 else (asked tree .maxBytes).toNat
  timeout : settings.options.timeout.map Duration.toNanos =
    if asked tree .timeoutSeconds ≤ 0 then none
    else some ((asked tree .timeoutSeconds).toNat * nanosPerSecond)

namespace Honoured
variable {tree : Toml.Value} {settings : DownloadSettings} (honoured : Honoured tree settings)
include honoured

theorem maxFailures_pos : 0 < settings.maxFailures := by
  have failures := honoured.maxFailures
  rw [UInt32.lt_iff_toNat_lt, UInt32.toNat_zero]
  split at failures <;> omega

theorem maxBytes_pos : 0 < settings.maxBytes := by
  have bytes := honoured.maxBytes
  rw [UInt64.lt_iff_toNat_lt, UInt64.toNat_zero]
  split at bytes <;> omega

theorem second_le_timeout {span : Duration} (limited : settings.options.timeout = some span) :
    nanosPerSecond ≤ span.toNanos := by
  have timeout := honoured.timeout
  rw [limited, Option.map_some] at timeout
  split at timeout
  · cases timeout
  next positive =>
    rw [Option.some.inj timeout]
    exact Nat.le_mul_of_pos_left _ (by omega)

end Honoured

section Settings
variable {config : Config} {settings : DownloadSettings}

theorem format_refused_iff {name : String} :
    (∃ error, BodyFormat.ofConfig name = .error error) ↔ name ∉ ["", "raw", "json_envelope"] := by
  simp only [List.mem_cons, List.not_mem_nil, or_false, not_or]
  unfold BodyFormat.ofConfig
  split
  next => exact ⟨nofun, fun ⟨empty, _⟩ => absurd rfl empty⟩
  next => exact ⟨nofun, fun ⟨_, raw, _⟩ => absurd rfl raw⟩
  next => exact ⟨nofun, fun ⟨_, _, envelope⟩ => absurd rfl envelope⟩
  next empty raw envelope => exact ⟨fun _ => ⟨empty, raw, envelope⟩, fun _ => ⟨_, rfl⟩⟩

theorem settings_error_iff :
    (∃ error, config.settings = .error error) ↔
      config.cacheDirectory = "" ∨ config.responseFormat ∉ ["", "raw", "json_envelope"] := by
  rw [← format_refused_iff, ← String.isEmpty_iff]
  unfold Config.settings
  split
  next nameless => exact ⟨fun _ => .inl nameless, fun _ => ⟨_, rfl⟩⟩
  next named =>
    rcases BodyFormat.ofConfig config.responseFormat with error | format
    · exact ⟨fun _ => .inr ⟨error, rfl⟩, fun _ => ⟨error, rfl⟩⟩
    · refine ⟨nofun, ?_⟩
      rintro (nameless | ⟨_, refused⟩)
      · exact absurd nameless named
      · cases refused

theorem settings_ok (accepted : config.settings = .ok settings) :
    settings.maxBytes = (if config.maxBytes = 0 then defaultMaxBytes else config.maxBytes) ∧
    settings.options.timeout = (if config.timeoutSeconds = 0 then none
      else some (Duration.ofSeconds config.timeoutSeconds)) ∧
    settings.maxFailures =
      (if config.maxFailures = 0 then defaultMaxFailures else config.maxFailures) := by
  unfold Config.settings at accepted
  split at accepted
  · cases accepted
  · cases read : BodyFormat.ofConfig config.responseFormat <;> rw [read] at accepted
    · cases accepted
    · cases accepted
      exact ⟨rfl, rfl, rfl⟩

end Settings

section Numbers

theorem word_eq_zero {word : UInt64} {number : Int} (same : word.toNat = number.toNat) :
    word = 0 ↔ number ≤ 0 := by
  rw [← UInt64.toNat_inj, same]
  exact Int.toNat_eq_zero

variable (tree : Toml.Value)

theorem toNat_maxBytes : (ofToml tree).maxBytes.toNat = (asked tree .maxBytes).toNat :=
  toNat_numberAt tree ..

theorem toNat_timeoutSeconds :
    (ofToml tree).timeoutSeconds.toNat = (asked tree .timeoutSeconds).toNat :=
  toNat_numberAt tree ..

theorem toNat_backoffMillis :
    (ofToml tree).backoffMillis.toNat = (asked tree .backoffMillis).toNat :=
  toNat_numberAt tree ..

theorem toNat_maxFailures :
    (ofToml tree).maxFailures.toNat = min (asked tree .maxFailures).toNat (2 ^ 32 - 1) :=
  toNat_numberAt_capped tree ..

theorem maxFailures_eq_zero : (ofToml tree).maxFailures = 0 ↔ asked tree .maxFailures ≤ 0 := by
  rw [← UInt32.toNat_inj, toNat_maxFailures]
  change min (asked tree .maxFailures).toNat (2 ^ 32 - 1) = 0 ↔ _
  omega

variable {tree} {settings : DownloadSettings}

theorem honoured_of_ok (accepted : (ofToml tree).settings = .ok settings) :
    Honoured tree settings := by
  obtain ⟨bytes, timeout, failures⟩ := settings_ok accepted
  simp only [word_eq_zero (toNat_maxBytes tree), word_eq_zero (toNat_timeoutSeconds tree),
    maxFailures_eq_zero] at bytes timeout failures
  refine ⟨?_, ?_, ?_⟩
  · rw [failures]
    split
    · rfl
    · exact toNat_maxFailures tree
  · rw [bytes]
    split
    · rfl
    · exact toNat_maxBytes tree
  · rw [timeout]
    split
    · rfl
    · rw [Option.map_some, Duration.toNanos_ofSeconds, toNat_timeoutSeconds]

theorem toNanos_backoff (tree : Toml.Value) :
    (ofToml tree).backoff.toNanos =
      if asked tree .backoffMillis ≤ 0 then nanosPerSecond
      else (asked tree .backoffMillis).toNat * 1000000 := by
  unfold backoff
  simp only [word_eq_zero (toNat_backoffMillis tree)]
  split
  · rfl
  · rw [Duration.toNanos_ofMillis, toNat_backoffMillis]

end Numbers

end Config

namespace Program
variable {path : Bytes} {config : Config} {machine : Machine}

theorem databaseName_error_iff :
    (∃ error, databaseName path = .error error) ↔
      path = [] ∨ ¬∃ name, path = Text.Utf8.encode name := by
  simp only [← Text.Utf8.decode_eq_some]
  unfold databaseName
  split
  next empty => exact ⟨fun _ => .inl (List.isEmpty_iff.1 empty), fun _ => ⟨_, rfl⟩⟩
  next filled =>
    have filled : path ≠ [] := fun empty => filled (List.isEmpty_iff.2 empty)
    split
    next name read =>
      refine ⟨nofun, ?_⟩
      rintro (empty | unread)
      · exact absurd empty filled
      · exact absurd ⟨name, read⟩ unread
    next unread =>
      refine ⟨fun _ => .inr ?_, fun _ => ⟨_, rfl⟩⟩
      rintro ⟨name, read⟩
      cases unread.symm.trans read

/-- What it is that a configuration is turned down for. -/
theorem planAt_error_iff :
    (∃ error, planAt path config = .error error) ↔
      (∃ error, config.settings = .error error) ∨
        (path = [] ∨ ¬∃ name, path = Text.Utf8.encode name) ∨ config.partsDirectory = "" := by
  rw [← databaseName_error_iff, ← String.isEmpty_iff]
  unfold planAt
  rcases config.settings with error | settings
  · exact ⟨fun _ => .inl ⟨error, rfl⟩, fun _ => ⟨error, rfl⟩⟩
  rcases databaseName path with error | name
  · exact ⟨fun _ => .inr (.inl ⟨error, rfl⟩), fun _ => ⟨error, rfl⟩⟩
  simp only [bind, Except.bind, reduceCtorEq, exists_false, false_or]
  split
  next partless => exact ⟨fun _ => partless, fun _ => ⟨_, rfl⟩⟩
  next parted => exact ⟨nofun, fun partless => absurd partless parted⟩

end Program

/-- No configuration file makes a budget or a bound 0, or a number another one. Every field is
read from its own entry alone. What is accepted is what was asked for, within 32 bits for the
count of failures, and the default where nothing was, or less than nothing. And a configuration
is turned down for a cache directory or a response format, for the path of its database, or for
a directory of parts that cannot be used, and for nothing else, with the machine as it was. -/
theorem configuration_sound :
    (∀ (tree : Toml.Value) (field : Config.Field),
      field.value (Config.ofToml tree) = field.read (entryAt? tree field.place)) ∧
    (∀ (tree : Toml.Value) (settings : DownloadSettings),
      (Config.ofToml tree).settings = .ok settings →
        Config.Honoured tree settings ∧ 0 < settings.maxFailures ∧ 0 < settings.maxBytes ∧
          (∀ span ∈ settings.options.timeout, nanosPerSecond ≤ span.toNanos) ∧
          (Config.ofToml tree).backoff.toNanos =
            if Config.asked tree .backoffMillis ≤ 0 then nanosPerSecond
            else (Config.asked tree .backoffMillis).toNat * 1000000) ∧
    (∀ config : Config, (∃ error, config.settings = .error error) ↔
      config.cacheDirectory = "" ∨ config.responseFormat ∉ ["", "raw", "json_envelope"]) ∧
    (∀ (path : Bytes) (config : Config),
      ((∃ error, Program.planAt path config = .error error) ↔
        (∃ error, config.settings = .error error) ∨
          (path = [] ∨ ¬∃ name, path = Text.Utf8.encode name) ∨ config.partsDirectory = "") ∧
      ∀ error, Program.planAt path config = .error error →
        ∀ machine, (Program.wireAt path config).on machine = (.error error, machine)) := by
  refine ⟨Config.value_ofToml, fun tree settings accepted => ?_,
    fun _ => Config.settings_error_iff, fun path config =>
      ⟨Program.planAt_error_iff, fun error unplanned _ => Program.wireAt_of_unplanned unplanned⟩⟩
  have honoured := Config.honoured_of_ok accepted
  exact ⟨honoured, honoured.maxFailures_pos, honoured.maxBytes_pos,
    fun span limited => honoured.second_le_timeout limited, Config.toNanos_backoff tree⟩

/-- A section that is no table, a negative number, and one beyond 32 bits. -/
theorem configuration_sound_overlarge :
    let tree : Toml.Value := .table [
      ("storage", .table [("cache_dir", .string "cache")]),
      ("download", .boolean true),
      ("jobs", .table [
        ("max_failure_count", .integer 4294967297), ("retry_backoff_ms", .integer (-1))])]
    ∃ settings, (Config.ofToml tree).settings = .ok settings ∧
      settings.maxFailures.toNat = 4294967295 ∧ settings.maxBytes.toNat = 10485760 ∧
      (Config.ofToml tree).backoff.toNanos = nanosPerSecond := by
  intro tree
  obtain ⟨honoured, -, -, -, backoff⟩ := configuration_sound.2.1 tree _ rfl
  exact ⟨_, rfl, honoured.maxFailures, honoured.maxBytes, backoff⟩

end AttachmentFetch
