import AttachmentFetch.CommandLine.Parser
import AttachmentFetch.Proofs.Text.Decimal
import Mathlib.Data.List.Nodup

/-! Command lines as they are written. A command that is written with its options in any order
is read back, and so is the configuration file, which may be named on either side of the
command's name. What lacks an option that is wanted, or has one twice, is not a command. -/
namespace AttachmentFetch.CommandLine

def argument (entry : Opt × String) : String :=
  "--" ++ entry.1.name ++ "=" ++ entry.2

def Values.enter (level : Level) (values : Values) (entry : Opt × String) :
    Except UsageError Values :=
  if entry.1 ∈ level.options then values.setOnce entry.1 entry.2
  else .error (.unknownArgument s!"--{entry.1.name}")

section Scan
variable (level : Level) (values : Values) (entry : Opt × String)

theorem toList_argument :
    (argument entry).toList = '-' :: '-' :: (entry.1.name.toList ++ '=' :: entry.2.toList) := by
  rw [argument, String.toList_append, String.toList_append, String.toList_append]
  simp only [List.append_assoc]
  rfl

theorem splitValue_argument :
    splitValue (entry.1.name.toList ++ '=' :: entry.2.toList) = (entry.1.name, some entry.2) := by
  have plain : ∀ c ∈ entry.1.name.toList, decide (c ≠ '=') = true := by
    rw [← List.all_eq_true]
    cases entry.1 <;> rfl
  unfold splitValue
  rw [List.dropWhile_append_of_pos plain, List.takeWhile_append_of_pos plain]
  simp [String.ofList_toList]

theorem find?_name (option : Opt) : level.options.find? (·.name = option.name) =
    if option ∈ level.options then some option else none := by
  cases level <;> cases option <;> rfl

theorem config_mem_options : .config ∈ level.options := by
  cases level <;> decide

theorem argument_ne {word : String} (bare : word.toList.head? ≠ some '-') :
    argument entry ≠ word := by
  rintro rfl
  rw [toList_argument] at bare
  exact bare rfl

theorem ofName?_argument : Level.ofName? (argument entry) = none := by
  unfold Level.ofName?
  split
  next same => exact absurd same (argument_ne entry (by decide))
  next same => exact absurd same (argument_ne entry (by decide))
  next => rfl

theorem meet_attached (option : Opt) (text : String) :
    Progress.meet { values := values } option (some text) =
      (values.setOnce option text).map ({ values := · }) := by
  change (values.setOnce option text).bind (fun values => .ok (Progress.mk values none)) = _
  cases values.setOnce option text <;> rfl

theorem readLong_argument :
    readLong level { values } (entry.1.name.toList ++ '=' :: entry.2.toList) =
      (values.enter level entry).map ({ values := · }) := by
  have flagless : entry.1.name ≠ "help" ∧ entry.1.name ≠ "version" := by
    cases entry.1 <;> decide
  unfold readLong Values.enter
  rw [splitValue_argument]
  simp only [find?_name]
  by_cases own : entry.1 ∈ level.options
  · simp only [own, if_true, meet_attached]
  · simp only [own, if_false, flagless, false_and]
    rfl

theorem scan_argument (rest : List String) : scan level { values } (argument entry :: rest) =
    (values.enter level entry).bind fun values => scan level { values } rest := by
  have helpless : argument entry ≠ "help" := argument_ne entry (by decide)
  have filled : entry.1.name.toList ++ '=' :: entry.2.toList ≠ [] := by simp
  rw [scan.eq_def]
  simp only [ofName?_argument, ite_self, helpless, and_false, if_false, toList_argument,
    readLong_argument]
  cases values.enter level entry <;> rfl

def Values.enterAll (level : Level) (values : Values) :
    List (Opt × String) → Except UsageError Values
  | [] => .ok values
  | entry :: rest => (values.enter level entry).bind (·.enterAll level rest)

theorem scan_arguments (entries : List (Opt × String)) :
    scan level { values } (entries.map argument) =
      (values.enterAll level entries).map ({ values := · }, none) := by
  induction entries generalizing values with
  | nil => rfl
  | cons entry rest ih =>
    rw [List.map_cons, scan_argument, Values.enterAll]
    cases values.enter level entry with
    | error => rfl
    | ok values => exact ih values

end Scan

/-- A command line: perhaps a configuration file, a command's name, and options of it. -/
def commandLine (file : Option String) (word : String) (entries : List (Opt × String)) :
    List String :=
  (file.map fun path => argument (.config, path)).toList ++ word :: entries.map argument

def Values.before (file : Option String) : Except UsageError Values :=
  match file with
  | none => .ok {}
  | some path => Values.setOnce {} .config path

theorem scan_word {word : String} {level : Level} (named : Level.ofName? word = some level)
    (values : Values) (rest : List String) :
    scan .program { values } (word :: rest) = .ok ({ values }, some (level, rest)) := by
  rw [scan.eq_def]
  simp only [Progress.awaitsValue, Bool.not_false, and_self, if_true, named]

theorem parse_commandLine {word : String} {level : Level} (named : Level.ofName? word = some level)
    (file : Option String) (entries : List (Opt × String)) :
    parse (commandLine file word entries) = (do
      let outer ← Values.before file
      let inner ← Values.enterAll level {} entries
      let command ← commandOf level inner
      return { config := inner.config <|> outer.config, command }) := by
  have scanned : scan .program {} (commandLine file word entries) =
      (Values.before file).map ({ values := · }, some (level, entries.map argument)) := by
    cases file with
    | none => exact scan_word named {} _
    | some path =>
      refine (scan_argument .program {} (.config, path) _).trans ?_
      change (Values.setOnce {} .config path).bind _ = (Values.setOnce {} .config path).map _
      cases Values.setOnce {} .config path with
      | error => rfl
      | ok outer => exact scan_word named outer _
  rw [parse, scanned]
  cases Values.before file with
  | error => rfl
  | ok outer =>
    simp only [Except.map, bind, Except.bind, scan_arguments]
    cases Values.enterAll level {} entries with
    | error => rfl
    | ok inner => rfl

/-! What has been set, and how often. -/

def Level.required : Level → List Opt
  | program => []
  | register => [.messageId, .attachmentId, .url]
  | fetch => [.attachmentId, .messageId]

section Set
variable {level : Level} {values after : Values} {entries : List (Opt × String)}

theorem isSet_set {option : Opt} {text : String} (set : values.set option text = .ok after)
    (other : Opt) : after.isSet other = true ↔ values.isSet other = true ∨ other = option := by
  unfold Values.set at set
  cases option <;> dsimp only at set
  case url | key | digest | contentType =>
    cases set
    cases other <;> simp [Values.isSet]
  case config | messageId | attachmentId | size =>
    split at set <;> cases set
    cases other <;> simp [Values.isSet]

theorem enter_ok {entry : Opt × String} (entered : values.enter level entry = .ok after) :
    values.isSet entry.1 = false ∧ values.set entry.1 entry.2 = .ok after := by
  unfold Values.enter Values.setOnce at entered
  split at entered
  · split at entered
    · cases entered
    next unset => exact ⟨eq_false_of_ne_true unset, entered⟩
  · cases entered

theorem enterAll_ok (entered : values.enterAll level entries = .ok after) :
    (entries.map Prod.fst).Nodup ∧ (∀ option ∈ entries.map Prod.fst, values.isSet option = false) ∧
      ∀ option, after.isSet option = true ↔
        values.isSet option = true ∨ option ∈ entries.map Prod.fst := by
  induction entries generalizing values with
  | nil =>
    cases entered
    simp
  | cons entry rest ih =>
    rw [Values.enterAll] at entered
    cases first : values.enter level entry with
    | error => rw [first] at entered; cases entered
    | ok middle =>
      rw [first] at entered
      obtain ⟨unset, set⟩ := enter_ok first
      obtain ⟨apart, before, then_⟩ := ih entered
      have now := isSet_set set
      refine ⟨List.nodup_cons.2 ⟨fun again => ?_, apart⟩, ?_, fun option => ?_⟩
      · exact absurd ((now entry.1).2 (.inr rfl)) (ne_true_of_eq_false (before entry.1 again))
      · intro option listed
        rcases List.mem_cons.1 listed with rfl | listed
        · exact unset
        · by_contra already
          have already := (now option).2 (.inl (eq_true_of_ne_false already))
          exact absurd already (ne_true_of_eq_false (before option listed))
      · rw [then_, now, List.map_cons, List.mem_cons, or_assoc]

theorem commandOf_ok {command : Command} (made : commandOf level values = .ok command) :
    ∀ option ∈ level.required, values.isSet option = true := by
  unfold commandOf at made
  split at made <;> cases made
  next message attachment url =>
    simp [Level.required, Values.isSet, message, attachment, url]
  next message attachment =>
    simp [Level.required, Values.isSet, message, attachment]

end Set

/-! A command's own values. -/

inductive Assignment where
  | config (path : String)
  | messageId (id : Int64)
  | attachmentId (id : Int64)
  | url (text : String)
  | size (bytes : UInt64)
  | key (text : String)
  | digest (text : String)
  | contentType (text : String)
  deriving DecidableEq, Repr

namespace Assignment

def entry : Assignment → Opt × String
  | config path => (.config, path)
  | messageId id => (.messageId, id.toInt.repr)
  | attachmentId id => (.attachmentId, id.toInt.repr)
  | url text => (.url, text)
  | size bytes => (.size, bytes.toNat.repr)
  | key text => (.key, text)
  | digest text => (.digest, text)
  | contentType text => (.contentType, text)

def assign (values : Values) : Assignment → Values
  | config path => { values with config := some path }
  | messageId id => { values with messageId := some id }
  | attachmentId id => { values with attachmentId := some id }
  | url text => { values with url := some text }
  | size bytes => { values with size := some bytes }
  | key text => { values with key := some text }
  | digest text => { values with digest := some text }
  | contentType text => { values with contentType := some text }

theorem set_entry {assignment : Assignment} (named : assignment ≠ .config "") (values : Values) :
    values.set assignment.entry.1 assignment.entry.2 = .ok (assign values assignment) := by
  cases assignment with
  | config path =>
    have filled : ¬path.isEmpty := fun empty => named (by rw [String.isEmpty_iff.1 empty])
    exact if_neg filled
  | messageId id | attachmentId id =>
    simp only [entry, Values.set, Text.readInt64_repr, assign]
  | size bytes =>
    simp only [entry, Values.set, Text.readUInt64_repr, assign]
  | url | key | digest | contentType => rfl

theorem assign_comm {first second : Assignment} (apart : first.entry.1 ≠ second.entry.1)
    (values : Values) :
    assign (assign values first) second = assign (assign values second) first := by
  cases first <;> cases second <;> first | rfl | exact absurd rfl apart

theorem foldl_assign_perm {listed own : List Assignment} (order : listed.Perm own)
    (apart : (own.map (·.entry.1)).Nodup) (values : Values) :
    listed.foldl assign values = own.foldl assign values := by
  refine order.foldl_eq' (fun first here second there values => ?_) values
  by_cases same : first.entry.1 = second.entry.1
  · rw [List.inj_on_of_nodup_map apart (order.mem_iff.1 here) (order.mem_iff.1 there) same]
  · exact assign_comm same values

theorem enterAll_assignments {level : Level} {listed : List Assignment} {values : Values}
    (own : ∀ assignment ∈ listed, assignment.entry.1 ∈ level.options)
    (named : .config "" ∉ listed) (apart : (listed.map (·.entry.1)).Nodup)
    (unset : ∀ assignment ∈ listed, values.isSet assignment.entry.1 = false) :
    values.enterAll level (listed.map entry) = .ok (listed.foldl assign values) := by
  induction listed generalizing values with
  | nil => rfl
  | cons first rest ih =>
    obtain ⟨new, apart⟩ := List.nodup_cons.1 apart
    have set := set_entry (fun same => named (same ▸ List.mem_cons_self)) values
    have entered : values.enter level first.entry = .ok (assign values first) := by
      rw [Values.enter, if_pos (own first List.mem_cons_self), Values.setOnce,
        if_neg (ne_true_of_eq_false (unset first List.mem_cons_self)), set]
    rw [List.map_cons, Values.enterAll, entered, List.foldl_cons]
    refine ih (fun other listed => own other (List.mem_cons_of_mem _ listed))
      (fun listed => named (List.mem_cons_of_mem _ listed)) apart fun other listed => ?_
    have before := unset other (List.mem_cons_of_mem _ listed)
    by_contra already
    rcases (isSet_set set _).1 (eq_true_of_ne_false already) with already | same
    · exact absurd already (ne_true_of_eq_false before)
    · exact new (List.mem_map.2 ⟨other, listed, same⟩)

end Assignment

/-! The ways to write what is asked for. -/

def Registration.assignments (registration : Registration) : List Assignment :=
  [.messageId registration.message.value, .attachmentId registration.attachment.value,
    .url registration.url] ++ (registration.key.map .key).toList ++
    (registration.digest.map .digest).toList ++ (registration.contentType.map .contentType).toList

namespace Command

def level : Command → Level
  | register _ => .register
  | fetch .. => .fetch

def word : Command → String
  | register _ => "register"
  | fetch .. => "fetch"

theorem ofName?_word (command : Command) : Level.ofName? command.word = some command.level := by
  cases command <;> rfl

/-- The options that a command is written with. A size may be left out when it is 0. -/
inductive Written : Command → List Assignment → Prop where
  | register (registration : Registration) :
    Written (register registration) (.size registration.size :: registration.assignments)
  | unsized (registration : Registration) (unknown : registration.size = 0) :
    Written (register registration) registration.assignments
  | fetch (attachment : AttachmentId) (message : MessageId) :
    Written (fetch attachment message) [.attachmentId attachment.value, .messageId message.value]

namespace Written
variable {command : Command} {own : List Assignment}

theorem apart (written : command.Written own) :
    (own.map (·.entry.1)).Nodup ∧ .config ∉ own.map (·.entry.1) := by
  cases written with
  | register registration | unsized registration =>
    obtain ⟨_, _, _, _, key, digest, contentType⟩ := registration
    cases key <;> cases digest <;> cases contentType <;>
      simp [Registration.assignments, Assignment.entry]
  | fetch => simp [Assignment.entry]

theorem options (written : command.Written own) :
    ∀ assignment ∈ own, assignment.entry.1 ∈ command.level.options := by
  cases written with
  | register registration | unsized registration =>
    obtain ⟨_, _, _, _, key, digest, contentType⟩ := registration
    cases key <;> cases digest <;> cases contentType <;>
      simp [Registration.assignments, Assignment.entry, level, Level.options]
  | fetch => simp [Assignment.entry, level, Level.options]

theorem read (written : command.Written own) (file : Option String) :
    (own.foldl Assignment.assign { config := file }).config = file ∧
      commandOf command.level (own.foldl Assignment.assign { config := file }) = .ok command := by
  cases written with
  | register registration =>
    obtain ⟨_, _, _, _, key, digest, contentType⟩ := registration
    cases key <;> cases digest <;> cases contentType <;> exact ⟨rfl, rfl⟩
  | unsized registration unknown =>
    obtain ⟨_, _, _, size, key, digest, contentType⟩ := registration
    obtain rfl : size = 0 := unknown
    cases key <;> cases digest <;> cases contentType <;> exact ⟨rfl, rfl⟩
  | fetch => exact ⟨rfl, rfl⟩

theorem enterAll (written : command.Written own) {file : Option String} (named : file ≠ some "")
    {listed : List Assignment} (order : listed.Perm ((file.map .config).toList ++ own)) :
    ∃ inner, Values.enterAll command.level {} (listed.map Assignment.entry) = .ok inner ∧
      inner.config = file ∧ commandOf command.level inner = .ok command := by
  let all : List Assignment := (file.map .config).toList ++ own
  have ofLevel : ∀ assignment ∈ all, assignment.entry.1 ∈ command.level.options := by
    intro assignment among
    rcases List.mem_append.1 among with config | among
    · obtain ⟨path, -, rfl⟩ := Option.map_eq_some_iff.1 (Option.mem_toList.1 config)
      exact config_mem_options command.level
    · exact written.options assignment among
  have filled : .config "" ∉ all := by
    intro among
    rcases List.mem_append.1 among with config | among
    · obtain ⟨path, found, same⟩ := Option.map_eq_some_iff.1 (Option.mem_toList.1 config)
      cases same
      exact named found
    · exact written.apart.2 (List.mem_map.2 ⟨_, among, rfl⟩)
  have apart : (all.map (·.entry.1)).Nodup := by
    cases file with
    | none => exact written.apart.1
    | some path => exact List.nodup_cons.2 written.apart.symm
  have entered : Values.enterAll command.level {} (listed.map Assignment.entry) =
      .ok (listed.foldl Assignment.assign {}) :=
    Assignment.enterAll_assignments (fun assignment among => ofLevel _ (order.mem_iff.1 among))
      (fun among => filled (order.mem_iff.1 among)) ((order.map _).nodup_iff.2 apart)
      (fun assignment _ => by cases assignment <;> rfl)
  rw [Assignment.foldl_assign_perm order apart] at entered
  refine ⟨_, entered, ?_⟩
  cases file with
  | none => exact written.read none
  | some path => exact written.read (some path)

end Written

end Command

/-- The command lines that an invocation is written as. -/
inductive Rendering : Invocation → List String → Prop where
  | plain {command : Command} {own listed : List Assignment} (written : command.Written own)
      (order : listed.Perm own) :
    Rendering ⟨none, command⟩ (commandLine none command.word (listed.map Assignment.entry))
  | configBefore {path : String} {command : Command} {own listed : List Assignment}
      (named : path ≠ "") (written : command.Written own) (order : listed.Perm own) :
    Rendering ⟨some path, command⟩
      (commandLine (some path) command.word (listed.map Assignment.entry))
  | configAmong {path : String} {command : Command} {own listed : List Assignment}
      (named : path ≠ "") (written : command.Written own)
      (order : listed.Perm (.config path :: own)) :
    Rendering ⟨some path, command⟩ (commandLine none command.word (listed.map Assignment.entry))

theorem before_named {path : String} (named : path ≠ "") :
    Values.before (some path) = .ok { config := some path } :=
  if_neg fun empty => named (String.isEmpty_iff.1 empty)

theorem parse_rendering {invocation : Invocation} {arguments : List String}
    (rendered : Rendering invocation arguments) : parse arguments = .ok invocation := by
  cases rendered with
  | plain written order =>
    obtain ⟨inner, entered, config, made⟩ := written.enterAll (Option.some_ne_none "").symm order
    rw [parse_commandLine (Command.ofName?_word _)]
    simp only [Values.before, entered, made, config, bind, Except.bind]
    rfl
  | configBefore named written order =>
    obtain ⟨inner, entered, config, made⟩ := written.enterAll (Option.some_ne_none "").symm order
    rw [parse_commandLine (Command.ofName?_word _), before_named named]
    simp only [entered, made, config, bind, Except.bind]
    rfl
  | configAmong named written order =>
    obtain ⟨inner, entered, config, made⟩ :=
      written.enterAll (mt Option.some.inj named) order
    rw [parse_commandLine (Command.ofName?_word _)]
    simp only [Values.before, entered, made, config, bind, Except.bind]
    rfl

theorem parse_refuses {word : String} {level : Level} (named : Level.ofName? word = some level)
    (file : Option String) {entries : List (Opt × String)}
    (wrong : (∃ option ∈ level.required, option ∉ entries.map Prod.fst) ∨
      ¬(entries.map Prod.fst).Nodup) :
    ∃ error, parse (commandLine file word entries) = .error error := by
  rw [parse_commandLine named]
  cases Values.before file with
  | error error => exact ⟨error, rfl⟩
  | ok outer =>
    cases entered : Values.enterAll level {} entries with
    | error error => exact ⟨error, rfl⟩
    | ok inner =>
      obtain ⟨apart, -, set⟩ := enterAll_ok entered
      cases made : commandOf level inner with
      | error error => exact ⟨error, by simp only [bind, Except.bind, made]⟩
      | ok command =>
        rcases wrong with ⟨option, required, missing⟩ | repeated
        · rcases (set option).1 (commandOf_ok made option required) with empty | among
          · cases option <;> cases empty
          · exact absurd among missing
        · exact absurd apart repeated

theorem exists_written (command : Command) : ∃ own, command.Written own := by
  cases command with
  | register registration => exact ⟨_, .register registration⟩
  | fetch attachment message => exact ⟨_, .fetch attachment message⟩

/-- Parsing undoes writing. Every invocation whose configuration file, if it has one, has a name
can be written, and however it is written, it is read back. A command is refused when an option
is missing that it needs, and when one is there twice. -/
theorem written_is_read :
    (∀ invocation : Invocation, invocation.config ≠ some "" →
      ∃ arguments, Rendering invocation arguments) ∧
    (∀ invocation arguments, Rendering invocation arguments → parse arguments = .ok invocation) ∧
    (∀ word level, Level.ofName? word = some level → ∀ file entries,
      ((∃ option ∈ level.required, option ∉ entries.map Prod.fst) ∨
        ¬(entries.map Prod.fst).Nodup) →
      ∃ error, parse (commandLine file word entries) = .error error) := by
  refine ⟨fun ⟨config, command⟩ named => ?_, fun _ _ => parse_rendering,
    fun _ _ named file _ wrong => parse_refuses named file wrong⟩
  obtain ⟨own, written⟩ := exists_written command
  cases config with
  | none => exact ⟨_, .plain written (.refl own)⟩
  | some path =>
    exact ⟨_, .configBefore (fun empty => named (congrArg some empty)) written (.refl own)⟩

/-- Values that look like options, the least of the numbers, and no size. -/
theorem written_is_read_unsized :
    parse (commandLine none "register" ([.url "--size=1", .config "courier.toml",
        .attachmentId (-9223372036854775808), .messageId 7, .key ""].map Assignment.entry)) =
      .ok ⟨some "courier.toml", .register {
        message := ⟨7⟩, attachment := ⟨-9223372036854775808⟩, url := "--size=1", key := some "" }⟩ ∧
    ∃ error, parse (commandLine none "fetch" ([.attachmentId 5, .messageId 10,
      .messageId 10].map Assignment.entry)) = .error error :=
  ⟨written_is_read.2.1 _ _ (.configAmong (by decide) (.unsized _ rfl) (by decide)),
    written_is_read.2.2 "fetch" .fetch rfl none _ (.inr (by decide))⟩

end AttachmentFetch.CommandLine
