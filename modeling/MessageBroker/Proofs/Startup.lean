import Mathlib.Data.List.TakeWhile
import MessageBroker.Config.Startup

/-!
# The configuration the engine starts with

Which file is the base, what becomes of it when it does not load, and what the environment changes
in it, said without the functions that look, read and check (`Config.Loading`, `Startup.Chosen`,
`Overrides.Overridden`).

A base is valid before anything is overridden. An override is only taken from a value that is not
blank, so a prefix cannot become invalid through it, and no override touches the names of queues.
What is left is the size of the buffer (`Overrides.Given.valid_apply_iff`).
`Startup.start_of_environment` states when the engine starts and with what.
-/

set_option autoImplicit false

namespace MessageBroker

/-! ## Blank texts -/

namespace Text

/-- A text is blank when nothing is left of it without the blanks at its ends. -/
theorem isBlankText_iff {s : String} : isBlankText s = true ↔ trim s.toList = [] := by
  rw [isBlankText, List.all_eq_true, trim, trimEnd, List.reverse_eq_nil_iff,
    List.dropWhile_eq_nil_iff, trimStart]
  constructor
  · intro blank c member
    rw [List.mem_reverse] at member
    exact blank c (List.dropWhile_subset _ member)
  · intro left c member
    rw [← List.takeWhile_append_dropWhile (p := isBlank) (l := s.toList), List.mem_append] at member
    rcases member with front | rest
    · exact List.all_eq_true.mp List.all_takeWhile c front
    · exact left c (List.mem_reverse.mpr rest)

theorem isBlankText_eq_false_iff {s : String} : isBlankText s = false ↔ trim s.toList ≠ [] := by
  rw [← Bool.not_eq_true, isBlankText_iff]

end Text

/-! ## Files -/

namespace Config

/-- A configuration the engine can run with. -/
structure Valid (config : Config) : Prop where
  visible_prefix : Text.trim config.channel.idPrefix.toList ≠ []
  buffer : 1 ≤ config.channel.commandBuffer.toNat
  visible_names : ∀ name ∈ config.queues.declare, Text.trim name.toList ≠ []

theorem one_le_toNat_iff {size : UInt64} : 1 ≤ size.toNat ↔ size ≠ 0 := by
  rw [Ne, ← UInt64.toNat_inj]
  exact Nat.pos_iff_ne_zero

theorem fault?_eq_none_iff_valid {config : Config} : config.fault? = none ↔ config.Valid := by
  rw [fault?_eq_none_iff, Text.isBlankText_eq_false_iff, ← one_le_toNat_iff]
  simp only [Text.isBlankText_eq_false_iff]
  constructor
  · rintro ⟨visible, size, names⟩
    exact ⟨visible, size, names⟩
  · rintro ⟨visible, size, names⟩
    exact ⟨visible, size, names⟩

theorem validate_eq_ok_iff {config other : Config} :
    config.validate = .ok other ↔ config.Valid ∧ other = config := by
  rw [validate, ← fault?_eq_none_iff_valid]
  cases config.fault? with
  | none =>
    constructor
    · intro passed
      exact ⟨rfl, (Except.ok.inj passed).symm⟩
    · rintro ⟨_, rfl⟩
      rfl
  | some error => exact ⟨nofun, nofun⟩

theorem exists_validate_eq_error_iff {config : Config} :
    (∃ error, config.validate = .error error) ↔ ¬ config.Valid := by
  rw [validate, ← fault?_eq_none_iff_valid]
  cases config.fault? with
  | none => exact ⟨nofun, fun fault => absurd rfl fault⟩
  | some error => exact ⟨nofun, fun _ => ⟨error, rfl⟩⟩

theorem valid_default : default.Valid := fault?_eq_none_iff_valid.mp rfl

/-- What becomes of the file at a path: it is no text, its text does not fit the record, what it
says is not valid, or it gives a configuration. -/
inductive Loading (look : String → FileState) (path : String) : Except ConfigError Config → Prop
  | unreadable (noText : ∀ content, look path ≠ .text content) :
      Loading look path (.error (.unreadable path))
  | malformed {content : String} (text : look path = .text content)
      (unread : read? content = none) : Loading look path (.error .malformed)
  | invalid {content : String} {config : Config} {error : ConfigError}
      (text : look path = .text content) (read : read? content = some config)
      (invalid : ¬ config.Valid) (fault : config.fault? = some error) :
      Loading look path (.error error)
  | loaded {content : String} {config : Config} (text : look path = .text content)
      (read : read? content = some config) (valid : config.Valid) : Loading look path (.ok config)

/-- The first of some paths at which anything stands. -/
def First (look : String → FileState) (paths : List String) (path : String) : Prop :=
  ∃ before after, paths = before ++ path :: after ∧
    (∀ earlier ∈ before, look earlier = .absent) ∧ look path ≠ .absent

variable {look : String → FileState} {home path : String}

theorem loadFrom_eq_iff {outcome : Except ConfigError Config} :
    loadFrom look path = outcome ↔ Loading look path outcome := by
  constructor
  · rintro rfl
    rw [loadFrom]
    split
    · rename_i content text
      split
      · rename_i config read
        rw [validate]
        split
        · rename_i error fault
          have invalid : ¬ config.Valid := by
            rw [← fault?_eq_none_iff_valid, fault]
            exact Option.some_ne_none error
          exact .invalid text read invalid fault
        · rename_i sound
          exact .loaded text read (fault?_eq_none_iff_valid.mp sound)
      · rename_i unread
        exact .malformed text unread
    · rename_i noText
      exact .unreadable noText
  · intro loading
    rw [loadFrom]
    cases loading with
    | unreadable noText =>
      split
      · rename_i content text
        exact absurd text (noText content)
      · rfl
    | malformed text unread => simp only [text, unread]
    | invalid text read _ fault => simp only [text, read, validate, fault]
    | loaded text read valid =>
      have sound := fault?_eq_none_iff_valid.mpr valid
      simp only [text, read, validate, sound]

theorem find_eq_ok_iff : find look home = .ok path ↔ First look (searchPaths home) path := by
  have stands : ∀ candidate, decide (look candidate ≠ .absent) = true ↔ look candidate ≠ .absent :=
    fun _ => decide_eq_true_iff
  rw [find]
  constructor
  · intro found
    split at found
    · rename_i first first_eq
      cases found
      obtain ⟨stood, before, after, split_eq, earlier⟩ := List.find?_eq_some_iff_append.mp first_eq
      refine ⟨before, after, split_eq, ?_, (stands _).mp stood⟩
      intro candidate member
      simpa using earlier candidate member
    · cases found
  · rintro ⟨before, after, split_eq, earlier, stood⟩
    have first_eq : (searchPaths home).find? (fun candidate => look candidate ≠ .absent) =
        some path := by
      apply List.find?_eq_some_iff_append.mpr
      refine ⟨(stands _).mpr stood, before, after, split_eq, ?_⟩
      intro candidate member
      simpa using earlier candidate member
    rw [first_eq]

theorem find_eq_error_iff {error : ConfigError} :
    find look home = .error error ↔
      error = .notFound ∧ ∀ candidate ∈ searchPaths home, look candidate = .absent := by
  rw [find]
  cases found : (searchPaths home).find? fun candidate => look candidate ≠ .absent with
  | some candidate =>
    constructor
    · intro failed
      cases failed
    · rintro ⟨_, absent⟩
      have stood := List.find?_some found
      have listed := List.mem_of_find?_eq_some found
      rw [absent candidate listed] at stood
      cases stood
  | none =>
    have absent : ∀ candidate ∈ searchPaths home, look candidate = .absent := by
      intro candidate listed
      simpa using List.find?_eq_none.mp found candidate listed
    constructor
    · intro failed
      cases failed
      exact ⟨rfl, absent⟩
    · rintro ⟨rfl, _⟩
      rfl

end Config

/-! ## Overrides -/

namespace Overrides

variable {environment : Environment} {overrides : Overrides}

/-- A variable is set, and not to blanks. -/
def IsSet (environment : Environment) (name value : String) : Prop :=
  environment.find? name = some value ∧ Text.trim value.toList ≠ []

/-- A variable is not set, or to blanks. -/
def IsUnset (environment : Environment) (name : String) : Prop :=
  ∀ value, environment.find? name = some value → Text.trim value.toList = []

theorem setting?_eq_some_iff {name value : String} :
    setting? environment name = some value ↔ IsSet environment name value := by
  rw [setting?, Option.filter_eq_some_iff, Bool.not_eq_true', Text.isBlankText_eq_false_iff, IsSet]

theorem setting?_eq_none_iff {name : String} :
    setting? environment name = none ↔ IsUnset environment name := by
  rw [setting?, Option.filter_eq_none_iff]
  simp only [Bool.not_eq_true', Bool.not_eq_false, Text.isBlankText_iff, IsUnset]

/-- A setting after a variable has been read: what the value says if there is one and it is not
blank, and what was there before otherwise. -/
inductive Replaced {α : Type} (environment : Environment) (name : String)
    (parse : String → Option α) (before : α) : α → Prop
  | given {value : String} {after : α} (set : IsSet environment name value)
      (read : parse value = some after) : Replaced environment name parse before after
  | kept (unset : IsUnset environment name) : Replaced environment name parse before before

/-- The size of the buffer is set to 0. -/
def BufferIsZero (environment : Environment) : Prop :=
  ∃ value, IsSet environment bufferVariable value ∧
    Decimal.readWord? (Text.trim value.toList) = some 0

/-- A configuration with the settings of the environment in place of some of its own. -/
structure Overridden (environment : Environment) (base config : Config) : Prop where
  idPrefix : Replaced environment prefixVariable some base.channel.idPrefix config.channel.idPrefix
  commandBuffer : Replaced environment bufferVariable
    (fun value => Decimal.readWord? (Text.trim value.toList)) base.channel.commandBuffer
    config.channel.commandBuffer
  filter : Replaced environment filterVariable some base.logging.filter config.logging.filter
  declare : config.queues.declare = base.queues.declare

/-- What reading the environment gives. -/
structure Given (environment : Environment) (overrides : Overrides) : Prop where
  configPath : overrides.configPath = setting? environment pathVariable
  channelPrefix : overrides.channelPrefix = setting? environment prefixVariable
  commandBuffer : buffer? environment = .ok overrides.commandBuffer
  logFilter : overrides.logFilter = setting? environment filterVariable

theorem given_of_ofEnvironment (read : ofEnvironment environment = .ok overrides) :
    Given environment overrides := by
  rw [ofEnvironment] at read
  split at read
  · cases read
  · rename_i commandBuffer buffer_eq
    cases read
    exact ⟨rfl, rfl, buffer_eq, rfl⟩

theorem replaced_of_setting (environment : Environment) (name before : String) :
    Replaced environment name some before ((setting? environment name).getD before) := by
  cases set : setting? environment name with
  | none => exact .kept (setting?_eq_none_iff.mp set)
  | some value => exact .given (setting?_eq_some_iff.mp set) rfl

/-- What the variable for the buffer gives: nothing if it is unset, and the number it is set to
otherwise. -/
theorem buffer?_cases {size : Option UInt64} (read : buffer? environment = .ok size) :
    size = none ∧ IsUnset environment bufferVariable ∨
      ∃ value word, size = some word ∧ IsSet environment bufferVariable value ∧
        Decimal.readWord? (Text.trim value.toList) = some word := by
  rw [buffer?] at read
  cases set : setting? environment bufferVariable with
  | none =>
    rw [set] at read
    exact .inl ⟨(Except.ok.inj read).symm, setting?_eq_none_iff.mp set⟩
  | some value =>
    rw [set] at read
    cases number : Decimal.readWord? (Text.trim value.toList) with
    | none => simp [number] at read
    | some word =>
      simp only [number] at read
      exact .inr ⟨value, word, (Except.ok.inj read).symm, setting?_eq_some_iff.mp set, number⟩

theorem replaced_of_buffer {size : Option UInt64} (read : buffer? environment = .ok size)
    (before : UInt64) :
    Replaced environment bufferVariable (fun value => Decimal.readWord? (Text.trim value.toList))
      before (size.getD before) := by
  rcases buffer?_cases read with ⟨rfl, unset⟩ | ⟨value, word, rfl, set, number⟩
  · exact .kept unset
  · exact .given set number

theorem eq_zero_iff_of_buffer {size : Option UInt64} (read : buffer? environment = .ok size) :
    size = some 0 ↔ BufferIsZero environment := by
  rcases buffer?_cases read with ⟨rfl, unset⟩ | ⟨value, word, rfl, set, number⟩
  · constructor
    · intro zero
      cases zero
    · rintro ⟨value, ⟨found, visible⟩, _⟩
      exact absurd (unset value found) visible
  · constructor
    · intro zero
      cases zero
      exact ⟨value, set, number⟩
    · rintro ⟨other, ⟨found, _⟩, zero⟩
      -- A variable has one value.
      rw [set.1] at found
      cases found
      exact number.symm.trans zero

theorem Given.overridden (given : Given environment overrides) (base : Config) :
    Overridden environment base (overrides.apply base) where
  idPrefix := by
    rw [apply, given.channelPrefix]
    exact replaced_of_setting environment prefixVariable base.channel.idPrefix
  commandBuffer := replaced_of_buffer given.commandBuffer base.channel.commandBuffer
  filter := by
    rw [apply, given.logFilter]
    exact replaced_of_setting environment filterVariable base.logging.filter
  declare := rfl

/-- **Only a buffer of size 0 can spoil a valid configuration.** -/
theorem Given.valid_apply_iff (given : Given environment overrides) {base : Config}
    (valid : base.Valid) : (overrides.apply base).Valid ↔ ¬ BufferIsZero environment := by
  rw [← eq_zero_iff_of_buffer given.commandBuffer]
  constructor
  · intro after zero
    have size := after.buffer
    rw [apply, zero, Config.one_le_toNat_iff] at size
    exact size rfl
  · intro notZero
    constructor
    case visible_prefix =>
      show Text.trim (overrides.channelPrefix.getD base.channel.idPrefix).toList ≠ []
      cases set : overrides.channelPrefix with
      | none => exact valid.visible_prefix
      | some value =>
        rw [given.channelPrefix] at set
        exact (setting?_eq_some_iff.mp set).2
    case buffer =>
      show 1 ≤ (overrides.commandBuffer.getD base.channel.commandBuffer).toNat
      cases set : overrides.commandBuffer with
      | none => exact valid.buffer
      | some size =>
        rw [set] at notZero
        exact Config.one_le_toNat_iff.mpr fun zero => notZero (congrArg some zero)
    case visible_names => exact valid.visible_names

end Overrides

/-! ## The start -/

namespace Startup

/-- The configuration that is used without a path: the file that stands first in the list of places,
or the default one with the reason. -/
inductive Chosen (look : String → FileState) (home : String) : Startup → Prop
  | loaded {path : String} {config : Config}
      (first : Config.First look (Config.searchPaths home) path)
      (loading : Config.Loading look path (.ok config)) : Chosen look home ⟨config, none⟩
  | notLoaded {path : String} {error : ConfigError}
      (first : Config.First look (Config.searchPaths home) path)
      (loading : Config.Loading look path (.error error)) :
      Chosen look home ⟨.default, some error⟩
  | notFound (absent : ∀ path ∈ Config.searchPaths home, look path = .absent) :
      Chosen look home ⟨.default, some .notFound⟩

section Start

variable {look : String → FileState} {home : String} {environment : Environment}
  {overrides : Overrides}

theorem base_of_path {path : String} (path_eq : overrides.configPath = some path) :
    base look home overrides = (Config.loadFrom look path).map (⟨·, none⟩) := by
  simp only [base, path_eq]
  cases Config.loadFrom look path <;> rfl

theorem start_of_base_eq {found : Startup} (base_eq : base look home overrides = .ok found) :
    start look home overrides =
      (overrides.apply found.config).validate.map (⟨·, found.fallback⟩) := by
  simp only [start, base_eq]
  cases (overrides.apply found.config).validate <;> rfl

/-- Without a path there is always something to start from. -/
theorem exists_chosen (look : String → FileState) (home : String) :
    ∃ found, Chosen look home found := by
  cases find_eq : Config.find look home with
  | error error =>
    obtain ⟨_, absent⟩ := Config.find_eq_error_iff.mp find_eq
    exact ⟨_, .notFound absent⟩
  | ok path =>
    have first := Config.find_eq_ok_iff.mp find_eq
    cases load_eq : Config.loadFrom look path with
    | error error => exact ⟨_, .notLoaded first (Config.loadFrom_eq_iff.mp load_eq)⟩
    | ok config => exact ⟨_, .loaded first (Config.loadFrom_eq_iff.mp load_eq)⟩

theorem base_of_chosen (noPath : overrides.configPath = none) {found : Startup}
    (chosen : Chosen look home found) : base look home overrides = .ok found := by
  simp only [base, noPath, Config.load]
  cases chosen with
  | loaded first loading =>
    simp only [Config.find_eq_ok_iff.mpr first, Config.loadFrom_eq_iff.mpr loading]
  | notLoaded first loading =>
    simp only [Config.find_eq_ok_iff.mpr first, Config.loadFrom_eq_iff.mpr loading]
  | notFound absent => simp only [Config.find_eq_error_iff.mpr ⟨rfl, absent⟩]

theorem base_eq_ok_iff (noPath : overrides.configPath = none) {found : Startup} :
    base look home overrides = .ok found ↔ Chosen look home found := by
  constructor
  · intro base_eq
    obtain ⟨other, chosen⟩ := exists_chosen look home
    rw [base_of_chosen noPath chosen] at base_eq
    cases base_eq
    exact chosen
  · exact base_of_chosen noPath

theorem valid_of_loading {path : String} {config : Config}
    (loading : Config.Loading look path (.ok config)) : config.Valid := by
  cases loading with
  | loaded _ _ valid => exact valid

/-- A base is valid before anything is overridden. -/
theorem valid_of_base {found : Startup} (base_eq : base look home overrides = .ok found) :
    found.config.Valid := by
  cases path_eq : overrides.configPath with
  | some path =>
    rw [base_of_path path_eq] at base_eq
    cases load_eq : Config.loadFrom look path with
    | error error =>
      rw [load_eq] at base_eq
      cases base_eq
    | ok config =>
      rw [load_eq] at base_eq
      cases base_eq
      exact valid_of_loading (Config.loadFrom_eq_iff.mp load_eq)
  | none =>
    cases (base_eq_ok_iff path_eq).mp base_eq with
    | loaded _ loading => exact valid_of_loading loading
    | notLoaded => exact Config.valid_default
    | notFound => exact Config.valid_default

/-- A start from a base fails when the buffer is overridden by 0, and gives the overridden base
otherwise. -/
theorem start_of_base (given : Overrides.Given environment overrides) {found : Startup}
    (base_eq : base look home overrides = .ok found) :
    ((∃ error, start look home overrides = .error error) ↔
        Overrides.BufferIsZero environment) ∧
      ∀ startup, start look home overrides = .ok startup →
        startup = ⟨overrides.apply found.config, found.fallback⟩ ∧ startup.config.Valid := by
  have spoiled := given.valid_apply_iff (valid_of_base base_eq)
  rw [start_of_base_eq base_eq]
  cases checked : (overrides.apply found.config).validate with
  | error error =>
    have fault := Config.exists_validate_eq_error_iff.mp ⟨error, checked⟩
    rw [spoiled] at fault
    constructor
    · exact ⟨fun _ => Classical.not_not.mp fault, fun _ => ⟨error, rfl⟩⟩
    · intro startup started
      cases started
  | ok config =>
    obtain ⟨valid, rfl⟩ := Config.validate_eq_ok_iff.mp checked
    constructor
    · constructor
      · rintro ⟨error, failed⟩
        cases failed
      · intro zero
        exact absurd zero (spoiled.mp valid)
    · intro startup started
      cases started
      exact ⟨rfl, valid⟩

/-- **What the engine starts with.** If the variable for the path is set and not blank, it must lead
to a configuration that is valid by itself, and nothing takes its place. Otherwise the engine starts
from the first file there is, or from the default configuration, which then comes with the reason.
In both cases a buffer that is set to size 0 prevents the start; otherwise it starts with the base
as overridden by what is set and not blank, and that is valid. -/
theorem start_of_environment (read : Overrides.ofEnvironment environment = .ok overrides)
    (look : String → FileState) (home : String) :
    (∀ path, Overrides.IsSet environment Overrides.pathVariable path →
      ((∃ error, start look home overrides = .error error) ↔
        (∃ error, Config.Loading look path (.error error)) ∨
          Overrides.BufferIsZero environment) ∧
      ∀ startup, start look home overrides = .ok startup → startup.fallback = none ∧
        ∃ base, Config.Loading look path (.ok base) ∧
          Overrides.Overridden environment base startup.config) ∧
    (Overrides.IsUnset environment Overrides.pathVariable →
      ∃ base, (∀ other, Chosen look home other ↔ other = base) ∧
        ((∃ error, start look home overrides = .error error) ↔
          Overrides.BufferIsZero environment) ∧
        ∀ startup, start look home overrides = .ok startup → startup.fallback = base.fallback ∧
          Overrides.Overridden environment base.config startup.config) ∧
    ∀ startup, start look home overrides = .ok startup → startup.config.Valid := by
  have given := Overrides.given_of_ofEnvironment read
  refine ⟨?path, ?noPath, ?valid⟩
  case path =>
    intro path set
    have path_eq : overrides.configPath = some path :=
      given.configPath.trans (Overrides.setting?_eq_some_iff.mpr set)
    cases load_eq : Config.loadFrom look path with
    | error error =>
      have failed : start look home overrides = .error error := by
        rw [start, base_of_path path_eq, load_eq]
        rfl
      have loading := Config.loadFrom_eq_iff.mp load_eq
      rw [failed]
      constructor
      · exact ⟨fun _ => .inl ⟨error, loading⟩, fun _ => ⟨error, rfl⟩⟩
      · intro startup started
        cases started
    | ok config =>
      have base_eq : base look home overrides = .ok ⟨config, none⟩ := by
        rw [base_of_path path_eq, load_eq]
        rfl
      obtain ⟨fails_iff, started_eq⟩ := start_of_base given base_eq
      constructor
      · rw [fails_iff]
        constructor
        · exact .inr
        · rintro (⟨error, loading⟩ | zero)
          · -- The file cannot give an error and a configuration.
            rw [Config.loadFrom_eq_iff.mpr loading] at load_eq
            cases load_eq
          · exact zero
      · intro startup started
        obtain ⟨rfl, _⟩ := started_eq startup started
        exact ⟨rfl, config, Config.loadFrom_eq_iff.mp load_eq, given.overridden config⟩
  case noPath =>
    intro unset
    have noPath : overrides.configPath = none :=
      given.configPath.trans (Overrides.setting?_eq_none_iff.mpr unset)
    obtain ⟨found, chosen⟩ := exists_chosen look home
    have base_eq := base_of_chosen noPath chosen
    obtain ⟨fails_iff, started_eq⟩ := start_of_base given base_eq
    refine ⟨found, ?_, fails_iff, ?_⟩
    · intro other
      rw [← base_eq_ok_iff noPath, base_eq, Except.ok.injEq]
      exact eq_comm
    · intro startup started
      obtain ⟨rfl, _⟩ := started_eq startup started
      exact ⟨rfl, given.overridden found.config⟩
  case valid =>
    intro startup started
    cases base_eq : base look home overrides with
    | error error =>
      rw [start, base_eq] at started
      cases started
    | ok found =>
      obtain ⟨_, started_eq⟩ := start_of_base given base_eq
      exact (started_eq startup started).2

/-- The file in the working directory is absent and the next one ends too early; the one in the
home directory is not looked at. The prefix is overridden by blanks, the buffer by a number. If the
environment names a file with a blank prefix, it does not help that the prefix is overridden and
that the file in the working directory is valid; named itself, this one is the base. -/
theorem start_of_environment_of_faulty_files :
    (let environment : Environment :=
      ⟨[("RABBIT_TX_CHANNEL_PREFIX", " \u3000"), ("RABBIT_TX_COMMAND_BUFFER", " 16 "),
        ("RABBIT_TX_LOG", "debug")]⟩
    let overrides : Overrides := { commandBuffer := some 16, logFilter := some "debug" }
    let look : String → FileState := fun path =>
      if path = "config/RustRabbitTx.json" then .text "\x7b"
      else if path = "/home/.RustRabbitTx.json" then .text "\x7b\x7d"
      else .absent
    let config : Config :=
      { channel := { commandBuffer := 16 }, logging := { filter := "debug" } }
    Overrides.ofEnvironment environment = .ok overrides ∧
      start look "/home" overrides = .ok ⟨config, some .malformed⟩ ∧ config.Valid ∧
      Chosen look "/home" ⟨.default, some .malformed⟩ ∧
      Overrides.Overridden environment .default config) ∧
    (let naming : String → Environment := fun path =>
      ⟨[("RABBIT_TX_CONFIG", path), ("RABBIT_TX_CHANNEL_PREFIX", "tx")]⟩
    let overrides : String → Overrides := fun path =>
      { configPath := some path, channelPrefix := some "tx" }
    let look : String → FileState := fun path =>
      if path = "broker.json" then .text "\x7b\"channel\":\x7b\"id_prefix\":\" \"\x7d\x7d"
      else if path = "RustRabbitTx.json" then .text "\x7b\x7d"
      else .absent
    let spoiled : Config := { channel := { idPrefix := " " } }
    let config : Config := { channel := { idPrefix := "tx" } }
    Overrides.ofEnvironment (naming "broker.json") = .ok (overrides "broker.json") ∧
      Config.Loading look "broker.json" (.error .emptyPrefix) ∧
      ((overrides "broker.json").apply spoiled).Valid ∧
      (∃ error, start look "/home" (overrides "broker.json") = .error error) ∧
      Config.Loading look "RustRabbitTx.json" (.ok .default) ∧
      start look "/home" (overrides "RustRabbitTx.json") = .ok ⟨config, none⟩ ∧
      Overrides.Overridden (naming "RustRabbitTx.json") .default config) := by
  refine ⟨?unnamed, ?named⟩
  case unnamed =>
    intro environment overrides look config
    have read : Overrides.ofEnvironment environment = .ok overrides := rfl
    have unset : Overrides.IsUnset environment Overrides.pathVariable :=
      Overrides.setting?_eq_none_iff.mp rfl
    have first : Config.First look (Config.searchPaths "/home") "config/RustRabbitTx.json" :=
      ⟨["RustRabbitTx.json"], ["/home/.RustRabbitTx.json"], by decide, by decide, by decide⟩
    have loading : Config.Loading look "config/RustRabbitTx.json" (.error .malformed) :=
      .malformed rfl (by decide)
    have default_chosen := Chosen.notLoaded first loading
    have base_eq : base look "/home" overrides = .ok ⟨.default, some .malformed⟩ :=
      (base_eq_ok_iff rfl).mpr default_chosen
    have checked : ((Overrides.mk none none (some 16) (some "debug")).apply .default).validate =
        .ok config := rfl
    have started : start look "/home" overrides = .ok ⟨config, some .malformed⟩ := by
      rw [start_of_base_eq base_eq, checked]
      rfl
    obtain ⟨_, noPath, valid⟩ := start_of_environment read look "/home"
    obtain ⟨found, chosen, _, started_eq⟩ := noPath unset
    obtain rfl := (chosen _).mp default_chosen
    exact ⟨read, started, valid _ started, default_chosen, (started_eq _ started).2⟩
  case named =>
    intro naming overrides look spoiled config
    have read : ∀ path, Text.isBlankText path = false →
        Overrides.ofEnvironment (naming path) = .ok (overrides path) ∧
          Overrides.IsSet (naming path) Overrides.pathVariable path := by
      intro path visible
      have set : Overrides.setting? (naming path) Overrides.pathVariable = some path :=
        Option.filter_eq_some_iff.mpr ⟨rfl, by rw [visible]; rfl⟩
      refine ⟨?_, Overrides.setting?_eq_some_iff.mp set⟩
      rw [Overrides.ofEnvironment, set]
      rfl
    obtain ⟨bad_read, bad_set⟩ := read "broker.json" (by decide)
    obtain ⟨good_read, good_set⟩ := read "RustRabbitTx.json" (by decide)
    have blank : spoiled.fault? = some .emptyPrefix := by decide +kernel
    have unfit : ¬ spoiled.Valid := by
      rw [← Config.fault?_eq_none_iff_valid, blank]
      exact Option.some_ne_none _
    have bad : Config.Loading look "broker.json" (.error .emptyPrefix) :=
      .invalid rfl (by decide +kernel) unfit blank
    have good : Config.Loading look "RustRabbitTx.json" (.ok .default) :=
      .loaded rfl (by decide +kernel) Config.valid_default
    have repaired : ((overrides "broker.json").apply spoiled).Valid :=
      Config.fault?_eq_none_iff_valid.mp (by decide +kernel)
    have base_eq : base look "/home" (overrides "RustRabbitTx.json") = .ok ⟨.default, none⟩ := by
      rw [base_of_path rfl, Config.loadFrom_eq_iff.mpr good]
      rfl
    have checked : ((overrides "RustRabbitTx.json").apply .default).validate = .ok config := by
      decide +kernel
    have started : start look "/home" (overrides "RustRabbitTx.json") = .ok ⟨config, none⟩ := by
      rw [start_of_base_eq base_eq, checked]
      rfl
    have failed := ((start_of_environment bad_read look "/home").1 _ bad_set).1.mpr (.inl ⟨_, bad⟩)
    obtain ⟨_, base, loading, overridden⟩ :=
      ((start_of_environment good_read look "/home").1 _ good_set).2 _ started
    -- The file gives one configuration.
    have same := (Config.loadFrom_eq_iff.mpr loading).symm.trans (Config.loadFrom_eq_iff.mpr good)
    obtain rfl := Except.ok.inj same
    exact ⟨bad_read, bad, repaired, failed, good, started, overridden⟩

end Start

end Startup

end MessageBroker
