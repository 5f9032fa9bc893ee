import MessageBroker.Config.File
import MessageBroker.Proofs.Fields

/-!
# Configurations read back

A configuration is written with all its settings. A text may leave settings and whole sections out
and have the rest in any order, with blanks and escapes as it likes (`Config.Excerpt`,
`Document.IsText`). What it states is kept and what it leaves out is at its default
(`Config.Excerpt.filled`); the text the engine writes states everything.
`Config.excerpts_filled` puts both together.
-/

set_option autoImplicit false

namespace MessageBroker

/-! ## Settings by name -/

/-- Settings of channels as they are written. -/
def ChannelConfig.settings (config : ChannelConfig) : List (String × Json) :=
  [("id_prefix", .string config.idPrefix),
    ("command_buffer", .number (.whole config.commandBuffer.toNat))]

/-- Settings of queues as they are written. -/
def QueueConfig.settings (config : QueueConfig) : List (String × Json) :=
  [("declare", .array (config.declare.map .string))]

/-- Settings of the log as they are written. -/
def LogConfig.settings (config : LogConfig) : List (String × Json) :=
  [("filter", .string config.filter)]

section Sections

variable {kept : List (String × Json)}

theorem ChannelConfig.ofDocument?_of_subperm {config : ChannelConfig}
    (kept_of : kept.Subperm config.settings) :
    ofDocument? (Json.object kept).document = some {
      idPrefix := if "id_prefix" ∈ Json.keys kept then config.idPrefix else "channel"
      commandBuffer :=
        if "command_buffer" ∈ Json.keys kept then config.commandBuffer else 64 } := by
  have distinct : (Json.keys config.settings).Nodup := by
    show ["id_prefix", "command_buffer"].Nodup
    decide
  have record := Json.record?_document ["id_prefix", "command_buffer"]
    (Json.keys_subset_of_subperm kept_of) (Json.keys_nodup_of_subperm kept_of distinct)
  have idPrefix := Json.defaulted?_of_subperm kept_of distinct "id_prefix" rfl
    (Json.text?_document config.idPrefix) "channel"
  have commandBuffer := Json.defaulted?_of_subperm kept_of distinct "command_buffer" rfl
    (Json.word?_document config.commandBuffer.toNat_lt) 64
  rw [UInt64.ofNat_toNat] at commandBuffer
  rw [ofDocument?, record]
  simp only [Option.bind_eq_bind, Option.bind_some, Option.pure_def, idPrefix, commandBuffer]

theorem QueueConfig.ofDocument?_of_subperm {config : QueueConfig}
    (kept_of : kept.Subperm config.settings) :
    ofDocument? (Json.object kept).document = some {
      declare := if "declare" ∈ Json.keys kept then config.declare else [] } := by
  have distinct : (Json.keys config.settings).Nodup := List.pairwise_singleton _ "declare"
  have record := Json.record?_document ["declare"]
    (Json.keys_subset_of_subperm kept_of) (Json.keys_nodup_of_subperm kept_of distinct)
  have declare := Json.defaulted?_of_subperm kept_of distinct "declare" rfl
    (Json.list?_document fun name _ => Json.text?_document name) []
  rw [ofDocument?, record]
  simp only [Option.bind_eq_bind, Option.bind_some, Option.pure_def, declare]

theorem LogConfig.ofDocument?_of_subperm {config : LogConfig}
    (kept_of : kept.Subperm config.settings) :
    ofDocument? (Json.object kept).document = some {
      filter := if "filter" ∈ Json.keys kept then config.filter else "info" } := by
  have distinct : (Json.keys config.settings).Nodup := List.pairwise_singleton _ "filter"
  have record := Json.record?_document ["filter"]
    (Json.keys_subset_of_subperm kept_of) (Json.keys_nodup_of_subperm kept_of distinct)
  have filter := Json.defaulted?_of_subperm kept_of distinct "filter" rfl
    (Json.text?_document config.filter) "info"
  rw [ofDocument?, record]
  simp only [Option.bind_eq_bind, Option.bind_some, Option.pure_def, filter]

end Sections

namespace Config

/-- What a text keeps of a configuration: some of the settings of each section, and some of the
sections, each in any order. -/
structure Excerpt (config : Config) where
  channel : List (String × Json)
  queues : List (String × Json)
  logging : List (String × Json)
  sections : List (String × Json)
  channel_kept : channel.Subperm config.channel.settings
  queues_kept : queues.Subperm config.queues.settings
  logging_kept : logging.Subperm config.logging.settings
  sections_kept : sections.Subperm
    [("channel", .object channel), ("queues", .object queues), ("logging", .object logging)]

namespace Excerpt

variable {config : Config}

/-- The object of the sections that are kept. -/
def toJson (excerpt : config.Excerpt) : Json := .object excerpt.sections

/-- True of a setting that is kept, in a section that is kept. -/
def Keeps (excerpt : config.Excerpt) (place : String) (settings : List (String × Json))
    (setting : String) : Prop :=
  place ∈ Json.keys excerpt.sections ∧ setting ∈ Json.keys settings

instance (excerpt : config.Excerpt) (place : String) (settings : List (String × Json))
    (setting : String) : Decidable (excerpt.Keeps place settings setting) :=
  inferInstanceAs (Decidable (_ ∧ _))

/-- The configuration with what is kept; everything else is at its default. -/
def filled (excerpt : config.Excerpt) : Config where
  channel := {
    idPrefix :=
      if excerpt.Keeps "channel" excerpt.channel "id_prefix" then config.channel.idPrefix
      else "channel"
    commandBuffer :=
      if excerpt.Keeps "channel" excerpt.channel "command_buffer" then
        config.channel.commandBuffer
      else 64 }
  queues := {
    declare :=
      if excerpt.Keeps "queues" excerpt.queues "declare" then config.queues.declare else [] }
  logging := {
    filter :=
      if excerpt.Keeps "logging" excerpt.logging "filter" then config.logging.filter
      else "info" }

/-- Without its section a setting is at its default, however it stands in the section. -/
theorem ite_keeps {α : Type} (excerpt : config.Excerpt) (place : String)
    (settings : List (String × Json)) (setting : String) (stated default : α) :
    (if excerpt.Keeps place settings setting then stated else default) =
      if place ∈ Json.keys excerpt.sections then
        if setting ∈ Json.keys settings then stated else default
      else default :=
  ite_and ..

theorem ofDocument?_toJson (excerpt : config.Excerpt) :
    ofDocument? excerpt.toJson.document = some excerpt.filled := by
  have kept := excerpt.sections_kept
  have distinct : ["channel", "queues", "logging"].Nodup := by decide
  have record := Json.record?_document ["channel", "queues", "logging"]
    (Json.keys_subset_of_subperm kept) (Json.keys_nodup_of_subperm kept distinct)
  have channel := Json.defaulted?_of_subperm kept distinct "channel" rfl
    (ChannelConfig.ofDocument?_of_subperm excerpt.channel_kept) {}
  have queues := Json.defaulted?_of_subperm kept distinct "queues" rfl
    (QueueConfig.ofDocument?_of_subperm excerpt.queues_kept) {}
  have logging := Json.defaulted?_of_subperm kept distinct "logging" rfl
    (LogConfig.ofDocument?_of_subperm excerpt.logging_kept) {}
  rw [ofDocument?, toJson, record]
  -- The default of a section that is left out has every setting at its own default.
  simp only [Option.bind_eq_bind, Option.bind_some, Option.pure_def, channel, queues, logging,
    Option.some.injEq, filled, ite_keeps, Config.mk.injEq]
  refine ⟨?_, ?_, ?_⟩
  · split <;> rfl
  · split <;> rfl
  · split <;> rfl

/-- Nothing is left out. -/
def whole (config : Config) : config.Excerpt where
  channel := config.channel.settings
  queues := config.queues.settings
  logging := config.logging.settings
  sections := [("channel", config.channel.toJson), ("queues", config.queues.toJson),
    ("logging", config.logging.toJson)]
  channel_kept := List.Subperm.refl _
  queues_kept := List.Subperm.refl _
  logging_kept := List.Subperm.refl _
  sections_kept := List.Subperm.refl _

theorem filled_whole (config : Config) : (whole config).filled = config := rfl

end Excerpt

/-- A text reads as what its document says. -/
theorem read?_of_isText {document : Document} {text : List Char}
    (spelled : document.IsText text) : read? (String.ofList text) = ofDocument? document := by
  rw [read?, String.toList_ofList, Document.read?_of_isText spelled]
  rfl

theorem isWhole_toJson (config : Config) : config.toJson.isWhole = true := by
  have names : Json.areWhole (config.queues.declare.map .string) = true := by
    rw [Json.areWhole_iff]
    intro item member
    obtain ⟨name, _, rfl⟩ := List.mem_map.mp member
    rfl
  simp only [toJson, ChannelConfig.toJson, QueueConfig.toJson, LogConfig.toJson, Json.isWhole,
    Json.membersAreWhole, names, Bool.and_self]

/-- **What a text states of a configuration is read, the rest is at its default.** A file that is
written for a configuration reads as the configuration. -/
theorem excerpts_filled :
    (∀ config : Config, read? config.fileText = some config) ∧
      ∀ (config : Config) (excerpt : config.Excerpt) (text : List Char),
        excerpt.toJson.document.IsText text →
          read? (String.ofList text) = some excerpt.filled := by
  constructor
  · intro config
    have written := Json.isText_indented config.isWhole_toJson
    have stated := (read?_of_isText written).trans (Excerpt.whole config).ofDocument?_toJson
    rwa [Excerpt.filled_whole] at stated
  · intro config excerpt text spelled
    exact (read?_of_isText spelled).trans excerpt.ofDocument?_toJson

/-- A text that states the filter, with an escape in its name, and the largest buffer. It has blanks
before the second section, and it says nothing of the prefix and the queues. -/
theorem excerpts_filled_of_two_sections :
    let config : Config :=
      { channel := { idPrefix := "tx", commandBuffer := 18446744073709551615 }
        queues := { declare := ["orders"] }
        logging := { filter := "warn" } }
    let text := "\x7b\"logging\":\x7b\"\\u0066ilter\":\"warn\"\x7d,\n " ++
      "\"channel\":\x7b\"command_buffer\":18446744073709551615\x7d\x7d"
    read? config.fileText = some config ∧
      ∃ excerpt : config.Excerpt, excerpt.toJson.document.IsText text.toList ∧
        read? text = some
          { channel := { idPrefix := "channel", commandBuffer := 18446744073709551615 }
            queues := { declare := [] }
            logging := { filter := "warn" } } := by
  intro config text
  let logging : List (String × Json) := [("filter", .string "warn")]
  let channel : List (String × Json) :=
    [("command_buffer", .number (.whole 18446744073709551615))]
  let excerpt : config.Excerpt :=
    { channel, queues := [], logging
      sections := [("logging", .object logging), ("channel", .object channel)]
      channel_kept := ((List.Sublist.refl _).cons _).subperm
      queues_kept := List.nil_subperm
      logging_kept := List.Subperm.refl _
      sections_kept :=
        ⟨[("channel", .object channel), ("logging", .object logging)], .swap _ _ _,
          ((List.Sublist.refl _).cons _).cons_cons _⟩ }
  have plain : ∀ s : String, Document.SpellsChars s.toList (s.toList.flatMap Json.escapeChar) :=
    fun s => Json.spellsChars_flatMap s.toList
  have none : Document.Blanks [] := Document.blanks_nil
  have before : Document.Blanks ['\n', ' '] :=
    List.forall_mem_cons.mpr ⟨rfl, List.forall_mem_singleton.mpr rfl⟩
  have code : Document.hexCode? '0' '0' '6' '6' = some 0x66 := rfl
  have letter : Document.SpellsChar 'f' "\\u0066".toList := .code code rfl rfl
  have filter : Document.SpellsMember (TextUnit.ofText "filter", (Json.string "warn").document)
      "\"\\u0066ilter\":\"warn\"".toList :=
    .mk none (.cons letter (plain "ilter")) none (.string (plain "warn")) none
  have buffer : Document.SpellsMember
      (TextUnit.ofText "command_buffer", (Json.number (.whole 18446744073709551615)).document)
      "\"command_buffer\":18446744073709551615".toList :=
    .mk none (plain "command_buffer") none (.number 18446744073709551615) none
  have first : Document.SpellsMember (TextUnit.ofText "logging", (Json.object logging).document)
      "\"logging\":\x7b\"\\u0066ilter\":\"warn\"\x7d".toList :=
    .mk none (plain "logging") none (.object (.last filter)) none
  have second : Document.SpellsMember (TextUnit.ofText "channel", (Json.object channel).document)
      "\n \"channel\":\x7b\"command_buffer\":18446744073709551615\x7d".toList :=
    .mk before (plain "channel") none (.object (.last buffer)) none
  have joined : text.toList =
      '{' :: ("\"logging\":\x7b\"\\u0066ilter\":\"warn\"\x7d".toList ++
        ',' :: "\n \"channel\":\x7b\"command_buffer\":18446744073709551615\x7d".toList ++
        ['}']) := by decide
  have spelled : excerpt.toJson.document.Spells text.toList := by
    rw [joined]
    exact .object (.more first (.last second))
  have reads := excerpts_filled.2 config excerpt _ ⟨_, _, spelled, none, rfl⟩
  rw [List.append_nil, String.ofList_toList] at reads
  exact ⟨excerpts_filled.1 config, excerpt, ⟨_, _, spelled, none, (List.append_nil _).symm⟩, reads⟩

end Config

end MessageBroker
