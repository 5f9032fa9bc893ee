import MessageBroker.Proofs.Fields
import MessageBroker.Proofs.Stamps
import MessageBroker.Proofs.Values

/-!
# Messages read back

A message may be stated as an object or an array, with its fields in any order, its identifier in
four forms, its time in any zone, its payload as a string. It is written in one of these forms.
Writing what was read, with the headers in any order, and reading it again gives the same message
(`Message.reread`), unless a header holds a double or the year of its time has a sign
(`Properties.IsStorable`).
-/

set_option autoImplicit false

namespace MessageBroker

/-! ## Fields -/

/-- A field that is null without a value, and the text of its value otherwise. -/
theorem Record.optional?_ofOption {α : Type} {members : List (String × Json)} {name : String}
    {content : Option α} (write : α → String) {read : Document → Option α}
    (stated : members.lookup name = some (.ofOption (content.map write)))
    (readable : ∀ value ∈ content, read (Json.string (write value)).document = some value) :
    (ofMembers members).optional? name read = some content := by
  rw [optional?, find?_ofMembers, stated]
  cases content with
  | none => rfl
  | some value => exact congrArg (Option.map some) (readable value rfl)

theorem Record.required?_of_lookup {α : Type} {members : List (String × Json)} {name : String}
    {value : Json} {content : α} {read : Document → Option α}
    (stated : members.lookup name = some value) (readable : read value.document = some content) :
    (ofMembers members).required? name read = some content := by
  rw [required?_ofMembers, stated]
  exact readable

/-- A field that is stated. -/
theorem Record.defaulted?_of_lookup {α : Type} {members : List (String × Json)} {name : String}
    {value : Json} {content : α} {read : Document → Option α}
    (stated : members.lookup name = some value) (readable : read value.document = some content)
    (default : α) : (ofMembers members).defaulted? name default read = some content := by
  rw [defaulted?_ofMembers, stated]
  exact readable

/-- A field is at its default or read from some document. -/
theorem Record.exists_of_defaulted? {α : Type} {record : Record} {name : String}
    {default content : α} {read : Document → Option α}
    (stated : record.defaulted? name default read = some content) :
    content = default ∨ ∃ document, read document = some content := by
  rw [defaulted?] at stated
  cases found : record.find? name with
  | none =>
    rw [found] at stated
    exact .inl (Option.some.inj stated).symm
  | some document =>
    rw [found] at stated
    exact .inr ⟨document, stated⟩

theorem Record.exists_of_optional? {α : Type} {record : Record} {name : String}
    {content : Option α} {read : Document → Option α}
    (stated : record.optional? name read = some content) :
    ∀ value ∈ content, ∃ document, read document = some value := by
  rintro value ⟨⟩
  rw [optional?] at stated
  split at stated
  case h_1 => cases stated
  case h_2 document _ _ =>
    obtain ⟨_, found, ⟨⟩⟩ := Option.map_eq_some_iff.mp stated
    exact ⟨document, found⟩
  case h_3 =>
    split at stated
    case isTrue => cases stated
    case isFalse => cases stated

theorem DeliveryMode.ofDocument?_toJson (mode : DeliveryMode) :
    ofDocument? mode.toJson.document = some mode := by
  have text : mode.toJson.document.choice? = some mode.name := TextUnit.text?_ofText mode.name
  rw [ofDocument?, text]
  cases mode <;> rfl

/-! ## Properties -/

namespace Properties

/-- Properties that are written without a double and without a sign of a year. -/
structure IsStorable (properties : Properties) : Prop where
  headers_whole : Json.membersAreWhole properties.headers = true
  year_plain : ∀ t ∈ properties.timestamp, 0 ≤ t.date.year ∧ t.date.year ≤ 9999

instance (properties : Properties) : Decidable properties.IsStorable :=
  decidable_of_iff (Json.membersAreWhole properties.headers = true ∧
      ∀ t ∈ properties.timestamp, 0 ≤ t.date.year ∧ t.date.year ≤ 9999)
    ⟨fun ⟨whole, plain⟩ => ⟨whole, plain⟩, fun storable => ⟨storable.1, storable.2⟩⟩

/-- The order of the headers does not matter for that. -/
theorem IsStorable.of_perm {properties : Properties} (storable : properties.IsStorable)
    {headers : List (String × Json)} (perm : headers.Perm properties.headers) :
    ({ properties with headers } : Properties).IsStorable where
  headers_whole := by
    rw [Json.membersAreWhole_iff]
    intro member listed
    exact Json.membersAreWhole_iff.mp storable.headers_whole member (perm.mem_iff.mp listed)
  year_plain := storable.year_plain

/-- Fields as they are written. -/
def fields (properties : Properties) : List (String × Json) :=
  [("content_type", .ofOption properties.contentType),
    ("delivery_mode", properties.deliveryMode.toJson),
    ("message_id", .ofOption properties.messageId),
    ("correlation_id", .ofOption properties.correlationId),
    ("reply_to", .ofOption properties.replyTo),
    ("headers", .object properties.headers),
    ("timestamp", .ofOption (properties.timestamp.map Timestamp.text))]

variable {depth : Nat} {document : Document} {properties : Properties}

theorem optional?_text {members : List (String × Json)} {name : String} {content : Option String}
    (stated : members.lookup name = some (.ofOption content)) :
    (Record.ofMembers members).optional? name Document.text? = some content := by
  refine Record.optional?_ofOption id ?_ fun value _ => Json.text?_document value
  rw [stated, Option.map_id]
  rfl

/-- Properties are read back when their headers, as they are written, and their time are. -/
theorem ofDocumentAt?_toJson {written : List (String × Json)}
    (headers : headersOfDocument? (Document.maxDepth - depth - 1)
      (Json.object written).document = some properties.headers)
    (timestamp : ∀ t ∈ properties.timestamp, Timestamp.read? t.text = some t) :
    ofDocumentAt? depth ({ properties with headers := written } : Properties).toJson.document =
      some properties := by
  have distinct : fieldNames.Nodup := by decide
  let stored : Properties := { properties with headers := written }
  have record : stored.toJson.document.record? fieldNames =
      some (Record.ofMembers stored.fields) :=
    Json.record?_document fieldNames (fun _ listed => listed) distinct
  let given := Record.ofMembers stored.fields
  have contentType : given.optional? "content_type" Document.text? = some properties.contentType :=
    optional?_text rfl
  have deliveryMode : given.defaulted? "delivery_mode" .transient DeliveryMode.ofDocument? =
      some properties.deliveryMode :=
    Record.defaulted?_of_lookup rfl (DeliveryMode.ofDocument?_toJson _) _
  have messageId : given.optional? "message_id" Document.text? = some properties.messageId :=
    optional?_text rfl
  have correlationId : given.optional? "correlation_id" Document.text? =
      some properties.correlationId :=
    optional?_text rfl
  have replyTo : given.optional? "reply_to" Document.text? = some properties.replyTo :=
    optional?_text rfl
  have headers : given.defaulted? "headers" []
      (headersOfDocument? (Document.maxDepth - depth - 1)) = some properties.headers :=
    Record.defaulted?_of_lookup rfl headers _
  have timestamp : given.optional? "timestamp" timestampOfDocument? =
      some properties.timestamp := by
    refine Record.optional?_ofOption Timestamp.text rfl fun t set => ?_
    rw [timestampOfDocument?, Json.text?_document, Option.bind_some, timestamp t set]
  rw [ofDocumentAt?, record]
  simp only [Option.bind_eq_bind, Option.bind_some, Option.pure_def,
    show Record.ofMembers stored.fields = given from rfl, contentType, deliveryMode, messageId,
    correlationId, replyTo, headers, timestamp]

theorem headersOfDocument?_document {headers : List (String × Json)}
    (stated : headersOfDocument? depth document = some headers)
    (whole : Json.membersAreWhole headers = true) {written : List (String × Json)}
    (perm : written.Perm headers) :
    headersOfDocument? depth (Json.object written).document = some headers := by
  cases document with
  | object members =>
    obtain ⟨values, found, rfl⟩ := Option.map_eq_some_iff.mp stated
    exact Document.memberValues?_of_perm (Document.memberValues?_each found) whole perm
  | _ => cases stated

theorem isValid_of_timestampOfDocument? {t : Timestamp}
    (stated : timestampOfDocument? document = some t) : t.isValid = true := by
  obtain ⟨s, -, found⟩ := Option.bind_eq_some_iff.mp stated
  exact Timestamp.isValid_of_read? found

/-- **Properties that were read are read back**, at the same depth and with their headers in any
order. -/
theorem ofDocumentAt?_reread (stated : ofDocumentAt? depth document = some properties)
    (storable : properties.IsStorable) {written : List (String × Json)}
    (perm : written.Perm properties.headers) :
    ofDocumentAt? depth ({ properties with headers := written } : Properties).toJson.document =
      some properties := by
  simp only [ofDocumentAt?, Option.bind_eq_bind, Option.bind_eq_some_iff] at stated
  obtain ⟨record, -, _, -, _, -, _, -, _, -, _, -, headers, headers_stated, timestamp,
    time_stated, same⟩ := stated
  cases same
  apply ofDocumentAt?_toJson
  · -- Headers that were left out are written as an object without members.
    rcases Record.exists_of_defaulted? headers_stated with rfl | ⟨document, found⟩
    · obtain rfl : written = [] := perm.eq_nil
      rfl
    · exact headersOfDocument?_document found storable.headers_whole perm
  · intro t set
    obtain ⟨document, found⟩ := Record.exists_of_optional? time_stated t set
    obtain ⟨first, last⟩ := storable.year_plain t set
    exact Timestamp.read?_text (isValid_of_timestampOfDocument? found) first last

theorem isWhole_toJson (storable : properties.IsStorable) : properties.toJson.isWhole = true := by
  have optional : ∀ content, (Json.ofOption content).isWhole = true := by
    intro content
    cases content <;> rfl
  simp only [toJson, DeliveryMode.toJson, Json.isWhole, Json.membersAreWhole, optional,
    storable.headers_whole, Bool.and_self]

end Properties

/-! ## Messages -/

namespace Message

theorem byteOfDocument?_document (byte : UInt8) :
    byteOfDocument? (Json.number (.whole byte.toNat)).document = some byte := by
  have small : byte.toNat < 256 := byte.toNat_lt
  have fits : byte.toNat < Nat.pow 2 64 := lt_trans small (by decide)
  have word : (UInt64.ofNat byte.toNat).toNat = byte.toNat := UInt64.toNat_ofNat_of_lt' fits
  have below : UInt64.ofNat byte.toNat < 256 := by
    rw [UInt64.lt_iff_toNat_lt, word]
    exact small
  have same : (UInt64.ofNat byte.toNat).toUInt8 = byte := by
    rw [← UInt8.toNat_inj, UInt64.toNat_toUInt8, word]
    exact Nat.mod_eq_of_lt small
  rw [byteOfDocument?, Json.word?_document fits]
  simp only [below, if_true, same]

theorem payloadOfDocument?_document (payload : List UInt8) :
    payloadOfDocument? (Json.array (payload.map fun byte => .number (.whole byte.toNat))).document =
      some payload :=
  Json.list?_document fun byte _ => byteOfDocument?_document byte

theorem idOfDocument?_document (id : Uuid) :
    idOfDocument? (Json.string id.text).document = some id := by
  rw [idOfDocument?, Json.text?_document, Option.bind_some, Uuid.read?_text]

/-- Fields as they are written. -/
def fields (message : Message) : List (String × Json) :=
  [("id", .string message.id.text), ("properties", message.properties.toJson),
    ("payload", .array (message.payload.map fun byte => .number (.whole byte.toNat)))]

variable {document : Document} {message : Message}

/-- A message that was read is read back, with its headers in any order. -/
theorem ofDocument?_reread (stated : ofDocument? document = some message)
    (storable : message.properties.IsStorable) {written : List (String × Json)}
    (perm : written.Perm message.properties.headers) :
    ofDocument? ({ message with
      properties := { message.properties with headers := written } } : Message).toJson.document =
        some message := by
  have distinct : fieldNames.Nodup := by decide
  let stored : Message :=
    { message with properties := { message.properties with headers := written } }
  have record : stored.toJson.document.record? fieldNames = some (Record.ofMembers stored.fields) :=
    Json.record?_document fieldNames (fun _ listed => listed) distinct
  let given := Record.ofMembers stored.fields
  have id : given.required? "id" idOfDocument? = some message.id :=
    Record.required?_of_lookup rfl (idOfDocument?_document message.id)
  have properties : given.required? "properties" (Properties.ofDocumentAt? 2) =
      some message.properties := by
    simp only [ofDocument?, Option.bind_eq_bind, Option.bind_eq_some_iff] at stated
    obtain ⟨_, -, _, -, properties, properties_stated, _, -, same⟩ := stated
    cases same
    obtain ⟨_, -, found⟩ := Option.bind_eq_some_iff.mp properties_stated
    exact Record.required?_of_lookup rfl (Properties.ofDocumentAt?_reread found storable perm)
  have payload : given.required? "payload" payloadOfDocument? = some message.payload :=
    Record.required?_of_lookup rfl (payloadOfDocument?_document message.payload)
  rw [ofDocument?, record]
  simp only [Option.bind_eq_bind, Option.bind_some, Option.pure_def,
    show Record.ofMembers stored.fields = given from rfl, id, properties, payload]

theorem isWhole_toJson (storable : message.properties.IsStorable) :
    message.toJson.isWhole = true := by
  have payload : Json.areWhole (message.payload.map fun byte => .number (.whole byte.toNat)) =
      true := by
    rw [Json.areWhole_iff]
    intro item listed
    obtain ⟨byte, _, rfl⟩ := List.mem_map.mp listed
    rfl
  simp only [toJson, Json.isWhole, Json.membersAreWhole, Properties.isWhole_toJson storable,
    payload, Bool.and_self]

/-- **Messages and properties that were read are read back.** However a text states them, what they
are written as states them again, whatever the order in which their headers are written. -/
theorem reread :
    (∀ (s : String) (properties : Properties), Properties.read? s = some properties →
      properties.IsStorable → ∀ headers : List (String × Json),
        headers.Perm properties.headers →
          Properties.read? ({ properties with headers } : Properties).text = some properties) ∧
      ∀ (s : String) (message : Message), read? s = some message →
        message.properties.IsStorable → ∀ headers : List (String × Json),
          headers.Perm message.properties.headers →
            let stored : Message :=
              { message with properties := { message.properties with headers } }
            read? stored.text = some message := by
  have written : ∀ {value : Json}, value.isWhole = true →
      Document.read? value.text.toList = some value.document := by
    intro value whole
    rw [Json.text, String.toList_ofList]
    exact Document.read?_of_isText (Json.isText_compact whole)
  constructor
  · intro s properties stated storable headers perm
    obtain ⟨document, -, found⟩ := Option.bind_eq_some_iff.mp stated
    have whole := Properties.isWhole_toJson (storable.of_perm perm)
    rw [Properties.read?, Properties.text, written whole]
    exact Properties.ofDocumentAt?_reread found storable perm
  · intro s message stated storable headers perm stored
    obtain ⟨document, -, found⟩ := Option.bind_eq_some_iff.mp stated
    have stored_storable : stored.properties.IsStorable := storable.of_perm perm
    rw [read?, text, written (isWhole_toJson stored_storable)]
    exact ofDocument?_reread found storable perm

/-- Properties as an array, with a mode as an object, a header that comes again and a clock ahead of
UTC, read back also with their headers written the other way round; a message with an unknown field,
an identifier in braces and capitals, and half of a surrogate pair in its payload. -/
theorem reread_of_other_forms :
    (∃ properties ∈ Properties.read? ("[\"text/plain\",\x7b\"Persistent\":null\x7d,null,null," ++
          "\"\",\x7b\"b\":0,\"a\":[-1,\x7b\"z\":null\x7d],\"b\":\"\\u00e9\"\x7d," ++
          "\"2024-03-01t00:30:60.25+01:00\"]"),
        (properties.text =
            "\x7b\"content_type\":\"text/plain\",\"delivery_mode\":\"Persistent\"," ++
              "\"message_id\":null,\"correlation_id\":null,\"reply_to\":\"\"," ++
              "\"headers\":\x7b\"a\":[-1,\x7b\"z\":null\x7d],\"b\":\"é\"\x7d," ++
              "\"timestamp\":\"2024-02-29T23:30:60.250Z\"\x7d" ∧
          ({ properties with headers := properties.headers.reverse } : Properties).text =
            "\x7b\"content_type\":\"text/plain\",\"delivery_mode\":\"Persistent\"," ++
              "\"message_id\":null,\"correlation_id\":null,\"reply_to\":\"\"," ++
              "\"headers\":\x7b\"b\":\"é\",\"a\":[-1,\x7b\"z\":null\x7d]\x7d," ++
              "\"timestamp\":\"2024-02-29T23:30:60.250Z\"\x7d") ∧
        properties.IsStorable ∧ Properties.read? properties.text = some properties ∧
        Properties.read? ({ properties with headers := properties.headers.reverse } :
          Properties).text = some properties) ∧
      ∃ message ∈ read? (" \x7b\"payload\":\"a\\ud800\",\"x\":[1e999],\"properties\":\x7b\x7d," ++
          "\"id\":\"\x7b00000000-0000-0000-0000-00000000ABCD\x7d\"\x7d\n"),
        message.text =
          "\x7b\"id\":\"00000000-0000-0000-0000-00000000abcd\"," ++
            "\"properties\":\x7b\"content_type\":null,\"delivery_mode\":\"Transient\"," ++
            "\"message_id\":null,\"correlation_id\":null,\"reply_to\":null," ++
            "\"headers\":\x7b\x7d,\"timestamp\":null\x7d,\"payload\":[97,237,160,128]\x7d" ∧
        message.properties.IsStorable ∧ read? message.text = some message := by
  have properties_again : ∀ {s : String} {written : Properties → Prop},
      (∃ properties ∈ Properties.read? s, written properties ∧ properties.IsStorable) →
        ∃ properties ∈ Properties.read? s, written properties ∧ properties.IsStorable ∧
          Properties.read? properties.text = some properties ∧
          Properties.read? ({ properties with headers := properties.headers.reverse } :
            Properties).text = some properties := by
    rintro s _ ⟨properties, stated, written, storable⟩
    exact ⟨properties, stated, written, storable,
      reread.1 s properties stated storable properties.headers (.refl _),
      reread.1 s properties stated storable _ (List.reverse_perm _)⟩
  have message_again : ∀ {s written}, (∃ message ∈ read? s,
      message.text = written ∧ message.properties.IsStorable) → ∃ message ∈ read? s,
        message.text = written ∧ message.properties.IsStorable ∧
          read? message.text = some message := by
    rintro s _ ⟨message, stated, written, storable⟩
    exact ⟨message, stated, written, storable,
      reread.2 s message stated storable message.properties.headers (.refl _)⟩
  exact ⟨properties_again (by decide +kernel), message_again (by decide +kernel)⟩

end Message

end MessageBroker
