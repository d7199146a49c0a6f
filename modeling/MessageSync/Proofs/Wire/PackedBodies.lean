import MessageSync.Proofs.Wire.Bodies
import MessageSync.Proofs.Wire.Envelopes

/-!
# Bodies read alike

A body is read from a structured value or from the document of that value, and it makes no
difference which. The document says more than the value: numbers from zero up have an unsigned
marker, and such a number may also stand for a field or a variant by its position. No field of a
value is named by a number, so this matters only where a variant is expected. Everywhere else each
codec reads the value alike in both forms, and so does each record, whether the value is an object or
an array, and whatever is missing or wrong in it.
-/

namespace MessageSync

/-- The items of an array. -/
def Value.items : Value → List Value
  | .array items => items
  | _ => []

/-- The parts of a value that are read as the field of a name. -/
def Layout.partsFor {ρ α : Type} (layout : Layout ρ α) (name : String) (value : Value) :
    List Value :=
  value.partsFor name (layout.names.idxOf name)

/-- The typed bodies, each with the parts of a value in whose place it has a role, a status or a
resolution. -/
inductive VariantPlaces : {ρ : Type} → Layout ρ ρ → (Value → List Value) → Prop where
  | subscribe : VariantPlaces Subscribe.layout fun _ => []
  | subscribeAck : VariantPlaces SubscribeAck.layout fun _ => []
  | unsubscribe : VariantPlaces Unsubscribe.layout fun _ => []
  | unsubscribeAck : VariantPlaces UnsubscribeAck.layout fun _ => []
  | configuration : VariantPlaces Configuration.layout fun _ => []
  | chatMessage : VariantPlaces ChatMessage.layout (ChatMessage.layout.partsFor "role")
  | syncRequest : VariantPlaces SyncRequest.layout fun value =>
      ((SyncRequest.layout.partsFor "messages" value).flatMap Value.items).flatMap
        (PendingMessage.layout.partsFor "role")
  | syncResponse : VariantPlaces SyncResponse.layout fun value =>
      ((SyncResponse.layout.partsFor "results" value).flatMap Value.items).flatMap fun result =>
        SyncResult.layout.partsFor "status" result ++
          SyncResult.layout.partsFor "resolution" result ++
            (SyncResult.layout.partsFor "message" result).flatMap
              (CanonicalMessage.layout.partsFor "role")
  | syncAvailable : VariantPlaces SyncAvailable.layout fun _ => []
  | errorBody : VariantPlaces ErrorBody.layout fun _ => []
  | titleUpdate : VariantPlaces TitleUpdate.layout fun _ => []
  | generationComplete : VariantPlaces GenerationComplete.layout fun _ => []

/-! ## Codecs -/

namespace Codec

variable {α : Type} {codec : Codec α} {value : Value}

theorem Unmarked.readsAlike (unmarked : codec.Unmarked) (value : Value) : codec.ReadsAlike value :=
  unmarked (.ofValue value)

theorem ReadsAlike.option (alike : codec.ReadsAlike value) : codec.option.ReadsAlike value := by
  by_cases isNil : Item.ofValue value = .nil
  · rw [ReadsAlike, isNil]
    rfl
  · have receivedNotNil : (Item.ofValue value).received ≠ .nil := mt Item.received_eq_nil.mp isNil
    rw [ReadsAlike, option_read isNil, option_read receivedNotNil, alike]

theorem mapM_received {items : List Item}
    (alike : ∀ item ∈ items, codec.read item.received = codec.read item) :
    (items.map Item.received).mapM codec.read = items.mapM codec.read := by
  induction items with
  | nil => rfl
  | cons item items ih =>
      have first := alike item (by simp)
      have rest := ih fun other mem => alike other (by simp [mem])
      simp only [List.map_cons, List.mapM_cons, first, rest]

theorem list_unmarked (unmarked : codec.Unmarked) : (list codec).Unmarked := by
  intro item
  cases item with
  | array items =>
      rw [Item.received, Item.allReceived_eq_map]
      exact mapM_received fun inner _ => unmarked inner
  | whole number =>
      simp only [Item.received]
      split_ifs <;> rfl
  | _ => rfl

theorem ReadsAlike.list (alike : ∀ item ∈ value.items, codec.ReadsAlike item) :
    (list codec).ReadsAlike value := by
  cases value with
  | array items =>
      rw [ReadsAlike, Item.ofValue_array, Item.received, Item.allReceived_eq_map]
      apply mapM_received
      intro item mem
      rcases List.mem_map.mp mem with ⟨inner, innerMem, rfl⟩
      exact alike inner innerMem
  | whole number =>
      simp only [ReadsAlike, Item.ofValue, Item.received]
      split_ifs <;> rfl
  | _ => rfl

/-- A variant is read alike from anything but a number, which the document may take for the position
of one. -/
theorem variant_readsAlike {variants : List (String × α)} {name : α → String}
    (noNumber : value.isNumber = false) : (variant variants name).ReadsAlike value := by
  cases value with
  | whole number => cases noNumber
  | object entries =>
      rcases entries with _ | ⟨⟨key, content⟩, _ | ⟨other, others⟩⟩
      · rfl
      · cases content with
        | whole number =>
            -- A variant is mapped to nil, and no number is received as that.
            simp only [ReadsAlike, Item.ofValue, Item.ofEntries, Item.received,
              Item.entriesReceived]
            split_ifs <;> rfl
        | _ => rfl
      · rfl
  | _ => rfl

end Codec

/-! ## Records with variants -/

section

variable {value : Value}

theorem PendingMessage.readsAlike
    (clear : ∀ part ∈ layout.partsFor "role" value, part.isNumber = false) :
    layout.codec.ReadsAlike value := by
  have text := Codec.text_unmarked.readsAlike
  have moment := Codec.moment_unmarked.readsAlike
  have place : layout.names.idxOf "role" = 1 := by decide
  rw [Layout.partsFor, place] at clear
  refine Layout.read_received ⟨⟨⟨⟨⟨⟨trivial, ?_⟩, ?_⟩, ?_⟩, ?_⟩, ?_⟩, ?_⟩
  · exact fun localId _ => text localId
  · exact fun role mem => Codec.variant_readsAlike (clear role mem)
  · exact fun contents _ => text contents
  · exact fun createdAt _ => moment createdAt
  · exact fun updatedAt _ => moment updatedAt
  · exact fun previousId _ => (text previousId).option

theorem CanonicalMessage.readsAlike
    (clear : ∀ part ∈ layout.partsFor "role" value, part.isNumber = false) :
    layout.codec.ReadsAlike value := by
  have text := Codec.text_unmarked.readsAlike
  have moment := Codec.moment_unmarked.readsAlike
  have place : layout.names.idxOf "role" = 3 := by decide
  rw [Layout.partsFor, place] at clear
  refine Layout.read_received ⟨⟨⟨⟨⟨⟨⟨⟨trivial, ?_⟩, ?_⟩, ?_⟩, ?_⟩, ?_⟩, ?_⟩, ?_⟩, ?_⟩
  · exact fun id _ => text id
  · exact fun conversationId _ => text conversationId
  · exact fun sequenceNumber _ => Codec.int64_unmarked.readsAlike sequenceNumber
  · exact fun role mem => Codec.variant_readsAlike (clear role mem)
  · exact fun contents _ => text contents
  · exact fun createdAt _ => moment createdAt
  · exact fun updatedAt _ => moment updatedAt
  · exact fun previousId _ => (text previousId).option

theorem SyncResult.readsAlike
    (statusClear : ∀ part ∈ layout.partsFor "status" value, part.isNumber = false)
    (resolutionClear : ∀ part ∈ layout.partsFor "resolution" value, part.isNumber = false)
    (roleClear : ∀ message ∈ layout.partsFor "message" value,
      ∀ part ∈ CanonicalMessage.layout.partsFor "role" message, part.isNumber = false) :
    layout.codec.ReadsAlike value := by
  have statusPlace : layout.names.idxOf "status" = 1 := by decide
  have messagePlace : layout.names.idxOf "message" = 2 := by decide
  have resolutionPlace : layout.names.idxOf "resolution" = 3 := by decide
  rw [Layout.partsFor, statusPlace] at statusClear
  rw [Layout.partsFor, messagePlace] at roleClear
  rw [Layout.partsFor, resolutionPlace] at resolutionClear
  refine Layout.read_received ⟨⟨⟨⟨trivial, ?_⟩, ?_⟩, ?_⟩, ?_⟩
  · exact fun localId _ => Codec.text_unmarked.readsAlike localId
  · exact fun status mem => Codec.variant_readsAlike (statusClear status mem)
  · exact fun message mem => CanonicalMessage.readsAlike (roleClear message mem)
  · exact fun resolution mem => (Codec.variant_readsAlike (resolutionClear resolution mem)).option

theorem ChatMessage.readsAlike
    (clear : ∀ part ∈ layout.partsFor "role" value, part.isNumber = false) :
    layout.codec.ReadsAlike value := by
  have text := Codec.text_unmarked.readsAlike
  have moment := Codec.moment_unmarked.readsAlike
  have place : layout.names.idxOf "role" = 3 := by decide
  rw [Layout.partsFor, place] at clear
  refine Layout.read_received ⟨⟨⟨⟨⟨⟨⟨⟨⟨trivial, ?_⟩, ?_⟩, ?_⟩, ?_⟩, ?_⟩, ?_⟩, ?_⟩, ?_⟩, ?_⟩
  · exact fun id _ => text id
  · exact fun conversationId _ => text conversationId
  · exact fun content _ => text content
  · exact fun role mem => (Codec.variant_readsAlike (clear role mem)).option
  · exact fun localId _ => (text localId).option
  · exact fun sequenceNumber _ => (Codec.int64_unmarked.readsAlike sequenceNumber).option
  · exact fun previousId _ => (text previousId).option
  · exact fun createdAt _ => (moment createdAt).option
  · exact fun updatedAt _ => (moment updatedAt).option

theorem SyncRequest.readsAlike
    (clear : ∀ messages ∈ layout.partsFor "messages" value, ∀ message ∈ messages.items,
      ∀ part ∈ PendingMessage.layout.partsFor "role" message, part.isNumber = false) :
    layout.codec.ReadsAlike value := by
  have place : layout.names.idxOf "messages" = 1 := by decide
  rw [Layout.partsFor, place] at clear
  refine Layout.read_received ⟨⟨trivial, ?_⟩, ?_⟩
  · exact fun conversationId _ => Codec.text_unmarked.readsAlike conversationId
  · exact fun messages mem => .list fun message messageMem =>
      PendingMessage.readsAlike (clear messages mem message messageMem)

theorem SyncResponse.readsAlike
    (alike : ∀ results ∈ layout.partsFor "results" value, ∀ result ∈ results.items,
      SyncResult.layout.codec.ReadsAlike result) : layout.codec.ReadsAlike value := by
  have place : layout.names.idxOf "results" = 1 := by decide
  rw [Layout.partsFor, place] at alike
  refine Layout.read_received ⟨⟨⟨trivial, ?_⟩, ?_⟩, ?_⟩
  · exact fun conversationId _ => Codec.text_unmarked.readsAlike conversationId
  · exact fun results mem => .list (alike results mem)
  · exact fun syncedAt _ => (Codec.moment_unmarked.readsAlike syncedAt).option

end

/-! ## All bodies -/

namespace VariantPlaces

variable {ρ : Type} {layout : Layout ρ ρ} {places : Value → List Value} {value : Value}

/-- A body without variants is read alike from every value, and any other from one that has no number
in the place of a variant. -/
theorem readsAlike (expects : VariantPlaces layout places)
    (clear : ∀ part ∈ places value, part.isNumber = false) : layout.codec.ReadsAlike value := by
  have text := Codec.text_unmarked
  have unmarkedAlike (unmarked : layout.Unmarked) : layout.codec.ReadsAlike value :=
    Layout.read_received (unmarked.readsAlike value)
  cases expects with
  | subscribe => exact unmarkedAlike ⟨trivial, text⟩
  | subscribeAck =>
      exact unmarkedAlike ⟨⟨⟨⟨trivial, text⟩, Codec.bool_unmarked⟩, Codec.option_unmarked text⟩,
        Codec.option_unmarked Codec.uint64_unmarked⟩
  | unsubscribe => exact unmarkedAlike ⟨trivial, text⟩
  | unsubscribeAck => exact unmarkedAlike ⟨⟨trivial, text⟩, Codec.bool_unmarked⟩
  | configuration =>
      exact unmarkedAlike ⟨⟨⟨trivial, Codec.list_unmarked text⟩, Codec.int64_unmarked⟩, text⟩
  | chatMessage => exact ChatMessage.readsAlike clear
  | syncRequest =>
      simp only [List.mem_flatMap] at clear
      apply SyncRequest.readsAlike
      intro messages mem message messageMem part partMem
      exact clear part ⟨message, ⟨messages, mem, messageMem⟩, partMem⟩
  | syncResponse =>
      simp only [List.mem_flatMap, List.mem_append] at clear
      apply SyncResponse.readsAlike
      intro results mem result resultMem
      have within : ∃ results ∈ SyncResponse.layout.partsFor "results" value,
          result ∈ results.items := ⟨results, mem, resultMem⟩
      apply SyncResult.readsAlike
      · intro part partMem
        exact clear part ⟨result, within, Or.inl (Or.inl partMem)⟩
      · intro part partMem
        exact clear part ⟨result, within, Or.inl (Or.inr partMem)⟩
      · intro message messageMem part partMem
        exact clear part ⟨result, within, Or.inr ⟨message, messageMem, partMem⟩⟩
  | syncAvailable => exact unmarkedAlike ⟨⟨trivial, text⟩, Codec.int64_unmarked⟩
  | errorBody =>
      exact unmarkedAlike ⟨⟨⟨⟨trivial, text⟩, text⟩, Codec.option_unmarked text⟩,
        Codec.option_unmarked text⟩
  | titleUpdate => exact unmarkedAlike ⟨⟨trivial, text⟩, text⟩
  | generationComplete =>
      exact unmarkedAlike ⟨⟨⟨⟨trivial, text⟩, text⟩, Codec.bool_unmarked⟩,
        Codec.option_unmarked text⟩

end VariantPlaces

namespace Envelope

variable {ρ : Type} {layout : Layout ρ ρ} {places : Value → List Value} {value : Value}

/-- A typed body is read from a value as it is from the document of the value: both fail, for the
same reason, or both give the same body. -/
theorem bodyAs_written (expects : VariantPlaces layout places)
    (fits : value.Fits Packing.maxDepth)
    (clear : ∀ part ∈ places value, part.isNumber = false ∧ part.isArray = false)
    {structured binary : Envelope} (asValue : structured.body = .structured value)
    (asDocument : binary.body = .binary (Packing.write (.ofValue value))) :
    ∃ result : Except ReadError ρ,
      structured.bodyAs layout.codec = result.mapError (.body structured.messageType) ∧
        binary.bodyAs layout.codec = result.mapError (.packedBody binary.messageType) := by
  refine ⟨layout.codec.read (.ofValue value), ?_, ?_⟩
  · rw [bodyAs, asValue]
  · have received := Packing.read_write (Item.ofValue_complete value) (Item.ofValue_fits _ _ fits)
    have alike : layout.codec.read (Item.ofValue value).received =
        layout.codec.read (.ofValue value) :=
      expects.readsAlike fun part mem => (clear part mem).1
    rw [bodyAs, asDocument]
    simp only [received, alike]

/-- A message whose role is a map from the role to nil. -/
def mapped : Value :=
  .object [("content", .text "Hi"), ("id", .text "m1"),
    ("role", .object [("assistant", .null)]), ("sequenceNumber", .whole (.ofUInt64 7))]

theorem mapped_fits : mapped.Fits Packing.maxDepth := by
  have texts : ∀ text ∈ ["content", "Hi", "id", "m1", "role", "assistant", "sequenceNumber"],
      (Utf8.encode text).length < Packing.lengthLimit := by decide
  refine ⟨by decide, ?_, texts "Hi" (by simp), ?_, texts "m1" (by simp), ?_, ?_, ?_, trivial,
    trivial⟩
  · exact texts "content" (by simp)
  · exact texts "id" (by simp)
  · exact texts "role" (by simp)
  · exact ⟨by decide, texts "assistant" (by simp), trivial, trivial⟩
  · exact texts "sequenceNumber" (by simp)

theorem bodyAs_written_mapped :
    ∃ body : ChatMessage, (body.id, body.content, body.role) = ("m1", "Hi", some .assistant) ∧
      body.sequenceNumber = some 7 ∧
        (Envelope.of "c1" .assistantMessage (.structured mapped)).bodyAs
            ChatMessage.layout.codec = .ok body ∧
          (Envelope.of "c1" .assistantMessage (.binary (Packing.write (.ofValue mapped)))).bodyAs
            ChatMessage.layout.codec = .ok body := by
  have clear : ∀ part ∈ ChatMessage.layout.partsFor "role" mapped,
      part.isNumber = false ∧ part.isArray = false := by decide
  let structured := Envelope.of "c1" .assistantMessage (.structured mapped)
  let binary := Envelope.of "c1" .assistantMessage (.binary (Packing.write (.ofValue mapped)))
  have asValue : structured.body = .structured mapped := rfl
  have asDocument : binary.body = .binary (Packing.write (.ofValue mapped)) := rfl
  have gives : ((structured.bodyAs ChatMessage.layout.codec).toOption.map fun body =>
      ((body.id, body.content, body.role), body.sequenceNumber)) =
        some (("m1", "Hi", some .assistant), some 7) := by decide
  rcases exists_of_toOption_map gives with ⟨body, read, same⟩
  rcases bodyAs_written .chatMessage mapped_fits clear asValue asDocument with
    ⟨result, fromValue, fromDocument⟩
  have resultEq : result = .ok body := except_mapError_eq_ok.mp (fromValue.symm.trans read)
  refine ⟨body, congrArg Prod.fst same, congrArg Prod.snd same, read, ?_⟩
  rw [resultEq] at fromDocument
  exact fromDocument

end Envelope

end MessageSync
