import MessageSync.Proofs.Wire.Envelopes
import MessageSync.Proofs.Wire.RecordValues
import MessageSync.Wire.Bodies

/-!
# Envelopes as values

An envelope with a structured body is itself written as a structured value, and the envelope of that
value is the same one, if its type is in normal form and its body is sorted. Every envelope of a
value is of that kind, so the value of an envelope is never wrapped in another one.

A value that is not read as an envelope becomes the body of one, or the payload of an error: nothing
of it is lost.
-/

namespace MessageSync

namespace ShapeRule

variable {value : Value}

/-- The rule is the first one that the value fits. -/
def Decides (rule : ShapeRule) (value : Value) : Prop :=
  ∃ before after, all = before ++ rule :: after ∧ rule.fits value = true ∧
    ∀ earlier ∈ before, earlier.fits value = false

theorem matching?_eq_some {rule : ShapeRule} :
    matching? value = some rule ↔ rule.Decides value := by
  rw [matching?, List.find?_eq_some_iff_append]
  constructor
  · rintro ⟨fits, before, after, allEq, blocked⟩
    exact ⟨before, after, allEq, fits, by simpa using blocked⟩
  · rintro ⟨before, after, allEq, fits, blocked⟩
    exact ⟨fits, before, after, allEq, by simpa using blocked⟩

theorem matching?_eq_none :
    matching? value = none ↔ ∀ rule ∈ all, rule.fits value = false := by
  simp [matching?, List.find?_eq_none]

/-- A value without entries fits no rule. -/
theorem matching?_of_no_entries (empty : ∀ key, value.get? key = none) :
    matching? value = none := by
  rw [matching?_eq_none]
  simp [all, hasText, hasBool, hasNumber, hasArray, hasThat, has, empty]

theorem isNormal_of_mem {rule : ShapeRule} (mem : rule ∈ all) : rule.messageType.IsNormal := by
  have every : ∀ type ∈ all.map messageType, type.IsNormal := by decide
  exact every _ (List.mem_map_of_mem mem)

end ShapeRule

namespace Item

/-- The parts of the item of a sorted value are the items of sorted values. -/
theorem exists_of_mem_parts {value : Value} (sorted : value.Sorted) {part : Item}
    (mem : part ∈ (ofValue value).parts) : ∃ inner : Value, inner.Sorted ∧ part = ofValue inner := by
  cases value with
  | array items =>
      rw [ofValue_array, parts, List.mem_map] at mem
      rcases mem with ⟨inner, mem, rfl⟩
      exact ⟨inner, Value.sortedItems_iff.mp sorted inner mem, rfl⟩
  | object entries =>
      rw [ofValue_object, parts_ofFields, List.mem_map] at mem
      rcases mem with ⟨field, fieldMem, rfl⟩
      rcases exists_of_mem_fieldsOf fieldMem with ⟨entry, entryMem, rfl⟩
      exact ⟨entry.2, Value.sortedEntries_iff.mp sorted.2 entry entryMem, rfl⟩
  | _ => cases mem

end Item

theorem Body.codec_carries {content : Value} (sorted : content.Sorted) :
    codec.Carries (.structured content) where
  complete := Item.ofValue_complete content
  received := codec_received sorted
  read := by
    have back := Item.toValue?_ofValue content sorted
    refine ⟨content, back, ?_⟩
    simp only [codec, back]

namespace Envelope

variable {envelope : Envelope} {value content : Value} {fallback : String}

/-! ## Values of envelopes -/

theorem layout_carries (normal : envelope.messageType.IsNormal)
    (structured : envelope.body = .structured content) (sorted : content.Sorted) :
    layout.Suits Codec.Carries envelope := by
  have textCarries : ∀ text, Codec.text.Carries text :=
    fun text => (Codec.text_holds 0 text).toCarries
  refine ⟨⟨⟨⟨⟨⟨⟨trivial, ?_⟩, ?_⟩, ?_⟩, ?_⟩, ?_⟩, ?_⟩, ?_⟩
  · exact (Codec.int64_holds 0 envelope.stanzaId).toCarries
  · exact textCarries envelope.conversationId
  · exact (MessageType.codec_holds 0 normal).toCarries
  · change Body.codec.Carries envelope.body
    rw [structured]
    exact Body.codec_carries sorted
  · exact Field.optional_suits fun id _ => (textCarries id).option nofun
  · exact Field.optional_suits fun id _ => (textCarries id).option nofun
  · exact Field.optional_suits fun flags _ => (Codec.uint8_holds 0 flags).toCarries.option nofun

theorem isEnvelope_value (carries : layout.Suits Codec.Carries envelope) :
    ShapeRule.isEnvelope (layout.value envelope) = true := by
  have body : ∃ content, (Body.codec.write envelope.body).toValue? = some content := by
    rcases (carries.1.1.1.2 : Body.codec.Carries envelope.body).read with ⟨content, written, -⟩
    exact ⟨content, written⟩
  rcases body with ⟨content, written⟩
  simp only [ShapeRule.isEnvelope, ShapeRule.hasNumber, ShapeRule.hasText, ShapeRule.hasThat,
    ShapeRule.has, carries.get?_value names_nodup]
  simp [layout, written, Value.isNumber, Value.isText]

/-- The envelope of the value of an envelope is that one. -/
theorem classify_envelope (normal : envelope.messageType.IsNormal)
    (structured : envelope.body = .structured content) (sorted : content.Sorted) :
    classify (layout.value envelope) fallback = envelope := by
  have carries := layout_carries normal structured sorted
  have read : layout.read (.ofValue (layout.value envelope)) = .ok envelope :=
    carries.read_value names_nodup
  rw [classify, if_pos (isEnvelope_value carries), read]

/-! ## Envelopes of values -/

/-- The value is an envelope. -/
def Accepts (value : Value) : Prop :=
  ShapeRule.isEnvelope value = true ∧ ∃ envelope, layout.read (.ofValue value) = .ok envelope

theorem classify_of_accepts {value : Value} (read : layout.read (.ofValue value) = .ok envelope)
    (shaped : ShapeRule.isEnvelope value = true) : classify value fallback = envelope := by
  rw [classify, if_pos shaped, read]

theorem classify_of_not_accepts (refused : ¬Accepts value) :
    classify value fallback = ofShape value fallback := by
  rw [classify]
  split
  · next shaped =>
      cases read : layout.read (.ofValue value) with
      | ok envelope => exact absurd ⟨shaped, envelope, read⟩ refused
      | error reason => rfl
  · rfl

/-- An envelope that is written as a value from which it is read. -/
def Restated (envelope : Envelope) : Prop :=
  envelope.messageType.IsNormal ∧ ∃ content, envelope.body = .structured content ∧ content.Sorted

theorem restated_of_read (sorted : value.Sorted)
    (read : layout.read (.ofValue value) = .ok envelope) : envelope.Restated := by
  have parts : ∀ part ∈ (Item.ofValue value).parts,
      ∃ inner : Value, inner.Sorted ∧ part = .ofValue inner :=
    fun part mem => Item.exists_of_mem_parts sorted mem
  rcases of_made (layout.made_of_read parts read) with ⟨normal, bodyRead, -⟩
  refine ⟨normal, ?_⟩
  rcases bodyRead with absent | ⟨_, ⟨inner, innerSorted, rfl⟩, itemRead⟩
  · exact ⟨.null, absent, trivial⟩
  · simp only [Body.codec, Item.toValue?_ofValue inner innerSorted, Except.ok.injEq] at itemRead
    exact ⟨inner, itemRead.symm, innerSorted⟩

/-- The entries of the error that stands for a value, in the order of their keys. -/
def unclassifiedEntries (value : Value) : List (String × Value) := [
  ("code", .text "unclassified"),
  ("message", .text "payload did not match any known shape"),
  ("payload", value)]

theorem body_unclassified :
    (unclassified value fallback).body = .structured (.object (unclassifiedEntries value)) := by
  have ascending : ["code", "message", "payload"].Pairwise (· < ·) := by decide +kernel
  exact congrArg Body.structured (Value.ofEntries_sorted ascending)

theorem restated_ofShape (sorted : value.Sorted) : (ofShape value fallback).Restated := by
  rw [ofShape]
  split
  · next rule found =>
      exact ⟨ShapeRule.isNormal_of_mem (List.mem_of_find?_eq_some found), value, rfl, sorted⟩
  · have normal : MessageType.error.IsNormal := by decide
    refine ⟨normal, _, rfl, Value.sorted_ofEntries ?_⟩
    simp [sorted, Value.Sorted]

theorem restated_classify (sorted : value.Sorted) : (classify value fallback).Restated := by
  by_cases accepted : Accepts value
  · rcases accepted with ⟨shaped, envelope, read⟩
    rw [classify_of_accepts read shaped]
    exact restated_of_read sorted read
  · rw [classify_of_not_accepts accepted]
    exact restated_ofShape sorted

/-- What becomes of a value that is no envelope: the body of one under the type of the rule that
decides, or the payload of an error. -/
structure Wraps (envelope : Envelope) (value : Value) (fallback : String) : Prop where
  stanzaId : envelope.stanzaId = 0
  untraced : envelope.traceId = none ∧ envelope.spanId = none ∧ envelope.traceFlags = none
  named : ∀ id, value.get? "conversationId" = some (.text id) → id ≠ "" →
    envelope.conversationId = id
  unnamed : (∀ id, value.get? "conversationId" = some (.text id) → id = "") →
    envelope.conversationId = fallback
  classified : ∀ rule : ShapeRule, rule.Decides value →
    envelope.messageType = rule.messageType ∧ envelope.body = .structured value
  unclassified : ((∀ rule ∈ ShapeRule.all, rule.fits value = false) ∨
      ∀ entries, value ≠ .object entries) →
    envelope.messageType = .error ∧ envelope.body.get? "code" = some (.text "unclassified") ∧
      envelope.body.get? "payload" = some value

theorem conversationOf_of_text {id : String} (held : value.get? "conversationId" = some (.text id))
    (nonempty : id ≠ "") : conversationOf value fallback = id := by
  simp only [conversationOf, held, if_pos nonempty]

theorem conversationOf_of_no_text
    (empty : ∀ id, value.get? "conversationId" = some (.text id) → id = "") :
    conversationOf value fallback = fallback := by
  simp only [conversationOf]
  split
  · next id held => rw [if_neg (not_not.mpr (empty id held))]
  · rfl

theorem conversationOf_eq {named? : Option String}
    (held : value.get? "conversationId" = named?.map .text) :
    conversationOf value fallback = (named?.filter (· ≠ "")).getD fallback := by
  cases named? with
  | none =>
      apply conversationOf_of_no_text
      intro id text
      rw [held] at text
      cases text
  | some id =>
      by_cases empty : id = ""
      · subst empty
        apply conversationOf_of_no_text
        intro id text
        rw [held] at text
        cases text
        rfl
      · rw [conversationOf_of_text held empty]
        simp [Option.filter_some, empty]

theorem exists_ofShape_eq (value : Value) (fallback : String) : ∃ type content,
    ofShape value fallback = .of (conversationOf value fallback) type (.structured content) := by
  simp only [ofShape]
  split <;> exact ⟨_, _, rfl⟩

theorem ofShape_of_decides {rule : ShapeRule} (decides : rule.Decides value) :
    ofShape value fallback =
      .of (conversationOf value fallback) rule.messageType (.structured value) := by
  simp only [ofShape, ShapeRule.matching?_eq_some.mpr decides]

theorem ofShape_of_no_rule (noRule : ShapeRule.matching? value = none) :
    ofShape value fallback = .of (conversationOf value fallback) .error
      (.structured (.object (unclassifiedEntries value))) := by
  have same : ofShape value fallback = unclassified value fallback := by
    simp only [ofShape, noRule]
  have body : (unclassified value fallback).body =
      .structured (.object (unclassifiedEntries value)) := body_unclassified
  rw [same, ← body]
  rfl

theorem wraps_ofShape : (ofShape value fallback).Wraps value fallback := by
  rcases exists_ofShape_eq value fallback with ⟨type, content, shape⟩
  refine ⟨by rw [shape]; rfl, by rw [shape]; exact ⟨rfl, rfl, rfl⟩, ?_, ?_, ?_, ?_⟩
  · intro id held nonempty
    rw [shape]
    exact conversationOf_of_text held nonempty
  · intro empty
    rw [shape]
    exact conversationOf_of_no_text empty
  · intro rule decides
    rw [ofShape_of_decides decides]
    exact ⟨rfl, rfl⟩
  · intro noRule
    have noMatch : ShapeRule.matching? value = none := by
      rcases noRule with refused | noObject
      · exact ShapeRule.matching?_eq_none.mpr refused
      · apply ShapeRule.matching?_of_no_entries
        intro key
        cases value with
        | object entries => exact absurd rfl (noObject entries)
        | _ => rfl
    rw [ofShape_of_no_rule noMatch]
    exact ⟨rfl, rfl, rfl⟩

/-- The envelope of a value is the envelope of its own value, and so is every envelope with a type
in normal form and a sorted body; a value that is no envelope is wrapped in one as it is. -/
theorem classify_value (fallback : String) :
    (∀ value : Value, value.Sorted → ∀ other,
      classify (layout.value (classify value fallback)) other = classify value fallback) ∧
    (∀ (envelope : Envelope) (content : Value), envelope.body = .structured content →
      content.Sorted → envelope.messageType.IsNormal →
        classify (layout.value envelope) fallback = envelope) ∧
    ∀ value : Value, ¬Accepts value → (classify value fallback).Wraps value fallback := by
  refine ⟨?_, ?_, ?_⟩
  · intro value sorted other
    rcases restated_classify sorted with ⟨normal, content, structured, contentSorted⟩
    exact classify_envelope normal structured contentSorted
  · intro envelope content structured sorted normal
    exact classify_envelope normal structured sorted
  · intro value refused
    rw [classify_of_not_accepts refused]
    exact wraps_ofShape

/-- A new title, sent without an envelope. -/
def title : Value :=
  .object [("conversationId", .text "c1"), ("title", .text "Plans")]

theorem title_sorted : title.Sorted := by
  refine ⟨?_, trivial, trivial, trivial⟩
  decide +kernel

theorem title_not_accepted : ¬Accepts title := by
  rintro ⟨shaped, -⟩
  have unshaped : ShapeRule.isEnvelope title = false := by decide +kernel
  exact absurd shaped (by rw [unshaped]; exact Bool.false_ne_true)

theorem classify_value_title :
    classify (layout.value (classify title "c0")) "c9" = classify title "c0" ∧
      classify (layout.value nested) "c0" = nested ∧ (classify title "c0").Wraps title "c0" := by
  rcases classify_value "c0" with ⟨again, envelopes, wraps⟩
  refine ⟨again title title_sorted "c9", ?_, wraps title title_not_accepted⟩
  exact envelopes nested _ rfl nested_portable.sorted nested_portable.normal

end Envelope

end MessageSync
