import Mathlib
import MessageSync.Proofs.Store.Row
import MessageSync.Proofs.Text.Hex
import MessageSync.Record.LocalId

/-!
# What the hashes tell apart

The parts of what is hashed are put one after the other with marks between them, and a conversation
and contents may contain these marks themselves. What matters can be told all the same. The counter
of a local id comes last and is written in digits, so that it is what follows the last mark. The
role of a fingerprint comes first and its name contains no NUL, so that the contents are what
follows the first one. Local ids with different counters, and fingerprints of different messages,
are therefore the same only where the hash of two different byte sequences is.
-/

namespace MessageSync

/-! ## Marks -/

section Marks

variable {α : Type} {mark : α} {before before' after after' : List α}

theorem append_mark_inj_of_before (free : mark ∉ before) (free' : mark ∉ before') :
    before ++ mark :: after = before' ++ mark :: after' ↔ before = before' ∧ after = after' := by
  induction before generalizing before' with
  | nil =>
      cases before' with
      | nil => simp
      | cons other others =>
          have differ : mark ≠ other := List.ne_of_not_mem_cons free'
          simp [differ]
  | cons first rest ih =>
      cases before' with
      | nil =>
          have differ : mark ≠ first := List.ne_of_not_mem_cons free
          simp [differ.symm]
      | cons other others =>
          have rests := ih (List.not_mem_of_not_mem_cons free) (List.not_mem_of_not_mem_cons free')
          simp [rests, and_assoc]

theorem append_mark_inj_of_after (free : mark ∉ after) (free' : mark ∉ after') :
    before ++ mark :: after = before' ++ mark :: after' ↔ before = before' ∧ after = after' := by
  -- Read from the end, the last mark is the first one.
  have reversed :
      after.reverse ++ mark :: before.reverse = after'.reverse ++ mark :: before'.reverse ↔
        after.reverse = after'.reverse ∧ before.reverse = before'.reverse :=
    append_mark_inj_of_before (by simpa using free) (by simpa using free')
  rw [← List.reverse_inj]
  simpa [and_comm] using reversed

end Marks

/-! ## Collisions -/

namespace Sha256

theorem length_hash (message : List UInt8) : (hash message).length = 32 := rfl

/-- The first sixty-four bits of a digest. -/
def truncated (message : List UInt8) : { bytes : List UInt8 // bytes.length = 8 } :=
  ⟨(hash message).take 8, by rw [List.length_take, length_hash]; rfl⟩

/-- Two different messages have the same digest. -/
structure Collide {α : Type} (digest : List UInt8 → α) (first second : List UInt8) : Prop where
  differ : first ≠ second
  agree : digest first = digest second

theorem digest_eq_iff {α : Type} {digest : List UInt8 → α} {first second : List UInt8} :
    digest first = digest second ↔ first = second ∨ Collide digest first second := by
  constructor
  · intro agree
    by_cases same : first = second
    · exact Or.inl same
    · exact Or.inr ⟨same, agree⟩
  · rintro (rfl | collide)
    · rfl
    · exact collide.agree

end Sha256

/-! ## Local ids -/

namespace LocalId

/-- What a local id is made from. -/
structure Seed where
  conversationId : String
  contents : String
  createdAt : Moment
  counter : Nat
deriving DecidableEq

theorem bar_not_mem_natural (number : Nat) : '|' ∉ (toString number).toList := by
  rw [Nat.toString_eq_repr, Nat.toList_repr]
  intro mem
  have digit := Nat.isDigit_of_mem_toDigits (by decide) (by decide) mem
  exact absurd digit (by decide)

theorem bar_not_mem_integer (number : Int) : '|' ∉ (toString number).toList := by
  rw [Int.toString_eq_repr, Int.repr_eq_if]
  split
  · exact bar_not_mem_natural _
  · simpa using bar_not_mem_natural _

theorem append_bar_inj {before before' after after' : String} (free : '|' ∉ after.toList)
    (free' : '|' ∉ after'.toList) :
    before ++ "|" ++ after = before' ++ "|" ++ after' ↔ before = before' ∧ after = after' := by
  have parts : before.toList ++ '|' :: after.toList = before'.toList ++ '|' :: after'.toList ↔
      before.toList = before'.toList ∧ after.toList = after'.toList :=
    append_mark_inj_of_after free free'
  simpa [← String.toList_inj] using parts

namespace Seed

/-- The bytes that the local id is a hash of. -/
def hashedBytes (seed : Seed) : List UInt8 :=
  Utf8.encode (hashedText seed.conversationId seed.contents seed.createdAt seed.counter)

/-- The local id. -/
def id (seed : Seed) : String :=
  generate seed.conversationId seed.contents seed.createdAt seed.counter

/-- The counter and the time can be told from what is hashed. Of a conversation and contents, only
the two together can. -/
theorem hashedBytes_eq_iff {first second : Seed} :
    first.hashedBytes = second.hashedBytes ↔
      first.conversationId ++ "|" ++ first.contents =
          second.conversationId ++ "|" ++ second.contents ∧
        first.createdAt.nanosSinceEpoch = second.createdAt.nanosSinceEpoch ∧
        first.counter = second.counter := by
  rw [hashedBytes, hashedBytes, Utf8.encode_inj, hashedText, hashedText,
    append_bar_inj (bar_not_mem_natural _) (bar_not_mem_natural _),
    append_bar_inj (bar_not_mem_integer _) (bar_not_mem_integer _), and_assoc]
  simp only [Int.toString_eq_repr, Int.repr_inj, Nat.toString_eq_repr, Nat.repr_inj]

/-- A bar may belong to the conversation or to the contents. -/
example (createdAt : Moment) (counter : Nat) :
    hashedBytes ⟨"a|b", "c", createdAt, counter⟩ = hashedBytes ⟨"a", "b|c", createdAt, counter⟩ :=
  hashedBytes_eq_iff.mpr ⟨rfl, rfl, rfl⟩

theorem id_eq_iff {first second : Seed} :
    first.id = second.id ↔
      Sha256.truncated first.hashedBytes = Sha256.truncated second.hashedBytes := by
  rw [id, id, generate, generate, String.append_right_inj, Hex.encode_inj, Subtype.ext_iff]
  rfl

/-- Different bytes are hashed for the two local ids, which are the same only if the hash cannot
tell these apart in its first sixty-four bits. -/
structure Apart (first second : Seed) : Prop where
  hashed : first.hashedBytes ≠ second.hashedBytes
  named : first.id = second.id ↔
    Sha256.Collide Sha256.truncated first.hashedBytes second.hashedBytes

theorem apart_of_counter {first second : Seed} (differ : first.counter ≠ second.counter) :
    first.Apart second := by
  have hashed : first.hashedBytes ≠ second.hashedBytes := by
    intro same
    exact differ (hashedBytes_eq_iff.mp same).2.2
  refine ⟨hashed, ?_⟩
  rw [id_eq_iff, Sha256.digest_eq_iff]
  exact or_iff_right hashed

end Seed

end LocalId

/-! ## Fingerprints -/

namespace Fingerprint

variable {role role' : Role} {contents contents' : String}

theorem zero_not_mem_name (role : Role) : 0 ∉ Utf8.encode role.name := by
  cases role <;> decide

theorem hashedBytes_inj :
    hashedBytes role contents = hashedBytes role' contents' ↔
      role = role' ∧ contents = contents' := by
  rw [hashedBytes, hashedBytes,
    append_mark_inj_of_before (zero_not_mem_name role) (zero_not_mem_name role'),
    Utf8.encode_inj, Utf8.encode_inj, Role.name_inj]

theorem of_eq_iff :
    of role contents = of role' contents' ↔
      (role = role' ∧ contents = contents') ∨
        Sha256.Collide Sha256.hash (hashedBytes role contents) (hashedBytes role' contents') := by
  rw [of, of, Hex.encode_inj, Sha256.digest_eq_iff, hashedBytes_inj]

end Fingerprint

end MessageSync
