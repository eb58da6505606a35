/-
  File:      Matternode/Base/Aead.lean
  Subject:   Authenticated encryption with associated data, as far as its users rely on it.

  * `Aead` -- the two operations; opening may refuse;
  * `Aead.Correct` -- what was locked opens, the text keeps its length, the tag has its length;
  * `Aead.KeysSeparate` -- what was locked under one key does not open under another;
  * `Aead.TagSized` -- a tag of another length than 16 bytes is refused;
  * `Aead.Determined` -- what opens is what its text locks to;
  * `Aead.keyTag` -- an `Aead` that shows its key as the tag: the laws hold of it, and it hides
    nothing.
-/
import Matternode.Base.Bytes

namespace Matternode.Base

/-- Authenticated encryption under a key and a nonce. -/
structure Aead where
  /-- The ciphertext and the tag of a text. How long a text a cipher takes is for its users to say. -/
  lock : (key nonce aad plain : Bytes) → Bytes × Bytes
  /-- The text, unless the tag does not fit. -/
  unlock : (key nonce aad cipher tag : Bytes) → Option Bytes

namespace Aead

/-- **What was locked opens.** -/
structure Correct (A : Aead) : Prop where
  unlock_lock : ∀ key nonce aad plain,
    A.unlock key nonce aad (A.lock key nonce aad plain).1 (A.lock key nonce aad plain).2 =
      some plain
  length_tag : ∀ key nonce aad plain, (A.lock key nonce aad plain).2.length = 16

/-- **What was locked under one key is refused under another**, for keys of 16 bytes. -/
def KeysSeparate (A : Aead) : Prop :=
  ∀ key key' nonce aad plain, key.length = 16 → key'.length = 16 → key ≠ key' →
    A.unlock key' nonce aad (A.lock key nonce aad plain).1 (A.lock key nonce aad plain).2 = none

/-- **A tag of another length is refused.** -/
def TagSized (A : Aead) : Prop :=
  ∀ key nonce aad cipher tag, tag.length ≠ 16 → A.unlock key nonce aad cipher tag = none

/-- **What opens is what its text locks to.** -/
def Determined (A : Aead) : Prop :=
  ∀ key nonce aad cipher tag plain, A.unlock key nonce aad cipher tag = some plain →
    A.lock key nonce aad plain = (cipher, tag)

/-- A key as a tag of 16 bytes. -/
def tagOfKey (key : Bytes) : Bytes := (key ++ List.replicate 16 0).take 16

/-- The text as it stands, with the key as its tag. -/
def keyTag : Aead where
  lock key _ _ plain := (plain, tagOfKey key)
  unlock key _ _ cipher tag := if tag = tagOfKey key then some cipher else none

theorem tagOfKey_of_length {key : Bytes} (h : key.length = 16) : tagOfKey key = key := by
  unfold tagOfKey
  rw [← h, List.take_left]

theorem length_tagOfKey (key : Bytes) : (tagOfKey key).length = 16 := by simp [tagOfKey]

theorem keyTag_correct : keyTag.Correct where
  unlock_lock _ _ _ _ := if_pos rfl
  length_tag key _ _ _ := length_tagOfKey key

theorem keyTag_keysSeparate : keyTag.KeysSeparate := by
  intro key key' _ _ _ hk hk' hne
  have htag : tagOfKey key ≠ tagOfKey key' := by
    rw [tagOfKey_of_length hk, tagOfKey_of_length hk']
    exact hne
  exact if_neg htag

theorem keyTag_tagSized : keyTag.TagSized := by
  intro key _ _ cipher tag hlen
  apply if_neg
  rintro rfl
  exact hlen (length_tagOfKey key)

theorem keyTag_determined : keyTag.Determined := by
  intro key nonce aad cipher tag plain h
  have hif : (if tag = tagOfKey key then some cipher else none) = some plain := h
  split at hif
  · rename_i htag
    rw [← Option.some.inj hif, htag]
    rfl
  · cases hif

end Aead

end Matternode.Base
