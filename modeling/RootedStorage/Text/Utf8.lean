/-!
# Octets and UTF-8

File content is a list of octets, and text is content that UTF-8 decodes.  `encode` and
`decode?` are inverse to each other: every text has one encoding, and content decodes exactly
when it is the encoding of some text (`decode?_eq_some_iff`).
-/

namespace RootedStorage

/-- Content of a file or of an encoded text. -/
abbrev Bytes := List UInt8

namespace Utf8

/-- The UTF-8 octets of a text. -/
def encode (s : String) : Bytes := s.toByteArray.data.toList

/-- The text that `bytes` encode, if they are valid UTF-8. -/
def decode? (bytes : Bytes) : Option String := String.fromUTF8? ⟨bytes.toArray⟩

/-- Whether the octets encode a text. -/
def isValid (bytes : Bytes) : Bool := (decode? bytes).isSome

@[simp] theorem decode?_encode (s : String) : decode? (encode s) = some s := by
  simp [decode?, encode, String.fromUTF8?, s.isValidUTF8, String.fromUTF8]

theorem eq_encode_of_decode? {bytes : Bytes} {s : String} (h : decode? bytes = some s) :
    bytes = encode s := by
  unfold decode? String.fromUTF8? at h
  split at h
  · cases h
    simp [encode, String.fromUTF8]
  · simp at h

/-- Content decodes to a text exactly when it is that text's encoding. -/
theorem decode?_eq_some_iff {bytes : Bytes} {s : String} :
    decode? bytes = some s ↔ bytes = encode s :=
  ⟨eq_encode_of_decode?, fun h => h ▸ decode?_encode s⟩

end Utf8

end RootedStorage
