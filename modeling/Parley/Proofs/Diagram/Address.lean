import Parley.Proofs.Base64
import Parley.Proofs.Compression.Tokens
import Parley.Proofs.Diagram.Lines
import Parley.Proofs.Text.Bytes
/-!
The address of a diagram has the whole diagram in it.

Nothing but the digits of the drawing service follows the service's own address. What they stand
for is the diagram in compressed form, so the diagram can be had from the address. This does not
depend on how it was compressed.
-/

namespace Parley.Diagram

/-- The text has the diagram in it, as the drawing service reads it: the digits stand for so many
bytes, none of them is there for filling up, and the bytes are the diagram when they are no longer
compressed. -/
structure Carries (text diagram : String) : Prop where
  digits : ∀ c ∈ text.toList, c ∈ alphabet.digits
  content : ∃ compressed, Base64.decode? alphabet text.toList = some compressed ∧
    text.length = (4 * compressed.length + 2) / 3 ∧
    Compression.inflate? compressed = some (Text.bytes diagram)

theorem Carries.decoded? {text diagram : String} (carries : Carries text diagram) :
    decoded? text = some diagram := by
  obtain ⟨compressed, read, -, inflated⟩ := carries.content
  simp only [Diagram.decoded?, read, inflated, Option.bind_eq_bind, Option.bind_some,
    Text.fromUTF8?_bytes]

theorem carries_encodedWith {compress : List UInt8 → List UInt8} {diagram : String}
    (inflates : Compression.inflate? (compress (Text.bytes diagram)) =
      some (Text.bytes diagram)) :
    Carries (encodedWith compress diagram) diagram := by
  constructor
  · intro c held
    rw [encodedWith, String.toList_ofList] at held
    exact Base64.mem_digits_of_mem_encode alphabet _ c held
  · apply Exists.intro (compress (Text.bytes diagram))
    rw [encodedWith, String.toList_ofList, String.length_ofList]
    exact ⟨Base64.decode?_encode .., Base64.length_encode .., inflates⟩

theorem carries_encoded (diagram : String) : Carries (encoded diagram) diagram :=
  carries_encodedWith (Compression.inflate?_deflate _)

theorem url_eq_iff (definition other : Definition) :
    url definition = url other ↔ ofDefinition definition = ofDefinition other := by
  constructor
  · intro same
    have texts : encoded (ofDefinition definition) = encoded (ofDefinition other) :=
      (String.append_right_inj service).mp same
    have read := (carries_encoded (ofDefinition definition)).decoded?
    rw [texts, (carries_encoded (ofDefinition other)).decoded?] at read
    exact (Option.some.inj read).symm
  · intro same
    rw [url, url, urlWith, urlWith, same]

theorem urlWith_carries {compress : List UInt8 → List UInt8}
    (inflates : ∀ bytes, Compression.inflate? (compress bytes) = some bytes)
    (definition : Definition) :
    ∃ text, urlWith compress definition = service ++ text ∧
      Carries text (ofDefinition definition) :=
  ⟨encodedWith compress (ofDefinition definition), rfl, carries_encodedWith (inflates _)⟩

/-- However the diagram is compressed, as long as it can be had back: what follows the service's own
address carries it. The compression in use is one such way. -/
theorem url_carries_diagram (definition : Definition) :
    (∀ compress : List UInt8 → List UInt8,
      (∀ bytes, Compression.inflate? (compress bytes) = some bytes) →
        ∃ text, urlWith compress definition = service ++ text ∧
          Carries text (ofDefinition definition)) ∧
      ∃ text, url definition = service ++ text ∧ Carries text (ofDefinition definition) :=
  ⟨fun _ inflates => urlWith_carries inflates definition,
    urlWith_carries Compression.inflate?_deflate definition⟩

theorem parrot_address_carries_diagram :
    ∃ text, urlWith Compression.deflate .parrot = service ++ text ∧
      Carries text (ofDefinition .parrot) :=
  (url_carries_diagram .parrot).1 Compression.deflate Compression.inflate?_deflate

end Parley.Diagram
