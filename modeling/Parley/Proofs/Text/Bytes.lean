/-!
The bytes of a text.

Of two characters the smaller has the smaller code, and the codes tell them apart whatever comes
after, so texts are ordered as their bytes are.
-/

namespace Parley.Text

def bytes (text : String) : List UInt8 := text.toUTF8.toList

theorem toList_loop (held : ByteArray) (place : Nat) (seen : List UInt8) :
    ByteArray.toList.loop held place seen = seen.reverse ++ held.data.toList.drop place := by
  fun_induction ByteArray.toList.loop held place seen with
  | case1 place seen inside ih =>
    have bound : place < held.data.toList.length := by simpa using inside
    have here : held.get! place = held.data.toList[place] := by
      cases held
      exact getElem!_pos _ place inside
    rw [ih, here, List.drop_eq_getElem_cons bound, List.reverse_cons, List.append_assoc]
    rfl
  | case2 place seen outside =>
    have ended : held.data.toList.length ≤ place := by simpa using outside
    rw [List.drop_eq_nil_of_le ended, List.append_nil]

theorem bytes_eq_data (text : String) : bytes text = text.toByteArray.data.toList := by
  rw [bytes, ByteArray.toList, toList_loop, List.reverse_nil, List.nil_append, List.drop_zero,
    String.toUTF8_eq_toByteArray]

theorem bytes_eq_flatMap (text : String) :
    bytes text = text.toList.flatMap String.utf8EncodeChar := by
  have whole : text.toByteArray = (text.toList.flatMap String.utf8EncodeChar).toByteArray :=
    calc
      text.toByteArray = (String.ofList text.toList).toByteArray := by rw [String.ofList_toList]
      _ = text.toList.utf8Encode := String.toByteArray_ofList
      _ = _ := rfl
  rw [bytes_eq_data, whole, List.data_toByteArray]

theorem fromUTF8?_bytes (text : String) :
    String.fromUTF8? (ByteArray.mk (bytes text).toArray) = some text := by
  have whole : ByteArray.mk (bytes text).toArray = text.toByteArray := by
    rw [bytes_eq_data]
  rw [whole, String.fromUTF8?, dif_pos text.isValidUTF8]
  rfl

theorem utf8EncodeChar_append_lt {c d : Char} (less : c < d) (rest others : List UInt8) :
    String.utf8EncodeChar c ++ rest < String.utf8EncodeChar d ++ others := by
  have below : c.val.toNat < d.val.toNat := less
  have bound : d.val.toNat < 2097152 := by
    have valid : d.val.toNat < 0xD800 ∨ 0xDFFF < d.val.toNat ∧ d.val.toNat < 0x110000 := d.valid
    omega
  have twice (n : Nat) : n / 4096 = n / 64 / 64 := by rw [Nat.div_div_eq_div_mul]
  have thrice (n : Nat) : n / 262144 = n / 64 / 64 / 64 := by simp only [Nat.div_div_eq_div_mul]
  -- One case for each pair of widths; the first byte in which the codes differ decides.
  simp only [String.utf8EncodeChar, twice, thrice]
  repeat' split
  all_goals
    simp only [List.cons_append, List.nil_append, List.cons_lt_cons_iff, UInt8.lt_iff_toNat_lt,
      ← UInt8.toNat_inj, UInt8.toNat_ofNat']
    omega

theorem flatMap_utf8EncodeChar_lt {text other : List Char} (less : text < other) :
    text.flatMap String.utf8EncodeChar < other.flatMap String.utf8EncodeChar := by
  induction text generalizing other with
  | nil =>
    cases other with
    | nil => cases less
    | cons d later =>
      obtain ⟨byte, more, code⟩ := List.exists_cons_of_ne_nil (String.utf8EncodeChar_ne_nil (c := d))
      rw [List.flatMap_nil, List.flatMap_cons, code]
      exact List.Lex.nil
  | cons c rest ih =>
    cases other with
    | nil => cases less
    | cons d later =>
      rw [List.flatMap_cons, List.flatMap_cons]
      rcases List.cons_lt_cons_iff.mp less with first | ⟨rfl, behind⟩
      · exact utf8EncodeChar_append_lt first _ _
      · exact List.append_left_lt (ih behind)

/-- Texts are ordered as their bytes are. -/
theorem lt_iff_bytes_lt {text other : String} : text < other ↔ bytes text < bytes other := by
  have forth {text other : String} (less : text < other) : bytes text < bytes other := by
    rw [bytes_eq_flatMap, bytes_eq_flatMap]
    exact flatMap_utf8EncodeChar_lt (String.lt_iff.mp less)
  constructor
  · exact forth
  · intro less
    rcases Std.lt_trichotomy text other with before | rfl | after
    · exact before
    · exact absurd less (List.lt_irrefl _)
    · exact absurd (forth after) (List.lt_asymm less)

end Parley.Text
