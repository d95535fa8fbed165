import Parley.Proofs.Compression.Symbols
/-!
Tokens stand for the bytes they were made of.

A token fits at a place when it says what the bytes from there on are, given the ones before. Read
after these, it makes the output longer by its own bytes, so the tokens of the whole content leave
the content.
-/

namespace Parley.Compression

def upTo (bytes : Array UInt8) (place : Nat) : Array UInt8 := bytes.extract 0 place

theorem size_upTo {bytes : Array UInt8} {place : Nat} (inside : place ≤ bytes.size) :
    (upTo bytes place).size = place := Array.size_extract_of_le inside

theorem push_upTo {bytes : Array UInt8} {place : Nat} (inside : place < bytes.size) :
    (upTo bytes place).push (bytes.getD place 0) = upTo bytes (place + 1) := by
  have here : bytes.getD place 0 = bytes[place] := by simp [inside]
  rw [here]
  exact (Array.extract_succ_right (Nat.succ_pos place) inside).symm

theorem getD_upTo {bytes : Array UInt8} {place earlier : Nat} (before : earlier < place)
    (inside : place ≤ bytes.size) : (upTo bytes place).getD earlier 0 = bytes.getD earlier 0 := by
  have within : earlier < min place bytes.size - 0 := by omega
  rw [Array.getD_eq_getD_getElem?, Array.getD_eq_getD_getElem?, upTo,
    Array.getElem?_extract, if_pos within, Nat.zero_add]

def Repeats (bytes : Array UInt8) (distance length place : Nat) : Prop :=
  ∀ i < length, place + i < bytes.size ∧
    bytes.getD (place + i) 0 = bytes.getD (place + i - distance) 0

theorem Repeats.tail {bytes : Array UInt8} {distance length place : Nat}
    (repeats : Repeats bytes distance (length + 1) place) :
    Repeats bytes distance length (place + 1) := by
  intro i inside
  have next := repeats (i + 1) (by omega)
  rwa [show place + (i + 1) = place + 1 + i by omega] at next

theorem repeats_runLength (bytes : Array UInt8) (distance limit place : Nat) :
    Repeats bytes distance (runLength bytes distance limit place) place := by
  fun_induction runLength bytes distance limit place with
  | case1 => intro i none; omega
  | case2 limit place same ih =>
    simp only [Bool.and_eq_true, decide_eq_true_eq] at same
    intro i inside
    match i with
    | 0 => exact same
    | i + 1 =>
      have later := ih i (by omega)
      rwa [show place + 1 + i = place + (i + 1) by omega] at later
  | case3 => intro i none; omega

theorem runLength_le (bytes : Array UInt8) (distance limit place : Nat) :
    runLength bytes distance limit place ≤ limit := by
  fun_induction runLength bytes distance limit place with
  | case1 => exact Nat.le_refl 0
  | case2 limit place same ih => exact Nat.succ_le_succ ih
  | case3 => exact Nat.zero_le _

theorem copyBack_upTo {bytes : Array UInt8} {distance length place : Nat}
    (repeats : Repeats bytes distance length place) (back : 1 ≤ distance)
    (reach : distance ≤ place) (inside : place ≤ bytes.size) :
    copyBack length distance (upTo bytes place) = upTo bytes (place + length) := by
  induction length generalizing place with
  | zero => rfl
  | succ length ih =>
    obtain ⟨within, same⟩ := repeats 0 (Nat.succ_pos length)
    rw [Nat.add_zero] at within same
    have copied : (upTo bytes place).getD ((upTo bytes place).size - distance) 0 =
        bytes.getD place 0 := by
      rw [size_upTo inside, getD_upTo (by omega) inside]
      exact same.symm
    rw [copyBack, copied, push_upTo within, ih repeats.tail (by omega) within]
    congr 1
    omega

inductive Token.Fits (bytes : Array UInt8) (place : Nat) : Token → Prop where
  | byte (inside : place < bytes.size) : Fits bytes place (.byte (bytes.getD place 0))
  | repeated {length distance : Nat} (long : shortest ≤ length) (short : length ≤ longest)
      (back : 1 ≤ distance) (near : distance ≤ min window place)
      (repeats : Repeats bytes distance length place) :
      Fits bytes place (.repeated length distance)

theorem bestRun_eq (bytes : Array UInt8) (place reach : Nat) :
    bestRun bytes place reach = (0, 0) ∨
      ∃ distance, 1 ≤ distance ∧ distance ≤ reach ∧
        bestRun bytes place reach = (runLength bytes distance longest place, distance) := by
  induction reach with
  | zero => exact Or.inl rfl
  | succ reach ih =>
    unfold bestRun
    by_cases longer : (bestRun bytes place reach).1 < runLength bytes (reach + 1) longest place
    · exact Or.inr ⟨reach + 1, Nat.succ_pos reach, Nat.le_refl _, if_pos longer⟩
    · simp only [longer, if_false]
      rcases ih with none | ⟨distance, back, near, same⟩
      · exact Or.inl none
      · exact Or.inr ⟨distance, back, Nat.le_succ_of_le near, same⟩

theorem tokenAt_fits {bytes : Array UInt8} {place : Nat} (inside : place < bytes.size) :
    (tokenAt bytes place).Fits bytes place := by
  unfold tokenAt
  rcases bestRun_eq bytes place (min window place) with none | ⟨distance, back, near, same⟩
  · rw [none]
    exact .byte inside
  · rw [same]
    by_cases long : shortest ≤ runLength bytes distance longest place
    · simp only [long, if_true]
      exact .repeated long (runLength_le ..) back near (repeats_runLength _ _ _ _)
    · simp only [long, if_false]
      exact .byte inside

theorem Token.Fits.size_pos {bytes : Array UInt8} {place : Nat} {token : Token}
    (fits : token.Fits bytes place) : 0 < token.size := by
  cases fits with
  | byte inside => exact Nat.one_pos
  | repeated long short back near repeats => exact Nat.lt_of_lt_of_le (by decide) long

theorem Token.Fits.inside {bytes : Array UInt8} {place : Nat} {token : Token}
    (fits : token.Fits bytes place) : place + token.size ≤ bytes.size := by
  cases fits with
  | byte inside => exact inside
  | @repeated length distance long short back near repeats =>
    have filled : 0 < length := Nat.lt_of_lt_of_le (by decide) long
    have last := (repeats (length - 1) (by omega)).1
    show place + length ≤ bytes.size
    omega

def Token.addTo (out : Array UInt8) : Token → Array UInt8
  | byte value => out.push value
  | repeated length distance => copyBack length distance out

theorem Token.Fits.addTo {bytes : Array UInt8} {place : Nat} {token : Token}
    (fits : token.Fits bytes place) :
    token.addTo (upTo bytes place) = upTo bytes (place + token.size) := by
  cases fits with
  | byte inside => exact push_upTo inside
  | repeated long short back near repeats =>
    have reach := Nat.le_trans near (Nat.min_le_right ..)
    have filled := Nat.lt_of_lt_of_le (show 0 < shortest by decide) long
    exact copyBack_upTo repeats back reach (Nat.le_of_lt (repeats 0 filled).1)

theorem readSymbols?_byte (value : UInt8) (fuel : Nat) (rest : List Bool) (out : Array UInt8) :
    readSymbols? fixedTree fixedDistanceTree (fuel + 1) (fixedCode value.toNat ++ rest) out =
      readSymbols? fixedTree fixedDistanceTree fuel rest (out.push value) := by
  have bound : value.toNat < endSymbol := value.toNat_lt
  have code := fixedTree_read? value.toNat (Nat.lt_trans bound (by decide))
  simp only [readSymbols?, CodeTree.read?_append rest code, Option.bind_eq_bind,
    Option.bind_some, if_pos bound, UInt8.ofNat_toNat]

theorem readSymbols?_repeated {length distance : Nat} (long : shortest ≤ length)
    (short : length ≤ longest) (back : 1 ≤ distance) (near : distance ≤ window) (fuel : Nat)
    (rest : List Bool) {out : Array UInt8} (reach : distance ≤ out.size) :
    readSymbols? fixedTree fixedDistanceTree (fuel + 1)
        (tokenBits (.repeated length distance) ++ rest) out =
      readSymbols? fixedTree fixedDistanceTree fuel rest (copyBack length distance out) := by
  have lengths := covers_lengthRanges long short
  have distances := covers_distanceRanges back near
  simp only [tokenBits]
  -- From here on nothing is known of the two ranges but that they cover their numbers.
  generalize rangeOf length lengthRanges = foundLength at lengths
  generalize rangeOf distance distanceRanges = foundDistance at distances
  obtain ⟨lengthPlace, lengthRange⟩ := foundLength
  obtain ⟨distancePlace, distanceRange⟩ := foundDistance
  have lengthSmall : lengthPlace < 29 := lengths.place_lt
  have distanceSmall : distancePlace < 30 := distances.place_lt
  have lengthCode := fixedTree_read? (firstLengthSymbol + lengthPlace)
    (show 257 + lengthPlace < 288 by omega)
  have distanceCode := fixedDistanceTree_read? distancePlace distanceSmall
  have notByte : ¬ firstLengthSymbol + lengthPlace < endSymbol :=
    show ¬ 257 + lengthPlace < 256 by omega
  have notEnd : firstLengthSymbol + lengthPlace ≠ endSymbol :=
    show 257 + lengthPlace ≠ 256 by omega
  simp only [List.append_assoc, readSymbols?, CodeTree.read?_append _ lengthCode, notByte, notEnd,
    if_false, Nat.add_sub_cancel_left, lengths.readRanged?, CodeTree.read?_append _ distanceCode,
    distances.readRanged?, if_pos reach, Option.bind_eq_bind, Option.bind_some]

theorem Token.Fits.readSymbols? {bytes : Array UInt8} {place : Nat} {token : Token}
    (fits : token.Fits bytes place) (fuel : Nat) (rest : List Bool) :
    readSymbols? fixedTree fixedDistanceTree (fuel + 1) (tokenBits token ++ rest)
        (upTo bytes place) =
      Compression.readSymbols? fixedTree fixedDistanceTree fuel rest
        (upTo bytes (place + token.size)) := by
  rw [← fits.addTo]
  have within : place ≤ bytes.size := Nat.le_trans (Nat.le_add_right ..) fits.inside
  cases fits with
  | byte inside => exact readSymbols?_byte _ fuel rest _
  | repeated long short back near repeats =>
    obtain ⟨inWindow, reach⟩ := Nat.le_min.mp near
    rw [← size_upTo within] at reach
    exact readSymbols?_repeated long short back inWindow fuel rest reach

/-- The tokens are read up to the end of the block. What is left after it is not touched. -/
theorem readSymbols?_tokensFrom {bytes : Array UInt8} {steps place fuel : Nat}
    (enough : bytes.size ≤ place + steps) (within : place ≤ bytes.size)
    (lasting : (tokensFrom bytes steps place).length < fuel) (rest : List Bool) :
    readSymbols? fixedTree fixedDistanceTree fuel
        ((tokensFrom bytes steps place).flatMap tokenBits ++ (fixedCode endSymbol ++ rest))
        (upTo bytes place) =
      some (bytes, rest) := by
  have ending (more : Nat) (out : Array UInt8) :
      readSymbols? fixedTree fixedDistanceTree (more + 1) (fixedCode endSymbol ++ rest) out =
        some (out, rest) := by
    have code := fixedTree_read? endSymbol (by decide)
    simp only [readSymbols?, CodeTree.read?_append rest code, Option.bind_eq_bind,
      Option.bind_some, Nat.lt_irrefl, if_false, if_true]
  have complete {place : Nat} (after : bytes.size ≤ place) : upTo bytes place = bytes :=
    Array.extract_eq_self_of_le after
  -- Each step moves on by the size of one token and takes one unit of fuel for it; the output
  -- stays a prefix of the content.
  induction steps generalizing place fuel with
  | zero =>
    obtain ⟨fuel, rfl⟩ := Nat.exists_eq_succ_of_ne_zero (Nat.ne_zero_of_lt lasting)
    rw [Nat.add_zero] at enough
    rw [complete enough]
    exact ending fuel bytes
  | succ steps ih =>
    obtain ⟨fuel, rfl⟩ := Nat.exists_eq_succ_of_ne_zero (Nat.ne_zero_of_lt lasting)
    by_cases inside : place < bytes.size
    · have fits := tokenAt_fits inside
      have forward := fits.size_pos
      simp only [tokensFrom, inside, if_true, List.length_cons] at lasting ⊢
      rw [List.flatMap_cons, List.append_assoc, fits.readSymbols?]
      exact ih (by omega) fits.inside (by omega)
    · have done : tokensFrom bytes (steps + 1) place = [] := if_neg inside
      rw [done, complete (Nat.le_of_not_lt inside)]
      exact ending fuel bytes

theorem tokenBits_ne_nil (token : Token) : tokenBits token ≠ [] := by
  cases token with
  | byte value => exact fixedCode_ne_nil _
  | repeated length distance => simp [tokenBits, fixedCode_ne_nil]

theorem length_le_bits (tokens : List Token) :
    tokens.length ≤ (tokens.flatMap tokenBits).length := by
  induction tokens with
  | nil => exact Nat.le_refl 0
  | cons token rest ih =>
    have filled := List.length_pos_iff.mpr (tokenBits_ne_nil token)
    rw [List.flatMap_cons, List.length_append, List.length_cons]
    omega

theorem readBlocks?_blockBits (bytes : Array UInt8) (spare : List Bool) (fuel : Nat) :
    readBlocks? (fuel + 1) (blockBits (tokensFrom bytes bytes.size 0) ++ spare) #[] =
      some bytes := by
  generalize content : (tokensFrom bytes bytes.size 0).flatMap tokenBits ++
    (fixedCode endSymbol ++ spare) = bits
  have header : blockBits (tokensFrom bytes bytes.size 0) ++ spare =
      true :: true :: false :: bits := by
    rw [← content]
    simp only [blockBits, List.append_assoc, List.cons_append, List.nil_append]
  have lasting : (tokensFrom bytes bytes.size 0).length < bits.length + 1 := by
    have shorter := length_le_bits (tokensFrom bytes bytes.size 0)
    rw [← content, List.length_append]
    omega
  have body : readSymbols? fixedTree fixedDistanceTree (bits.length + 1) bits (upTo bytes 0) =
      some (bytes, spare) := by
    rw [← content] at lasting ⊢
    exact readSymbols?_tokensFrom (Nat.le_add_left ..) (Nat.zero_le _) lasting spare
  have start : upTo bytes 0 = #[] := Array.extract_zero
  rw [start] at body
  rw [header]
  simp [readBlocks?, takeNumber?, body]

theorem inflate?_deflate (bytes : List UInt8) : inflate? (deflate bytes) = some bytes := by
  obtain ⟨padding, same⟩ :=
    bitsOf_packed (blockBits (tokensFrom bytes.toArray bytes.toArray.size 0))
  rw [inflate?, deflate, same, readBlocks?_blockBits, Option.map_some]

end Parley.Compression
