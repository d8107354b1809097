import Metering.Identifier.Format
import Metering.Identifier.Generator
import Metering.Proofs.Identifier.Numeral
import Mathlib.Data.Char
import Mathlib.Data.String.Basic
import Mathlib.Order.Basic

/-! # The written forms of identifiers agree

An identifier, its bytes and its hexadecimal letters stand for the same number: each form is read
back as the identifier it was written from and nothing else is read as one, all three are ordered
alike, and all are zero together. An export pipeline is handed the bytes of the identifier, whatever
generator it comes from (`Metering.Identifier.encodings_agree`).
-/

namespace Metering.Identifier

/-! ## Letters and bytes -/

private theorem getElem?_letters : ∀ d < 16, letters[d]? = some (hexLetter d) := by decide

private theorem hexLetter_mem : ∀ d < 16, hexLetter d ∈ letters := by decide

private theorem idxOf_hexLetter : ∀ d < 16, letters.idxOf (hexLetter d) = d := by decide

private theorem hexLetter_idxOf {letter : Char} (known : letter ∈ letters) :
    hexLetter (letters.idxOf letter) = letter := by
  obtain ⟨d, placed⟩ := List.mem_iff_getElem?.mp known
  have small : d < 16 := (List.getElem?_eq_some_iff.mp placed).1
  obtain rfl : hexLetter d = letter := Option.some.inj ((getElem?_letters d small).symm.trans placed)
  rw [idxOf_hexLetter d small]

private theorem hexLetter_lt_iff :
    ∀ d < 16, ∀ e < 16, (hexLetter d < hexLetter e ↔ d < e) := by decide

private theorem hexLetter_inj {d e : Nat} (small : d < 16) (small' : e < 16) :
    hexLetter d = hexLetter e ↔ d = e := by
  refine ⟨fun same => ?_, congrArg hexLetter⟩
  rw [← idxOf_hexLetter d small, same, idxOf_hexLetter e small']

private theorem byte_lt_iff {d e : Nat} (small : d < 256) (small' : e < 256) :
    UInt8.ofNat d < UInt8.ofNat e ↔ d < e := by
  rw [UInt8.lt_iff_toNat_lt, UInt8.toNat_ofNat_of_lt' small, UInt8.toNat_ofNat_of_lt' small']

private theorem byte_inj {d e : Nat} (small : d < 256) (small' : e < 256) :
    UInt8.ofNat d = UInt8.ofNat e ↔ d = e := by
  rw [← UInt8.toNat_inj, UInt8.toNat_ofNat_of_lt' small, UInt8.toNat_ofNat_of_lt' small']

section Numbers

variable (width n : Nat)

/-- The letters of a number are those of its digits. -/
theorem toList_hex : (hex width n).toList = (digits 16 width n).map hexLetter :=
  String.toList_ofList

/-- A number is written in as many bytes as asked for. -/
theorem length_bytes : (bytes width n).length = width := by
  rw [bytes, List.length_map, length_digits]

/-- A number is written in as many letters as asked for. -/
theorem length_hex : (hex width n).toList.length = width := by
  rw [toList_hex, List.length_map, length_digits]

/-- The bytes of a number are its digits in base 256. -/
theorem map_toNat_bytes : (bytes width n).map UInt8.toNat = digits 256 width n := by
  rw [bytes, List.map_map]
  refine (List.map_congr_left fun d member => ?_).trans (List.map_id _)
  exact UInt8.toNat_ofNat_of_lt' (digits_lt (by decide) width n d member)

private theorem map_idxOf_hex : (hex width n).toList.map letters.idxOf = digits 16 width n := by
  rw [toList_hex, List.map_map]
  refine (List.map_congr_left fun d member => ?_).trans (List.map_id _)
  exact idxOf_hexLetter d (digits_lt (by decide) width n d member)

/-- Every byte is two letters, that of its high half first. -/
theorem letters_of_bytes : (hex (2 * width) n).toList.map some =
    (bytes width n).flatMap fun byte =>
      [letters[byte.toNat / 16]?, letters[byte.toNat % 16]?] := by
  rw [toList_hex, digits_square (by decide), bytes, List.flatMap_map, List.map_flatMap,
    List.map_flatMap]
  refine List.flatMap_congr fun d member => ?_
  have small : d < 256 := digits_lt (by decide) width n d member
  have high : d / 16 % 16 = d / 16 := Nat.mod_eq_of_lt (by omega)
  rw [UInt8.toNat_ofNat_of_lt' small, getElem?_letters (d / 16) (by omega),
    getElem?_letters (d % 16) (by omega), ← high]
  exact congrArg (fun low => [_, some (hexLetter (low % 16))]) (Nat.div_one d)

end Numbers

/-! ## Formats -/

namespace Format

variable {α : Type} (format : Format α)

/-- The bytes of an identifier. -/
def bytes (id : α) : List UInt8 :=
  Identifier.bytes format.width (format.number id)

/-- The letters of an identifier. -/
def hex (id : α) : String :=
  Identifier.hex (2 * format.width) (format.number id)

/-- Identifiers of one number are equal. -/
theorem number_inj {id other : α} : format.number id = format.number other ↔ id = other := by
  refine ⟨fun same => ?_, congrArg format.number⟩
  rw [← format.ofNumber_number id, same, format.ofNumber_number]

/-- The number of an identifier fits in its bytes. -/
theorem number_below (id : α) : format.number id < 256 ^ format.width :=
  format.number_lt id

private theorem power : 16 ^ (2 * format.width) = 256 ^ format.width :=
  Nat.pow_mul 16 2 format.width

section Digits

variable {base width : Nat} (full : base ^ width = 256 ^ format.width)

include full

/-- Digits are read as an identifier exactly if they are those of its number. -/
theorem ofNumber_ofDigits_iff {ds : List Nat} (small : ∀ d ∈ ds, d < base)
    (length : ds.length = width) {id : α} :
    format.ofNumber (ofDigits base ds) = id ↔ ds = digits base width (format.number id) := by
  constructor
  · rintro rfl
    have below := ofDigits_lt small
    have back := digits_ofDigits small
    rw [length, full] at below
    rw [length] at back
    rw [format.number_ofNumber _ below, back]
  · rintro rfl
    rw [ofDigits_digits, full, Nat.mod_eq_of_lt (format.number_below id), format.ofNumber_number]

/-- Digits come in the order of the numbers of identifiers, in letters that keep their order. -/
theorem map_digits_lt_iff {β : Type} [LT β] {letter : Nat → β} (positive : 0 < base)
    (ordered : ∀ d e, d < base → e < base → (letter d < letter e ↔ d < e))
    (distinct : ∀ d e, d < base → e < base → (letter d = letter e ↔ d = e)) (a b : α) :
    (digits base width (format.number a)).map letter <
        (digits base width (format.number b)).map letter ↔
      format.number a < format.number b := by
  rw [map_lt_map_iff ordered distinct (by rw [length_digits, length_digits])
      (digits_lt positive _ _) (digits_lt positive _ _), ofDigits_digits, ofDigits_digits, full,
    Nat.mod_eq_of_lt (format.number_below a), Nat.mod_eq_of_lt (format.number_below b)]

end Digits

/-- **Bytes are read as the identifier that they were written from**, and no others are. -/
theorem ofBytes?_eq_some_iff {written : List UInt8} {id : α} :
    format.ofBytes? written = some id ↔ written = format.bytes id := by
  have small (written : List UInt8) : ∀ d ∈ written.map UInt8.toNat, d < 256 := by
    intro d member
    obtain ⟨byte, _, rfl⟩ := List.mem_map.mp member
    exact byte.toNat_lt
  rw [ofBytes?, Option.ite_none_right_eq_some, Option.some_inj]
  constructor
  · rintro ⟨width, read⟩
    rw [format.ofNumber_ofDigits_iff rfl (small written) ((List.length_map _).trans width)] at read
    rw [bytes, Identifier.bytes, ← read, List.map_map]
    exact ((List.map_congr_left fun byte _ => UInt8.ofNat_toNat).trans (List.map_id _)).symm
  · rintro rfl
    have width : (format.bytes id).length = format.width := length_bytes ..
    refine ⟨width, ?_⟩
    rw [format.ofNumber_ofDigits_iff rfl (small _) ((List.length_map _).trans width)]
    exact map_toNat_bytes ..

/-- **Letters are read as the identifier that they were written from**, and no others are. -/
theorem ofHex?_eq_some_iff {text : String} {id : α} :
    format.ofHex? text = some id ↔ text = format.hex id := by
  have small {text : String} (known : ∀ letter ∈ text.toList, letter ∈ letters) :
      ∀ d ∈ text.toList.map letters.idxOf, d < 16 := by
    intro d member
    obtain ⟨letter, isLetter, rfl⟩ := List.mem_map.mp member
    exact List.idxOf_lt_length_iff.mpr (known letter isLetter)
  have members (text : String) : text.toList.all letters.contains = true ↔
      ∀ letter ∈ text.toList, letter ∈ letters := by
    rw [List.all_eq_true]
    exact forall₂_congr fun _ _ => List.contains_iff_mem
  rw [ofHex?, Option.ite_none_right_eq_some, Option.some_inj, members]
  constructor
  · rintro ⟨⟨width, known⟩, read⟩
    rw [format.ofNumber_ofDigits_iff format.power (small known)
      ((List.length_map _).trans width)] at read
    refine String.toList_inj.mp ?_
    rw [hex, toList_hex, ← read, List.map_map]
    exact ((List.map_congr_left fun letter member =>
      hexLetter_idxOf (known letter member)).trans (List.map_id _)).symm
  · rintro rfl
    have known : ∀ letter ∈ (format.hex id).toList, letter ∈ letters := by
      intro letter member
      rw [hex, toList_hex] at member
      obtain ⟨d, isDigit, rfl⟩ := List.mem_map.mp member
      exact hexLetter_mem d (digits_lt (by decide) _ _ d isDigit)
    have width : (format.hex id).toList.length = 2 * format.width := length_hex ..
    refine ⟨⟨width, known⟩, ?_⟩
    rw [format.ofNumber_ofDigits_iff format.power (small known) ((List.length_map _).trans width)]
    exact map_idxOf_hex ..

/-- Identifiers are in the order of their numbers exactly if their bytes are. -/
theorem bytes_lt_iff (a b : α) :
    format.bytes a < format.bytes b ↔ format.number a < format.number b :=
  format.map_digits_lt_iff rfl (by decide) (fun _ _ => byte_lt_iff) (fun _ _ => byte_inj) a b

/-- Identifiers are in the order of their numbers exactly if their letters are. -/
theorem hex_lt_iff (a b : α) :
    format.hex a < format.hex b ↔ format.number a < format.number b := by
  rw [String.lt_iff, hex, hex, toList_hex, toList_hex]
  exact format.map_digits_lt_iff format.power (by decide)
    (fun d e small small' => hexLetter_lt_iff d small e small') (fun _ _ => hexLetter_inj) a b

/-- All bytes of an identifier are zero exactly if its number is. -/
theorem bytes_eq_zero_iff (id : α) :
    (∀ byte ∈ format.bytes id, byte = 0) ↔ format.number id = 0 := by
  have digits : ofDigits 256 ((format.bytes id).map UInt8.toNat) = 0 ↔
      ∀ d ∈ (format.bytes id).map UInt8.toNat, d = 0 :=
    ofDigits_eq_zero_iff (by decide)
  rw [List.forall_mem_map, bytes, map_toNat_bytes, ofDigits_digits,
    Nat.mod_eq_of_lt (format.number_below id)] at digits
  rw [digits]
  exact forall₂_congr fun byte _ => UInt8.toNat_inj.symm

end Format

/-! ## Agreement -/

/-- **The written forms of identifiers of one kind agree.** -/
structure Agrees {α : Type} (format : Format α) (bytes : α → List UInt8) (hex : α → String)
    (order : α → α → Ordering) (isValid : α → Bool) (invalid : α) : Prop where
  /-- The letters are two for each byte, in order. -/
  letters : ∀ id, (bytes id).length = format.width ∧ (hex id).length = 2 * format.width ∧
    (hex id).toList.map some = (bytes id).flatMap fun byte =>
      [letters[byte.toNat / 16]?, letters[byte.toNat % 16]?]
  /-- Either form is read as the identifier that it was written from, and nothing else is read. -/
  read : ∀ id, (∀ written, format.ofBytes? written = some id ↔ written = bytes id) ∧
    ∀ text, format.ofHex? text = some id ↔ text = hex id
  /-- No two identifiers are written alike. -/
  distinct : Function.Injective bytes ∧ Function.Injective hex
  /-- Identifiers, bytes and letters come in the same order. -/
  ordered : ∀ a b, (order a b = .lt ↔ bytes a < bytes b) ∧ (order a b = .lt ↔ hex a < hex b) ∧
    (order a b = .eq ↔ a = b) ∧ (order a b = .gt ↔ bytes b < bytes a) ∧
    (order a b = .gt ↔ hex b < hex a)
  /-- Invalid is the one identifier all of whose bytes are zero. -/
  invalid : ∀ id, (isValid id = false ↔ ∀ byte ∈ bytes id, byte = 0) ∧
    (isValid id = false ↔ id = invalid)

section Forms

variable {α : Type} {format : Format α} {bytes : α → List UInt8} {hex : α → String}
  {order : α → α → Ordering} {isValid : α → Bool} {invalid : α}

/-- Identifiers agree in their forms that are written, ordered and told invalid as their numbers
are. -/
theorem agrees_of_numbers (isBytes : ∀ id, bytes id = format.bytes id)
    (isHex : ∀ id, hex id = format.hex id)
    (isOrder : ∀ a b, order a b = compare (format.number a) (format.number b))
    (isZero : ∀ id, isValid id = false ↔ format.number id = 0)
    (zero : format.number invalid = 0) : Agrees format bytes hex order isValid invalid := by
  obtain rfl : bytes = format.bytes := funext isBytes
  obtain rfl : hex = format.hex := funext isHex
  constructor
  case letters =>
    exact fun id => ⟨length_bytes .., length_hex .., letters_of_bytes format.width _⟩
  case read => exact fun id => ⟨fun _ => format.ofBytes?_eq_some_iff,
    fun _ => format.ofHex?_eq_some_iff⟩
  case distinct =>
    refine ⟨fun a b same => ?_, fun a b same => ?_⟩
    · have read := format.ofBytes?_eq_some_iff.mpr same
      rw [format.ofBytes?_eq_some_iff.mpr rfl] at read
      exact Option.some.inj read
    · have read := format.ofHex?_eq_some_iff.mpr same
      rw [format.ofHex?_eq_some_iff.mpr rfl] at read
      exact Option.some.inj read
  case ordered =>
    intro a b
    rw [isOrder, Nat.compare_eq_lt, Nat.compare_eq_eq, Nat.compare_eq_gt, format.bytes_lt_iff,
      format.bytes_lt_iff, format.hex_lt_iff, format.hex_lt_iff, format.number_inj]
    exact ⟨Iff.rfl, Iff.rfl, Iff.rfl, Iff.rfl, Iff.rfl⟩
  case invalid =>
    intro id
    rw [isZero, format.bytes_eq_zero_iff, ← format.number_inj, zero]
    exact ⟨Iff.rfl, Iff.rfl⟩

end Forms

/-! ## Spans and traces -/

/-- Words are ordered as their numbers are. -/
theorem compare_word (a b : UInt64) : compare a b = compare a.toNat b.toNat := by
  rw [Nat.compare_eq_ite_lt]
  simp only [compare, compareOfLessAndEq, UInt64.lt_iff_toNat_lt, ← UInt64.toNat_inj]
  grind

/-- A trace is ordered as the number whose high half is its high word. -/
theorem compare_trace (a b : TraceId) :
    a.order b = compare (TraceId.format.number a) (TraceId.format.number b) := by
  have low := a.low.toNat_lt
  have low' := b.low.toNat_lt
  have number (id : TraceId) : TraceId.format.number id = id.high.toNat * 2 ^ 64 + id.low.toNat :=
    rfl
  rw [TraceId.order, compare_word, compare_word, number, number]
  generalize a.high.toNat = h, a.low.toNat = l, b.high.toNat = h', b.low.toNat = l' at *
  rcases Nat.lt_trichotomy h h' with less | rfl | more
  · have sum : h * 2 ^ 64 + l < h' * 2 ^ 64 + l' := by omega
    rw [Nat.compare_eq_lt.mpr less, Nat.compare_eq_lt.mpr sum]
    rfl
  · rw [Nat.compare_eq_eq.mpr rfl, Nat.compare_eq_ite_lt, Nat.compare_eq_ite_lt]
    simp only [Nat.add_lt_add_iff_left, Ordering.then]
  · have sum : h' * 2 ^ 64 + l' < h * 2 ^ 64 + l := by omega
    rw [Nat.compare_eq_gt.mpr more, Nat.compare_eq_gt.mpr sum]
    rfl

/-- The digits of a trace are those of its words, where a word fills the width. -/
theorem digits_trace (base width : Nat) (positive : 0 < base) (full : base ^ width = 2 ^ 64)
    (id : TraceId) :
    digits base (width + width) (TraceId.format.number id) =
      digits base width id.high.toNat ++ digits base width id.low.toNat := by
  have number : TraceId.format.number id = id.high.toNat * base ^ width + id.low.toNat := by
    rw [full]
    rfl
  have below : id.low.toNat < base ^ width := full ▸ id.low.toNat_lt
  have high : (id.high.toNat * base ^ width + id.low.toNat) / base ^ width = id.high.toNat := by
    rw [Nat.add_comm, Nat.add_mul_div_right _ _ (Nat.pow_pos positive), Nat.div_eq_of_lt below,
      Nat.zero_add]
  rw [number, digits_add, high, digits_mul_pow_add positive]

/-- The forms of the identifiers of spans agree. -/
theorem agrees_span : Agrees SpanId.format SpanId.bytes SpanId.hex SpanId.order SpanId.isValid
    .invalid := by
  refine agrees_of_numbers (fun _ => rfl) (fun _ => rfl) (fun a b => ?_) (fun id => ?_) rfl
  · exact compare_word a.word b.word
  · rw [SpanId.isValid, bne_eq_false_iff_eq, ← UInt64.toNat_inj]
    rfl

/-- The forms of the identifiers of traces agree. -/
theorem agrees_trace : Agrees TraceId.format TraceId.bytes TraceId.hex TraceId.order
    TraceId.isValid .invalid := by
  refine agrees_of_numbers (fun id => ?_) (fun id => ?_) (fun a b => ?_) (fun id => ?_) rfl
  · have halves := digits_trace 256 8 (by decide) rfl id
    rw [Format.bytes, Identifier.bytes, show TraceId.format.width = 8 + 8 from rfl, halves,
      List.map_append]
    rfl
  · have halves := digits_trace 16 16 (by decide) rfl id
    rw [Format.hex, Identifier.hex, show 2 * TraceId.format.width = 16 + 16 from rfl, halves,
      List.map_append, String.ofList_append]
    rfl
  · exact compare_trace a b
  · have sum : TraceId.format.number id = id.high.toNat * 2 ^ 64 + id.low.toNat := rfl
    rw [TraceId.isValid, Bool.or_eq_false_iff, bne_eq_false_iff_eq, bne_eq_false_iff_eq,
      ← UInt64.toNat_inj, ← UInt64.toNat_inj, sum]
    simp

/-! ## Export -/

/-- The letters of an exported identifier, two for each byte. -/
theorem letters_exported (sent : Exported) : sent.hex.toList.map some =
    sent.bytes.flatMap fun byte => [letters[byte.toNat / 16]?, letters[byte.toNat % 16]?] := by
  rw [Exported.hex, String.toList_join, List.flatMap_map, List.map_flatMap]
  refine List.flatMap_congr fun byte _ => ?_
  have single : bytes 1 byte.toNat = [byte] := by
    have low : byte.toNat / 1 % 256 = byte.toNat := by
      rw [Nat.div_one, Nat.mod_eq_of_lt byte.toNat_lt]
    calc bytes 1 byte.toNat = [UInt8.ofNat (byte.toNat / 1 % 256)] := rfl
      _ = [byte] := by rw [low, UInt8.ofNat_toNat]
  exact (letters_of_bytes 1 byte.toNat).trans (by rw [single, List.flatMap_singleton])

/-- **What is handed out is what is exported**: the identifier's own bytes, written in the same
letters, that are all zero where it is the invalid one. -/
structure Sends {σ α : Type} (answer : σ → Option (α × σ)) (sent : σ → Option (Exported × σ))
    (bytes : α → List UInt8) (hex : α → String) (invalid : α) : Prop where
  /-- Nothing is exported where nothing is handed out. -/
  silent : ∀ s, answer s = none → sent s = none
  /-- Whatever is handed out is exported, and the generator goes on as it would. -/
  sends : ∀ s id rest, answer s = some (id, rest) → ∃ out, sent s = some (out, rest) ∧
    out.bytes = bytes id ∧ out.hex = hex id ∧ ((∀ byte ∈ out.bytes, byte = 0) ↔ id = invalid) ∧
    (out.isValid = false ↔ id = invalid)

private theorem sends_of_agrees {σ α : Type} {format : Format α} {bytes : α → List UInt8}
    {hex : α → String} {order : α → α → Ordering} {isValid : α → Bool} {invalid : α}
    (agrees : Agrees format bytes hex order isValid invalid) {answer : σ → Option (α × σ)}
    {sent : σ → Option (Exported × σ)}
    (exported : ∀ s, sent s = (answer s).map fun (id, rest) => (⟨bytes id⟩, rest)) :
    Sends answer sent bytes hex invalid := by
  constructor
  case silent =>
    intro s none
    rw [exported, none]
    rfl
  case sends =>
    intro s id rest given
    have zero : (∀ byte ∈ bytes id, byte = 0) ↔ id = invalid :=
      (agrees.invalid id).1.symm.trans (agrees.invalid id).2
    refine ⟨⟨bytes id⟩, by rw [exported, given]; rfl, rfl, ?_, zero, Iff.trans ?_ zero⟩
    · refine String.toList_inj.mp (List.map_injective_iff.mpr (Option.some_injective _) ?_)
      exact (letters_exported _).trans (agrees.letters id).2.2.symm
    · simp [Exported.isValid]

/-- **The written forms of spans and of traces agree**, on eight and on sixteen bytes, and a
pipeline is sent the bytes of whatever any generator hands out, one that draws from a source of
words among them. -/
theorem encodings_agree :
    (SpanId.format.width = 8 ∧
      Agrees SpanId.format SpanId.bytes SpanId.hex SpanId.order SpanId.isValid .invalid) ∧
    (TraceId.format.width = 16 ∧
      Agrees TraceId.format TraceId.bytes TraceId.hex TraceId.order TraceId.isValid .invalid) ∧
    (∀ (σ : Type) (generator : Generator σ),
      Sends generator.span (generator.exported · .span) SpanId.bytes SpanId.hex .invalid ∧
      Sends generator.trace (generator.exported · .trace) TraceId.bytes TraceId.hex .invalid) ∧
    ∀ (words : List UInt64) (call : Call), Generator.ofWords.exported words call =
      (call.draw words).map fun (id, rest) => (id.exported, rest) := by
  refine ⟨⟨rfl, agrees_span⟩, ⟨rfl, agrees_trace⟩, fun σ generator => ⟨?_, ?_⟩,
    Generator.exported_ofWords⟩
  · exact sends_of_agrees agrees_span fun s => Option.map_map ..
  · exact sends_of_agrees agrees_trace fun s => Option.map_map ..

/-- Leading zeros are written out, and the high word comes first. -/
example : (TraceId.mk 0xaa 0xb0).hex = "00000000000000aa00000000000000b0" ∧
    TraceId.format.ofHex? "00000000000000aa00000000000000b0" = some ⟨0xaa, 0xb0⟩ ∧
    TraceId.format.ofHex? "00000000000000AA00000000000000b0" = none := by
  decide +kernel

end Metering.Identifier
