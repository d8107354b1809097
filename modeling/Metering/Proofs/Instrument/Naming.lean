import Mathlib.Tactic.SplitIfs
import Metering.Proofs.Collection.Callbacks
import Metering.Proofs.Registry.Descriptors

/-! # The rule for names, in bytes and in characters

The rule is checked on the bytes of a name and speaks of its characters. Both come to the same: a
character is written in a printable byte exactly if it is printable itself, since others beyond
ASCII are written in bytes beyond it; and where all characters are printable there are as many bytes
as characters. So a name is refused exactly if it breaks the rule, for the one reason that holds of
it, and all names that sinks are told of keep to the rule (`Metering.named_of_stretch`).
-/

namespace Metering

namespace Name

/-! ## Characters -/

/-- The characters that names can have. -/
def Allows (c : Char) : Prop :=
  0x20 ≤ c.toNat ∧ c.toNat ≤ 0x7e

instance (c : Char) : Decidable (Allows c) :=
  inferInstanceAs (Decidable (_ ∧ _))

/-- A character of ASCII is written as one byte, which is its code point; any other is written in
bytes beyond ASCII. -/
theorem utf8EncodeChar_cases (c : Char) :
    (c.toNat < 0x80 ∧ String.utf8EncodeChar c = [UInt8.ofNat c.toNat]) ∨
    (0x80 ≤ c.toNat ∧ ∀ byte ∈ String.utf8EncodeChar c, 0x80 ≤ byte.toNat) := by
  have written : c.val.toNat = c.toNat := rfl
  unfold String.utf8EncodeChar
  rw [written]
  generalize c.toNat = u
  dsimp only
  split_ifs with one two three
  · exact Or.inl ⟨Nat.lt_succ_of_le one, rfl⟩
  -- Each byte of the others has its highest bit set.
  all_goals
    refine Or.inr ⟨by omega, ?_⟩
    simp only [List.mem_cons, List.not_mem_nil, or_false, forall_eq_or_imp, forall_eq,
      UInt8.toNat_ofNat']
    omega

private theorem all_isPrintable_char (c : Char) :
    (String.utf8EncodeChar c).all isPrintable = true ↔ Allows c := by
  have range (byte : UInt8) : isPrintable byte = true ↔ 0x20 ≤ byte.toNat ∧ byte.toNat ≤ 0x7e := by
    rw [isPrintable, Bool.and_eq_true, decide_eq_true_iff, decide_eq_true_iff, UInt8.le_iff_toNat_le,
      UInt8.le_iff_toNat_le]
    rfl
  rcases utf8EncodeChar_cases c with ⟨ascii, written⟩ | ⟨beyond, bytes⟩
  · rw [written, List.all_cons, List.all_nil, Bool.and_true, range, UInt8.toNat_ofNat',
      Nat.mod_eq_of_lt (Nat.lt_trans ascii (by decide))]
    rfl
  · refine ⟨fun printable => ?_, fun allowed => ?_⟩
    · obtain ⟨byte, member⟩ := List.exists_mem_of_ne_nil _ (String.utf8EncodeChar_ne_nil (c := c))
      have inside := (range byte).mp (List.all_eq_true.mp printable byte member)
      have outside := bytes byte member
      omega
    · have := allowed.2
      omega

/-! ## Texts -/

variable {s : String}

/-- The bytes of a name are those that it is kept in. -/
theorem toByteArray_bytes (s : String) : (bytes s).toByteArray = s.toByteArray :=
  String.utf8Encode_toList

/-- A text has as many bytes as its size says. -/
theorem length_bytes (s : String) : (bytes s).length = s.utf8ByteSize := by
  rw [← List.size_toByteArray, toByteArray_bytes]
  rfl

/-- A text without bytes is empty. -/
theorem isEmpty_bytes : (bytes s).isEmpty = true ↔ s = "" := by
  rw [List.isEmpty_iff, bytes, List.flatMap_eq_nil_iff]
  constructor
  · intro unwritten
    refine String.toList_eq_nil_iff.mp (List.eq_nil_iff_forall_not_mem.mpr fun c member => ?_)
    exact String.utf8EncodeChar_ne_nil (unwritten c member)
  · rintro rfl c member
    cases member

/-- **All bytes are printable exactly if all characters are.** -/
theorem all_isPrintable_bytes :
    (bytes s).all isPrintable = true ↔ ∀ c ∈ s.toList, Allows c := by
  rw [bytes, List.all_flatMap, List.all_eq_true]
  exact forall₂_congr fun c _ => all_isPrintable_char c

/-- **Names of printable characters have as many bytes as characters.** -/
theorem utf8ByteSize_of_allowed (allowed : ∀ c ∈ s.toList, Allows c) :
    s.utf8ByteSize = s.length := by
  have single (c : Char) (member : c ∈ s.toList) : (String.utf8EncodeChar c).length = 1 := by
    have := (allowed c member).2
    rcases utf8EncodeChar_cases c with ⟨_, written⟩ | ⟨beyond, _⟩
    · rw [written]
      rfl
    · omega
  rw [← length_bytes, bytes, List.length_flatMap, List.map_congr_left single, List.map_const',
    List.sum_replicate_nat, Nat.mul_one, String.length_toList]

/-! ## The rule -/

/-- The names that keep to the rule: at least one character, no more than 255, all of them printable
ASCII. -/
structure Lawful (s : String) : Prop where
  some : 1 ≤ s.length
  few : s.length ≤ 255
  allowed : ∀ c ∈ s.toList, Allows c

/-- A name breaks the rule in a way. What is unprintable can have any length. -/
def Breaks (s : String) : NameFault → Prop
  | .empty => s = ""
  | .unprintable => ∃ c ∈ s.toList, ¬ Allows c
  | .tooLong => (∀ c ∈ s.toList, Allows c) ∧ 256 ≤ s.length

/-- **The fault found in the bytes is that of the characters.** -/
theorem fault?_cases (s : String) :
    (fault? s = none ∧ Lawful s) ∨ ∃ fault, fault? s = some fault ∧ Breaks s fault := by
  unfold fault?
  split
  · next empty => exact Or.inr ⟨.empty, rfl, isEmpty_bytes.mp empty⟩
  · next written =>
      have filled : s.length ≠ 0 := fun none =>
        written (isEmpty_bytes.mpr (String.length_eq_zero_iff.mp none))
      split
      · next unprintable =>
          rw [Bool.not_eq_true', ← Bool.not_eq_true, all_isPrintable_bytes] at unprintable
          push Not at unprintable
          exact Or.inr ⟨.unprintable, rfl, unprintable⟩
      · next printable =>
          rw [Bool.not_eq_true', Bool.not_eq_false, all_isPrintable_bytes] at printable
          rw [length_bytes, utf8ByteSize_of_allowed printable]
          split
          · next long => exact Or.inr ⟨.tooLong, rfl, printable, long⟩
          · next few => exact Or.inl ⟨rfl, Nat.pos_of_ne_zero filled, Nat.le_of_not_lt few, printable⟩

/-- A lawful name breaks no part of the rule. -/
theorem Lawful.not_breaks (lawful : Lawful s) (fault : NameFault) : ¬ Breaks s fault := by
  intro breaks
  cases fault with
  | empty =>
      have := lawful.some
      rw [show s = "" from breaks] at this
      exact absurd this (by decide)
  | unprintable =>
      obtain ⟨c, member, unlike⟩ := breaks
      exact unlike (lawful.allowed c member)
  | tooLong => exact absurd lawful.few (Nat.not_le.mpr breaks.2)

/-- No fault is found with a name exactly if it is lawful. -/
theorem fault?_eq_none_iff : fault? s = none ↔ Lawful s := by
  rcases fault?_cases s with ⟨found, lawful⟩ | ⟨fault, found, breaks⟩
  · exact ⟨fun _ => lawful, fun _ => found⟩
  · rw [found]
    exact ⟨nofun, fun lawful => absurd breaks (lawful.not_breaks fault)⟩

private theorem fault?_of_breaks {fault : NameFault} (breaks : Breaks s fault) :
    fault? s = some fault := by
  have filled {c : Char} (member : c ∈ s.toList) : ¬ (bytes s).isEmpty = true := fun empty => by
    rw [isEmpty_bytes.mp empty] at member
    cases member
  unfold fault?
  cases fault with
  | empty => rw [if_pos (isEmpty_bytes.mpr breaks)]
  | unprintable =>
      obtain ⟨c, member, unlike⟩ := breaks
      rw [if_neg (filled member), if_pos]
      rw [Bool.not_eq_true', ← Bool.not_eq_true, all_isPrintable_bytes]
      exact fun allowed => unlike (allowed c member)
  | tooLong =>
      obtain ⟨allowed, long⟩ := breaks
      have beyond : 255 < s.length := long
      have written : ¬ (bytes s).isEmpty = true := fun empty => by
        rw [isEmpty_bytes.mp empty] at long
        exact absurd long (by decide)
      have printable : ¬ (!(bytes s).all isPrintable) = true := by
        rw [Bool.not_eq_true', Bool.not_eq_false]
        exact all_isPrintable_bytes.mpr allowed
      rw [if_neg written, if_neg printable, length_bytes, utf8ByteSize_of_allowed allowed,
        if_pos beyond]

/-- The fault found with a name is the part of the rule that it breaks. -/
theorem fault?_eq_some_iff {fault : NameFault} : fault? s = some fault ↔ Breaks s fault := by
  refine ⟨fun found => ?_, fault?_of_breaks⟩
  rcases fault?_cases s with ⟨none, _⟩ | ⟨other, found', breaks⟩
  · cases none.symm.trans found
  · cases found'.symm.trans found
    exact breaks

/-- A name breaks the rule in one way at most. -/
theorem Breaks.unique {fault fault' : NameFault} (breaks : Breaks s fault)
    (breaks' : Breaks s fault') : fault = fault' :=
  Option.some.inj ((fault?_of_breaks breaks).symm.trans (fault?_of_breaks breaks'))

private theorem validate_eq_ok_iff : validate s = .ok () ↔ Lawful s := by
  rw [validate, ← fault?_eq_none_iff]
  cases fault? s <;> simp

private theorem validate_eq_error_iff {e : Error} :
    validate s = .error e ↔ ∃ fault, Breaks s fault ∧ e = .invalidName s fault.reason := by
  simp only [← fault?_eq_some_iff]
  rw [validate]
  cases fault? s <;> simp [eq_comm]

end Name

/-- The reasons of two faults differ. -/
theorem NameFault.eq_of_reason {fault fault' : NameFault} (same : fault.reason = fault'.reason) :
    fault = fault' := by
  cases fault <;> cases fault' <;> first | rfl | exact absurd same (by decide)

/-! ## Building -/

namespace State

variable {s : State} {r : MeterRef} {m : Meter}

/-- **Building refuses a name exactly for what is wrong with it.** -/
theorem perform_build_invalidName_iff (standing : s.meter? r = some m) (setup : InstrumentSetup)
    (name reason : String) :
    (s.perform (.build r setup)).1 = .error (.refused (.invalidName name reason)) ↔
      ∃ fault, Name.Breaks setup.name fault ∧ name = setup.name ∧ reason = fault.reason := by
  have named : setup.config.name = setup.name := setup.config_fixed.1
  rw [(perform_build standing setup).1]
  simp only [← Name.fault?_eq_some_iff]
  rcases m.build_cases setup with ⟨fault, found, refused⟩ | ⟨lawful, registered⟩
  · rw [named] at found refused
    simp [found, refused, Meter.refuse, Meter.fail, Except.map, eq_comm]
  · rw [named] at lawful
    rw [registered]
    rcases m.register_cases setup.config with
      ⟨_, _, _, _, _, outcome⟩ | ⟨_, _, _, _, outcome⟩ | ⟨_, outcome⟩ <;>
      simp [outcome, lawful, Meter.add, Except.map]

end State

/-! ## Names that sinks are told of -/

/-- The name of a registered instrument keeps to the rule, and its descriptor has it. -/
theorem State.Orderly.lawful {s : State} (orderly : s.Orderly) {i : InstrumentRef} {x : Instrument}
    (found : s.instrument? i = some x) :
    Name.Lawful x.config.name ∧ x.descriptor.name = x.config.name := by
  obtain ⟨m, standing, placed⟩ := State.instrument?_eq_some.mp found
  have meter := orderly.meters i.meter m standing
  refine ⟨Name.fault?_eq_none_iff.mp (meter.named x (List.mem_of_getElem? placed)), ?_⟩
  rw [meter.described i.index x placed]
  rfl

/-- **The rule in bytes is the rule in characters.** Sinks are told what the moments tell them, and
the state is the one that the moments lead to. -/
structure Named (moments : List Moment) (s : State) : Prop where
  /-- The bytes that are checked are those of the text in UTF-8. -/
  bytes : ∀ name : String, (Name.bytes name).toByteArray = name.toByteArray
  /-- Accepted are the names of one to 255 characters, all of them printable ASCII. -/
  accepted : ∀ name, Name.validate name = .ok () ↔ Name.Lawful name
  /-- Refused is a name that breaks the rule, unchanged, for the way in which it does. -/
  refused : ∀ name e, Name.validate name = .error e ↔
    ∃ fault, Name.Breaks name fault ∧ e = .invalidName name fault.reason
  /-- A name breaks the rule in one way at most, and each way has a reason of its own. -/
  apart : (∀ name fault fault', Name.Breaks name fault → Name.Breaks name fault' → fault = fault') ∧
    ∀ fault fault' : NameFault, fault.reason = fault'.reason → fault = fault'
  /-- Building refuses a name exactly if it does not keep to the rule, and as the rule has it. -/
  built : ∀ r m, s.meter? r = some m → ∀ setup : InstrumentSetup,
    ((∃ name reason, (s.perform (.build r setup)).1 =
        .error (.refused (.invalidName name reason))) ↔ ¬ Name.Lawful setup.name) ∧
    ∀ name reason, (s.perform (.build r setup)).1 =
        .error (.refused (.invalidName name reason)) ↔
      ∃ fault, Name.Breaks setup.name fault ∧ name = setup.name ∧ reason = fault.reason
  /-- Every instrument has a name with as many bytes as characters, no more than 255. -/
  registered : ∀ i x, s.instrument? i = some x → Name.Lawful x.config.name ∧
    x.config.name.utf8ByteSize = x.config.name.length ∧ x.config.name.utf8ByteSize ≤ 255
  /-- So has every descriptor that a sink is told of. -/
  told : ∀ r owner p, (r, .point owner p) ∈ moments.flatMap Moment.given →
    Name.Lawful p.descriptor.name ∧
    p.descriptor.name.utf8ByteSize = p.descriptor.name.length ∧
    p.descriptor.name.utf8ByteSize ≤ 255

/-- **The rule in bytes is the rule in characters**, and all names keep to it. -/
theorem named_of_stretch {moments : List Moment} {s : State}
    (stretch : Stretch .empty moments s) : Named moments s := by
  have short {name : String} (lawful : Name.Lawful name) :
      Name.Lawful name ∧ name.utf8ByteSize = name.length ∧ name.utf8ByteSize ≤ 255 := by
    have same := Name.utf8ByteSize_of_allowed lawful.allowed
    exact ⟨lawful, same, same ▸ lawful.few⟩
  constructor
  case bytes => exact Name.toByteArray_bytes
  case accepted => exact fun name => Name.validate_eq_ok_iff
  case refused => exact fun name e => Name.validate_eq_error_iff
  case apart =>
    exact ⟨fun name fault fault' => Name.Breaks.unique, fun fault fault' => NameFault.eq_of_reason⟩
  case built =>
    intro r m standing setup
    have refused := State.perform_build_invalidName_iff standing setup
    refine ⟨⟨?_, fun unlawful => ?_⟩, refused⟩
    · rintro ⟨name, reason, answer⟩ lawful
      obtain ⟨fault, breaks, _⟩ := (refused name reason).mp answer
      exact lawful.not_breaks fault breaks
    · rcases Name.fault?_cases setup.name with ⟨_, lawful⟩ | ⟨fault, _, breaks⟩
      · exact absurd lawful unlawful
      · exact ⟨setup.name, fault.reason, (refused _ _).mpr ⟨fault, breaks, rfl, rfl⟩⟩
  case registered =>
    exact fun i x found => short ((stretch.orderly State.orderly_empty).lawful found).1
  case told =>
    intro r owner p told
    obtain ⟨q, member, given⟩ := List.mem_flatMap.mp told
    obtain ⟨earlier, before⟩ := stretch.exists_before member
    obtain ⟨i, _, _, described⟩ := Moment.measured_of_given given
    obtain ⟨x, found, same⟩ := Option.map_eq_some_iff.mp described
    obtain ⟨lawful, named⟩ := (before.orderly State.orderly_empty).lawful found
    rw [← same, named]
    exact short lawful

/-- One name is too long and one is written in more bytes than characters; a third is told to a
sink. -/
def naming : List OrderedCommand :=
  [.createSink (.recording []), .perform (.createMeter ⟨"m", none, ⟨0⟩, 1⟩),
    .perform (.build ⟨0⟩ ⟨String.ofList (List.replicate 256 'a'), .counter, .long, []⟩),
    .perform (.build ⟨0⟩ ⟨"µs", .counter, .long, []⟩),
    .perform (.build ⟨0⟩ ⟨"~ us", .counter, .long, []⟩),
    .perform (.record ⟨⟨0⟩, 0⟩ (.long 1) .empty)]

/-- A name too long, one beyond ASCII and a lawful one are asked for, and a value is recorded for
the one instrument built. -/
theorem named_naming :
    Named (State.empty.moments naming) (State.empty.runIn naming).2 ∧
      Name.bytes "µs" = [0xc2, 0xb5, 0x73] ∧
      ((State.empty.runIn naming).2.sink? ⟨0⟩) = some (.recording
        [.point none ⟨⟨"m", 0, "~ us", .counter, .long, none⟩, .empty, .long 1⟩]) :=
  ⟨named_of_stretch (Stretch.of_runIn .empty naming), by decide +kernel, by decide +kernel⟩

end Metering
