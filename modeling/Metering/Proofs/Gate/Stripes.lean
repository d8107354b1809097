import Mathlib.Data.Nat.Bitwise
import Mathlib.Order.Bounds.Defs
import Metering.Concurrent.Gate
import Metering.Proofs.Collection.Callbacks
import Metering.Proofs.LabelSet.Canonical

/-! # Stripes are found for every digest

A meter has the least power of two of stripes that is at least the number asked for and not zero.
Masking a digest is therefore taking its remainder: the stripe found is always one of the meter's,
each of them is found for some digest, and equal label sets have the same stripe, however they were
made. The numbers of stripes are words of the machine, in which nothing overflows
(`Metering.striped_of_createMeter`).
-/

namespace Metering

/-! ## Counts and indices -/

namespace Stripe

variable {requested k count : Nat}

/-- The number of stripes is a power of two. -/
theorem exists_count_eq (requested : Nat) : ∃ k, Stripe.count requested = 2 ^ k := by
  rw [Stripe.count]
  split
  · exact ⟨0, rfl⟩
  · exact ⟨_, rfl⟩

/-- It is no less than what is asked for, nor than one. -/
theorem le_count (requested : Nat) : max requested 1 ≤ Stripe.count requested := by
  rw [Stripe.count]
  split
  · next few => exact max_le few (Nat.le_refl 1)
  · next many =>
      have above : requested - 1 < 2 ^ ((requested - 1).log2 + 1) := Nat.lt_log2_self
      refine max_le ?_ Nat.one_le_two_pow
      change requested ≤ 2 ^ ((requested - 1).log2 + 1)
      omega

/-- No power of two that is enough is less. -/
theorem count_le_two_pow (enough : requested ≤ 2 ^ k) : Stripe.count requested ≤ 2 ^ k := by
  rw [Stripe.count]
  split
  · exact Nat.one_le_two_pow
  · next many =>
      refine Nat.pow_le_pow_right Nat.two_pos ((Nat.log2_lt ?_).mpr ?_)
      · omega
      · omega

/-- **The number of stripes is the least power of two that is large enough.** -/
theorem isLeast_count (requested : Nat) :
    IsLeast {p | max requested 1 ≤ p ∧ ∃ k, p = 2 ^ k} (Stripe.count requested) := by
  refine ⟨⟨le_count requested, exists_count_eq requested⟩, ?_⟩
  rintro _ ⟨enough, k, rfl⟩
  exact count_le_two_pow (le_trans (le_max_left ..) enough)

/-- **Masking is taking the remainder**, for a power of two. -/
theorem index_eq_mod (pow : ∃ k, count = 2 ^ k) (d : UInt64) : index count d = d.toNat % count := by
  obtain ⟨k, rfl⟩ := pow
  exact Nat.and_two_pow_sub_one_eq_mod ..

/-- An index is that of a stripe. -/
theorem index_lt (pow : ∃ k, count = 2 ^ k) (d : UInt64) : index count d < count := by
  rw [index_eq_mod pow]
  obtain ⟨k, rfl⟩ := pow
  exact Nat.mod_lt _ (Nat.two_pow_pos k)

/-- Each stripe is the index of some digest. -/
theorem exists_index_eq (pow : ∃ k, count = 2 ^ k) (small : count ≤ 2 ^ 64) {place : Nat}
    (inside : place < count) : ∃ d, index count d = place := by
  refine ⟨UInt64.ofNat place, ?_⟩
  rw [index_eq_mod pow, UInt64.toNat_ofNat_of_lt' (Nat.lt_of_lt_of_le inside small),
    Nat.mod_eq_of_lt inside]

/-! ### Words of the machine -/

section Words

variable {width : Nat}

private theorem toNat_two_pow (fits : k < width) : (BitVec.ofNat width (2 ^ k)).toNat = 2 ^ k := by
  rw [BitVec.toNat_ofNat, Nat.mod_eq_of_lt (Nat.pow_lt_pow_right Nat.one_lt_two fits)]

private theorem toNat_one (fits : k < width) : (BitVec.ofNat width 1).toNat = 1 :=
  toNat_two_pow (k := 0) (Nat.zero_lt_of_lt fits)

/-- Taking one from a power of two does not wrap around. -/
theorem usubOverflow_two_pow (fits : k < width) :
    (BitVec.ofNat width (2 ^ k)).usubOverflow (BitVec.ofNat width 1) = false := by
  rw [BitVec.usubOverflow, toNat_two_pow fits, toNat_one fits]
  exact decide_eq_false (Nat.not_lt.mpr Nat.one_le_two_pow)

private theorem toNat_mask (fits : k < width) :
    (BitVec.ofNat width (2 ^ k) - BitVec.ofNat width 1).toNat = 2 ^ k - 1 := by
  rw [BitVec.toNat_sub_of_le, toNat_two_pow fits, toNat_one fits]
  rw [BitVec.le_def, toNat_two_pow fits, toNat_one fits]
  exact Nat.one_le_two_pow

/-- **Masking the digest as a word of the machine comes to the same stripe**, however many of its
bits fit. -/
theorem toNat_masked (fits : k < width) (d : UInt64) :
    (d.toBitVec.setWidth width &&& (BitVec.ofNat width (2 ^ k) - BitVec.ofNat width 1)).toNat =
      index (2 ^ k) d := by
  have divides : 2 ^ k ∣ 2 ^ width := Nat.pow_dvd_pow 2 (Nat.le_of_lt fits)
  rw [BitVec.toNat_and, toNat_mask fits, BitVec.toNat_setWidth, Nat.and_two_pow_sub_one_eq_mod,
    Nat.mod_mod_of_dvd _ divides, index_eq_mod ⟨k, rfl⟩]
  rfl

end Words

end Stripe

/-! ## The stripes of a meter -/

namespace Meter

/-- The labels that the caller gave for what a request tells the sink: with the value, when the
handle was made, or when the batch was opened. -/
def callerLabels? (m : Meter) : Operation → Option LabelSet
  | .record _ _ labels => some labels
  | .recordBound h _ => m.boundLabels h.instrument.index h.identity
  | .commit b => m.batches[b.index]?.map Batch.labels
  | _ => none

/-- **Every passage goes by the labels of the caller**, not by those of its points. -/
theorem Does.passed {m : Meter} {r : MeterRef} {operation : Operation} {outcome : Outcome Reply}
    (does : m.Does r operation outcome) {number : Nat} {passage : Passage}
    (passed : .passed number passage ∈ outcome.output) :
    m.callerLabels? operation = some passage.labels := by
  have unnoted (entries : List Entry) : Output.passed number passage ∉ entries.map Output.noted :=
    fun member => by
      obtain ⟨_, _, same⟩ := List.mem_map.mp member
      cases same
  cases does with
  | refused e warnings => exact absurd passed (unnoted warnings)
  | unbound table entries => exact absurd passed (unnoted entries)
  | registered =>
      rcases List.mem_singleton.mp passed with same
      cases same
  | recorded =>
      cases List.mem_singleton.mp passed
      rfl
  | recordedBound instrument binding standing made =>
      cases List.mem_singleton.mp passed
      rw [callerLabels?, boundLabels, standing, Option.bind_some, made]
      rfl
  | committed batch _ held =>
      simp only [List.mem_cons, Output.passed.injEq, List.not_mem_nil, or_false, reduceCtorEq]
        at passed
      obtain ⟨_, rfl⟩ := passed
      rw [callerLabels?, held]
      rfl
  | found | bound | called | opened | put => cases passed

/-- The stripe of a label set, under a digest of its entries. -/
def stripeFor (m : Meter) (digest : List (String × String) → UInt64) (labels : LabelSet) : Nat :=
  Concurrent.stripeOf m.stripes (fun set => digest set.entries) labels

/-- **A meter finds its stripes.** It was asked to have `requested` of them, on a machine with words
of `width` bits; the label sets in storage are given with the pairs that they were made from. -/
structure Striped (m : Meter) (width requested : Nat) (digest : List (String × String) → UInt64)
    (storage : Storage) (handed : List (LabelRef × List (String × String))) : Prop where
  /-- There are as many stripes as the least power of two that is at least the number asked for and
  at least one. -/
  least : IsLeast {p | max requested 1 ≤ p ∧ ∃ k, p = 2 ^ k} m.stripes
  /-- Their number is a word of the machine, from which one can be taken without wrapping around. -/
  word : m.stripes < 2 ^ width ∧
    (BitVec.ofNat width m.stripes).usubOverflow (BitVec.ofNat width 1) = false
  /-- The index of a digest is inside, is the remainder of the digest, and is what the machine
  computes by masking a word of it. -/
  residue : ∀ d : UInt64, Stripe.index m.stripes d < m.stripes ∧
    Stripe.index m.stripes d = d.toNat % m.stripes ∧
    (d.toBitVec.setWidth width &&& (BitVec.ofNat width m.stripes - BitVec.ofNat width 1)).toNat =
      Stripe.index m.stripes d
  /-- Every index inside is that of some digest. -/
  hit : ∀ place < m.stripes, ∃ d, Stripe.index m.stripes d = place
  /-- What passes on a request passes by the stripe of the labels that the caller gave, and there is
  such a stripe. -/
  paths : ∀ r operation number passage, operation.home? = some r →
    .passed number passage ∈ (m.answer r operation).output →
      m.callerLabels? operation = some passage.labels ∧
      m.stripeFor digest passage.labels < m.stripes
  /-- The stripe of a set in storage is found by the digest kept with it, whatever the set was made
  from. -/
  stored : ∀ a P, (a, P) ∈ handed → ∃ set, storage.at? a = some set ∧
    Stripe.index m.stripes set.digest = m.stripeFor digest (.ofList P)
  /-- Sets that are equal, or that were made from pairs which assign the same values to the same
  keys, have the same stripe. -/
  alike : ∀ a P b Q, (a, P) ∈ handed → (b, Q) ∈ handed →
    (storage.same a b = true ∨ ∀ key, P.reverse.lookup key = Q.reverse.lookup key) →
      m.stripeFor digest (.ofList P) = m.stripeFor digest (.ofList Q)

end Meter

/-- **A meter finds its stripes** as long as it stands, if the number asked for rounds up to a power
of two `2 ^ k` that fits into a word. -/
theorem striped_of_createMeter {s s' t : State} {setup : MeterSetup} {r : MeterRef} {width k : Nat}
    {moments : List Moment} {digest : List (String × String) → UInt64} {storage : Storage}
    {handed : List (LabelRef × List (String × String))} (narrow : width ≤ 64) (fits : k < width)
    (enough : setup.stripes ≤ 2 ^ k) (built : s.createMeter setup = (.ok r, s'))
    (later : Stretch s' moments t) (history : Handed digest storage handed) :
    ∃ m, t.meter? r = some m ∧ m.Striped width setup.stripes digest storage handed := by
  obtain ⟨_, meters, _⟩ := State.meter?_createMeter built
  obtain ⟨m, standing, _, same⟩ := later.standing ((meters r).trans (if_pos rfl))
  have count : m.stripes = Stripe.count setup.stripes := same
  obtain ⟨n, pow⟩ : ∃ n, m.stripes = 2 ^ n := count ▸ Stripe.exists_count_eq setup.stripes
  -- The power of two that was chosen is no greater than one that is enough, and so fits as well.
  have below : n ≤ k := by
    refine (Nat.pow_le_pow_iff_right Nat.one_lt_two).mp ?_
    rw [← pow, count]
    exact Stripe.count_le_two_pow enough
  have inside : n < width := Nat.lt_of_le_of_lt below fits
  obtain ⟨sound, stands⟩ := stands_of_handed history
  refine ⟨m, standing, ?_⟩
  constructor
  case least =>
    rw [count]
    exact Stripe.isLeast_count setup.stripes
  case word =>
    rw [pow]
    exact ⟨Nat.pow_lt_pow_right Nat.one_lt_two inside, Stripe.usubOverflow_two_pow inside⟩
  case residue =>
    intro d
    refine ⟨Stripe.index_lt ⟨n, pow⟩ d, Stripe.index_eq_mod ⟨n, pow⟩ d, ?_⟩
    rw [pow]
    exact Stripe.toNat_masked inside d
  case hit =>
    intro place
    refine Stripe.exists_index_eq ⟨n, pow⟩ ?_
    rw [pow]
    exact Nat.pow_le_pow_right Nat.two_pos (Nat.le_trans (Nat.le_of_lt inside) narrow)
  case paths =>
    intro r operation number passage home passed
    exact ⟨(m.does_answer home).passed passed, Stripe.index_lt ⟨n, pow⟩ _⟩
  case stored =>
    intro a P member
    obtain ⟨set, found, isSet⟩ := stands a P member
    refine ⟨set, found, ?_⟩
    rw [sound.digested set (List.mem_of_getElem? found), isSet]
    rfl
  case alike =>
    intro a P b Q first second equal
    obtain ⟨left, found, isLeft⟩ := stands a P first
    obtain ⟨right, found', isRight⟩ := stands b Q second
    have sets : LabelSet.ofList P = LabelSet.ofList Q := by
      rcases equal with equal | alike
      · rw [← isLeft, ← isRight, (Storage.same_iff sound found found').mp equal]
      · exact LabelSet.ofList_eq_iff.mpr alike
    rw [sets]

/-- A digest that tells sets apart by the number of their labels only. -/
def tally (entries : List (String × String)) : UInt64 :=
  .ofNat (13 * entries.length)

/-- Storage in which a set was built from a flat list with a key that comes twice, and an equal one
from pairs. -/
def tallied : Storage :=
  ((Storage.bare.build tally (.flat none ["k", "1", "k", "2"])).2.build tally
    (.pairs [("k", "2")])).2

/-- A meter that was asked to have five stripes. -/
def fiveAsked : State :=
  ((State.empty.createSink .silent).2.createMeter ⟨"m", none, ⟨0⟩, 5⟩).2

/-- What is done with the meter then. -/
def recordingOnce : List OrderedCommand :=
  [.perform (.build ⟨0⟩ ⟨"c", .counter, .long, []⟩),
    .perform (.record ⟨⟨0⟩, 0⟩ (.long 1) (.ofList [("k", "2")]))]

/-- Five stripes are asked for and eight made, and the labels recorded under come to the sixth. -/
theorem striped_fiveAsked :
    ∃ m, (fiveAsked.runIn recordingOnce).2.meter? ⟨0⟩ = some m ∧ m.stripes = 8 ∧
      m.stripeFor tally (.ofList [("k", "2")]) = 5 ∧
      m.Striped 64 5 tally tallied [(⟨0⟩, [("k", "1"), ("k", "2")]), (⟨1⟩, [("k", "2")])] := by
  have history : Handed tally tallied [(⟨0⟩, [("k", "1"), ("k", "2")]), (⟨1⟩, [("k", "2")])] :=
    (Handed.bare.build (.flat none ["k", "1", "k", "2"]) (Prod.ext (by decide +kernel) rfl)).build
      (.pairs [("k", "2")]) (Prod.ext (by decide +kernel) rfl)
  have built : (State.empty.createSink .silent).2.createMeter ⟨"m", none, ⟨0⟩, 5⟩ =
      (.ok ⟨0⟩, fiveAsked) := rfl
  obtain ⟨m, standing, striped⟩ := striped_of_createMeter (show 64 ≤ 64 by decide)
    (show 3 < 64 by decide) (by decide) built (Stretch.of_runIn fiveAsked recordingOnce) history
  have stripes : ((fiveAsked.runIn recordingOnce).2.meter? ⟨0⟩).map Meter.stripes = some 8 := by
    decide +kernel
  rw [standing] at stripes
  have stripes : m.stripes = 8 := Option.some.inj stripes
  refine ⟨m, standing, stripes, ?_, striped⟩
  rw [Meter.stripeFor, stripes]
  decide +kernel

end Metering
