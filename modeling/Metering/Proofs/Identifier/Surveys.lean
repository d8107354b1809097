import Metering.Proofs.Identifier.Encoding
import Metering.Proofs.Identifier.Source

/-! # What surveys of identifiers count

A round of a survey that is answered counts two valid pairs and one of full width, whatever the
words. So a survey counts the rounds that its source answers
(`Metering.Identifier.Survey.exists_answered`), and all of them where no word is zero and there are
enough.
-/

namespace Metering.Identifier

/-- A drawn identifier names something exactly if its exported form does. -/
theorem Drawn.isValid_exported (id : Drawn) : id.exported.isValid = id.isValid := by
  have zero : id.exported.isValid = false ↔ ∀ byte ∈ id.exported.bytes, byte = 0 := by
    simp [Exported.isValid]
  have unnamed : id.exported.isValid = false ↔ id.isValid = false := by
    cases id with
    | span id => exact zero.trans (agrees_span.invalid id).1.symm
    | trace id => exact zero.trans (agrees_trace.invalid id).1.symm
  rw [Bool.eq_iff_iff, ← not_iff_not, Bool.not_eq_true, Bool.not_eq_true]
  exact unnamed

/-- What a call draws for export names something. -/
theorem Call.isValid_exported_of_draw {words rest : List UInt64} {call : Call} {id : Drawn}
    (drawn : call.draw words = some (id, rest)) : id.exported.isValid = true := by
  rw [id.isValid_exported]
  cases call.comes words with
  | dry none _ =>
      rw [none] at drawn
      cases drawn
  | answered other _ _ some _ _ valid _ =>
      rw [some] at drawn
      cases drawn
      exact valid

namespace Survey

/-- A round that is answered counts the same, whatever the words. -/
theorem round_eq {words rest : List UInt64} {tally counted : Survey}
    (answered : round words tally = some (counted, rest)) :
    counted = ⟨tally.valid + 2, tally.wide + 1⟩ := by
  simp only [round, bind, Option.bind_eq_some_iff, Prod.exists] at answered
  obtain ⟨span, _, isSpan, trace, _, isTrace, sentSpan, _, isSentSpan, sentTrace, _, isSentTrace,
    counts⟩ := answered
  have own : (span.isValid && trace.isValid) = true := by
    rw [SpanId.isValid_of_draw isSpan, TraceId.isValid_of_draw isTrace, Bool.and_self]
  have sent : (sentSpan.exported.isValid && sentTrace.exported.isValid) = true := by
    rw [Call.isValid_exported_of_draw isSentSpan, Call.isValid_exported_of_draw isSentTrace,
      Bool.and_self]
  have wide : (span.hex.length == 16 && trace.hex.length == 32) = true := by
    rw [(agrees_span.letters span).2.1, (agrees_trace.letters trace).2.1]
    rfl
  rw [own, sent, wide] at counts
  cases counts
  rfl

/-- Six words that are not zero answer a round. -/
theorem exists_round {words : List UInt64} (nonzero : ∀ word ∈ words, word ≠ 0)
    (enough : 6 ≤ words.length) (tally : Survey) :
    ∃ counted, round words tally = some (counted, words.drop 6) := by
  have span (word : UInt64) (rest : List UInt64) (named : word ≠ 0) :
      SpanId.draw (word :: rest) = some (⟨word⟩, rest) :=
    if_pos (bne_iff_ne.mpr named)
  have trace (high low : UInt64) (rest : List UInt64) (named : high ≠ 0) :
      TraceId.draw (high :: low :: rest) = some (⟨high, low⟩, rest) :=
    if_pos (Bool.or_eq_true_iff.mpr (Or.inl (bne_iff_ne.mpr named)))
  match words, enough with
  | a :: b :: c :: d :: e :: f :: rest, _ =>
    simp only [List.mem_cons, forall_eq_or_imp] at nonzero
    obtain ⟨a0, b0, c0, d0, e0, f0, _⟩ := nonzero
    simp only [round, bind, Option.bind_some, Call.draw, Option.map_some, span a _ a0,
      trace b c _ b0, span d _ d0, trace e f _ e0]
    exact ⟨_, rfl⟩

/-- **What a survey counts** does not depend on the words: two valid pairs and one of full width for
each round that is answered. All rounds are answered where no word is zero and there are enough. -/
theorem exists_answered (words : List UInt64) (rounds : Nat) (tally : Survey) :
    ∃ answered ≤ rounds,
      run words rounds tally = ⟨tally.valid + 2 * answered, tally.wide + answered⟩ ∧
      ((∀ word ∈ words, word ≠ 0) → 6 * rounds ≤ words.length → answered = rounds) := by
  induction rounds generalizing words tally with
  | zero => exact ⟨0, Nat.le_refl 0, rfl, fun _ _ => rfl⟩
  | succ rounds ih =>
      rw [run]
      cases turn : round words tally with
      | none =>
          refine ⟨0, Nat.zero_le _, rfl, fun nonzero enough => ?_⟩
          obtain ⟨_, answered⟩ := exists_round nonzero (by omega) tally
          rw [answered] at turn
          cases turn
      | some done =>
          obtain ⟨counted, rest⟩ := done
          obtain ⟨answered, few, count, all⟩ := ih rest counted
          refine ⟨answered + 1, Nat.succ_le_succ few, ?_, fun nonzero enough => ?_⟩
          · calc run rest rounds counted
                = ⟨counted.valid + 2 * answered, counted.wide + answered⟩ := count
              _ = ⟨tally.valid + 2 + 2 * answered, tally.wide + 1 + answered⟩ := by
                rw [round_eq turn]
              _ = ⟨tally.valid + 2 * (answered + 1), tally.wide + (answered + 1)⟩ := by
                congr 1 <;> omega
          · obtain ⟨_, answered'⟩ := exists_round nonzero (by omega) tally
            rw [answered'] at turn
            cases turn
            have left : 6 * rounds ≤ (words.drop 6).length := by
              rw [List.length_drop]
              omega
            rw [all (fun word member => nonzero word (List.mem_of_mem_drop member)) left]

/-- A survey of counting words that do not come round to zero counts all of its rounds. -/
theorem counting_eq {rounds : Nat} (fits : 6 * rounds < 2 ^ 64) :
    counting rounds = ⟨2 * rounds, rounds⟩ := by
  obtain ⟨answered, _, count, all⟩ := exists_answered (countingWords (6 * rounds)) rounds ⟨0, 0⟩
  have nonzero : ∀ word ∈ countingWords (6 * rounds), word ≠ 0 := by
    intro word member zero
    obtain ⟨k, below, isWord⟩ := List.mem_map.mp member
    have small : k + 1 < 2 ^ 64 := by
      have := List.mem_range.mp below
      omega
    have number := congrArg UInt64.toNat (isWord.trans zero)
    rw [UInt64.toNat_ofNat_of_lt' small] at number
    cases number
  have enough : 6 * rounds ≤ (countingWords (6 * rounds)).length := by
    rw [countingWords, List.length_map, List.length_range]
  rw [counting, count, all nonzero enough, Nat.zero_add, Nat.zero_add]

end Survey

end Metering.Identifier
