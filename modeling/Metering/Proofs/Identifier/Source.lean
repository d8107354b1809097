import Metering.Identifier.Issuer

/-! # How a source of words is used up

A call is answered with the first identifier among the words to come, read one by one for a span and
in pairs for a trace, and cannot be answered exactly if there is none. It takes the zeros before
that identifier and the words of the identifier, so that calls in turn take a source apart without
skipping a word or reading one twice (`Metering.Identifier.reading_drawAll`).
-/

namespace Metering.Identifier

/-- The consecutive pairs of a list; what is left over at the end belongs to none. -/
def pairs {α : Type} : List α → List (α × α)
  | first :: second :: rest => (first, second) :: pairs rest
  | _ => []

/-- Whether a drawn identifier names something. -/
def Drawn.isValid : Drawn → Bool
  | .span id => id.isValid
  | .trace id => id.isValid

namespace Call

/-- The first identifier among the words to come: the first word that is not zero, or the first pair
that is not all zero. -/
def first? (words : List UInt64) : Call → Option Drawn
  | .span => (words.find? (· != 0)).map fun word => .span ⟨word⟩
  | .trace => ((pairs words).find? (· != (0, 0))).map fun pair => .trace ⟨pair.1, pair.2⟩

/-- The words that a call takes for an identifier: zeros, or pairs of zeros, and then the words of
the identifier. -/
inductive Takes : Call → Drawn → List UInt64 → Prop
  | span (zeros : Nat) (id : SpanId) :
    Takes .span (.span id) (List.replicate zeros 0 ++ [id.word])
  | trace (zeros : Nat) (id : TraceId) :
    Takes .trace (.trace id) ((List.replicate zeros [0, 0]).flatten ++ [id.high, id.low])

end Call

/-! ## One call -/

/-- What a call comes to: nothing, as there is no identifier among the words to come, or the first
identifier, for which it takes the words before those that are left. -/
inductive Call.Comes (words : List UInt64) (call : Call) : Prop where
  | dry (drawn : call.draw words = none) (missing : call.first? words = none)
  | answered (id : Drawn) (taken rest : List UInt64) (drawn : call.draw words = some (id, rest))
      (first : call.first? words = some id) (takes : call.Takes id taken) (valid : id.isValid = true)
      (whole : words = taken ++ rest)

private theorem comes_span (words : List UInt64) : Call.span.Comes words := by
  induction words with
  | nil => exact .dry rfl rfl
  | cons word words ih =>
      by_cases zero : word = 0
      · subst zero
        -- A word that is zero is passed over, and counts with those taken later.
        cases ih with
        | dry drawn missing => exact .dry drawn missing
        | answered id taken rest drawn first takes valid whole =>
            cases takes with
            | span zeros id =>
                refine .answered (.span id) (List.replicate (zeros + 1) 0 ++ [id.word]) rest drawn
                  first (.span (zeros + 1) id) valid ?_
                rw [whole, List.replicate_succ, List.cons_append, List.cons_append]
      · have named : (word != 0) = true := bne_iff_ne.mpr zero
        refine .answered (.span ⟨word⟩) [word] words ?_ ?_ (.span 0 ⟨word⟩) named rfl
        · have valid : (SpanId.mk word).isValid = true := named
          rw [Call.draw, SpanId.draw, if_pos valid]
          rfl
        · have found : (word :: words).find? (· != 0) = some word :=
            List.find?_cons_of_pos named
          rw [Call.first?, found]
          rfl

private theorem comes_trace (words : List UInt64) : Call.trace.Comes words := by
  induction words using TraceId.draw.induct with
  | case1 high low words valid =>
      have named : ((high, low) != (0, 0)) = true := by
        rw [TraceId.isValid, Bool.or_eq_true, bne_iff_ne, bne_iff_ne] at valid
        rw [bne_iff_ne]
        intro zero
        cases zero
        exact valid.elim (· rfl) (· rfl)
      refine .answered (.trace ⟨high, low⟩) [high, low] words ?_ ?_ (.trace 0 ⟨high, low⟩) valid rfl
      · rw [Call.draw, TraceId.draw, if_pos valid]
        rfl
      · have found : (pairs (high :: low :: words)).find? (· != (0, 0)) = some (high, low) :=
          List.find?_cons_of_pos named
        rw [Call.first?, found]
        rfl
  | case2 high low words invalid ih =>
      obtain ⟨rfl, rfl⟩ : high = 0 ∧ low = 0 := by
        simpa [TraceId.isValid] using invalid
      cases ih with
      | dry drawn missing => exact .dry drawn missing
      | answered id taken rest drawn first takes valid whole =>
          cases takes with
          | trace zeros id =>
              refine .answered (.trace id)
                ((List.replicate (zeros + 1) [0, 0]).flatten ++ [id.high, id.low]) rest drawn first
                (.trace (zeros + 1) id) valid ?_
              rw [whole, List.replicate_succ, List.flatten_cons]
              rfl
  | case3 words short =>
      have few : pairs words = [] := by
        rw [pairs]
        exact short
      refine .dry ?_ ?_
      · rw [Call.draw, TraceId.draw]
        · rfl
        · exact short
      · rw [Call.first?, few]
        rfl

/-- **One call.** -/
theorem Call.comes (words : List UInt64) (call : Call) : call.Comes words := by
  cases call with
  | span => exact comes_span words
  | trace => exact comes_trace words

/-! ## Calls in turn -/

/-- **What became of calls on one source.** The source is given whole; with it are given the words
that each answered call took, in turn, the words left over, and the number of words asked for
before. -/
structure Reading (before : Nat) (words : List UInt64) (calls : List Call) (outcomes : List Outcome)
    (taken : List (List UInt64)) (left : List UInt64) : Prop where
  /-- Nothing is skipped, and nothing is read twice. -/
  whole : taken.flatten ++ left = words
  /-- Every call with an outcome is answered with the first identifier among the words that the
  calls before it have left, and with none exactly if there is none. -/
  answers : ∀ (n : Nat) (call : Call) (outcome : Outcome), calls[n]? = some call →
    outcomes[n]? = some outcome →
    outcome.id = call.first? (words.drop (taken.take n).flatten.length)
  /-- An answered call has taken zeros and then the words of its identifier, which is valid. The
  words asked for are those taken by then. -/
  answered : ∀ (n : Nat) (chunk : List UInt64), taken[n]? = some chunk →
    ∃ call id, calls[n]? = some call ∧
    outcomes[n]? = some ⟨some id, before + (taken.take (n + 1)).flatten.length⟩ ∧
    call.Takes id chunk ∧ id.isValid = true
  /-- Either all calls are answered, or the one after those that are answered is the last: there is
  no identifier for it in what is left, and it has asked for all words and one more. -/
  ended : taken.length = calls.length ∧ outcomes.length = calls.length ∨
    ∃ call, calls[taken.length]? = some call ∧ call.first? left = none ∧
      outcomes[taken.length]? = some ⟨none, before + words.length + 1⟩ ∧
      outcomes.length = taken.length + 1

/-- A source on which no call is made. -/
theorem reading_nil (before : Nat) (words : List UInt64) : Reading before words [] [] [] words where
  whole := rfl
  answers _ _ _ none := by cases none
  answered _ _ none := by cases none
  ended := Or.inl ⟨rfl, rfl⟩

/-- A call for which there is nothing is the last. -/
theorem reading_dry {words : List UInt64} {call : Call} (missing : call.first? words = none)
    (before : Nat) (calls : List Call) :
    Reading before words (call :: calls) [⟨none, before + words.length + 1⟩] [] words where
  whole := rfl
  answers n other outcome isCall isOutcome := by
    cases n with
    | zero =>
        cases isCall
        cases isOutcome
        exact missing.symm
    | succ n => cases isOutcome
  answered _ _ none := by cases none
  ended := Or.inr ⟨call, rfl, missing, rfl, rfl⟩

/-- A call that is answered comes before the others, which go on from the words that it leaves. -/
theorem Reading.cons {before : Nat} {rest left : List UInt64} {calls : List Call}
    {outcomes : List Outcome} {later : List (List UInt64)} {call : Call} {id : Drawn}
    {taken : List UInt64}
    (further : Reading (before + taken.length) rest calls outcomes later left)
    (first : call.first? (taken ++ rest) = some id) (takes : call.Takes id taken)
    (valid : id.isValid = true) :
    Reading before (taken ++ rest) (call :: calls)
      (⟨some id, before + taken.length⟩ :: outcomes) (taken :: later) left where
  whole := by rw [List.flatten_cons, List.append_assoc, further.whole]
  answers n other outcome isCall isOutcome := by
    cases n with
    | zero =>
        cases isCall
        cases isOutcome
        exact first.symm
    | succ n =>
        rw [further.answers n other outcome isCall isOutcome, List.take_succ_cons,
          List.flatten_cons, List.length_append, ← List.drop_drop, List.drop_left]
  answered n chunk isChunk := by
    cases n with
    | zero =>
        cases isChunk
        refine ⟨call, id, rfl, ?_, takes, valid⟩
        simp only [List.getElem?_cons_zero, Nat.zero_add, List.take_succ_cons, List.take_zero,
          List.flatten_cons, List.flatten_nil, List.append_nil]
    | succ n =>
        obtain ⟨other, drawn, isCall, isOutcome, takes, valid⟩ := further.answered n chunk isChunk
        refine ⟨other, drawn, isCall, ?_, takes, valid⟩
        rw [List.getElem?_cons_succ, isOutcome, List.take_succ_cons, List.flatten_cons,
          List.length_append, Nat.add_assoc]
  ended := by
    rcases further.ended with ⟨all, every⟩ | ⟨other, isCall, missing, isOutcome, last⟩
    · exact Or.inl ⟨congrArg (· + 1) all, congrArg (· + 1) every⟩
    · refine Or.inr ⟨other, isCall, missing, ?_, congrArg (· + 1) last⟩
      rw [List.length_cons, List.getElem?_cons_succ, isOutcome, List.length_append,
        ← Nat.add_assoc before]

/-- Calls go on from what was asked for before. -/
theorem reading_drawFrom (before : Nat) (words : List UInt64) (calls : List Call) :
    ∃ taken left, Reading before words calls (drawFrom before words calls) taken left := by
  induction calls generalizing before words with
  | nil => exact ⟨[], words, reading_nil before words⟩
  | cons call calls ih =>
      rw [drawFrom]
      cases call.comes words with
      | dry drawn missing =>
          rw [drawn]
          exact ⟨[], words, reading_dry missing before calls⟩
      | answered id taken rest drawn first takes valid whole =>
          subst whole
          obtain ⟨later, left, further⟩ := ih (before + taken.length) rest
          have asked : (taken ++ rest).length - rest.length = taken.length := by
            rw [List.length_append, Nat.add_sub_cancel]
          rw [drawn]
          simp only [asked]
          exact ⟨taken :: later, left, further.cons first takes valid⟩

/-- **Calls in turn take a source apart**, whatever its words and whatever the calls. -/
theorem reading_drawAll (words : List UInt64) (calls : List Call) :
    ∃ taken left, Reading 0 words calls (drawAll words calls) taken left :=
  reading_drawFrom 0 words calls

-- The trace reads its pairs from where the span before it stopped, so that a word which is not zero
-- may be left alone at the end.
example : drawAll [0, 5, 0, 0, 0, 9, 0, 0, 7] [.span, .trace, .trace] =
    [⟨some (.span ⟨5⟩), 2⟩, ⟨some (.trace ⟨0, 9⟩), 6⟩, ⟨none, 10⟩] := by decide

end Metering.Identifier
