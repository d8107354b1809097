import Mathlib.Data.List.Nodup
import Metering.Telemetry.Activity

/-! # Forests of spans

What happens is a forest: spans that lie in spans, with journal entries among them. Under a filter
some of the spans are let through, and each such span has entries of its own, those that are let
through and lie in no such span within it. Those that are closed after finished spans were last
forgotten are listed. `Metering.Telemetry.Forest.Tells` says of a list of spans that it is the one
that a forest leads to. Such a list has every entry that counts once
(`Metering.Telemetry.Forest.Tells.perm`), and a span before the span that it lies in
(`Metering.Telemetry.Forest.Tells.nested`).
-/

namespace Metering.Telemetry

/-- What happens: nothing more; an entry is written, and then the rest; a span is opened, things
happen inside and it is closed, and then the rest; or finished spans are forgotten, and then the
rest. -/
inductive Forest where
  | nil
  | entry (entry : Entry) (rest : Forest)
  | span (name : String) (level : Level) (inside rest : Forest)
  | reset (rest : Forest)

namespace Span

/-- What the spans that lie in a span take from it. -/
structure Context where
  number : Nat
  trace : TraceId

/-- What a span passes on. -/
def context (span : Span) : Context :=
  ⟨span.number, span.trace⟩

/-- A span has an identifier that was issued to it, and lies in a context, whose trace it shares, or
in none, so that it is a root and its trace was issued to it as well. -/
structure LiesIn (issuer : Issuer) (around : Option Context) (span : Span) : Prop where
  id : span.id = issuer.span span.number
  parent : span.parent = around.map Context.number
  trace : span.trace = (around.map Context.trace).getD (issuer.trace span.number)

private theorem LiesIn.valid {issuer : Issuer} {around : Option Context} {span : Span}
    (lies : span.LiesIn issuer around) (valid : ∀ c ∈ around, c.trace.isValid = true) :
    span.id.isValid = true ∧ span.trace.isValid = true := by
  rw [lies.id, lies.trace]
  refine ⟨issuer.isValid_span _, ?_⟩
  cases around with
  | none => exact issuer.isValid_trace _
  | some c => exact valid c rfl

/-- Every span of a list lies in a context, or in a later span of the list. -/
def Nested (issuer : Issuer) (around : Option Context) : List Span → Prop
  | [] => True
  | span :: later =>
    (span.LiesIn issuer around ∨ ∃ other ∈ later, span.LiesIn issuer (some other.context)) ∧
      Nested issuer around later

section Nested

variable {issuer : Issuer} {around : Option Context} {spans later : List Span}

private theorem Nested.append (nested : Nested issuer around spans)
    (more : Nested issuer around later) :
    Nested issuer around (spans ++ later) := by
  induction spans with
  | nil => exact more
  | cons span spans ih =>
      obtain ⟨lies | ⟨other, member, lies⟩, rest⟩ := nested
      · exact ⟨.inl lies, ih rest⟩
      · exact ⟨.inr ⟨other, List.mem_append_left _ member, lies⟩, ih rest⟩

private theorem Nested.close {span : Span} (nested : Nested issuer (some span.context) spans)
    (lies : span.LiesIn issuer around) (more : Nested issuer around later) :
    Nested issuer around (spans ++ span :: later) := by
  induction spans with
  | nil => exact ⟨.inl lies, more⟩
  | cons inner spans ih =>
      obtain ⟨lies | ⟨other, member, lies⟩, rest⟩ := nested
      · exact ⟨.inr ⟨span, List.mem_append_right _ List.mem_cons_self, lies⟩, ih rest⟩
      · exact ⟨.inr ⟨other, List.mem_append_left _ member, lies⟩, ih rest⟩

/-- A span in a nested list lies in the context around it, or in a span that is finished later. -/
theorem Nested.getElem? (nested : Nested issuer around spans) {place : Nat} {span : Span}
    (found : spans[place]? = some span) : span.LiesIn issuer around ∨
      ∃ (next : Nat) (other : Span), place < next ∧ spans[next]? = some other ∧
        span.LiesIn issuer (some other.context) := by
  induction spans generalizing place with
  | nil => cases found
  | cons first spans ih =>
      cases place with
      | zero =>
          cases found
          refine nested.1.imp_right fun ⟨other, member, lies⟩ => ?_
          obtain ⟨next, there⟩ := List.getElem?_of_mem member
          exact ⟨next + 1, other, Nat.succ_pos _, there, lies⟩
      | succ place =>
          refine (ih nested.2 found).imp_right fun ⟨next, other, after, there, lies⟩ => ?_
          exact ⟨next + 1, other, Nat.succ_lt_succ after, there, lies⟩

end Nested

/-- The numbers of spans are different, and from one number on up to below another. -/
structure Numbered (first next : Nat) (spans : List Span) : Prop where
  le : first ≤ next
  bounds : ∀ span ∈ spans, first ≤ span.number ∧ span.number < next
  nodup : (spans.map Span.number).Nodup

/-- No spans are numbered from one number to a later one. -/
theorem Numbered.nil {first next : Nat} (le : first ≤ next) : Numbered first next [] :=
  ⟨le, nofun, List.nodup_nil⟩

/-- Spans numbered one stretch after the other are numbered. -/
theorem Numbered.append {first middle next : Nat} {spans later : List Span}
    (numbered : Numbered first middle spans) (more : Numbered middle next later) :
    Numbered first next (spans ++ later) where
  le := Nat.le_trans numbered.le more.le
  bounds span member := by
    rcases List.mem_append.mp member with before | after
    · have bounds := numbered.bounds span before
      exact ⟨bounds.1, Nat.lt_of_lt_of_le bounds.2 more.le⟩
    · have bounds := more.bounds span after
      exact ⟨Nat.le_trans numbered.le bounds.1, bounds.2⟩
  nodup := by
    rw [List.map_append]
    refine List.Nodup.append numbered.nodup more.nodup fun n before after => ?_
    obtain ⟨span, member, rfl⟩ := List.mem_map.mp before
    obtain ⟨other, among, same⟩ := List.mem_map.mp after
    have below := (numbered.bounds span member).2
    have above := (more.bounds other among).1
    omega

/-- Spans that are forgotten have had their numbers. -/
theorem Numbered.cleared {first next : Nat} {spans : List Span}
    (numbered : Numbered first next spans) (resets : Bool) :
    Numbered first next (if resets then [] else spans) := by
  split
  · exact .nil numbered.le
  · exact numbered

/-- A span that is opened before other spans is closed after them. -/
theorem Numbered.close {next : Nat} {span : Span} {spans : List Span}
    (numbered : Numbered (span.number + 1) next spans) :
    Numbered span.number next (spans ++ [span]) where
  le := Nat.le_trans (Nat.le_succ _) numbered.le
  bounds other member := by
    rcases List.mem_append.mp member with before | last
    · have bounds := numbered.bounds other before
      exact ⟨Nat.le_trans (Nat.le_succ _) bounds.1, bounds.2⟩
    · rw [List.mem_singleton.mp last]
      exact ⟨Nat.le_refl _, numbered.le⟩
  nodup := by
    rw [List.map_append]
    refine List.Nodup.append numbered.nodup (List.nodup_singleton _) fun n before last => ?_
    obtain ⟨other, member, rfl⟩ := List.mem_map.mp before
    have above := (numbered.bounds other member).1
    rw [List.mem_singleton.mp last] at above
    exact Nat.not_succ_le_self _ above

end Span

namespace Forest

/-- One forest after another. -/
def append : Forest → Forest → Forest
  | .nil, later => later
  | .entry e rest, later => .entry e (rest.append later)
  | .span name level inside rest, later => .span name level inside (rest.append later)
  | .reset rest, later => .reset (rest.append later)

/-- Whether finished spans are forgotten at some time. -/
def resets : Forest → Bool
  | .nil => false
  | .entry _ rest => rest.resets
  | .span _ _ inside rest => inside.resets || rest.resets
  | .reset _ => true

/-- Entries are written in turn, and then the rest. -/
def ofEntries (entries : List Entry) (rest : Forest) : Forest :=
  entries.foldr .entry rest

/-- The entries of a forest, in order of time. -/
def entries : Forest → List Entry
  | .nil => []
  | .entry e rest => e :: rest.entries
  | .span _ _ inside rest => inside.entries ++ rest.entries
  | .reset rest => rest.entries

/-- The forest with only some of its entries. -/
def restrict (chosen : Entry → Bool) : Forest → Forest
  | .nil => .nil
  | .entry e rest => if chosen e then .entry e (rest.restrict chosen) else rest.restrict chosen
  | .span name level inside rest =>
    .span name level (inside.restrict chosen) (rest.restrict chosen)
  | .reset rest => .reset (rest.restrict chosen)

/-- The entries written in turn come before those of the rest. -/
theorem entries_ofEntries (entries : List Entry) (rest : Forest) :
    (ofEntries entries rest).entries = entries ++ rest.entries := by
  induction entries with
  | nil => rfl
  | cons e entries ih => exact congrArg (e :: ·) ih

/-- A forest followed by none is itself. -/
theorem append_nil (forest : Forest) : forest.append .nil = forest := by
  induction forest with
  | nil => rfl
  | entry e _ ih => exact congrArg (Forest.entry e) ih
  | span name level inside _ _ ih => exact congrArg (Forest.span name level inside) ih
  | reset _ ih => exact congrArg Forest.reset ih

/-- It does not matter which of three forests are joined first. -/
theorem append_assoc (forest later last : Forest) :
    (forest.append later).append last = forest.append (later.append last) := by
  induction forest with
  | nil => rfl
  | entry e _ ih => exact congrArg (Forest.entry e) ih
  | span name level inside _ _ ih => exact congrArg (Forest.span name level inside) ih
  | reset _ ih => exact congrArg Forest.reset ih

/-- Whether something is forgotten in one of two forests. -/
theorem resets_append (forest later : Forest) :
    (forest.append later).resets = (forest.resets || later.resets) := by
  induction forest with
  | nil => rfl
  | entry _ _ ih => exact ih
  | span _ _ inside _ _ ih => rw [append, resets, ih, resets, Bool.or_assoc]
  | reset => rfl

/-- Choosing among entries that are written in turn. -/
theorem restrict_ofEntries (chosen : Entry → Bool) (entries : List Entry) (rest : Forest) :
    (ofEntries entries rest).restrict chosen =
      .ofEntries (entries.filter chosen) (rest.restrict chosen) := by
  induction entries with
  | nil => rfl
  | cons e entries ih =>
      change restrict chosen (.entry e (ofEntries entries rest)) = _
      rw [restrict, ih, List.filter_cons]
      split <;> rfl

/-- Choosing among the entries of one forest after another. -/
theorem restrict_append (chosen : Entry → Bool) (forest later : Forest) :
    (forest.append later).restrict chosen =
      (forest.restrict chosen).append (later.restrict chosen) := by
  induction forest with
  | nil => rfl
  | entry e rest ih =>
      rw [append, restrict, restrict, ih]
      split <;> rfl
  | span name level inside rest _ ih => rw [append, restrict, ih, restrict, append]
  | reset rest ih => rw [append, restrict, ih, restrict, append]

/-- What is forgotten does not depend on the entries. -/
theorem resets_restrict (chosen : Entry → Bool) (forest : Forest) :
    (forest.restrict chosen).resets = forest.resets := by
  induction forest with
  | nil => rfl
  | entry e rest ih =>
      rw [restrict, resets]
      split
      · exact ih
      · exact ih
  | span name level inside rest ihInside ihRest => rw [restrict, resets, resets, ihInside, ihRest]
  | reset => rfl

section Filtered

variable (filter : Filter)

/-- The entries that are let through and lie in no span that is let through. -/
def own : Forest → List Entry
  | .nil => []
  | .entry e rest => if filter.admits e.level then e :: rest.own else rest.own
  | .span _ level inside rest => if filter.admits level then rest.own else inside.own ++ rest.own
  | .reset rest => rest.own

/-- The entries that are let through and lie in some span that is listed, be it in the forest or
around it. A span that is closed before finished spans are forgotten is not listed, but if it is not
let through, its own entries are those of the span around it. -/
def kept (within : Bool) : Forest → List Entry
  | .nil => []
  | .entry e rest =>
    if within && filter.admits e.level then e :: rest.kept within else rest.kept within
  | .span _ level inside rest =>
    (if rest.resets then
        if within && !filter.admits level then inside.own filter else []
      else inside.kept (within || filter.admits level)) ++ rest.kept within
  | .reset rest => rest.kept within

/-- No span that is listed has more entries of its own than a span keeps. -/
def Brief : Forest → Prop
  | .nil => True
  | .entry _ rest => rest.Brief
  | .span _ level inside rest =>
    (rest.resets = false →
      (filter.admits level = true → (inside.own filter).length ≤ eventLimit) ∧ inside.Brief) ∧
      rest.Brief
  | .reset rest => rest.Brief

instance Brief.instDecidable : (forest : Forest) → Decidable (forest.Brief filter)
  | .nil => .isTrue trivial
  | .entry _ rest => Brief.instDecidable rest
  | .span _ level inside rest =>
    have := Brief.instDecidable inside
    have := Brief.instDecidable rest
    inferInstanceAs (Decidable ((rest.resets = false → (filter.admits level = true →
      (inside.own filter).length ≤ eventLimit) ∧ inside.Brief filter) ∧ rest.Brief filter))
  | .reset rest => Brief.instDecidable rest

/-- The spans of a forest that are listed, in order of closing, when it lies in a context. A span
that is not let through leaves no trace: what it holds lies in the context. A span that is closed
before finished spans are forgotten is not listed, nor is any within it. -/
inductive Tells (issuer : Issuer) : Option Span.Context → Forest → List Span → Prop
  | nil {around : Option Span.Context} : Tells issuer around .nil []
  | entry {around : Option Span.Context} {e : Entry} {rest : Forest} {spans : List Span}
      (tellsRest : Tells issuer around rest spans) : Tells issuer around (.entry e rest) spans
  | reset {around : Option Span.Context} {rest : Forest} {spans : List Span}
      (tellsRest : Tells issuer around rest spans) : Tells issuer around (.reset rest) spans
  | forgotten {around : Option Span.Context} {name : String} {level : Level}
      {inside rest : Forest} {after : List Span} (resets : rest.resets = true)
      (tellsRest : Tells issuer around rest after) :
      Tells issuer around (.span name level inside rest) after
  | hidden {around : Option Span.Context} {name : String} {level : Level} {inside rest : Forest}
      {within after : List Span} (stays : rest.resets = false)
      (dropped : filter.admits level = false) (tellsInside : Tells issuer around inside within)
      (tellsRest : Tells issuer around rest after) :
      Tells issuer around (.span name level inside rest) (within ++ after)
  | shown {around : Option Span.Context} {name : String} {level : Level} {inside rest : Forest}
      {within after : List Span} (stays : rest.resets = false)
      (admitted : filter.admits level = true) (span : Span) (named : span.name = name)
      (leveled : span.level = level) (lies : span.LiesIn issuer around)
      (events : span.events = (inside.own filter).take eventLimit)
      (tellsInside : Tells issuer (some span.context) inside within)
      (tellsRest : Tells issuer around rest after) :
      Tells issuer around (.span name level inside rest) (within ++ span :: after)

end Filtered

variable {filter : Filter} {issuer : Issuer} {around : Option Span.Context} {forest : Forest}
  {spans : List Span}

/-- A listed span around a forest keeps the entries that are the forest's own. -/
theorem own_sublist_kept (forest : Forest) :
    (forest.own filter).Sublist (forest.kept filter true) := by
  induction forest with
  | nil => exact .slnil
  | entry e rest ih =>
      rw [own, kept, Bool.true_and]
      split
      · exact ih.cons_cons e
      · exact ih
  | span name level inside rest ihInside ihRest =>
      rw [own, kept, Bool.true_and, Bool.true_or]
      cases admitted : filter.admits level with
      | true =>
          rw [if_pos rfl]
          exact ihRest.trans (List.sublist_append_right _ _)
      | false =>
          rw [if_neg Bool.false_ne_true, Bool.not_false, if_pos rfl]
          refine List.Sublist.append ?_ ihRest
          split
          · exact .refl _
          · exact ihInside
  | reset rest ih => exact ih

/-- The own entries that are chosen are those of the forest with the chosen entries. -/
theorem filter_own (chosen : Entry → Bool) (forest : Forest) :
    (forest.own filter).filter chosen = (forest.restrict chosen).own filter := by
  induction forest with
  | nil => rfl
  | entry e rest ih =>
      rw [own, restrict]
      cases admitted : filter.admits e.level <;> cases isChosen : chosen e <;>
        simp [own, ih, admitted, isChosen]
  | span name level inside rest ihInside ihRest =>
      rw [own, restrict, own, ← ihRest]
      split
      · rfl
      · rw [List.filter_append, ihInside]
  | reset rest ih => exact ih

/-- The chosen entries that lie in some listed span are those of the forest with the chosen
entries. -/
theorem filter_kept (chosen : Entry → Bool) (forest : Forest) (within : Bool) :
    (forest.kept filter within).filter chosen = (forest.restrict chosen).kept filter within := by
  induction forest generalizing within with
  | nil => rfl
  | entry e rest ih =>
      rw [kept, restrict]
      cases counts : (within && filter.admits e.level) <;> cases isChosen : chosen e <;>
        simp [kept, ih, counts, isChosen]
  | span name level inside rest ihInside ihRest =>
      rw [kept, restrict, kept, List.filter_append, ihRest, resets_restrict, ← filter_own,
        ← ihInside]
      split
      · split <;> rfl
      · rfl
  | reset rest ih => exact ih within

namespace Tells

/-- What comes later is listed after what was listed, unless finished spans are forgotten later. -/
theorem append
    {later : Forest} {after : List Span} (tells : Tells filter issuer around forest spans)
    (stays : later.resets = false) (more : Tells filter issuer around later after) :
    Tells filter issuer around (forest.append later) (spans ++ after) := by
  have still {rest : Forest} (now : rest.resets = false) : (rest.append later).resets = false := by
    rw [resets_append, now, stays]
    rfl
  induction tells with
  | nil => exact more
  | entry _ ih => exact .entry (ih more)
  | reset _ ih => exact .reset (ih more)
  | forgotten resets _ ih =>
      refine .forgotten ?_ (ih more)
      rw [resets_append, resets]
      rfl
  | hidden stays dropped inside _ _ ih =>
      rw [List.append_assoc]
      exact .hidden (still stays) dropped inside (ih more)
  | shown stays admitted span named leveled lies events inside _ _ ih =>
      rw [List.append_assoc, List.cons_append]
      exact .shown (still stays) admitted span named leveled lies events inside (ih more)

/-- If finished spans are forgotten later, only what comes later is listed. -/
theorem append_of_resets {later : Forest} {after : List Span} (forest : Forest)
    (resets : later.resets = true) (more : Tells filter issuer around later after) :
    Tells filter issuer around (forest.append later) after := by
  induction forest with
  | nil => exact more
  | entry _ _ ih => exact .entry ih
  | reset _ ih => exact .reset ih
  | span _ _ _ rest _ ih =>
      refine .forgotten ?_ ih
      rw [resets_append, resets, Bool.or_true]

/-- A span comes before the span that it lies in. -/
theorem nested (tells : Tells filter issuer around forest spans) :
    Span.Nested issuer around spans := by
  induction tells with
  | nil => trivial
  | entry _ ih | reset _ ih | forgotten _ _ ih => exact ih
  | hidden _ _ _ _ ihInside ihRest => exact ihInside.append ihRest
  | shown _ _ _ _ _ lies _ _ _ ihInside ihRest => exact ihInside.close lies ihRest

/-- The spans have valid identifiers. -/
theorem valid (tells : Tells filter issuer around forest spans)
    (valid : ∀ c ∈ around, c.trace.isValid = true) :
    ∀ span ∈ spans, span.id.isValid = true ∧ span.trace.isValid = true := by
  induction tells with
  | nil => exact nofun
  | entry _ ih | reset _ ih | forgotten _ _ ih => exact ih valid
  | hidden _ _ _ _ ihInside ihRest =>
      intro span member
      exact (List.mem_append.mp member).elim (ihInside valid span) (ihRest valid span)
  | shown _ _ span _ _ lies _ _ _ ihInside ihRest =>
      intro other member
      rcases List.mem_append.mp member with inside | here | after
      · refine ihInside (fun c same => ?_) other inside
        cases same
        exact (lies.valid valid).2
      · exact lies.valid valid
      · exact ihRest valid other ‹_›

/-- The entries of a span are in order of time. -/
theorem sublist (tells : Tells filter issuer around forest spans) (within : Bool) :
    ∀ span ∈ spans, span.events.Sublist (forest.kept filter within) := by
  induction tells generalizing within with
  | nil => exact nofun
  | entry _ ih =>
      intro span member
      rw [kept]
      split
      · exact (ih within span member).trans (List.sublist_cons_self _ _)
      · exact ih within span member
  | reset _ ih => exact ih within
  | forgotten _ _ ih =>
      intro span member
      exact (ih within span member).trans (List.sublist_append_right _ _)
  | hidden stays _ _ _ ihInside ihRest =>
      intro span member
      rw [kept, stays, if_neg Bool.false_ne_true]
      rcases List.mem_append.mp member with inside | after
      · exact (ihInside _ span inside).trans (List.sublist_append_left _ _)
      · exact (ihRest within span after).trans (List.sublist_append_right _ _)
  | @shown _ _ _ inside _ _ _ stays admitted span _ _ _ events _ _ ihInside ihRest =>
      intro other member
      rw [kept, stays, if_neg Bool.false_ne_true, admitted, Bool.or_true]
      rcases List.mem_append.mp member with within | here | after
      · exact (ihInside true other within).trans (List.sublist_append_left _ _)
      · rw [events]
        exact ((List.take_sublist _ _).trans inside.own_sublist_kept).trans
          (List.sublist_append_left _ _)
      · exact (ihRest within other ‹_›).trans (List.sublist_append_right _ _)

/-- **Every entry that counts is in one span.** The entries of the forest's own, if it lies in a
listed span, and those of the spans are the entries that lie in some listed span. -/
theorem perm (tells : Tells filter issuer around forest spans) (brief : forest.Brief filter)
    (within : Bool) :
    ((if within then forest.own filter else []) ++ spans.flatMap Span.events).Perm
      (forest.kept filter within) := by
  induction tells generalizing within with
  | nil => cases within <;> exact .refl []
  | @entry _ e _ _ _ ih =>
      have rest := ih brief within
      rw [own, kept]
      cases within with
      | false => exact rest
      | true =>
          rw [if_pos rfl] at rest ⊢
          rw [Bool.true_and]
          split
          · exact rest.cons e
          · exact rest
  | reset _ ih => exact ih brief within
  | @forgotten _ _ level inside rest after resets _ ih =>
      have rest := ih brief.2 within
      -- What is in the span goes with it. If the span is not let through, its entries are those of
      -- the span around, and remain.
      rw [own, kept, resets, if_pos rfl]
      cases within with
      | false => exact rest
      | true =>
          rw [if_pos rfl] at rest ⊢
          rw [Bool.true_and]
          cases filter.admits level with
          | true => exact rest
          | false =>
              rw [if_neg Bool.false_ne_true, Bool.not_false, if_pos rfl, List.append_assoc]
              exact rest.append_left _
  | @hidden _ _ _ inside rest within' after stays dropped _ _ ihInside ihRest =>
      have parts := (ihInside (brief.1 stays).2 within).append (ihRest brief.2 within)
      rw [own, kept, stays, if_neg Bool.false_ne_true, dropped, Bool.or_false,
        if_neg Bool.false_ne_true, List.flatMap_append]
      refine .trans ?_ parts
      cases within with
      | false => exact .refl _
      | true =>
          simp only [if_true, List.append_assoc]
          exact .append_left _ (List.perm_append_comm_assoc ..)
  | @shown _ _ _ inside rest within' after stays admitted span _ _ _ events _ _ ihInside ihRest =>
      have parts := (ihInside (brief.1 stays).2 true).append (ihRest brief.2 within)
      -- No more lies in the span than it can keep, so that it keeps all of it.
      have whole : span.events = inside.own filter := by
        rw [events, List.take_of_length_le ((brief.1 stays).1 admitted)]
      rw [own, kept, stays, if_neg Bool.false_ne_true, admitted, Bool.or_true, if_pos rfl,
        List.flatMap_append, List.flatMap_cons, whole]
      refine .trans ?_ parts
      rw [if_pos rfl, ← List.append_assoc (within'.flatMap Span.events)]
      exact (List.perm_append_comm_assoc ..).trans (.append_right _ List.perm_append_comm)

end Tells

end Forest

end Metering.Telemetry
