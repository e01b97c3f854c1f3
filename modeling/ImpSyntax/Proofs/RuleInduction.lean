import ImpSyntax.Proofs.Grammar
import ImpSyntax.Check.Rules

/-!
# Induction over the rules of the checker

Every rule of the checker is put together from the same few pieces: accepting the
lookahead (`Cursor.take`), finishing at once, stopping at a mismatch, running one piece
after another (`Step.bind`, `Move.andThen`), choosing a piece by the lookahead, and
reporting a rule around its events (`Step.bracket`). The pieces follow the rule's body in
the grammar: a terminal where the body has a symbol, a sequence where it has one, a choice
where it has a choice, a loop where it has a repetition.

So a property of what a piece does holds of every rule at every cursor as soon as each
kind of piece keeps it (`ExprClosed`, `ExprClosed.step`). The property is indexed by the
expression of the grammar the piece is meant to read and by the symbols that may come after
it: a sequence hands its first part the symbols its rest starts with, and a choice made on
the lookahead is the one choice that can start with it. This is the one induction over the
mutually recursive rules of the checker: the facts the other modules prove of every run are
instances of it.

Most of those facts are about the words a piece reads and not about the shape of its
expression. They are properties of languages (`Closed`): each kind of piece keeps them as
an operation on languages, and every such property is one of the expression (`Closed.toExpr`).
-/
namespace ImpSyntax

namespace Outcome

/-- **An outcome after events `evs`**: the same outcome, with `evs` in front of its events. -/
def after (evs : List Event) : Outcome → Outcome
  | .done evs' c' => .done (evs ++ evs') c'
  | .halted evs' fr cause => .halted (evs ++ evs') fr cause

/-- **An outcome inside rule `r`**: its events between entering and leaving `r`, and `r`
open at a stop. -/
def inRule (r : Rule) : Outcome → Outcome
  | .done evs c' => .done (.enter r :: evs ++ [.exit r]) c'
  | .halted evs fr cause => .halted (.enter r :: evs ++ [.exit r]) (r :: fr) cause

end Outcome

/-! ## What the pieces compute -/

variable {c : Cursor} {evs : List Event} {c' : Cursor} {fr : List Rule} {cause : Cause}

theorem Step.weight_of_done {s : Step c} (hs : s.1 = .done evs c') : c'.weight ≤ c.weight := by
  have h := s.2
  rw [hs] at h
  exact h

theorem Move.weight_of_done {m : Move c} (hm : m.1 = .done evs c') : c'.weight < c.weight := by
  have h := m.2
  rw [hm] at h
  exact h

theorem Step.bind_of_done (s : Step c) (k : (c' : Cursor) → c'.weight ≤ c.weight → Step c')
    (hs : s.1 = .done evs c') : (s.bind k).1 = (k c' (Step.weight_of_done hs)).1.after evs := by
  obtain ⟨o, ho⟩ := s
  simp only at hs
  subst hs
  simp only [Step.bind]
  change _ = (k c' ho).1.after evs
  generalize k c' ho = r
  obtain ⟨o', h'⟩ := r
  cases o' <;> rfl

theorem Step.bind_of_halted (s : Step c) (k : (c' : Cursor) → c'.weight ≤ c.weight → Step c')
    (hs : s.1 = .halted evs fr cause) : (s.bind k).1 = .halted evs fr cause := by
  obtain ⟨o, ho⟩ := s
  simp only at hs
  subst hs
  rfl

theorem Move.andThen_of_done (m : Move c) (k : (c' : Cursor) → c'.weight < c.weight → Step c')
    (hm : m.1 = .done evs c') : (m.andThen k).1 = (k c' (Move.weight_of_done hm)).1.after evs := by
  obtain ⟨o, ho⟩ := m
  simp only at hm
  subst hm
  simp only [Move.andThen]
  change _ = (k c' ho).1.after evs
  generalize k c' ho = r
  obtain ⟨o', h'⟩ := r
  cases o' <;> rfl

theorem Move.andThen_of_halted (m : Move c) (k : (c' : Cursor) → c'.weight < c.weight → Step c')
    (hm : m.1 = .halted evs fr cause) : (m.andThen k).1 = .halted evs fr cause := by
  obtain ⟨o, ho⟩ := m
  simp only at hm
  subst hm
  rfl

theorem Step.bracket_val (r : Rule) (s : Step c) : (Step.bracket r s).1 = s.1.inRule r := by
  obtain ⟨o, ho⟩ := s
  cases o <;> rfl

/-- **Accepting the lookahead** reports it, then finishes at the next token or stops at the
fault the pull gives. -/
theorem Cursor.take_cases (h : c.look.symbol ≠ .eof) :
    (∃ t f, c.feed.pull = (.ok t, f) ∧ (c.take h).1 = .done [.accept c.look] ⟨t, f⟩) ∨
    ∃ e f, c.feed.pull = (.error e, f) ∧ (c.take h).1 = .halted [.accept c.look] [] (.fault e) := by
  unfold Cursor.take
  split
  · rename_i t f hp
    exact .inl ⟨t, f, hp, rfl⟩
  · rename_i e f hp
    exact .inr ⟨e, f, hp, rfl⟩

theorem Cursor.expect_of_eq {s : Symbol} (hs : s ≠ .eof) (h : c.look.symbol = s) :
    (c.expect s hs).1 = (c.take (h ▸ hs)).1 := by
  simp [Cursor.expect, h]

theorem Cursor.expect_of_ne {s : Symbol} (hs : s ≠ .eof) (h : c.look.symbol ≠ s) :
    (c.expect s hs).1 = (Step.reject c (.symbol s)).1 := by
  simp [Cursor.expect, Step.reject, h]

/-! ## The rules as functions of their cursor -/

/-- **The step of each rule** of the checker. -/
def Rule.step : Rule → (c : Cursor) → Step c
  | .statementPart => Check.statementPart
  | .statementList => Check.statementList
  | .statement => Check.statement
  | .assignment => Check.assignment
  | .ifStatement => Check.ifStatement
  | .whileStatement => Check.whileStatement
  | .procedureStatement => Check.procedureStatement
  | .untilStatement => Check.untilStatement
  | .forStatement => Check.forStatement
  | .argumentList => Check.argumentList
  | .condition => Check.condition
  | .comparison => Check.comparison
  | .expression => Check.expression
  | .term => Check.term
  | .factor => Check.factor

/-! ## What a mismatch names

A mismatch names what was expected: one symbol, or a choice the grammar offers. Every
symbol it names starts a word of what the piece that met it was meant to read. -/

namespace Expected

/-- **The symbols a mismatch names as expected**: the one symbol, or those that start a
statement, a comparison's operator, its right operand or a factor. -/
def symbols : Expected → List Symbol
  | .symbol s => [s]
  | .statement => [.ident, .kwIf, .kwWhile, .kwCall, .kwDo, .kwFor]
  | .comparison => [.greater, .greaterEq, .equal, .notEqual, .less, .lessEq]
  | .operand => [.ident, .number, .string]
  | .factor => [.ident, .number, .leftParen]

/-- **Every symbol the mismatch names starts a word of `L`.** -/
def Starts (x : Expected) (L : Language Symbol) : Prop := ∀ s ∈ x.symbols, ∃ v, s :: v ∈ L

theorem starts_symbol (s : Symbol) : (Expected.symbol s).Starts (Ebnf.sym s).lang := by
  intro s' hs
  rw [List.mem_singleton.1 hs]
  exact ⟨[], by simp [Rule.mem_word]⟩

theorem starts_oneOf {x : Expected} {xs : List Symbol} (h : x.symbols = xs) :
    x.Starts (Ebnf.oneOf xs).lang := fun s hs =>
  ⟨[], Ebnf.mem_lang_oneOf.2 ⟨s, h ▸ hs, rfl⟩⟩

/-- A mismatch naming the first symbols of a rule names symbols its words start with. -/
theorem starts_first {x : Expected} {r : Rule} (h : x.symbols = r.first) :
    x.Starts r.body.lang := fun s hs => by
  rw [← Rule.lang_eq_body]
  exact Rule.first_starts r (h ▸ hs)

end Expected

namespace Check

/-- **A property that every kind of piece keeps.** `P e S c o` says something of the outcome
`o` of a piece started at cursor `c`, meant to read a word of the expression `e` before a
symbol of `S`. -/
structure ExprClosed (P : Ebnf → List Symbol → Cursor → Outcome → Prop) : Prop where
  /-- Accepting the lookahead reads it. -/
  take (c : Cursor) (h : c.look.symbol ≠ .eof) (s : Symbol) (S : List Symbol) :
    c.look.symbol = s → P (.sym s) S c (c.take h).1
  /-- Finishing at once reads the empty sequence. -/
  stay (c : Cursor) (S : List Symbol) : P (.seq []) S c (Step.stay c).1
  /-- A mismatch, where no word can start with the lookahead but every symbol named as
  expected starts one; inside a rule, the end of input is never what was expected. -/
  reject (c : Cursor) (x : Expected) (e : Ebnf) (S : List Symbol) :
    x ≠ .symbol .eof → e.lang ≠ 0 → Avoids e.lang S c.look.symbol → x.Starts e.lang →
      P e S c (Step.reject c x).1
  /-- The first part of a sequence, then the rest from where it finished: the first part is
  read before the symbols the rest starts with. -/
  seq (c : Cursor) (o₁ o : Outcome) (e : Ebnf) (es : List Ebnf) (S S₁ : List Symbol) :
    (Ebnf.seq es).lang ≠ 0 → Leads (Ebnf.seq es).lang S S₁ → P e S₁ c o₁ →
    (∀ evs c', o₁ = .done evs c' → ∃ o₂, P (.seq es) S c' o₂ ∧ o = o₂.after evs) →
    (∀ evs fr cause, o₁ = .halted evs fr cause → o = o₁) → P (.seq (e :: es)) S c o
  /-- The last part of a sequence. -/
  last (c : Cursor) (o : Outcome) (e : Ebnf) (S : List Symbol) : P e S c o → P (.seq [e]) S c o
  /-- Reporting a rule around a piece that reads its body. -/
  inRule (r : Rule) (c : Cursor) (o : Outcome) (S : List Symbol) :
    P r.body S c o → P (.rule r) S c (o.inRule r)
  /-- The choice the lookahead starts, where no other choice can start with it. -/
  choose (c : Cursor) (o : Outcome) (e : Ebnf) (es : List Ebnf) (S : List Symbol) :
    e ∈ es → (∀ e' ∈ es, e' ≠ e → Avoids e'.lang S c.look.symbol) → P e S c o →
    P (.alt es) S c o
  /-- An optional part left out, on a lookahead it cannot start. -/
  optNone (c : Cursor) (e : Ebnf) (S : List Symbol) :
    Avoids e.lang S c.look.symbol → P (.opt e) S c (Step.stay c).1
  /-- An optional part read, on a lookahead that cannot follow it. -/
  optSome (c : Cursor) (o : Outcome) (e : Ebnf) (S : List Symbol) :
    c.look.symbol ∉ S → P e S c o → P (.opt e) S c o
  /-- One more item of a repetition of pairs, on a lookahead that cannot follow it: the two
  parts of the item, then the rest of the repetition. -/
  more (c : Cursor) (o : Outcome) (e₁ e₂ : Ebnf) (S : List Symbol) :
    c.look.symbol ∉ S → P (.seq [e₁, e₂, .many (.seq [e₁, e₂])]) S c o →
    P (.many (.seq [e₁, e₂])) S c o
  /-- The end of a repetition, on a lookahead that cannot start an item. -/
  stop (c : Cursor) (e : Ebnf) (X S : List Symbol) :
    StartsIn e.lang X → c.look.symbol ∉ X → P (.many e) S c (Step.stay c).1
  /-- Fewer symbols may come after. -/
  shrink (c : Cursor) (o : Outcome) (e : Ebnf) (S S' : List Symbol) :
    S' ⊆ S → P e S c o → P e S' c o

namespace ExprClosed

variable {P : Ebnf → List Symbol → Cursor → Outcome → Prop} {e : Ebnf} {es : List Ebnf}
  {S : List Symbol}

open Ebnf Rule

/-! ## The pieces -/

theorem expect (hP : ExprClosed P) (c : Cursor) (s : Symbol) (hs : s ≠ .eof) (S : List Symbol) :
    P (.sym s) S c (c.expect s hs).1 := by
  by_cases h : c.look.symbol = s
  · rw [Cursor.expect_of_eq hs h]
    exact hP.take c _ s S h
  · rw [Cursor.expect_of_ne hs h]
    refine hP.reject c _ _ S (fun hx => hs (Expected.symbol.inj hx)) (by simp) ?_
      (Expected.starts_symbol s)
    rw [lang_sym]
    exact (StartsIn.singleton s).avoids (by simpa)

theorem bind (hP : ExprClosed P) {s : Step c} {k : (c' : Cursor) → c'.weight ≤ c.weight → Step c'}
    (S₁ : List Symbol) (hne : (Ebnf.seq es).lang ≠ 0) (hlead : Leads (Ebnf.seq es).lang S S₁)
    (h₁ : P e S₁ c s.1) (h₂ : ∀ evs c' h, s.1 = .done evs c' → P (.seq es) S c' (k c' h).1) :
    P (.seq (e :: es)) S c (s.bind k).1 := by
  refine hP.seq c s.1 _ e es S S₁ hne hlead h₁ ?_ ?_
  · intro evs c' hs
    exact ⟨_, h₂ evs c' _ hs, Step.bind_of_done s k hs⟩
  · intro evs fr cause hs
    rw [Step.bind_of_halted s k hs, hs]

theorem andThen (hP : ExprClosed P) {m : Move c}
    {k : (c' : Cursor) → c'.weight < c.weight → Step c'} (S₁ : List Symbol)
    (hne : (Ebnf.seq es).lang ≠ 0) (hlead : Leads (Ebnf.seq es).lang S S₁) (h₁ : P e S₁ c m.1)
    (h₂ : ∀ evs c' h, m.1 = .done evs c' → P (.seq es) S c' (k c' h).1) :
    P (.seq (e :: es)) S c (m.andThen k).1 := by
  refine hP.seq c m.1 _ e es S S₁ hne hlead h₁ ?_ ?_
  · intro evs c' hm
    exact ⟨_, h₂ evs c' _ hm, Move.andThen_of_done m k hm⟩
  · intro evs fr cause hm
    rw [Move.andThen_of_halted m k hm, hm]

theorem bracket (hP : ExprClosed P) (r : Rule) {s : Step c} (h : P r.body S c s.1) :
    P (.rule r) S c (Step.bracket r s).1 := by
  rw [Step.bracket_val]
  exact hP.inRule r c s.1 S h

/-- A terminal, then the rest of a sequence. -/
theorem expect_then (hP : ExprClosed P) {s : Symbol} {hs : s ≠ .eof}
    {k : (c' : Cursor) → c'.weight < c.weight → Step c'} (hne : (Ebnf.seq es).lang ≠ 0)
    (h : ∀ evs c' h, (c.expect s hs).1 = .done evs c' → P (.seq es) S c' (k c' h).1) :
    P (.seq (.sym s :: es)) S c ((c.expect s hs).andThen k).1 :=
  hP.andThen Symbol.all hne (Leads.all _ _) (hP.expect c s hs _) h

/-- Accepting the lookahead, one of the symbols of a choice. -/
theorem takeOneOf (hP : ExprClosed P) (h : c.look.symbol ≠ .eof) {xs : List Symbol}
    (hx : c.look.symbol ∈ xs) (S : List Symbol) : P (.oneOf xs) S c (c.take h).1 := by
  refine hP.choose c _ (.sym c.look.symbol) _ S (List.mem_map_of_mem hx) ?_ (hP.take c h _ S rfl)
  -- the other choices are other symbols
  intro e' he' hne
  obtain ⟨y, -, rfl⟩ := List.mem_map.1 he'
  rw [lang_sym]
  exact (StartsIn.singleton y).avoids fun hm => hne (by rw [List.mem_singleton.1 hm])

/-- A mismatch where the lookahead starts no word of a rule, naming the rule's first
symbols. -/
theorem rejectRule (hP : ExprClosed P) (c : Cursor) (x : Expected) (r : Rule) (S : List Symbol)
    (hx : x ≠ .symbol .eof) (hnames : x.symbols = r.first) (hfirst : c.look.symbol ∉ r.first) :
    P r.body S c (Step.reject c x).1 := by
  refine hP.reject c x _ S hx ?_ ?_ (Expected.starts_first hnames)
  · rw [← lang_eq_body]
    exact lang_ne_zero r
  · rw [← lang_eq_body]
    exact (startsIn_first r).avoids hfirst

/-! ## The rules -/

theorem moreArguments (hP : ExprClosed P) (c : Cursor) :
    P (.many (.seq [.sym .comma, .sym .ident])) Rule.argumentList.follow c
      (Check.moreArguments c).1 := by
  induction c using Check.moreArguments.induct with
  | case1 c hc ih =>
    rw [Check.moreArguments, if_pos hc]
    refine hP.more c _ _ _ _ (by rw [hc]; decide) ?_
    exact hP.expect_then (by simp) fun _ c1 h1 _ =>
      hP.expect_then (by simp) fun _ c2 h2 _ => hP.last _ _ _ _ (ih c1 h1 c2 h2)
  | case2 c hc =>
    rw [Check.moreArguments, if_neg hc]
    exact hP.stop c _ _ _ ((StartsIn.sym _).pair _) (by simpa using hc)

theorem argumentList (hP : ExprClosed P) (c : Cursor) :
    P (.rule .argumentList) Rule.argumentList.follow c (Check.argumentList c).1 := by
  rw [Check.argumentList]
  exact hP.bracket _ <| hP.expect_then (by simp) fun _ c1 _ _ =>
    hP.last _ _ _ _ (hP.moreArguments c1)

theorem comparison (hP : ExprClosed P) (c : Cursor) :
    P (.rule .comparison) Rule.comparison.follow c (Check.comparison c).1 := by
  rw [Check.comparison]
  refine hP.bracket _ ?_
  split
  · rename_i h
    exact hP.takeOneOf _ (Symbol.isComparison_iff.1 h) _
  · rename_i h
    exact hP.reject _ _ _ _ (by decide) (lang_oneOf_ne_zero (by simp))
      ((StartsIn.oneOf _).avoids fun hm => h (Symbol.isComparison_iff.2 hm))
      (Expected.starts_oneOf rfl)

theorem condition (hP : ExprClosed P) (c : Cursor) :
    P (.rule .condition) Rule.condition.follow c (Check.condition c).1 := by
  rw [Check.condition]
  refine hP.bracket _ <| hP.expect_then (by simp) fun _ c1 _ _ => ?_
  refine hP.bind Rule.comparison.follow (by simp)
    (((StartsIn.oneOf _).seq_cons _).leads (by decide)) (hP.comparison c1) fun _ c2 _ _ => ?_
  -- the right operand: an identifier or a constant
  refine hP.last _ _ _ _ ?_
  split
  · rename_i h
    exact hP.takeOneOf _ (Symbol.isOperand_iff.1 h) _
  · rename_i h
    exact hP.reject _ _ _ _ (by decide) (lang_oneOf_ne_zero (by simp))
      ((StartsIn.oneOf _).avoids fun hm => h (Symbol.isOperand_iff.2 hm))
      (Expected.starts_oneOf rfl)

/-- **Expressions, terms and factors**, with the repetitions inside them: one induction
for the five functions that call each other. -/
theorem expressionBlock (hP : ExprClosed P) :
    (∀ c, P (.rule .expression) Rule.expression.follow c (Check.expression c).1) ∧
    (∀ c, P (.many (.seq [.oneOf [.plus, .minus], .rule .term])) Rule.expression.follow c
      (Check.moreTerms c).1) ∧
    (∀ c, P (.rule .term) Rule.term.follow c (Check.term c).1) ∧
    (∀ c, P (.many (.seq [.oneOf [.times, .divide], .rule .factor])) Rule.term.follow c
      (Check.moreFactors c).1) ∧
    (∀ c, P (.rule .factor) Rule.factor.follow c (Check.factor c).1) := by
  apply Check.expression.mutual_induct
  case case1 =>
    intro c hterm hmore
    rw [Check.expression]
    refine hP.bracket _ <| hP.bind Rule.term.follow (by simp) ?_ hterm
      fun _ c1 h1 _ => hP.last _ _ _ _ (hmore c1 h1)
    rw [lang_seq_singleton]
    exact Leads.many ((StartsIn.oneOf _).pair _) (by decide) (by decide)
  case case2 =>
    intro c hc hterm hmore
    rw [Check.moreTerms, dif_pos hc]
    have hx := Symbol.isAdding_iff.1 hc
    refine hP.more c _ _ _ _
      ((by decide : ∀ y ∈ [Symbol.plus, .minus], y ∉ Rule.expression.follow) _ hx) ?_
    refine hP.andThen Symbol.all (by simp) (Leads.all _ _) (hP.takeOneOf _ hx _)
      fun _ c1 h1 _ => ?_
    refine hP.bind Rule.term.follow (by simp) ?_ (hterm c1 h1)
      fun _ c2 h2 _ => hP.last _ _ _ _ (hmore c1 h1 c2 h2)
    rw [lang_seq_singleton]
    exact Leads.many ((StartsIn.oneOf _).pair _) (by decide) (by decide)
  case case3 =>
    intro c hc
    rw [Check.moreTerms, dif_neg hc]
    exact hP.stop c _ _ _ ((StartsIn.oneOf _).pair _) fun hm => hc (Symbol.isAdding_iff.2 hm)
  case case4 =>
    intro c hfactor hmore
    rw [Check.term]
    refine hP.bracket _ <| hP.bind Rule.factor.follow (by simp) ?_ hfactor
      fun _ c1 h1 _ => hP.last _ _ _ _ (hmore c1 h1)
    rw [lang_seq_singleton]
    exact Leads.many ((StartsIn.oneOf _).pair _) (by decide) (by decide)
  case case5 =>
    intro c hc hfactor hmore
    rw [Check.moreFactors, dif_pos hc]
    have hx := Symbol.isMultiplying_iff.1 hc
    refine hP.more c _ _ _ _
      ((by decide : ∀ y ∈ [Symbol.times, .divide], y ∉ Rule.term.follow) _ hx) ?_
    refine hP.andThen Symbol.all (by simp) (Leads.all _ _) (hP.takeOneOf _ hx _)
      fun _ c1 h1 _ => ?_
    refine hP.bind Rule.factor.follow (by simp) ?_ (hfactor c1 h1)
      fun _ c2 h2 _ => hP.last _ _ _ _ (hmore c1 h1 c2 h2)
    rw [lang_seq_singleton]
    exact Leads.many ((StartsIn.oneOf _).pair _) (by decide) (by decide)
  case case6 =>
    intro c hc
    rw [Check.moreFactors, dif_neg hc]
    exact hP.stop c _ _ _ ((StartsIn.oneOf _).pair _)
      fun hm => hc (Symbol.isMultiplying_iff.2 hm)
  case case7 =>
    intro c hexpr
    rw [Check.factor]
    refine hP.bracket _ ?_
    -- the lookahead chooses one of the three forms, and the other two cannot start with it
    split
    · rename_i h
      refine hP.choose _ _ (.sym .ident) _ _ (by simp) (fun e he hne => ?_) (hP.take _ _ _ _ h)
      simp only [List.mem_cons, List.not_mem_nil, or_false] at he
      rcases he with rfl | rfl | rfl
      · exact absurd rfl hne
      · exact (StartsIn.sym _).avoids (by rw [h]; decide)
      · exact ((StartsIn.sym _).seq_cons _).avoids (by rw [h]; decide)
    · rename_i h
      refine hP.choose _ _ (.sym .number) _ _ (by simp) (fun e he hne => ?_) (hP.take _ _ _ _ h)
      simp only [List.mem_cons, List.not_mem_nil, or_false] at he
      rcases he with rfl | rfl | rfl
      · exact (StartsIn.sym _).avoids (by rw [h]; decide)
      · exact absurd rfl hne
      · exact ((StartsIn.sym _).seq_cons _).avoids (by rw [h]; decide)
    · rename_i h
      refine hP.choose _ _ (.seq [.sym .leftParen, .rule .expression, .sym .rightParen]) _ _
        (by simp) (fun e he hne => ?_) ?_
      · simp only [List.mem_cons, List.not_mem_nil, or_false] at he
        rcases he with rfl | rfl | rfl
        · exact (StartsIn.sym _).avoids (by rw [h]; decide)
        · exact (StartsIn.sym _).avoids (by rw [h]; decide)
        · exact absurd rfl hne
      refine hP.andThen Symbol.all (by simp) (Leads.all _ _) (hP.take _ _ _ _ h)
        fun _ c1 h1 _ => ?_
      exact hP.bind Rule.expression.follow (by simp) (Leads.seq_sym (by decide) _) (hexpr c1 h1)
        fun _ c2 _ _ => hP.last _ _ _ _ (hP.expect _ _ _ _)
    · rename_i h₁ h₂ h₃
      refine hP.rejectRule _ _ .factor _ (by decide) rfl ?_
      simp only [first, List.mem_cons, List.not_mem_nil, or_false, not_or]
      exact ⟨h₁, h₂, h₃⟩

theorem expression (hP : ExprClosed P) (c : Cursor) :
    P (.rule .expression) Rule.expression.follow c (Check.expression c).1 :=
  hP.expressionBlock.1 c

theorem assignment (hP : ExprClosed P) (c : Cursor) :
    P (.rule .assignment) Rule.assignment.follow c (Check.assignment c).1 := by
  rw [Check.assignment]
  refine hP.bracket _ <| hP.expect_then (by simp) fun _ c1 _ _ =>
    hP.expect_then (by simp) fun _ c2 _ _ => hP.last _ _ _ _ ?_
  -- a string constant, or an expression, which never starts with one
  split
  · rename_i h
    refine hP.choose _ _ (.sym .string) _ _ (by simp) ?_ (hP.expect _ _ _ _)
    intro e he hne
    simp only [List.mem_cons, List.not_mem_nil, or_false] at he
    rcases he with rfl | rfl
    · exact absurd rfl hne
    · exact (startsIn_first _).avoids (by rw [h]; decide)
  · rename_i h
    refine hP.choose _ _ (.rule .expression) _ _ (by simp) ?_ (hP.expression c2)
    intro e he hne
    simp only [List.mem_cons, List.not_mem_nil, or_false] at he
    rcases he with rfl | rfl
    · rw [lang_sym]
      exact (StartsIn.singleton _).avoids (by simpa using h)
    · exact absurd rfl hne

theorem procedureStatement (hP : ExprClosed P) (c : Cursor) :
    P (.rule .procedureStatement) Rule.procedureStatement.follow c
      (Check.procedureStatement c).1 := by
  rw [Check.procedureStatement]
  refine hP.bracket _ <| hP.expect_then (by simp) fun _ c1 _ _ =>
    hP.expect_then (by simp) fun _ c2 _ _ => hP.expect_then (by simp) fun _ c3 _ _ => ?_
  exact hP.bind Rule.argumentList.follow (by simp) (Leads.seq_sym (by decide) _)
    (hP.argumentList c3) fun _ c4 _ _ => hP.last _ _ _ _ (hP.expect _ _ _ _)

/-- **A statement of the kind its first symbol names**: the other kinds start otherwise. -/
theorem ofKind (hP : ExprClosed P) {r : Rule} (hr : r ∈ statements) {o : Outcome}
    (hx : c.look.symbol ∈ r.first) (hS : Rule.statement.follow ⊆ r.follow)
    (h : P (.rule r) r.follow c o) : P Rule.statement.body Rule.statement.follow c o := by
  -- the body of a statement is the choice of its kinds
  have hbody : Rule.statement.body = .alt (statements.map .rule) := rfl
  rw [hbody]
  refine hP.choose c o (.rule r) _ _ (List.mem_map_of_mem hr) ?_ (hP.shrink c o _ _ _ hS h)
  intro e he hne
  obtain ⟨r', hr', rfl⟩ := List.mem_map.1 he
  exact (startsIn_statements hr').avoids fun hx' =>
    hne (by rw [eq_of_mem_first_statements hr' hr hx' hx])

/-- **Statement lists, statements, and the statements that hold lists**: one induction for
the seven functions that call each other. -/
theorem statementBlock (hP : ExprClosed P) :
    (∀ c, P (.rule .statementList) Rule.statementList.follow c (Check.statementList c).1) ∧
    (∀ c, P (.many (.seq [.sym .semicolon, .rule .statement])) Rule.statementList.follow c
      (Check.moreStatements c).1) ∧
    (∀ c, P (.rule .statement) Rule.statement.follow c (Check.statement c).1) ∧
    (∀ c, P (.rule .forStatement) Rule.forStatement.follow c (Check.forStatement c).1) ∧
    (∀ c, P (.rule .untilStatement) Rule.untilStatement.follow c
      (Check.untilStatement c).1) ∧
    (∀ c, P (.rule .whileStatement) Rule.whileStatement.follow c
      (Check.whileStatement c).1) ∧
    (∀ c, P (.rule .ifStatement) Rule.ifStatement.follow c (Check.ifStatement c).1) := by
  -- what may follow a statement of a list: a semicolon, or what follows the list
  have hmore : Leads (Ebnf.seq [.many (.seq [.sym .semicolon, .rule .statement])]).lang
      Rule.statementList.follow Rule.statement.follow := by
    rw [lang_seq_singleton]
    exact Leads.many ((StartsIn.sym _).pair _) (by decide) (by decide)
  apply Check.statementList.mutual_induct
  case case1 =>
    intro c hstmt hrest
    rw [Check.statementList]
    exact hP.bracket _ <| hP.bind Rule.statement.follow (by simp) hmore hstmt
      fun _ c1 h1 _ => hP.last _ _ _ _ (hrest c1 h1)
  case case2 =>
    intro c hc hstmt hrest
    rw [Check.moreStatements, if_pos hc]
    refine hP.more c _ _ _ _ (by rw [hc]; decide) ?_
    exact hP.expect_then (by simp) fun _ c1 h1 _ =>
      hP.bind Rule.statement.follow (by simp) hmore (hstmt c1 h1) fun _ c2 h2 _ =>
        hP.last _ _ _ _ (hrest c1 h1 c2 h2)
  case case3 =>
    intro c hc
    rw [Check.moreStatements, if_neg hc]
    exact hP.stop c _ _ _ ((StartsIn.sym _).pair _) (by simpa using hc)
  case case4 =>
    intro c hif hwhile huntil hfor
    rw [Check.statement]
    refine hP.bracket _ ?_
    split
    · rename_i h
      exact hP.ofKind (by decide) (by rw [h]; decide) (by decide) (hP.assignment c)
    · rename_i h
      exact hP.ofKind (by decide) (by rw [h]; decide) (by decide) hif
    · rename_i h
      exact hP.ofKind (by decide) (by rw [h]; decide) (by decide) hwhile
    · rename_i h
      exact hP.ofKind (by decide) (by rw [h]; decide) (by decide) (hP.procedureStatement c)
    · rename_i h
      exact hP.ofKind (by decide) (by rw [h]; decide) (by decide) huntil
    · rename_i h
      exact hP.ofKind (by decide) (by rw [h]; decide) (by decide) hfor
    · rename_i h₁ h₂ h₃ h₄ h₅ h₆
      refine hP.rejectRule _ _ .statement _ (by decide) rfl ?_
      simp only [first, List.mem_cons, List.not_mem_nil, or_false, not_or]
      exact ⟨h₁, h₂, h₃, h₄, h₅, h₆⟩
  case case5 =>
    intro c hbody
    rw [Check.forStatement]
    refine hP.bracket _ <| hP.expect_then (by simp) fun _ c1 h1 _ =>
      hP.expect_then (by simp) fun _ c2 h2 _ => ?_
    refine hP.bind Rule.assignment.follow (by simp) (Leads.seq_sym (by decide) _)
      (hP.assignment c2) fun _ c3 h3 _ => hP.expect_then (by simp) fun _ c4 h4 _ => ?_
    refine hP.bind Rule.condition.follow (by simp) (Leads.seq_sym (by decide) _)
      (hP.condition c4) fun _ c5 h5 _ => hP.expect_then (by simp) fun _ c6 h6 _ => ?_
    refine hP.bind Rule.assignment.follow (by simp) (Leads.seq_sym (by decide) _)
      (hP.assignment c6) fun _ c7 h7 _ => hP.expect_then (by simp) fun _ c8 h8 _ =>
        hP.expect_then (by simp) fun _ c9 h9 _ => ?_
    exact hP.bind Rule.statementList.follow (by simp) (Leads.seq_sym (by decide) _)
      (hbody c1 h1 c2 h2 c3 h3 c4 h4 c5 h5 c6 h6 c7 h7 c8 h8 c9 h9) fun _ c10 _ _ =>
        hP.expect_then (by simp) fun _ c11 _ _ => hP.last _ _ _ _ (hP.expect _ _ _ _)
  case case6 =>
    intro c hbody
    rw [Check.untilStatement]
    refine hP.bracket _ <| hP.expect_then (by simp) fun _ c1 h1 _ => ?_
    exact hP.bind Rule.statementList.follow (by simp) (Leads.seq_sym (by decide) _)
      (hbody c1 h1) fun _ c2 _ _ => hP.expect_then (by simp) fun _ c3 _ _ =>
        hP.last _ _ _ _ (hP.shrink _ _ _ _ _ (by decide) (hP.condition c3))
  case case7 =>
    intro c hbody
    rw [Check.whileStatement]
    refine hP.bracket _ <| hP.expect_then (by simp) fun _ c1 h1 _ => ?_
    refine hP.bind Rule.condition.follow (by simp) (Leads.seq_sym (by decide) _)
      (hP.condition c1) fun _ c2 h2 _ => hP.expect_then (by simp) fun _ c3 h3 _ => ?_
    exact hP.bind Rule.statementList.follow (by simp) (Leads.seq_sym (by decide) _)
      (hbody c1 h1 c2 h2 c3 h3) fun _ c4 _ _ =>
        hP.expect_then (by simp) fun _ c5 _ _ => hP.last _ _ _ _ (hP.expect _ _ _ _)
  case case8 =>
    intro c hthen helse
    rw [Check.ifStatement]
    refine hP.bracket _ <| hP.expect_then (by simp) fun _ c1 h1 _ => ?_
    refine hP.bind Rule.condition.follow (by simp) (Leads.seq_sym (by decide) _)
      (hP.condition c1) fun _ c2 h2 _ => hP.expect_then (by simp) fun _ c3 h3 _ => ?_
    -- after the statements come `else` or `end`
    have hend : Leads (Ebnf.seq [.opt (.seq [.sym .kwElse, .rule .statementList]), .sym .kwEnd,
        .sym .kwIf]).lang Rule.ifStatement.follow Rule.statementList.follow := by
      simp only [lang_seq_cons, lang_seq_nil, mul_one, lang_opt, lang_sym, lang_rule]
      refine (Leads.singleton_mul (List.mem_singleton_self .kwEnd) _).mul
        ((Leads.one ?_).add (Leads.singleton_mul ?_ _)) <;> decide
    refine hP.bind Rule.statementList.follow (by simp) hend (hthen c1 h1 c2 h2 c3 h3)
      fun _ c4 h4 _ => ?_
    refine hP.bind [.kwEnd] (by simp) (Leads.seq_sym (by decide) _) ?_
      fun _ c6 _ _ => hP.expect_then (by simp) fun _ c7 _ _ =>
        hP.last _ _ _ _ (hP.expect _ _ _ _)
    -- the `else` part is there exactly when the lookahead starts it
    split
    · rename_i h
      refine hP.optSome _ _ _ _ (by rw [h]; decide) ?_
      exact hP.expect_then (by simp) fun _ c5 h5 _ =>
        hP.last _ _ _ _ (hP.shrink _ _ _ _ _ (by decide) (helse c1 h1 c2 h2 c3 h3 c4 h4 c5 h5))
    · rename_i h
      exact hP.optNone _ _ _ (((StartsIn.sym _).seq_cons _).avoids (by simpa using h))

theorem statementList (hP : ExprClosed P) (c : Cursor) :
    P (.rule .statementList) Rule.statementList.follow c (Check.statementList c).1 :=
  hP.statementBlock.1 c

theorem statementPart (hP : ExprClosed P) (c : Cursor) :
    P (.rule .statementPart) Rule.statementPart.follow c (Check.statementPart c).1 := by
  rw [Check.statementPart]
  refine hP.bracket _ <| hP.expect_then (by simp) fun _ c1 _ _ => ?_
  exact hP.bind Rule.statementList.follow (by simp) (Leads.seq_sym (by decide) _)
    (hP.statementList c1) fun _ c2 _ _ => hP.last _ _ _ _ (hP.expect _ _ _ _)

/-- **Every rule has the property**, at every cursor, before what may follow it. -/
theorem step (hP : ExprClosed P) (r : Rule) (c : Cursor) :
    P (.rule r) r.follow c (r.step c).1 := by
  cases r with
  | statementPart => exact hP.statementPart c
  | statementList => exact hP.statementList c
  | statement => exact hP.statementBlock.2.2.1 c
  | assignment => exact hP.assignment c
  | ifStatement => exact hP.statementBlock.2.2.2.2.2.2 c
  | whileStatement => exact hP.statementBlock.2.2.2.2.2.1 c
  | procedureStatement => exact hP.procedureStatement c
  | untilStatement => exact hP.statementBlock.2.2.2.2.1 c
  | forStatement => exact hP.statementBlock.2.2.2.1 c
  | argumentList => exact hP.argumentList c
  | condition => exact hP.condition c
  | comparison => exact hP.comparison c
  | expression => exact hP.expression c
  | term => exact hP.expressionBlock.2.2.1 c
  | factor => exact hP.expressionBlock.2.2.2.2 c

end ExprClosed

/-! ## Properties of the words a piece reads -/

/-- **A property of languages that every kind of piece keeps.** `P L S c o` says something
of the outcome `o` of a piece started at cursor `c`, meant to read a word of `L` before a
symbol of `S`. -/
structure Closed (P : Language Symbol → List Symbol → Cursor → Outcome → Prop) : Prop where
  /-- Accepting the lookahead reads it. -/
  take (c : Cursor) (h : c.look.symbol ≠ .eof) (s : Symbol) (S : List Symbol) :
    c.look.symbol = s → P {[s]} S c (c.take h).1
  /-- Finishing at once reads the empty word. -/
  stay (c : Cursor) (S : List Symbol) : P 1 S c (Step.stay c).1
  /-- A mismatch, where no word can start with the lookahead but every symbol named as
  expected starts one; inside a rule, the end of input is never what was expected. -/
  reject (c : Cursor) (x : Expected) (L : Language Symbol) (S : List Symbol) :
    x ≠ .symbol .eof → L ≠ 0 → Avoids L S c.look.symbol → x.Starts L →
      P L S c (Step.reject c x).1
  /-- A piece, then another from where it finished: the first part is read before the
  symbols the second starts with. -/
  seq (c : Cursor) (o₁ o : Outcome) (L₁ L₂ : Language Symbol) (S S₁ : List Symbol) :
    L₂ ≠ 0 → Leads L₂ S S₁ → P L₁ S₁ c o₁ →
    (∀ evs c', o₁ = .done evs c' → ∃ o₂, P L₂ S c' o₂ ∧ o = o₂.after evs) →
    (∀ evs fr cause, o₁ = .halted evs fr cause → o = o₁) → P (L₁ * L₂) S c o
  /-- Reporting a rule around a piece. -/
  inRule (r : Rule) (c : Cursor) (o : Outcome) (L : Language Symbol) (S : List Symbol) :
    P L S c o → P L S c (o.inRule r)
  /-- A piece chosen on the lookahead reads the words of the choice that start with it. -/
  choose (c : Cursor) (o : Outcome) (L L' : Language Symbol) (S : List Symbol) :
    L ≤ L' → Picks L L' S c.look.symbol → P L S c o → P L' S c o
  /-- Fewer symbols may come after. -/
  shrink (c : Cursor) (o : Outcome) (L : Language Symbol) (S S' : List Symbol) :
    S' ⊆ S → P L S c o → P L S' c o

namespace Closed

variable {P : Language Symbol → List Symbol → Cursor → Outcome → Prop}

open Ebnf

/-- **A property of languages is one of expressions**, read through their languages: an
optional part, a repetition and a choice are choices between languages. -/
theorem toExpr (hP : Closed P) : ExprClosed (fun e S c o => P e.lang S c o) where
  take c h s S hs := by
    simp only [lang_sym]
    exact hP.take c h s S hs
  stay c S := by
    simp only [lang_seq_nil]
    exact hP.stay c S
  reject c x e S hx hne havoid hstarts := hP.reject c x e.lang S hx hne havoid hstarts
  seq c o₁ o e es S S₁ hne hlead h₁ hdone hhalt := by
    simp only [lang_seq_cons]
    exact hP.seq c o₁ o _ _ S S₁ hne hlead h₁ hdone hhalt
  last c o e S h := by
    simpa only [lang_seq_singleton] using h
  inRule r c o S h := by
    simp only [lang_rule, Rule.lang_eq_body r]
    exact hP.inRule r c o _ S h
  choose c o e es S he hothers h := hP.choose c o _ _ S (le_lang_alt he) (Picks.alt hothers) h
  optNone c e S havoid := by
    simp only [lang_opt]
    exact hP.choose c _ 1 _ S le_self_add (Picks.add_left havoid) (hP.stay c S)
  optSome c o e S hx h := by
    simp only [lang_opt]
    exact hP.choose c o _ _ S le_add_self (Picks.add_right (Avoids.one hx)) h
  more c o e₁ e₂ S hx h := by
    simp only [lang_seq_cons, lang_seq_nil, mul_one] at h
    exact hP.choose c o _ _ S (mul_mul_lang_many_le e₁ e₂) (Picks.many_pair e₁ e₂ hx) h
  stop c e X S he hx :=
    hP.choose c _ 1 _ S (one_le_lang_many _) (Picks.many_stop he hx) (hP.stay c S)
  shrink c o e S S' hS h := hP.shrink c o _ S S' hS h

/-- **Every rule has the property**, at every cursor, before what may follow it. -/
theorem step (hP : Closed P) (r : Rule) (c : Cursor) : P r.lang r.follow c (r.step c).1 :=
  hP.toExpr.step r c

end Closed

end Check

end ImpSyntax
