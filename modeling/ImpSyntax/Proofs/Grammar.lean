import Mathlib
import ImpSyntax.Rule
import ImpSyntax.Symbol

/-!
# The grammar as data

The grammar of the language, written as the documentation of the checker writes it: one
EBNF body per rule, built from terminal symbols, references to rules, sequences, choices,
optional parts (`e?`) and repetitions (`e*`). A body *generates* words of symbols, and the
words a rule generates form its language. A *sentence* is a word of the statement part
followed by the end of input, and a word is *viable* when some sentence starts with it.

The checker is compared with these languages elsewhere. What it needs of the grammar is
here: the language of each kind of expression as an operation on languages, every rule
generating some word, and the symbols that words start with. The checker chooses by the
lookahead alone, so the grammar is LL(1): the first symbols of the rules (`Rule.first`) and
the symbols that may follow them (`Rule.follow`) tell its choices apart.
-/

namespace ImpSyntax

/-- **EBNF expressions** over the terminal symbols, naming the rules they use. -/
inductive Ebnf where
  /-- A terminal symbol. -/
  | sym (s : Symbol)
  /-- A rule of the grammar. -/
  | rule (r : Rule)
  /-- The parts, one after another. -/
  | seq (parts : List Ebnf)
  /-- One of the choices. -/
  | alt (choices : List Ebnf)
  /-- `e?`: nothing, or `e`. -/
  | opt (e : Ebnf)
  /-- `e*`: `e`, any number of times. -/
  | many (e : Ebnf)
  deriving Inhabited

/-- **One of the symbols** `xs`. -/
def Ebnf.oneOf (xs : List Symbol) : Ebnf := .alt (xs.map .sym)

namespace Rule

/-- **The grammar**: the body of each rule. -/
def body : Rule → Ebnf
  | statementPart => .seq [.sym .kwBegin, .rule statementList, .sym .kwEnd]
  | statementList =>
    .seq [.rule statement, .many (.seq [.sym .semicolon, .rule statement])]
  | statement =>
    .alt [.rule assignment, .rule ifStatement, .rule whileStatement,
      .rule procedureStatement, .rule untilStatement, .rule forStatement]
  | assignment => .seq [.sym .ident, .sym .becomes, .alt [.sym .string, .rule expression]]
  | ifStatement =>
    .seq [.sym .kwIf, .rule condition, .sym .kwThen, .rule statementList,
      .opt (.seq [.sym .kwElse, .rule statementList]), .sym .kwEnd, .sym .kwIf]
  | whileStatement =>
    .seq [.sym .kwWhile, .rule condition, .sym .kwLoop, .rule statementList, .sym .kwEnd,
      .sym .kwLoop]
  | procedureStatement =>
    .seq [.sym .kwCall, .sym .ident, .sym .leftParen, .rule argumentList, .sym .rightParen]
  | untilStatement => .seq [.sym .kwDo, .rule statementList, .sym .kwUntil, .rule condition]
  | forStatement =>
    .seq [.sym .kwFor, .sym .leftParen, .rule assignment, .sym .semicolon, .rule condition,
      .sym .semicolon, .rule assignment, .sym .rightParen, .sym .kwDo, .rule statementList,
      .sym .kwEnd, .sym .kwLoop]
  | argumentList => .seq [.sym .ident, .many (.seq [.sym .comma, .sym .ident])]
  | condition =>
    .seq [.sym .ident, .rule comparison, .oneOf [.ident, .number, .string]]
  | comparison => .oneOf [.greater, .greaterEq, .equal, .notEqual, .less, .lessEq]
  | expression => .seq [.rule term, .many (.seq [.oneOf [.plus, .minus], .rule term])]
  | term => .seq [.rule factor, .many (.seq [.oneOf [.times, .divide], .rule factor])]
  | factor =>
    .alt [.sym .ident, .sym .number, .seq [.sym .leftParen, .rule expression, .sym .rightParen]]

end Rule

/-- **What an expression generates**, each rule standing for its body. -/
inductive Generates : Ebnf → List Symbol → Prop where
  | sym (s : Symbol) : Generates (.sym s) [s]
  | rule {r : Rule} {w : List Symbol} : Generates r.body w → Generates (.rule r) w
  | seqNil : Generates (.seq []) []
  | seqCons {e : Ebnf} {es : List Ebnf} {u v : List Symbol} :
      Generates e u → Generates (.seq es) v → Generates (.seq (e :: es)) (u ++ v)
  | alt {e : Ebnf} {es : List Ebnf} {w : List Symbol} :
      e ∈ es → Generates e w → Generates (.alt es) w
  | optNone {e : Ebnf} : Generates (.opt e) []
  | optSome {e : Ebnf} {w : List Symbol} : Generates e w → Generates (.opt e) w
  | manyNil {e : Ebnf} : Generates (.many e) []
  | manyCons {e : Ebnf} {u v : List Symbol} :
      Generates e u → Generates (.many e) v → Generates (.many e) (u ++ v)

/-- A word of exactly one symbol list, as a language. -/
theorem mem_singleton_language {w v : List Symbol} :
    w ∈ ({v} : Language Symbol) ↔ w = v := Iff.rfl

theorem singleton_le_language {w : List Symbol} {L : Language Symbol} :
    ({w} : Language Symbol) ≤ L ↔ w ∈ L := Set.singleton_subset_iff

/-! Which languages have no word: a product has none when one of its factors has none. -/

@[simp] theorem language_mul_eq_zero {L M : Language Symbol} : L * M = 0 ↔ L = 0 ∨ M = 0 := by
  constructor
  · intro h
    rcases eq_or_ne L 0 with hL | hL
    · exact .inl hL
    rcases eq_or_ne M 0 with hM | hM
    · exact .inr hM
    obtain ⟨u, hu⟩ := Set.nonempty_iff_ne_empty.2 hL
    obtain ⟨v, hv⟩ := Set.nonempty_iff_ne_empty.2 hM
    exact absurd (h ▸ Language.append_mem_mul hu hv) (Language.notMem_zero _)
  · rintro (rfl | rfl)
    · exact zero_mul M
    · exact mul_zero L

@[simp] theorem language_add_eq_zero {L M : Language Symbol} : L + M = 0 ↔ L = 0 ∧ M = 0 := by
  constructor
  · intro h
    exact ⟨le_antisymm (h ▸ le_self_add) (zero_le), le_antisymm (h ▸ le_add_self) (zero_le)⟩
  · rintro ⟨rfl, rfl⟩
    exact add_zero 0

@[simp] theorem singleton_ne_zero (w : List Symbol) : ({w} : Language Symbol) ≠ 0 :=
  Set.singleton_ne_empty w

@[simp] theorem one_ne_zero_language : (1 : Language Symbol) ≠ 0 :=
  singleton_ne_zero []

namespace Ebnf

/-- **The language of an expression**: the words it generates. -/
def lang (e : Ebnf) : Language Symbol := {w | Generates e w}

@[simp] theorem lang_sym (s : Symbol) : (sym s).lang = {[s]} := by
  ext w
  constructor
  · rintro ⟨⟩
    rfl
  · rintro rfl
    exact .sym s

@[simp] theorem lang_seq_nil : (seq []).lang = 1 := by
  ext w
  constructor
  · rintro ⟨⟩
    rfl
  · rintro rfl
    exact .seqNil

@[simp] theorem lang_seq_cons (e : Ebnf) (es : List Ebnf) :
    (seq (e :: es)).lang = e.lang * (seq es).lang := by
  ext w
  rw [Language.mem_mul]
  constructor
  · intro h
    cases h with
    | seqCons hu hv => exact ⟨_, hu, _, hv, rfl⟩
  · rintro ⟨u, hu, v, hv, rfl⟩
    exact .seqCons hu hv

@[simp] theorem lang_alt_nil : (alt []).lang = 0 := by
  ext w
  constructor
  · rintro ⟨⟩
    contradiction
  · intro h
    exact absurd h (Language.notMem_zero w)

@[simp] theorem lang_alt_cons (e : Ebnf) (es : List Ebnf) :
    (alt (e :: es)).lang = e.lang + (alt es).lang := by
  ext w
  rw [Language.mem_add]
  constructor
  · intro h
    cases h with
    | alt he hw =>
      rcases List.mem_cons.1 he with rfl | he
      · exact .inl hw
      · exact .inr (.alt he hw)
  · rintro (hw | hw)
    · exact .alt List.mem_cons_self hw
    · cases hw with
      | alt he hw => exact .alt (List.mem_cons_of_mem _ he) hw

@[simp] theorem lang_opt (e : Ebnf) : (opt e).lang = 1 + e.lang := by
  ext w
  rw [Language.mem_add, Language.mem_one]
  constructor
  · intro h
    cases h with
    | optNone => exact .inl rfl
    | optSome hw => exact .inr hw
  · rintro (rfl | hw)
    · exact .optNone
    · exact .optSome hw

/-- **A repetition is nothing, or one more item before a repetition.** -/
theorem lang_many (e : Ebnf) : (many e).lang = 1 + e.lang * (many e).lang := by
  ext w
  rw [Language.mem_add, Language.mem_one, Language.mem_mul]
  constructor
  · intro h
    cases h with
    | manyNil => exact .inl rfl
    | manyCons hu hv => exact .inr ⟨_, hu, _, hv, rfl⟩
  · rintro (rfl | ⟨u, hu, v, hv, rfl⟩)
    · exact .manyNil
    · exact .manyCons hu hv

theorem one_le_lang_many (e : Ebnf) : 1 ≤ (many e).lang := by
  rw [lang_many]
  exact le_self_add

theorem nil_mem_lang_many (e : Ebnf) : [] ∈ (many e).lang :=
  one_le_lang_many e (Language.nil_mem_one)

@[simp] theorem lang_many_ne_zero (e : Ebnf) : (many e).lang ≠ 0 := by
  intro h
  exact Language.notMem_zero [] (h ▸ nil_mem_lang_many e)

/-- One more item of a repetition of pairs, read as its two parts. -/
theorem mul_mul_lang_many_le (e₁ e₂ : Ebnf) :
    e₁.lang * (e₂.lang * (many (seq [e₁, e₂])).lang) ≤ (many (seq [e₁, e₂])).lang := by
  have h : (seq [e₁, e₂]).lang * (many (seq [e₁, e₂])).lang ≤ (many (seq [e₁, e₂])).lang := by
    conv_rhs => rw [lang_many]
    exact le_add_self
  simp only [lang_seq_cons, lang_seq_nil, mul_one] at h
  rwa [mul_assoc] at h

/-- The words of a choice of symbols are those symbols. -/
theorem mem_lang_oneOf {xs : List Symbol} {w : List Symbol} :
    w ∈ (oneOf xs).lang ↔ ∃ x ∈ xs, w = [x] := by
  induction xs with
  | nil =>
    rw [oneOf, List.map_nil, lang_alt_nil]
    simp [Language.notMem_zero]
  | cons x xs ih =>
    have h : (oneOf (x :: xs)).lang = {[x]} + (oneOf xs).lang := by
      rw [oneOf, List.map_cons, lang_alt_cons, lang_sym]
      rfl
    rw [h, Language.mem_add, mem_singleton_language, ih]
    simp

@[simp] theorem lang_oneOf_ne_zero {xs : List Symbol} (h : xs ≠ []) : (oneOf xs).lang ≠ 0 := by
  obtain ⟨x, xs, rfl⟩ := List.exists_cons_of_ne_nil h
  intro h0
  exact Language.notMem_zero [x] (h0 ▸ mem_lang_oneOf.2 ⟨x, List.mem_cons_self, rfl⟩)

/-- A sequence of one part reads as that part. -/
@[simp] theorem lang_seq_singleton (e : Ebnf) : (seq [e]).lang = e.lang := by
  rw [lang_seq_cons, lang_seq_nil, mul_one]

/-- **The words of a choice are the words of its choices.** -/
theorem mem_lang_alt {es : List Ebnf} {w : List Symbol} :
    w ∈ (alt es).lang ↔ ∃ e ∈ es, w ∈ e.lang := by
  constructor
  · intro h
    cases h with
    | alt he hw => exact ⟨_, he, hw⟩
  · rintro ⟨e, he, hw⟩
    exact .alt he hw

theorem le_lang_alt {e : Ebnf} {es : List Ebnf} (he : e ∈ es) : e.lang ≤ (alt es).lang :=
  fun _ hw => mem_lang_alt.2 ⟨e, he, hw⟩

end Ebnf

namespace Rule

/-- **The language of a rule**: the words its body generates. -/
def lang (r : Rule) : Language Symbol := (Ebnf.rule r).lang

/-- A rule generates what its body generates. -/
theorem lang_eq_body (r : Rule) : r.lang = r.body.lang := by
  ext w
  constructor
  · rintro ⟨⟩
    assumption
  · exact .rule

end Rule

@[simp] theorem Ebnf.lang_rule (r : Rule) : (Ebnf.rule r).lang = r.lang := rfl

/-- **Sentences**: a statement part, then the end of input. -/
def sentences : Language Symbol := Rule.statementPart.lang * {[.eof]}

/-- **A viable word**: one that some sentence starts with. -/
def Viable (w : List Symbol) : Prop := ∃ s, w ++ s ∈ sentences

/-! ## The end of input is in no word of a rule

No rule body names the end of input, so no word of a rule contains it: a sentence holds it
once, at its end, and a viable word can hold it only as its last symbol. -/

mutual
/-- **Whether an expression names the symbol `x`** itself, not through the rules it uses. -/
def Ebnf.names (x : Symbol) : Ebnf → Bool
  | .sym s => s == x
  | .rule _ => false
  | .seq es => Ebnf.namesSome x es
  | .alt es => Ebnf.namesSome x es
  | .opt e => e.names x
  | .many e => e.names x

/-- Whether one of the expressions names `x`. -/
def Ebnf.namesSome (x : Symbol) : List Ebnf → Bool
  | [] => false
  | e :: es => e.names x || Ebnf.namesSome x es
end

theorem Ebnf.names_of_mem {x : Symbol} {e : Ebnf} {es : List Ebnf} (he : e ∈ es)
    (h : Ebnf.namesSome x es = false) : e.names x = false := by
  induction es with
  | nil => cases he
  | cons e' es ih =>
    simp only [Ebnf.namesSome, Bool.or_eq_false_iff] at h
    rcases List.mem_cons.1 he with rfl | he
    · exact h.1
    · exact ih he h.2

/-- **A symbol that no rule body names is in no word** of an expression that does not name
it either. -/
theorem Generates.not_mem {x : Symbol} (hr : ∀ r : Rule, r.body.names x = false) {e : Ebnf}
    {w : List Symbol} (h : Generates e w) (he : e.names x = false) : x ∉ w := by
  induction h with
  | sym s =>
    simp only [Ebnf.names, beq_eq_false_iff_ne] at he
    simpa using Ne.symm he
  | rule _ ih => exact ih (hr _)
  | seqNil => simp
  | seqCons _ _ ih₁ ih₂ =>
    simp only [Ebnf.names, Ebnf.namesSome, Bool.or_eq_false_iff] at he
    exact List.not_mem_append (ih₁ he.1) (ih₂ he.2)
  | alt hmem _ ih => exact ih (Ebnf.names_of_mem hmem he)
  | optNone => simp
  | optSome _ ih => exact ih he
  | manyNil => simp
  | manyCons _ _ ih₁ ih₂ => exact List.not_mem_append (ih₁ he) (ih₂ he)

theorem Rule.body_names_eof (r : Rule) : r.body.names .eof = false := by
  cases r <;> rfl

/-- **No word of a rule contains the end of input.** -/
theorem Rule.eof_not_mem {r : Rule} {w : List Symbol} (hw : w ∈ r.lang) : Symbol.eof ∉ w :=
  Generates.not_mem Rule.body_names_eof hw rfl

theorem mem_sentences {w : List Symbol} :
    w ∈ sentences ↔ ∃ u ∈ Rule.statementPart.lang, w = u ++ [.eof] := by
  unfold sentences
  rw [Language.mem_mul]
  constructor
  · rintro ⟨u, hu, v, rfl, rfl⟩
    exact ⟨u, hu, rfl⟩
  · rintro ⟨u, hu, rfl⟩
    exact ⟨u, hu, [.eof], rfl, rfl⟩

/-- A word of the statement part, or the start of one, is viable. -/
theorem viable_of_mem {w v : List Symbol} (h : w ++ v ∈ Rule.statementPart.lang) :
    Viable w :=
  ⟨v ++ [.eof], mem_sentences.2 ⟨w ++ v, h, (List.append_assoc _ _ _).symm⟩⟩

theorem Viable.of_mem {w : List Symbol} (h : w ∈ sentences) : Viable w :=
  ⟨[], by rwa [List.append_nil]⟩

/-- **A viable word holds the end of input at most as its last symbol.** -/
theorem Viable.eof_not_mem_dropLast {w : List Symbol} (h : Viable w) :
    Symbol.eof ∉ w.dropLast := by
  obtain ⟨s, hs⟩ := h
  obtain ⟨u, hu, hus⟩ := mem_sentences.1 hs
  have hw : w <+: u ++ [.eof] := hus ▸ List.prefix_append w s
  have hlen : w.dropLast.length ≤ u.length := by
    have := hw.length_le
    simp only [List.length_append, List.length_singleton] at this
    simp only [List.length_dropLast]
    omega
  have hp : w.dropLast <+: u :=
    List.prefix_of_prefix_length_le ((List.dropLast_prefix w).trans hw)
      (List.prefix_append u _) hlen
  exact fun hmem => Rule.eof_not_mem hu (hp.subset hmem)

/-! ## First symbols

A word `u` followed by a symbol `y` starts with `u.headD y`: its own first symbol, or `y`
when it is empty. Choosing by the lookahead is sound when the words of the other choices,
followed by what may come after them, start otherwise. -/

/-- **Every word of `L` starts with a symbol of `X`.** -/
def StartsIn (L : Language Symbol) (X : List Symbol) : Prop :=
  ∀ u ∈ L, ∃ x u', u = x :: u' ∧ x ∈ X

/-- **A word of `L` followed by a symbol of `S` starts with a symbol of `S'`.** -/
def Leads (L : Language Symbol) (S S' : List Symbol) : Prop :=
  ∀ u ∈ L, ∀ y ∈ S, u.headD y ∈ S'

/-- **No word of `L` followed by a symbol of `S` starts with `x`.** -/
def Avoids (L : Language Symbol) (S : List Symbol) (x : Symbol) : Prop :=
  ∀ u ∈ L, ∀ y ∈ S, u.headD y ≠ x

/-- **On lookahead `x`, a word of `L'` is a word of `L`**: every word of `L'` that,
followed by a symbol of `S`, starts with `x`. -/
def Picks (L L' : Language Symbol) (S : List Symbol) (x : Symbol) : Prop :=
  ∀ u ∈ L', ∀ y ∈ S, u.headD y = x → u ∈ L

theorem headD_append (u v : List Symbol) (y : Symbol) :
    (u ++ v).headD y = u.headD (v.headD y) := by
  cases u <;> rfl

namespace Symbol

theorem mem_all (s : Symbol) : s ∈ all := by
  cases s <;> decide

/-! The tests of the checker's choices, as the lists of the grammar's choices. -/

theorem isAdding_iff {s : Symbol} : s.isAdding = true ↔ s ∈ [plus, minus] := by
  cases s <;> decide

theorem isMultiplying_iff {s : Symbol} : s.isMultiplying = true ↔ s ∈ [times, divide] := by
  cases s <;> decide

theorem isComparison_iff {s : Symbol} :
    s.isComparison = true ↔ s ∈ [greater, greaterEq, equal, notEqual, less, lessEq] := by
  cases s <;> decide

theorem isOperand_iff {s : Symbol} : s.isOperand = true ↔ s ∈ [ident, number, string] := by
  cases s <;> decide

end Symbol

variable {L M N : Language Symbol} {S S' S₂ X Y : List Symbol} {x : Symbol}

namespace StartsIn

theorem singleton (s : Symbol) : StartsIn {[s]} [s] := by
  intro u hu
  rw [mem_singleton_language] at hu
  exact ⟨s, [], hu, List.mem_singleton_self s⟩

theorem sym (s : Symbol) : StartsIn (Ebnf.sym s).lang [s] := by
  rw [Ebnf.lang_sym]
  exact singleton s

theorem oneOf (xs : List Symbol) : StartsIn (Ebnf.oneOf xs).lang xs := by
  intro u hu
  obtain ⟨x, hx, rfl⟩ := Ebnf.mem_lang_oneOf.1 hu
  exact ⟨x, [], rfl, hx⟩

theorem mul (h : StartsIn L X) (M : Language Symbol) : StartsIn (L * M) X := by
  intro w hw
  obtain ⟨u, hu, v, -, rfl⟩ := Language.mem_mul.1 hw
  obtain ⟨x, u', rfl, hx⟩ := h u hu
  exact ⟨x, u' ++ v, rfl, hx⟩

theorem add (hL : StartsIn L X) (hM : StartsIn M X) : StartsIn (L + M) X := by
  intro u hu
  rcases (Language.mem_add _ _ _).1 hu with hu | hu
  · exact hL u hu
  · exact hM u hu

theorem mono (h : StartsIn L X) (hXY : X ⊆ Y) : StartsIn L Y := by
  intro u hu
  obtain ⟨x, u', rfl, hx⟩ := h u hu
  exact ⟨x, u', rfl, hXY hx⟩

theorem leads (h : StartsIn L X) (hX : X ⊆ S') : Leads L S S' := by
  intro u hu y _
  obtain ⟨x, u', rfl, hx⟩ := h u hu
  exact hX hx

theorem avoids (h : StartsIn L X) (hx : x ∉ X) : Avoids L S x := by
  intro u hu y _ hxu
  obtain ⟨z, u', rfl, hz⟩ := h u hu
  exact hx (hxu ▸ hz)

/-- **The words of a repetition start as the words of its item do**, or are empty. -/
theorem mem_many {e : Ebnf} (he : StartsIn e.lang X) {w : List Symbol}
    (hw : w ∈ (Ebnf.many e).lang) : w = [] ∨ ∃ x w', w = x :: w' ∧ x ∈ X := by
  rw [Ebnf.lang_many, Language.mem_add, Language.mem_one, Language.mem_mul] at hw
  rcases hw with rfl | ⟨u, hu, v, -, rfl⟩
  · exact .inl rfl
  · obtain ⟨x, u', rfl, hx⟩ := he u hu
    exact .inr ⟨x, u' ++ v, rfl, hx⟩

/-- The items of a repetition of pairs start as the first part of the pair does. -/
theorem pair {e₁ : Ebnf} (h : StartsIn e₁.lang X) (e₂ : Ebnf) :
    StartsIn (Ebnf.seq [e₁, e₂]).lang X := by
  rw [Ebnf.lang_seq_cons]
  exact h.mul _

/-- A sequence starts as its first part does. -/
theorem seq_cons {e : Ebnf} (h : StartsIn e.lang X) (es : List Ebnf) :
    StartsIn (Ebnf.seq (e :: es)).lang X := by
  rw [Ebnf.lang_seq_cons]
  exact h.mul _

end StartsIn

namespace Leads

theorem all (L : Language Symbol) (S : List Symbol) : Leads L S Symbol.all :=
  fun _ _ _ _ => Symbol.mem_all _

theorem one (h : S ⊆ S') : Leads 1 S S' := by
  intro u hu y hy
  rw [Language.mem_one] at hu
  subst hu
  exact h hy

theorem singleton {s : Symbol} (h : s ∈ S') : Leads {[s]} S S' :=
  (StartsIn.singleton s).leads (List.cons_subset.2 ⟨h, List.nil_subset _⟩)

/-- A word of `{[s]} * M` starts with `s`. -/
theorem singleton_mul {s : Symbol} (h : s ∈ S') (M : Language Symbol) :
    Leads ({[s]} * M) S S' :=
  ((StartsIn.singleton s).mul M).leads (List.cons_subset.2 ⟨h, List.nil_subset _⟩)

/-- What follows `L * M` is what follows `M`, and what follows `L` is what `M` starts with. -/
theorem mul (hM : Leads M S S₂) (hL : Leads L S₂ S') : Leads (L * M) S S' := by
  intro w hw y hy
  obtain ⟨u, hu, v, hv, rfl⟩ := Language.mem_mul.1 hw
  rw [headD_append]
  exact hL u hu _ (hM v hv y hy)

theorem add (hL : Leads L S S') (hM : Leads M S S') : Leads (L + M) S S' := by
  intro u hu
  rcases (Language.mem_add _ _ _).1 hu with hu | hu
  · exact hL u hu
  · exact hM u hu

theorem many {e : Ebnf} (he : StartsIn e.lang X) (hX : X ⊆ S') (hS : S ⊆ S') :
    Leads (Ebnf.many e).lang S S' := by
  intro w hw y hy
  rcases he.mem_many hw with rfl | ⟨x, w', rfl, hx⟩
  · exact hS hy
  · exact hX hx

/-- A sequence whose first part is the symbol `s` starts with `s`. -/
theorem seq_sym {s : Symbol} (h : s ∈ S') (es : List Ebnf) :
    Leads (Ebnf.seq (.sym s :: es)).lang S S' :=
  ((StartsIn.sym s).seq_cons es).leads (List.cons_subset.2 ⟨h, List.nil_subset _⟩)

end Leads

theorem Avoids.one (hx : x ∉ S) : Avoids 1 S x := by
  intro u hu y hy hux
  rw [Language.mem_one] at hu
  subst hu
  exact hx (hux ▸ hy)

theorem Avoids.add (hL : Avoids L S x) (hM : Avoids M S x) : Avoids (L + M) S x := by
  intro u hu
  rcases (Language.mem_add _ _ _).1 hu with hu | hu
  · exact hL u hu
  · exact hM u hu

namespace Picks

theorem trans (h₁ : Picks L M S x) (h₂ : Picks M N S x) : Picks L N S x :=
  fun u hu y hy hux => h₁ u (h₂ u hu y hy hux) y hy hux

theorem add_left (h : Avoids M S x) : Picks L (L + M) S x := by
  intro u hu y hy hux
  rcases (Language.mem_add _ _ _).1 hu with hu | hu
  · exact hu
  · exact absurd hux (h u hu y hy)

theorem add_right (h : Avoids L S x) : Picks M (L + M) S x := by
  intro u hu y hy hux
  rcases (Language.mem_add _ _ _).1 hu with hu | hu
  · exact absurd hux (h u hu y hy)
  · exact hu

/-- On a symbol of a choice of symbols, the choice reads that symbol. -/
theorem oneOf (xs : List Symbol) : Picks {[x]} (Ebnf.oneOf xs).lang S x := by
  intro u hu y _ hux
  obtain ⟨z, -, rfl⟩ := Ebnf.mem_lang_oneOf.1 hu
  rw [List.headD_cons] at hux
  rw [hux]
  rfl

/-- **A repetition goes on** on a lookahead that cannot follow it. -/
theorem many_pair (e₁ e₂ : Ebnf) (hx : x ∉ S) :
    Picks (e₁.lang * (e₂.lang * (Ebnf.many (.seq [e₁, e₂])).lang))
      (Ebnf.many (.seq [e₁, e₂])).lang S x := by
  intro u hu y hy hux
  rw [Ebnf.lang_many, Language.mem_add, Language.mem_one] at hu
  rcases hu with rfl | hu
  · exact absurd (hux ▸ hy) hx
  · simpa only [Ebnf.lang_seq_cons, Ebnf.lang_seq_nil, mul_one, mul_assoc] using hu

/-- **A repetition stops** on a lookahead that cannot start an item. -/
theorem many_stop {e : Ebnf} (he : StartsIn e.lang X) (hx : x ∉ X) :
    Picks 1 (Ebnf.many e).lang S x := by
  intro u hu y _ hux
  rcases he.mem_many hu with rfl | ⟨z, u', rfl, hz⟩
  · exact Language.nil_mem_one
  · exact absurd (hux ▸ hz) hx

/-- **A choice reads the choice the lookahead starts**, when no other choice can start
with it. -/
theorem alt {e : Ebnf} {es : List Ebnf}
    (hothers : ∀ e' ∈ es, e' ≠ e → Avoids e'.lang S x) : Picks e.lang (Ebnf.alt es).lang S x := by
  intro u hu y hy hux
  obtain ⟨e', he', hu'⟩ := Ebnf.mem_lang_alt.1 hu
  by_cases h : e' = e
  · exact h ▸ hu'
  · exact absurd hux (hothers e' he' h u hu' y hy)

end Picks

namespace Rule

open Ebnf

/-! ## The first symbols of the rules -/

/-- **The symbols the words of a rule start with.** -/
def first : Rule → List Symbol
  | statementPart => [.kwBegin]
  | statementList | statement => [.ident, .kwIf, .kwWhile, .kwCall, .kwDo, .kwFor]
  | assignment | argumentList | condition => [.ident]
  | ifStatement => [.kwIf]
  | whileStatement => [.kwWhile]
  | procedureStatement => [.kwCall]
  | untilStatement => [.kwDo]
  | forStatement => [.kwFor]
  | comparison => [.greater, .greaterEq, .equal, .notEqual, .less, .lessEq]
  | expression | term | factor => [.ident, .number, .leftParen]

/-- The kinds of statement, in the order of the grammar. -/
def statements : List Rule :=
  [assignment, ifStatement, whileStatement, procedureStatement, untilStatement, forStatement]

theorem startsIn_seq_sym (s : Symbol) (es : List Ebnf) :
    StartsIn (seq (sym s :: es)).lang [s] := by
  rw [lang_seq_cons, lang_sym]
  exact (StartsIn.singleton s).mul _

theorem startsIn_factor : StartsIn factor.lang factor.first := by
  rw [lang_eq_body, body]
  simp only [lang_alt_cons, lang_alt_nil, add_zero, lang_sym]
  refine ((StartsIn.singleton _).mono ?_).add (((StartsIn.singleton _).mono ?_).add
    ((startsIn_seq_sym _ _).mono ?_)) <;> simp [first]

theorem startsIn_term : StartsIn term.lang term.first := by
  rw [lang_eq_body, body, lang_seq_cons, lang_rule]
  exact startsIn_factor.mul _

theorem startsIn_expression : StartsIn expression.lang expression.first := by
  rw [lang_eq_body, body, lang_seq_cons, lang_rule]
  exact startsIn_term.mul _

/-- A factor is an identifier, a number, or an expression in parentheses. -/
theorem lang_factor : factor.lang =
    {[.ident]} + ({[.number]} + {[.leftParen]} * (expression.lang * {[.rightParen]})) := by
  rw [lang_eq_body, body]
  simp only [lang_alt_cons, lang_alt_nil, add_zero, lang_sym, lang_seq_cons, lang_seq_nil,
    mul_one, lang_rule]

/-- A kind of statement starts with its own symbol: an identifier or its keyword. -/
theorem startsIn_statements {r : Rule} (hr : r ∈ statements) : StartsIn r.lang r.first := by
  simp only [statements, List.mem_cons, List.not_mem_nil, or_false] at hr
  rcases hr with rfl | rfl | rfl | rfl | rfl | rfl <;>
    exact lang_eq_body _ ▸ startsIn_seq_sym _ _

/-- **The words of a statement are the words of its kinds.** -/
theorem mem_statement_iff {u : List Symbol} :
    u ∈ statement.lang ↔ ∃ r ∈ statements, u ∈ r.lang := by
  rw [lang_eq_body, body]
  simp [Language.mem_add, statements]

theorem startsIn_statement : StartsIn statement.lang statement.first := by
  intro u hu
  obtain ⟨r, hr, hu⟩ := mem_statement_iff.1 hu
  obtain ⟨x, u', rfl, hx⟩ := startsIn_statements hr u hu
  refine ⟨x, u', rfl, ?_⟩
  simp only [statements, List.mem_cons, List.not_mem_nil, or_false] at hr
  rcases hr with rfl | rfl | rfl | rfl | rfl | rfl <;> simp_all [first]

/-- **Every word of a rule starts with one of its first symbols.** -/
theorem startsIn_first (r : Rule) : StartsIn r.lang r.first := by
  cases r with
  | statementPart => exact lang_eq_body _ ▸ startsIn_seq_sym _ _
  | statementList =>
    rw [lang_eq_body, body, lang_seq_cons, lang_rule]
    exact startsIn_statement.mul _
  | statement => exact startsIn_statement
  | assignment | ifStatement | whileStatement | procedureStatement | untilStatement
  | forStatement => exact startsIn_statements (by simp [statements])
  | argumentList | condition => exact lang_eq_body _ ▸ startsIn_seq_sym _ _
  | comparison =>
    rw [lang_eq_body]
    exact StartsIn.oneOf _
  | expression => exact startsIn_expression
  | term => exact startsIn_term
  | factor => exact startsIn_factor

/-- The kinds of statement start with different symbols. -/
theorem eq_of_mem_first_statements {r r' : Rule} (hr : r ∈ statements) (hr' : r' ∈ statements)
    {x : Symbol} (hx : x ∈ r.first) (hx' : x ∈ r'.first) : r = r' := by
  simp only [statements, List.mem_cons, List.not_mem_nil, or_false] at hr hr'
  rcases hr with rfl | rfl | rfl | rfl | rfl | rfl <;>
    rcases hr' with rfl | rfl | rfl | rfl | rfl | rfl <;> simp_all [first]

theorem le_statement {r : Rule} (hr : r ∈ statements) : r.lang ≤ statement.lang :=
  fun _ hu => mem_statement_iff.2 ⟨r, hr, hu⟩

/-! ## What may follow a rule -/

/-- **The symbols that may follow a rule** in a sentence. A statement list ends before the
`end`, `else` or `until` that closes it; a statement, before a semicolon too; an assignment
and an expression, also before the parenthesis that closes the head of a `for`. -/
def follow : Rule → List Symbol
  | statementPart => [.eof]
  | statementList => [.kwEnd, .kwElse, .kwUntil]
  | statement | ifStatement | whileStatement | procedureStatement | untilStatement
  | forStatement => [.semicolon, .kwEnd, .kwElse, .kwUntil]
  | assignment | expression => [.semicolon, .kwEnd, .kwElse, .kwUntil, .rightParen]
  | argumentList => [.rightParen]
  | condition => [.kwThen, .kwLoop, .semicolon, .kwEnd, .kwElse, .kwUntil]
  | comparison => [.ident, .number, .string]
  | term => [.plus, .minus, .semicolon, .kwEnd, .kwElse, .kwUntil, .rightParen]
  | factor =>
    [.times, .divide, .plus, .minus, .semicolon, .kwEnd, .kwElse, .kwUntil, .rightParen]

/-! ## Every rule generates a word

The words below are the shortest programs of each kind: `x := y` for a statement, `x > y`
for a condition. -/

theorem mem_word (w : List Symbol) : w ∈ ({w} : Language Symbol) := rfl

theorem mem_factor : [Symbol.ident] ∈ factor.lang := by
  rw [lang_eq_body]
  simp [body, Language.mem_add, mem_singleton_language]

theorem mem_term : [Symbol.ident] ∈ term.lang := by
  rw [lang_eq_body]
  simp only [body, lang_seq_cons, lang_seq_nil, mul_one, lang_rule]
  exact Language.append_mem_mul mem_factor (nil_mem_lang_many _)

theorem mem_expression : [Symbol.ident] ∈ expression.lang := by
  rw [lang_eq_body]
  simp only [body, lang_seq_cons, lang_seq_nil, mul_one, lang_rule]
  exact Language.append_mem_mul mem_term (nil_mem_lang_many _)

theorem mem_assignment : [Symbol.ident, .becomes, .ident] ∈ assignment.lang := by
  rw [lang_eq_body]
  simp only [body, lang_seq_cons, lang_seq_nil, mul_one, lang_sym, lang_alt_cons,
    lang_alt_nil, add_zero, lang_rule]
  exact Language.append_mem_mul (mem_word _) (Language.append_mem_mul (mem_word _)
    ((Language.mem_add _ _ _).2 (.inr mem_expression)))

theorem mem_statement : [Symbol.ident, .becomes, .ident] ∈ statement.lang :=
  le_statement (by simp [statements]) mem_assignment

theorem mem_statementList : [Symbol.ident, .becomes, .ident] ∈ statementList.lang := by
  rw [lang_eq_body]
  simp only [body, lang_seq_cons, lang_seq_nil, mul_one, lang_rule]
  exact Language.append_mem_mul mem_statement (nil_mem_lang_many _)

theorem mem_comparison : [Symbol.greater] ∈ comparison.lang := by
  rw [lang_eq_body]
  exact mem_lang_oneOf.2 ⟨_, List.mem_cons_self, rfl⟩

theorem mem_condition : [Symbol.ident, .greater, .ident] ∈ condition.lang := by
  rw [lang_eq_body]
  simp only [body, lang_seq_cons, lang_seq_nil, mul_one, lang_sym, lang_rule]
  exact Language.append_mem_mul (mem_word _) (Language.append_mem_mul mem_comparison
    (mem_lang_oneOf.2 ⟨_, List.mem_cons_self, rfl⟩))

theorem mem_argumentList : [Symbol.ident] ∈ argumentList.lang := by
  rw [lang_eq_body]
  simp only [body, lang_seq_cons, lang_seq_nil, mul_one, lang_sym]
  exact Language.append_mem_mul (mem_word _) (nil_mem_lang_many _)

/-- `begin x := y end` -/
theorem mem_statementPart :
    [Symbol.kwBegin, .ident, .becomes, .ident, .kwEnd] ∈ statementPart.lang := by
  rw [lang_eq_body]
  simp only [body, lang_seq_cons, lang_seq_nil, mul_one, lang_sym, lang_rule]
  exact Language.append_mem_mul (mem_word _)
    (Language.append_mem_mul mem_statementList (mem_word _))

/-- `if x > y then x := y end if` -/
theorem mem_ifStatement :
    [Symbol.kwIf, .ident, .greater, .ident, .kwThen, .ident, .becomes, .ident, .kwEnd, .kwIf] ∈
      ifStatement.lang := by
  rw [lang_eq_body]
  simp only [body, lang_seq_cons, lang_seq_nil, mul_one, lang_sym, lang_rule, lang_opt]
  refine Language.append_mem_mul (mem_word _) (Language.append_mem_mul mem_condition
    (Language.append_mem_mul (mem_word _) (Language.append_mem_mul mem_statementList ?_)))
  exact Language.append_mem_mul ((Language.mem_add _ _ _).2 (.inl Language.nil_mem_one))
    (Language.append_mem_mul (mem_word [Symbol.kwEnd]) (mem_word _))

/-- `while x > y loop x := y end loop` -/
theorem mem_whileStatement :
    [Symbol.kwWhile, .ident, .greater, .ident, .kwLoop, .ident, .becomes, .ident, .kwEnd,
      .kwLoop] ∈ whileStatement.lang := by
  rw [lang_eq_body]
  simp only [body, lang_seq_cons, lang_seq_nil, mul_one, lang_sym, lang_rule]
  exact Language.append_mem_mul (mem_word _) (Language.append_mem_mul mem_condition
    (Language.append_mem_mul (mem_word _) (Language.append_mem_mul mem_statementList
      (Language.append_mem_mul (mem_word [Symbol.kwEnd]) (mem_word _)))))

/-- `call p(x)` -/
theorem mem_procedureStatement :
    [Symbol.kwCall, .ident, .leftParen, .ident, .rightParen] ∈ procedureStatement.lang := by
  rw [lang_eq_body]
  simp only [body, lang_seq_cons, lang_seq_nil, mul_one, lang_sym, lang_rule]
  exact Language.append_mem_mul (mem_word _) (Language.append_mem_mul (mem_word _)
    (Language.append_mem_mul (mem_word _)
      (Language.append_mem_mul mem_argumentList (mem_word _))))

/-- `do x := y until x > y` -/
theorem mem_untilStatement :
    [Symbol.kwDo, .ident, .becomes, .ident, .kwUntil, .ident, .greater, .ident] ∈
      untilStatement.lang := by
  rw [lang_eq_body]
  simp only [body, lang_seq_cons, lang_seq_nil, mul_one, lang_sym, lang_rule]
  exact Language.append_mem_mul (mem_word _) (Language.append_mem_mul mem_statementList
    (Language.append_mem_mul (mem_word _) mem_condition))

/-- `for (x := y; x > y; x := y) do x := y end loop` -/
theorem mem_forStatement :
    [Symbol.kwFor, .leftParen, .ident, .becomes, .ident, .semicolon, .ident, .greater, .ident,
      .semicolon, .ident, .becomes, .ident, .rightParen, .kwDo, .ident, .becomes, .ident,
      .kwEnd, .kwLoop] ∈ forStatement.lang := by
  rw [lang_eq_body]
  simp only [body, lang_seq_cons, lang_seq_nil, mul_one, lang_sym, lang_rule]
  refine Language.append_mem_mul (mem_word _) (Language.append_mem_mul (mem_word _)
    (Language.append_mem_mul mem_assignment (Language.append_mem_mul (mem_word _)
      (Language.append_mem_mul mem_condition (Language.append_mem_mul (mem_word _) ?_)))))
  exact Language.append_mem_mul mem_assignment (Language.append_mem_mul (mem_word _)
    (Language.append_mem_mul (mem_word _) (Language.append_mem_mul mem_statementList
      (Language.append_mem_mul (mem_word [Symbol.kwEnd]) (mem_word _)))))

/-- **Every rule generates some word.** -/
@[simp] theorem lang_ne_zero (r : Rule) : r.lang ≠ 0 := by
  suffices h : ∃ w, w ∈ r.lang by
    obtain ⟨w, hw⟩ := h
    intro h0
    rw [h0] at hw
    exact Language.notMem_zero w hw
  cases r with
  | statementPart => exact ⟨_, mem_statementPart⟩
  | statementList => exact ⟨_, mem_statementList⟩
  | statement => exact ⟨_, mem_statement⟩
  | assignment => exact ⟨_, mem_assignment⟩
  | ifStatement => exact ⟨_, mem_ifStatement⟩
  | whileStatement => exact ⟨_, mem_whileStatement⟩
  | procedureStatement => exact ⟨_, mem_procedureStatement⟩
  | untilStatement => exact ⟨_, mem_untilStatement⟩
  | forStatement => exact ⟨_, mem_forStatement⟩
  | argumentList => exact ⟨_, mem_argumentList⟩
  | condition => exact ⟨_, mem_condition⟩
  | comparison => exact ⟨_, mem_comparison⟩
  | expression => exact ⟨_, mem_expression⟩
  | term => exact ⟨_, mem_term⟩
  | factor => exact ⟨_, mem_factor⟩

/-! ## The first symbols are exact -/

/-- A list rule starts with its first item: any word of the item is a word of the list. -/
theorem mem_seq_many {e₁ e₂ : Ebnf} {w : List Symbol} (h : w ∈ e₁.lang) :
    w ∈ (seq [e₁, .many e₂]).lang := by
  simp only [lang_seq_cons, lang_seq_nil, mul_one]
  simpa using Language.append_mem_mul h (nil_mem_lang_many e₂)

theorem first_starts_factor {x : Symbol} (hx : x ∈ factor.first) :
    ∃ v, x :: v ∈ factor.lang := by
  simp only [first, List.mem_cons, List.not_mem_nil, or_false] at hx
  rw [lang_factor]
  simp only [Language.mem_add]
  rcases hx with rfl | rfl | rfl
  · exact ⟨[], .inl rfl⟩
  · exact ⟨[], .inr (.inl rfl)⟩
  · exact ⟨[.ident, .rightParen], .inr (.inr (Language.append_mem_mul (mem_word _)
      (Language.append_mem_mul mem_expression (mem_word _))))⟩

theorem first_starts_statement {x : Symbol} (hx : x ∈ statement.first) :
    ∃ v, x :: v ∈ statement.lang := by
  simp only [first, List.mem_cons, List.not_mem_nil, or_false] at hx
  -- each kind of statement has a word, and it starts with the kind's own symbol
  have kind : ∀ r ∈ statements, ∀ w, w ∈ r.lang → w ∈ statement.lang := fun r hr _ hw =>
    le_statement hr hw
  rcases hx with rfl | rfl | rfl | rfl | rfl | rfl
  · exact ⟨_, mem_statement⟩
  · exact ⟨_, kind _ (by decide) _ mem_ifStatement⟩
  · exact ⟨_, kind _ (by decide) _ mem_whileStatement⟩
  · exact ⟨_, kind _ (by decide) _ mem_procedureStatement⟩
  · exact ⟨_, kind _ (by decide) _ mem_untilStatement⟩
  · exact ⟨_, kind _ (by decide) _ mem_forStatement⟩

/-- **Every first symbol of a rule starts one of its words**: the first symbols of a rule
are exactly the symbols its words start with. -/
theorem first_starts (r : Rule) {x : Symbol} (hx : x ∈ r.first) : ∃ v, x :: v ∈ r.lang := by
  -- a rule that starts with another rule starts as that one does
  have through : ∀ {r' : Rule}, (∃ v, x :: v ∈ r'.lang) → r'.lang ≤ r.lang →
      ∃ v, x :: v ∈ r.lang := fun ⟨v, hv⟩ hle => ⟨v, hle hv⟩
  have term_le : factor.lang ≤ term.lang := fun w hw => by
    rw [lang_eq_body]
    exact mem_seq_many hw
  have expression_le : term.lang ≤ expression.lang := fun w hw => by
    rw [lang_eq_body]
    exact mem_seq_many hw
  cases r with
  | statementPart =>
    rw [List.mem_singleton.1 hx]
    exact ⟨_, mem_statementPart⟩
  | statementList =>
    refine through (first_starts_statement hx) fun w hw => ?_
    rw [lang_eq_body]
    exact mem_seq_many hw
  | statement => exact first_starts_statement hx
  | assignment => rw [List.mem_singleton.1 hx]; exact ⟨_, mem_assignment⟩
  | argumentList => rw [List.mem_singleton.1 hx]; exact ⟨_, mem_argumentList⟩
  | condition => rw [List.mem_singleton.1 hx]; exact ⟨_, mem_condition⟩
  | ifStatement => rw [List.mem_singleton.1 hx]; exact ⟨_, mem_ifStatement⟩
  | whileStatement => rw [List.mem_singleton.1 hx]; exact ⟨_, mem_whileStatement⟩
  | procedureStatement => rw [List.mem_singleton.1 hx]; exact ⟨_, mem_procedureStatement⟩
  | untilStatement => rw [List.mem_singleton.1 hx]; exact ⟨_, mem_untilStatement⟩
  | forStatement => rw [List.mem_singleton.1 hx]; exact ⟨_, mem_forStatement⟩
  | comparison =>
    rw [lang_eq_body]
    exact ⟨[], mem_lang_oneOf.2 ⟨x, hx, rfl⟩⟩
  | expression => exact through (first_starts_factor hx) (term_le.trans expression_le)
  | term => exact through (first_starts_factor hx) term_le
  | factor => exact first_starts_factor hx

end Rule

end ImpSyntax
