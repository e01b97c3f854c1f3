import ImpSyntax.Symbol
import ImpSyntax.Lexer.Error
import ImpSyntax.Text.Identifier

/-!
# Lexemes at the front of a text

The pieces the lexer is made of, each a function of the characters still to read:

* the *gap*: blanks (space, tab, form feed, carriage return, line feed) and comments,
  which run from `--` to the end of the line;
* a *lexeme*: tried in this order, a punctuation mark (the longest that fits), a string
  constant (`"` up to the next `"` on the same line), a number constant (ASCII digits,
  then optionally a point and more digits), a word (an identifier start, then identifier
  characters). A word spelled like a keyword, case included, is that keyword.

Each piece answers with a length, so that the lexeme is a prefix of the text; the lemma
`lexemeAt_length` says a lexeme is never empty and never longer than the text.
-/

namespace ImpSyntax.Lexer

/-- **Blanks**: space, tab, form feed, carriage return and line feed. -/
def isBlank (c : Char) : Bool :=
  c == ' ' || c == '\t' || c == '\x0c' || c == '\r' || c == '\n'

/-- **Length of the gap** at the front of a text. `inComment` says that a comment is open;
a comment stops before the line feed, which is then a blank. -/
def gapLength (inComment : Bool) : List Char → Nat
  | [] => 0
  | c :: cs =>
    if inComment && c != '\n' then gapLength true cs + 1
    else if isBlank c then gapLength false cs + 1
    else if c == '-' && cs.head? == some '-' then gapLength true cs + 1
    else 0

theorem gapLength_le (b : Bool) (cs : List Char) : gapLength b cs ≤ cs.length := by
  induction cs generalizing b with
  | nil => simp [gapLength]
  | cons c cs ih =>
    simp only [gapLength, List.length_cons]
    split
    · have := ih true; omega
    · split
      · have := ih false; omega
      · split
        · have := ih true; omega
        · omega

/-- One step of the search for the longest mark: keep the best so far, unless the mark
`p` fits the front of `cs` and is longer. -/
def longerMark (cs : List Char) (best : Option (Symbol × Nat)) (p : String × Symbol) :
    Option (Symbol × Nat) :=
  if p.1.toList.isPrefixOf cs && best.all (·.2 < p.1.length) then some (p.2, p.1.length)
  else best

/-- **Punctuation at the front**: the symbol of the longest punctuation mark that the text
starts with, and its length. -/
def punctuationAt? (cs : List Char) : Option (Symbol × Nat) :=
  Symbol.marks.foldl (longerMark cs) none

/-- ASCII digits, the only digits of number constants. -/
def isAsciiDigit (c : Char) : Bool := '0' ≤ c && c ≤ '9'

/-- **Length of a number constant** at the front: the digits, and a point with the digits
after it when there is at least one. -/
def numberLength (cs : List Char) : Nat :=
  let n := (cs.takeWhile isAsciiDigit).length
  match cs.drop n with
  | '.' :: d :: rest =>
    if isAsciiDigit d then n + 2 + ((rest.takeWhile isAsciiDigit).length) else n
  | _ => n

/-- **A string constant** at the front of `"` followed by `cs`: the length with both quotes,
or, when the quote does not close on its line, the rest of that line. -/
def stringAt (cs : List Char) : Except String Nat :=
  let body := cs.takeWhile fun c => c != '"' && c != '\n'
  match cs.drop body.length with
  | '"' :: _ => .ok (body.length + 2)
  | _ => .error (String.ofList ('"' :: cs.takeWhile (· != '\n')))

/-- **The lexeme at the front** of the text `c :: cs`: its symbol and length, or the fault. -/
def lexemeAt (c : Char) (cs : List Char) : Except LexFault (Symbol × Nat) :=
  match punctuationAt? (c :: cs) with
  | some (s, n) => .ok (s, n)
  | none =>
    if c == '"' then
      match stringAt cs with
      | .ok n => .ok (.string, n)
      | .error rest => .error (.unterminated rest)
    else if isAsciiDigit c then .ok (.number, numberLength (c :: cs))
    else if Text.isIdentStart c then
      let n := (cs.takeWhile Text.isIdentPart).length + 1
      let w := String.ofList ((c :: cs).take n)
      .ok ((Symbol.keyword? w).getD .ident, n)
    else .error (.unexpected c)

/-! ## Lengths of lexemes -/

theorem punctuationAt?_length {cs : List Char} {s : Symbol} {n : Nat}
    (h : punctuationAt? cs = some (s, n)) : 0 < n ∧ n ≤ cs.length := by
  unfold punctuationAt? at h
  -- every candidate kept by the fold is a non-empty prefix of `cs`
  suffices key : ∀ (l : List (String × Symbol)) (b : Option (Symbol × Nat)),
      (∀ p ∈ l, p.1.length > 0) →
      (∀ x, b = some x → 0 < x.2 ∧ x.2 ≤ cs.length) →
      ∀ x, l.foldl (longerMark cs) b = some x → 0 < x.2 ∧ x.2 ≤ cs.length by
    exact key _ none (by decide +kernel) (by simp) _ h
  intro l
  induction l with
  | nil => intro b _ hb x hx; exact hb x hx
  | cons p l ih =>
    intro b hl hb x hx
    simp only [List.foldl_cons] at hx
    refine ih _ (fun q hq => hl q (List.mem_cons_of_mem _ hq)) ?_ x hx
    intro y hy
    unfold longerMark at hy
    split at hy
    · rename_i hpre
      simp only [Bool.and_eq_true] at hpre
      have hlen := (List.isPrefixOf_iff_prefix.1 hpre.1).length_le
      simp only [Option.some.injEq] at hy
      subst hy
      have := hl p (List.mem_cons_self ..)
      simp only [String.length] at this
      exact ⟨this, hlen⟩
    · exact hb y hy

theorem numberLength_le (cs : List Char) : numberLength cs ≤ cs.length := by
  unfold numberLength
  dsimp only
  have h1 := (List.takeWhile_prefix isAsciiDigit : cs.takeWhile isAsciiDigit <+: cs).length_le
  split
  · rename_i d rest heq
    have h2 : (cs.drop (cs.takeWhile isAsciiDigit).length).length = rest.length + 2 := by
      rw [heq]; simp
    have h3 := (List.takeWhile_prefix isAsciiDigit :
      rest.takeWhile isAsciiDigit <+: rest).length_le
    simp only [List.length_drop] at h2
    split <;> omega
  · exact h1

theorem numberLength_pos {c : Char} (cs : List Char) (hc : isAsciiDigit c = true) :
    0 < numberLength (c :: cs) := by
  unfold numberLength
  dsimp only
  simp only [List.takeWhile_cons, hc, if_true, List.length_cons]
  split
  · split <;> omega
  · omega

theorem stringAt_length {cs : List Char} {n : Nat} (h : stringAt cs = .ok n) :
    0 < n ∧ n ≤ cs.length + 1 := by
  unfold stringAt at h
  dsimp only at h
  split at h
  · rename_i rest heq
    simp only [Except.ok.injEq] at h
    have h2 : (cs.drop (cs.takeWhile fun c => c != '"' && c != '\n').length).length =
        rest.length + 1 := by
      rw [heq]; simp
    simp only [List.length_drop] at h2
    omega
  · simp at h

theorem lexemeAt_length {c : Char} {cs : List Char} {s : Symbol} {n : Nat}
    (h : lexemeAt c cs = .ok (s, n)) : 0 < n ∧ n ≤ cs.length + 1 := by
  unfold lexemeAt at h
  split at h
  · rename_i s' n' hp
    simp only [Except.ok.injEq, Prod.mk.injEq] at h
    obtain ⟨-, rfl⟩ := h
    simpa using punctuationAt?_length hp
  · split at h
    · split at h
      · rename_i m hm
        simp only [Except.ok.injEq, Prod.mk.injEq] at h
        obtain ⟨-, rfl⟩ := h
        exact stringAt_length hm
      · simp at h
    · split at h
      · rename_i hd
        simp only [Except.ok.injEq, Prod.mk.injEq] at h
        obtain ⟨-, rfl⟩ := h
        exact ⟨numberLength_pos cs hd, by simpa using numberLength_le (c :: cs)⟩
      · split at h
        · simp only [Except.ok.injEq, Prod.mk.injEq] at h
          obtain ⟨-, rfl⟩ := h
          have := (List.takeWhile_prefix Text.isIdentPart :
            cs.takeWhile Text.isIdentPart <+: cs).length_le
          omega
        · simp at h

end ImpSyntax.Lexer
