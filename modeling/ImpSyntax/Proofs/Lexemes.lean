import Mathlib
import ImpSyntax.Proofs.Places

/-!
# What the lexer reads

The pieces of the lexer, each said without it: the gap it skips, the classes of lexeme it
reads, and the two ways it can be stuck. Each piece reads its class and nothing else
(the lemmas named `_sound`), and reads every member of its class (`_complete`).

A gap is blanks and comments, a comment running from `--` to the end of its line; no more
gap starts after it. Then comes a lexeme: a punctuation mark, a keyword, an identifier, a
number constant or a string constant. Marks, words and numbers are read as far as they go:
the lexeme is the longest member of its class that the text starts with (`Longest`). A
word is a keyword exactly when a keyword is spelled so, case included. A string constant
runs from a quote to the next one, on one line. Where no lexeme starts, the lexer is
stuck: at a character that starts none, or at a quote that is not closed on its line.

What lets one lexer stand for all of this is that the classes part by their first
character: a mark starts with neither a quote, a digit nor an identifier start
(`isMark_head`), and an identifier start is no digit (`isIdentStart_of_isDigit`).
-/

namespace ImpSyntax.Lexer

/-! ## The classes -/

/-- The blanks: space, tab, form feed, carriage return and line feed. -/
def blanks : List Char := [' ', '\t', '\x0c', '\r', '\n']

/-- **A gap starts the text**: a blank, or the `--` of a comment. -/
def GapStart (r : List Char) : Prop := (∃ c ∈ r.head?, c ∈ blanks) ∨ ['-', '-'] <+: r

/-- **The text is at the end of a line**: it is empty or starts with a line feed. -/
def AtLineEnd (r : List Char) : Prop := ∀ c ∈ r.head?, c = '\n'

/-- **`g` is the whole gap in front of `r`**: blanks and comments, each comment running
from `--` to the end of its line, and no more gap starts `r`. -/
inductive Gap : List Char → List Char → Prop
  | stop {r} : ¬ GapStart r → Gap [] r
  | blank {c g r} : c ∈ blanks → Gap g r → Gap (c :: g) r
  | comment {body g r} : '\n' ∉ body → AtLineEnd (g ++ r) → Gap g r →
      Gap ('-' :: '-' :: body ++ g) r

/-- **`x` is the longest member of `P` that `x ++ r` starts with.** -/
def Longest (P : List Char → Prop) (x r : List Char) : Prop :=
  P x ∧ ∀ y, y <+: x ++ r → P y → y.length ≤ x.length

/-- The spelling of a punctuation mark. -/
def IsMark (w : List Char) : Prop :=
  ∃ s : Symbol, s.isKeyword = false ∧ s.spelling? = some (String.ofList w)

/-- A run of ASCII digits, at least one. -/
def Digits (d : List Char) : Prop := d ≠ [] ∧ ∀ c ∈ d, c.isDigit = true

/-- **A number constant**: digits, then optionally a point and more digits. -/
inductive IsNumber : List Char → Prop
  | whole {d} : Digits d → IsNumber d
  | point {d e} : Digits d → Digits e → IsNumber (d ++ '.' :: e)

/-- **A word**: an identifier start, then identifier characters. -/
def IsWord : List Char → Prop
  | [] => False
  | c :: cs => Text.isIdentStart c = true ∧ ∀ d ∈ cs, Text.isIdentPart d = true

/-- **`x`, in front of `r`, is a lexeme of the symbol `s`.** -/
inductive Lexeme : Symbol → List Char → List Char → Prop
  /-- The longest punctuation mark, as the symbol it spells. -/
  | mark {s x r} : s.isKeyword = false → s.spelling? = some (String.ofList x) →
      Longest IsMark x r → Lexeme s x r
  /-- A whole word, spelled like a keyword. -/
  | keyword {s x r} : s.isKeyword = true → s.spelling? = some (String.ofList x) →
      Longest IsWord x r → Lexeme s x r
  /-- A whole word that no keyword spells. -/
  | ident {x r} : (∀ s : Symbol, s.isKeyword = true → s.spelling? ≠ some (String.ofList x)) →
      Longest IsWord x r → Lexeme .ident x r
  | number {x r} : Longest IsNumber x r → Lexeme .number x r
  /-- Quotes around characters other than quotes and line feeds. -/
  | string {body r} : '"' ∉ body → '\n' ∉ body → Lexeme .string ('"' :: body ++ ['"']) r

/-- **No lexeme starts the text**, and the fault that says so. -/
inductive Stuck : List Char → LexFault → Prop
  /-- A character, not a quote, at which no lexeme starts. -/
  | unexpected {c r} : c ≠ '"' → (∀ s x r', x ++ r' = c :: r → ¬ Lexeme s x r') →
      Stuck (c :: r) (.unexpected c)
  /-- A quote not closed on its line; the fault holds the rest of the line. -/
  | unterminated {r} : '"' ∉ r.takeWhile (· != '\n') →
      Stuck ('"' :: r) (.unterminated (String.ofList ('"' :: r.takeWhile (· != '\n'))))

/-- No lexeme is the end of input. -/
theorem Lexeme.ne_eof {s : Symbol} {x r : List Char} (h : Lexeme s x r) : s ≠ .eof := by
  cases h with
  | mark _ hsp _ =>
    rintro rfl
    simp [Symbol.spelling?] at hsp
  | keyword hkw _ _ =>
    rintro rfl
    simp [Symbol.isKeyword] at hkw
  | ident => decide
  | number => decide
  | string => decide

/-! ## Runs and longest matches -/

/-- A run of characters of a class, at the front, is part of the longest such run. -/
theorem prefix_takeWhile {p : Char → Bool} {d cs : List Char} (h : d <+: cs)
    (hp : ∀ c ∈ d, p c = true) : d <+: cs.takeWhile p := by
  induction d generalizing cs with
  | nil => exact List.nil_prefix
  | cons c d ih =>
    obtain ⟨t, rfl⟩ := h
    rw [List.cons_append, List.takeWhile_cons_of_pos (hp c List.mem_cons_self)]
    exact List.cons_prefix_cons.2
      ⟨rfl, ih (List.prefix_append d t) fun a ha => hp a (List.mem_cons_of_mem c ha)⟩

/-- The longest run of a class is the run that a character outside it ends. -/
theorem takeWhile_append_cons {p : Char → Bool} {d r : List Char} {c : Char}
    (hp : ∀ a ∈ d, p a = true) (hc : p c = false) : (d ++ c :: r).takeWhile p = d := by
  rw [List.takeWhile_append_of_pos hp, List.takeWhile_cons_of_neg (by simp [hc]),
    List.append_nil]

variable {P : List Char → Prop}

/-- **A text has one longest match of a class.** -/
theorem Longest.unique {x r x' r' : List Char} (h : Longest P x r) (h' : Longest P x' r')
    (he : x ++ r = x' ++ r') : x = x' := by
  have hx : x <+: x' ++ r' := he ▸ List.prefix_append x r
  have hx' : x' <+: x ++ r := he ▸ List.prefix_append x' r'
  have hle : x.length ≤ x'.length := h'.2 x hx h.1
  have hge : x'.length ≤ x.length := h.2 x' hx' h'.1
  exact (List.prefix_of_prefix_length_le hx (List.prefix_append x' r') hle).eq_of_length
    (by omega)

/-- A longest match read off the front of a text is its first `n` characters. -/
theorem Longest.take_length {x r : List Char} {n : Nat} (h : Longest P x r)
    (h' : Longest P ((x ++ r).take n) ((x ++ r).drop n)) (hn : n ≤ (x ++ r).length) :
    n = x.length := by
  have hx := Longest.unique h' h (List.take_append_drop n (x ++ r))
  rw [← hx, List.length_take, Nat.min_eq_left hn]

/-! ## Gaps -/

theorem isBlank_iff {c : Char} : isBlank c = true ↔ c ∈ blanks := by
  simp [isBlank, blanks, or_assoc]

theorem not_gapStart_nil : ¬ GapStart [] := by
  simp [GapStart]

theorem gapStart_cons {c : Char} {cs : List Char} :
    GapStart (c :: cs) ↔ isBlank c = true ∨ (c = '-' ∧ cs.head? = some '-') := by
  cases cs <;> simp [GapStart, isBlank_iff, @eq_comm _ '-']

/-- **The rest of a gap**, from inside it: with a comment open, the rest of its line
comes first. -/
def GapRest : Bool → List Char → List Char → Prop
  | false, g, r => Gap g r
  | true, g, r => ∃ body g', g = body ++ g' ∧ '\n' ∉ body ∧ AtLineEnd (g' ++ r) ∧ Gap g' r

/-- **The lexer skips exactly a gap**, from inside a comment or not. -/
theorem gapLength_sound (b : Bool) (cs : List Char) :
    GapRest b (cs.take (gapLength b cs)) (cs.drop (gapLength b cs)) := by
  fun_induction gapLength b cs with
  | case1 b =>
    cases b
    · exact Gap.stop not_gapStart_nil
    · exact ⟨[], [], rfl, by simp, by simp [AtLineEnd], Gap.stop not_gapStart_nil⟩
  | case2 b c cs h ih =>
    -- a character of an open comment
    obtain ⟨rfl, hc⟩ : b = true ∧ c ≠ '\n' := by simpa using h
    obtain ⟨body, g', hg, hbody, hend, hgap⟩ := ih
    rw [List.take_succ_cons, List.drop_succ_cons, hg]
    exact ⟨c :: body, g', rfl, by simp [Ne.symm hc, hbody], hend, hgap⟩
  | case3 b c cs h₁ h₂ ih =>
    rw [List.take_succ_cons, List.drop_succ_cons]
    cases b
    · exact Gap.blank (isBlank_iff.1 h₂) ih
    · -- the line feed that ends an open comment
      obtain rfl : c = '\n' := by simpa using h₁
      exact ⟨[], _, rfl, by simp, by simp [AtLineEnd], Gap.blank (isBlank_iff.1 h₂) ih⟩
  | case4 b c cs h₁ h₂ h₃ ih =>
    -- the `--` of a comment, which only starts outside one
    obtain ⟨rfl, hcs⟩ : c = '-' ∧ cs.head? = some '-' := by simpa using h₃
    obtain rfl : b = false := by simpa using h₁
    obtain ⟨body, g', hg, hbody, hend, hgap⟩ := ih
    have hall : body ++ (g' ++ cs.drop (gapLength true cs)) = cs := by
      rw [← List.append_assoc, ← hg, List.take_append_drop]
    rw [List.take_succ_cons, List.drop_succ_cons, hg]
    cases body with
    | nil =>
      -- the comment's own `-` is no line end
      rw [List.nil_append] at hall
      rw [hall] at hend
      simp [AtLineEnd, hcs] at hend
    | cons a body =>
      obtain rfl : a = '-' := by
        rw [← hall] at hcs
        simpa using hcs
      exact Gap.comment (fun h => hbody (List.mem_cons_of_mem _ h)) hend hgap
  | case5 b c cs h₁ h₂ h₃ =>
    rw [List.take_zero, List.drop_zero]
    cases b
    · exact Gap.stop fun h => by
        rcases gapStart_cons.1 h with hb | ⟨rfl, hd⟩
        · exact h₂ hb
        · exact h₃ (by simp [hd])
    · obtain rfl : c = '\n' := by simpa using h₁
      exact absurd rfl h₂

/-- Inside a comment the lexer skips the rest of the line whole. -/
theorem gapLength_comment {body : List Char} (h : '\n' ∉ body) (t : List Char) :
    gapLength true (body ++ t) = body.length + gapLength true t := by
  induction body with
  | nil => simp
  | cons c body ih =>
    have hc : c ≠ '\n' := fun hc => h (hc ▸ List.mem_cons_self)
    rw [List.cons_append, gapLength, if_pos (by simp [hc]),
      ih fun hm => h (List.mem_cons_of_mem c hm), List.length_cons]
    omega

/-- At the end of a line an open comment makes no difference: the line feed is a blank. -/
theorem gapLength_atLineEnd {t : List Char} (h : AtLineEnd t) :
    gapLength true t = gapLength false t := by
  cases t with
  | nil => rfl
  | cons c t =>
    obtain rfl : c = '\n' := h c rfl
    simp [gapLength, isBlank]

/-- **The lexer skips every gap whole.** -/
theorem gapLength_complete {g r : List Char} (h : Gap g r) :
    gapLength false (g ++ r) = g.length := by
  induction h with
  | @stop r hr =>
    cases r with
    | nil => rfl
    | cons c r =>
      have hblank : ¬ isBlank c = true := fun hb => hr (gapStart_cons.2 (.inl hb))
      have hdash : ¬ (c == '-' && r.head? == some '-') = true := fun hd =>
        hr (gapStart_cons.2 (.inr (by simpa using hd)))
      rw [List.nil_append, gapLength, if_neg (by simp), if_neg hblank, if_neg hdash]
      rfl
  | blank hc _ ih =>
    rw [List.cons_append, gapLength, if_neg (by simp), if_pos (isBlank_iff.2 hc), ih,
      List.length_cons]
  | @comment body g r hbody hend _ ih =>
    -- `--`, the rest of the line, then the gap after it
    have hdash : gapLength false ('-' :: '-' :: (body ++ (g ++ r))) =
        gapLength true (body ++ (g ++ r)) + 2 := by
      simp [gapLength, isBlank]
    simp only [List.cons_append, List.append_assoc]
    rw [hdash, gapLength_comment hbody, gapLength_atLineEnd hend, ih]
    simp only [List.length_cons, List.length_append]

/-! ## What starts a lexeme -/

/-- An identifier start is no digit. -/
theorem isIdentStart_of_isDigit {c : Char} (h : c.isDigit = true) :
    Text.isIdentStart c = false := by
  simp only [Char.isDigit, Bool.and_eq_true, decide_eq_true_eq, UInt32.le_iff_toNat_le,
    ge_iff_le] at h
  have hc : c.toNat = c.val.toNat := rfl
  have h0 : ('0' : Char).val.toNat = 48 := rfl
  have h9 : ('9' : Char).val.toNat = 57 := rfl
  have hA : ('A' : Char).val.toNat = 65 := rfl
  have ha : ('a' : Char).val.toNat = 97 := rfl
  have hne : c ≠ '_' := by
    rintro rfl
    exact absurd h.2 (by decide)
  -- a digit is ASCII, and no ASCII letter
  unfold Text.isIdentStart
  rw [if_pos (by omega)]
  simp only [Char.isAlpha, Char.isUpper, Char.isLower, Bool.or_eq_false_iff,
    Bool.and_eq_false_iff, decide_eq_false_iff_not, UInt32.le_iff_toNat_le, ge_iff_le,
    beq_eq_false_iff_ne, ne_eq, hne, not_false_eq_true, and_true]
  omega

theorem mem_marks {p : String × Symbol} :
    p ∈ Symbol.marks ↔ p.2.isKeyword = false ∧ p.2.spelling? = some p.1 := by
  obtain ⟨w, s⟩ := p
  simp [Symbol.marks, List.mem_filterMap, Symbol.mem_all]

/-- **A mark starts with no quote, digit or identifier start.** -/
theorem isMark_head {w : List Char} (hw : IsMark w) :
    ∀ c ∈ w.head?, c ≠ '"' ∧ c.isDigit = false ∧ Text.isIdentStart c = false := by
  have heads : Symbol.marks.all (fun p => p.1.toList.head?.all fun c =>
      c != '"' && !c.isDigit && !Text.isIdentStart c) = true := by decide
  obtain ⟨s, hkw, hsp⟩ := hw
  have hmem : (String.ofList w, s) ∈ Symbol.marks := mem_marks.2 ⟨hkw, hsp⟩
  have hhead := List.all_eq_true.1 heads _ hmem
  intro c hc
  rw [String.toList_ofList, Option.mem_def.1 hc] at hhead
  simpa [and_assoc] using hhead

/-- Two punctuation marks with one spelling are one mark. -/
theorem marks_unique {s s' : Symbol} {w : String} (h : (w, s) ∈ Symbol.marks)
    (h' : (w, s') ∈ Symbol.marks) : s = s' := by
  have hall : Symbol.marks.all (fun p => Symbol.marks.all fun q => p.1 != q.1 || p.2 == q.2) =
      true := by decide
  simpa using List.all_eq_true.1 (List.all_eq_true.1 hall _ h) _ h'

/-! ## Punctuation marks -/

/-- One step of the search keeps a candidate at least as long as the best so far, and at
least as long as the mark it looks at, if the text starts with that mark. -/
theorem longerMark_ge (cs : List Char) (b : Option (Symbol × Nat)) (p : String × Symbol) :
    (∀ y ∈ b, ∃ x ∈ longerMark cs b p, y.2 ≤ x.2) ∧
      (p.1.toList <+: cs → ∃ x ∈ longerMark cs b p, p.1.length ≤ x.2) := by
  unfold longerMark
  split
  · rename_i h
    simp only [Bool.and_eq_true] at h
    refine ⟨fun y hy => ⟨_, rfl, ?_⟩, fun _ => ⟨_, rfl, le_rfl⟩⟩
    rw [Option.mem_def.1 hy] at h
    have hlt : y.2 < p.1.length := by simpa using h.2
    exact hlt.le
  · rename_i h
    refine ⟨fun y hy => ⟨y, hy, le_rfl⟩, fun hp => ?_⟩
    -- the mark fits, so the best so far is no shorter
    cases b with
    | none => simp [List.isPrefixOf_iff_prefix.2 hp] at h
    | some y =>
      refine ⟨y, rfl, ?_⟩
      simpa [List.isPrefixOf_iff_prefix.2 hp] using h

/-- **The search ends with the longest mark**: no shorter than what it started with, and
than every mark of the list that the text starts with. -/
theorem foldl_longerMark_ge (cs : List Char) (l : List (String × Symbol))
    (b : Option (Symbol × Nat)) :
    (∀ y ∈ b, ∃ x ∈ l.foldl (longerMark cs) b, y.2 ≤ x.2) ∧
      ∀ q ∈ l, q.1.toList <+: cs → ∃ x ∈ l.foldl (longerMark cs) b, q.1.length ≤ x.2 := by
  induction l generalizing b with
  | nil => exact ⟨fun y hy => ⟨y, hy, le_rfl⟩, fun q hq => absurd hq List.not_mem_nil⟩
  | cons p l ih =>
    obtain ⟨hkeep, hfit⟩ := longerMark_ge cs b p
    obtain ⟨hkeep', hfit'⟩ := ih (longerMark cs b p)
    refine ⟨fun y hy => ?_, fun q hq hpre => ?_⟩
    · obtain ⟨x, hx, hle⟩ := hkeep y hy
      obtain ⟨z, hz, hle'⟩ := hkeep' x hx
      exact ⟨z, hz, hle.trans hle'⟩
    · rcases List.mem_cons.1 hq with rfl | hq
      · obtain ⟨x, hx, hle⟩ := hfit hpre
        obtain ⟨z, hz, hle'⟩ := hkeep' x hx
        exact ⟨z, hz, hle.trans hle'⟩
      · exact hfit' q hq hpre

/-- **The lexer reads the longest mark**, as the symbol it spells. -/
theorem punctuationAt?_sound {cs : List Char} {s : Symbol} {n : Nat}
    (h : punctuationAt? cs = some (s, n)) :
    s.isKeyword = false ∧ s.spelling? = some (String.ofList (cs.take n)) ∧
      Longest IsMark (cs.take n) (cs.drop n) := by
  rcases foldl_longerMark_mem cs _ none _ h with h' | ⟨⟨w, s'⟩, hp, hps, hpre, hlen⟩
  · cases h'
  simp only at hps hpre hlen
  subst hps hlen
  obtain ⟨hkw, hsp⟩ := mem_marks.1 hp
  have htake : cs.take w.length = w.toList := by
    rw [List.prefix_iff_eq_take.1 hpre, String.length_toList]
  have hspell : s'.spelling? = some (String.ofList (cs.take w.length)) := by
    rw [htake, String.ofList_toList]
    exact hsp
  refine ⟨hkw, hspell, ⟨s', hkw, hspell⟩, fun y hy hmark => ?_⟩
  -- every mark the text starts with was looked at, and is no longer
  obtain ⟨k, hkw', hsp'⟩ := hmark
  have hq : (String.ofList y, k) ∈ Symbol.marks := mem_marks.2 ⟨hkw', hsp'⟩
  rw [List.take_append_drop] at hy
  obtain ⟨x, hx, hle⟩ := (foldl_longerMark_ge cs Symbol.marks none).2 _ hq (by simpa using hy)
  rw [show Symbol.marks.foldl (longerMark cs) none = some (s', w.length) from h,
    Option.mem_def, Option.some.injEq] at hx
  subst hx
  rw [htake, String.length_toList]
  simpa using hle

/-- Where the search finds nothing, the text starts with no mark. -/
theorem punctuationAt?_eq_none {cs : List Char} (h : punctuationAt? cs = none) :
    ∀ y, y <+: cs → ¬ IsMark y := by
  rintro y hy ⟨s, hkw, hsp⟩
  have hq : (String.ofList y, s) ∈ Symbol.marks := mem_marks.2 ⟨hkw, hsp⟩
  obtain ⟨x, hx, -⟩ := (foldl_longerMark_ge cs Symbol.marks none).2 _ hq (by simpa using hy)
  rw [show Symbol.marks.foldl (longerMark cs) none = none from h] at hx
  cases hx

/-- No mark starts a text that starts with a quote, a digit or an identifier start. -/
theorem punctuationAt?_of_head {c : Char} {cs : List Char}
    (hc : c = '"' ∨ c.isDigit = true ∨ Text.isIdentStart c = true) :
    punctuationAt? (c :: cs) = none := by
  cases h : punctuationAt? (c :: cs) with
  | none => rfl
  | some sn =>
    obtain ⟨s, n⟩ := sn
    obtain ⟨k, rfl⟩ : ∃ k, n = k + 1 := Nat.exists_eq_add_one.2 (punctuationAt?_length h).1
    have hmark := (punctuationAt?_sound h).2.2.1
    rw [List.take_succ_cons] at hmark
    obtain ⟨hq, hd, hw⟩ := isMark_head hmark c rfl
    rcases hc with rfl | hc | hc
    · exact absurd rfl hq
    · simp [hd] at hc
    · simp [hw] at hc

/-! ## Number constants -/

theorem isAsciiDigit_eq (c : Char) : isAsciiDigit c = c.isDigit := by
  simp [isAsciiDigit, Char.isDigit, Char.le_def]

/-- A run of digits at the front is part of the whole run. -/
theorem digits_length_le {d cs : List Char} (hd : ∀ c ∈ d, c.isDigit = true) (h : d <+: cs) :
    d.length ≤ (cs.takeWhile isAsciiDigit).length :=
  (prefix_takeWhile h fun a ha => (isAsciiDigit_eq a).trans (hd a ha)).length_le

/-- A number constant at the front is no longer than the run of digits there, or it is
that run, a point and digits. -/
theorem isNumber_prefix {y t : List Char} (hy : IsNumber y) (h : y <+: t) :
    y.length ≤ (t.takeWhile isAsciiDigit).length ∨
      ∃ e, Digits e ∧ y = t.takeWhile isAsciiDigit ++ '.' :: e ∧
        '.' :: e <+: t.drop (t.takeWhile isAsciiDigit).length := by
  cases hy with
  | whole hd => exact .inl (digits_length_le hd.2 h)
  | @point d e hd he =>
    -- the point ends the run of digits
    obtain ⟨z, rfl⟩ := h
    have hD : (d ++ '.' :: e ++ z).takeWhile isAsciiDigit = d := by
      rw [List.append_assoc, List.cons_append]
      exact takeWhile_append_cons (fun a ha => (isAsciiDigit_eq a).trans (hd.2 a ha))
        (by decide)
    refine .inr ⟨e, he, by rw [hD], ?_⟩
    rw [hD, List.append_assoc, List.drop_left]
    exact List.prefix_append _ _

/-- **What the lexer counts at a run of digits `D`**: a number constant, no shorter than
the run, and no shorter than the run with any point and digits after it. -/
theorem numberLength_spec {t D : List Char} (hD : t.takeWhile isAsciiDigit = D)
    (hDigits : Digits D) :
    IsNumber (t.take (numberLength t)) ∧ D.length ≤ numberLength t ∧
      ∀ e, Digits e → '.' :: e <+: t.drop D.length → D.length + 1 + e.length ≤ numberLength t := by
  have htD : t = D ++ t.drop D.length := by
    have htake : t.take D.length = D := by
      rw [← hD]
      exact (List.prefix_iff_eq_take.1 (List.takeWhile_prefix isAsciiDigit)).symm
    calc t = t.take D.length ++ t.drop D.length := (List.take_append_drop _ _).symm
      _ = D ++ t.drop D.length := by rw [htake]
  unfold numberLength
  dsimp only
  rw [hD]
  split
  · rename_i d rest hrest
    rw [hrest] at htD
    simp only [hrest]
    split
    · -- a point and digits follow the run
      rename_i hd
      refine ⟨?_, by omega, fun e he hpre => ?_⟩
      · rw [htD, show D.length + 2 + (rest.takeWhile isAsciiDigit).length =
            D.length + ((rest.takeWhile isAsciiDigit).length + 1 + 1) by omega,
          List.take_length_add_append, List.take_succ_cons, List.take_succ_cons,
          ← List.prefix_iff_eq_take.1 (List.takeWhile_prefix _)]
        refine IsNumber.point hDigits ⟨List.cons_ne_nil _ _, fun a ha => ?_⟩
        rw [← isAsciiDigit_eq]
        rcases List.mem_cons.1 ha with rfl | ha
        · exact hd
        · exact List.mem_takeWhile_imp ha
      · have hle := digits_length_le he.2 (List.cons_prefix_cons.1 hpre).2
        rw [List.takeWhile_cons_of_pos hd, List.length_cons] at hle
        omega
    · -- a point without digits after it ends the constant before it
      rename_i hd
      refine ⟨?_, le_rfl, fun e he hpre => ?_⟩
      · rw [htD, List.take_left]
        exact IsNumber.whole hDigits
      · obtain ⟨e₀, e', rfl⟩ := List.exists_cons_of_ne_nil he.1
        obtain rfl : e₀ = d := (List.cons_prefix_cons.1 (List.cons_prefix_cons.1 hpre).2).1
        rw [isAsciiDigit_eq, he.2 e₀ List.mem_cons_self] at hd
        exact absurd rfl hd
  · -- no point follows the run
    rename_i hno
    refine ⟨?_, le_rfl, fun e he hpre => ?_⟩
    · rw [htD, List.take_left]
      exact IsNumber.whole hDigits
    · obtain ⟨e₀, e', rfl⟩ := List.exists_cons_of_ne_nil he.1
      obtain ⟨z, hz⟩ := hpre
      exact absurd hz.symm (by simpa using hno e₀ (e' ++ z))

/-- **The lexer reads the longest number constant** at a digit. -/
theorem numberLength_sound {c : Char} {cs : List Char} (hc : c.isDigit = true) :
    Longest IsNumber ((c :: cs).take (numberLength (c :: cs)))
      ((c :: cs).drop (numberLength (c :: cs))) := by
  generalize ht : c :: cs = t
  obtain ⟨D, hD⟩ : ∃ D, t.takeWhile isAsciiDigit = D := ⟨_, rfl⟩
  -- the run of digits at the front holds at least the first digit
  have hDigits : Digits D := by
    refine ⟨?_, fun a ha => (isAsciiDigit_eq a).symm.trans (List.mem_takeWhile_imp (hD ▸ ha))⟩
    rw [← hD, ← ht, List.takeWhile_cons_of_pos (by rwa [isAsciiDigit_eq])]
    exact List.cons_ne_nil _ _
  obtain ⟨hnum, hrun, hpoint⟩ := numberLength_spec hD hDigits
  refine ⟨hnum, fun y hy hy' => ?_⟩
  rw [List.take_append_drop] at hy
  rw [List.length_take, Nat.min_eq_left (numberLength_le t)]
  -- a number constant there is within the run, or the run with a point and digits
  rcases isNumber_prefix hy' hy with hle | ⟨e, he, rfl, hpre⟩
  · rw [hD] at hle
    exact hle.trans hrun
  · rw [hD] at hpre ⊢
    have hle := hpoint e he hpre
    simp only [List.length_append, List.length_cons]
    omega

/-! ## Words -/

/-- **The lexer reads the longest word** at an identifier start. -/
theorem wordLength_sound {c : Char} {cs : List Char} (hc : Text.isIdentStart c = true) :
    Longest IsWord ((c :: cs).take ((cs.takeWhile Text.isIdentPart).length + 1))
      ((c :: cs).drop ((cs.takeWhile Text.isIdentPart).length + 1)) := by
  have htake : (c :: cs).take ((cs.takeWhile Text.isIdentPart).length + 1) =
      c :: cs.takeWhile Text.isIdentPart := by
    rw [List.take_succ_cons, ← List.prefix_iff_eq_take.1 (List.takeWhile_prefix _)]
  refine ⟨?_, fun y hy hword => ?_⟩
  · rw [htake]
    exact ⟨hc, fun d hd => List.mem_takeWhile_imp hd⟩
  · rw [List.take_append_drop] at hy
    rw [htake]
    cases y with
    | nil => simp
    | cons a y =>
      have hle := (prefix_takeWhile (List.cons_prefix_cons.1 hy).2 hword.2).length_le
      simpa using hle

theorem keyword?_sound {w : String} {s : Symbol} (h : Symbol.keyword? w = some s) :
    s.isKeyword = true ∧ s.spelling? = some w := by
  simpa using List.find?_some h

theorem keyword?_eq_none {w : String} (h : Symbol.keyword? w = none) (s : Symbol)
    (hs : s.isKeyword = true) : s.spelling? ≠ some w := by
  simpa [hs] using List.find?_eq_none.1 h s (Symbol.mem_all s)

/-- **A keyword's spelling is looked up as that keyword.** -/
theorem keyword?_complete {w : String} {s : Symbol} (hs : s.isKeyword = true)
    (hw : s.spelling? = some w) : Symbol.keyword? w = some s := by
  have hall : Symbol.all.all (fun s => !s.isKeyword || s.spelling?.all fun w =>
      Symbol.keyword? w == some s) = true := by decide
  simpa [hs, hw] using List.all_eq_true.1 hall s (Symbol.mem_all s)

/-! ## String constants -/

/-- What follows the longest run of a class is what the run leaves. -/
theorem drop_takeWhile {p : Char → Bool} (cs : List Char) :
    cs.drop (cs.takeWhile p).length = cs.dropWhile p := by
  have h : cs.takeWhile p ++ cs.dropWhile p = cs := List.takeWhile_append_dropWhile
  calc cs.drop (cs.takeWhile p).length =
        (cs.takeWhile p ++ cs.dropWhile p).drop (cs.takeWhile p).length := by rw [h]
    _ = cs.dropWhile p := List.drop_left

/-- A run up to the end of its line is the longest run of any class that holds it and not
the line feed. -/
theorem takeWhile_atLineEnd {p : Char → Bool} {L R : List Char} (hL : ∀ a ∈ L, p a = true)
    (hR : AtLineEnd R) (hp : p '\n' = false) : (L ++ R).takeWhile p = L := by
  cases R with
  | nil =>
    rw [List.append_nil]
    exact List.takeWhile_eq_self_iff.2 hL
  | cons a R =>
    obtain rfl : a = '\n' := hR a rfl
    exact takeWhile_append_cons hL hp

/-- **A closed string constant** runs from its quote to the next quote of its line. -/
theorem stringAt_sound {cs : List Char} {n : Nat} (h : stringAt cs = .ok n) :
    ∃ body r, cs = body ++ '"' :: r ∧ '"' ∉ body ∧ '\n' ∉ body ∧ n = body.length + 2 := by
  unfold stringAt at h
  dsimp only at h
  split at h
  · rename_i rest hd
    cases h
    obtain ⟨B, hB⟩ : ∃ B, cs.takeWhile (fun c => c != '"' && c != '\n') = B := ⟨_, rfl⟩
    have hcs : cs = B ++ '"' :: rest := by
      rw [← hd, ← hB, drop_takeWhile, List.takeWhile_append_dropWhile]
    have hbody : ∀ a ∈ B, a ≠ '"' ∧ a ≠ '\n' := fun a ha => by
      rw [← hB] at ha
      simpa using List.mem_takeWhile_imp ha
    exact ⟨B, rest, hcs, fun hm => (hbody _ hm).1 rfl, fun hm => (hbody _ hm).2 rfl,
      by rw [hB]⟩
  · cases h

theorem stringAt_complete {body r : List Char} (hq : '"' ∉ body) (hn : '\n' ∉ body) :
    stringAt (body ++ '"' :: r) = .ok (body.length + 2) := by
  have hB : (body ++ '"' :: r).takeWhile (fun c => c != '"' && c != '\n') = body :=
    takeWhile_append_cons (fun a ha => by
      simp [ne_of_mem_of_not_mem ha hq, ne_of_mem_of_not_mem ha hn]) (by decide)
  unfold stringAt
  simp only [hB, List.drop_left]

/-- **An open string constant** is reported with the rest of its line, which holds no
quote. -/
theorem stringAt_fault_sound {cs : List Char} {t : String} (h : stringAt cs = .error t) :
    '"' ∉ cs.takeWhile (· != '\n') ∧ t = String.ofList ('"' :: cs.takeWhile (· != '\n')) := by
  unfold stringAt at h
  dsimp only at h
  split at h
  · cases h
  · rename_i hno
    cases h
    refine ⟨?_, rfl⟩
    rw [drop_takeWhile] at hno
    -- the run stops at the end of its line: what stops it is no quote
    have hend : AtLineEnd (cs.dropWhile fun c => c != '"' && c != '\n') := by
      intro a ha
      have hstop := List.head?_dropWhile_not (fun c => c != '"' && c != '\n') cs
      rw [ha] at hstop
      obtain ⟨r, hr⟩ := List.head?_eq_some_iff.1 ha
      have hq : a ≠ '"' := by
        rintro rfl
        exact hno r hr
      simpa [hq] using hstop
    have hline : cs.takeWhile (· != '\n') = cs.takeWhile fun c => c != '"' && c != '\n' := by
      have hsplit : (cs.takeWhile fun c => c != '"' && c != '\n') ++
          (cs.dropWhile fun c => c != '"' && c != '\n') = cs := List.takeWhile_append_dropWhile
      conv_lhs => rw [← hsplit]
      refine takeWhile_atLineEnd (fun a ha => ?_) hend (by decide)
      have hm := List.mem_takeWhile_imp ha
      simp only [Bool.and_eq_true] at hm
      exact hm.2
    rw [hline]
    intro hm
    simpa using List.mem_takeWhile_imp hm

theorem stringAt_fault_complete {cs : List Char} (h : '"' ∉ cs.takeWhile (· != '\n')) :
    stringAt cs = .error (String.ofList ('"' :: cs.takeWhile (· != '\n'))) := by
  -- the text is its line and what starts with the line feed
  obtain ⟨L, hL⟩ : ∃ L, cs.takeWhile (· != '\n') = L := ⟨_, rfl⟩
  obtain ⟨R, hcs⟩ : ∃ R, cs = L ++ R := ⟨cs.dropWhile (· != '\n'),
    by rw [← hL, List.takeWhile_append_dropWhile]⟩
  have hR : AtLineEnd R := by
    intro a ha
    have hstop := List.head?_dropWhile_not (· != '\n') cs
    rw [← drop_takeWhile, hL, hcs, List.drop_left, ha] at hstop
    simpa using hstop
  rw [hL] at h ⊢
  subst hcs
  -- the line holds no quote, so the string runs to its end
  have hB : (L ++ R).takeWhile (fun c => c != '"' && c != '\n') = L :=
    takeWhile_atLineEnd (fun a ha => by
      have hquote := ne_of_mem_of_not_mem ha h
      rw [← hL] at ha
      have hline := List.mem_takeWhile_imp ha
      simp only [bne_iff_ne, ne_eq] at hline
      simp [hquote, hline]) hR (by decide)
  unfold stringAt
  simp only [hB, List.drop_left, hL]
  cases R with
  | nil => rfl
  | cons a R =>
    obtain rfl : a = '\n' := hR a rfl
    rfl

/-! ## The lexeme at the front

The lexer tries the classes in turn; since they part by their first character, each
lexeme is found by the test for its own class. -/

section Front

variable {c : Char} {cs : List Char} {s : Symbol} {n : Nat} {f : LexFault}

theorem lexemeAt_of_punctuation (h : punctuationAt? (c :: cs) = some (s, n)) :
    lexemeAt c cs = .ok (s, n) := by
  rw [lexemeAt, h]

theorem lexemeAt_string (h : stringAt cs = .ok n) : lexemeAt '"' cs = .ok (.string, n) := by
  rw [lexemeAt, punctuationAt?_of_head (.inl rfl)]
  simp [h]

theorem lexemeAt_unterminated {t : String} (h : stringAt cs = .error t) :
    lexemeAt '"' cs = .error (.unterminated t) := by
  rw [lexemeAt, punctuationAt?_of_head (.inl rfl)]
  simp [h]

theorem lexemeAt_number (hc : c.isDigit = true) :
    lexemeAt c cs = .ok (.number, numberLength (c :: cs)) := by
  have hq : c ≠ '"' := by
    rintro rfl
    exact absurd hc (by decide)
  rw [lexemeAt, punctuationAt?_of_head (.inr (.inl hc))]
  simp [hq, isAsciiDigit_eq, hc]

theorem lexemeAt_word (hc : Text.isIdentStart c = true) :
    lexemeAt c cs = .ok ((Symbol.keyword? (String.ofList
      ((c :: cs).take ((cs.takeWhile Text.isIdentPart).length + 1)))).getD .ident,
      (cs.takeWhile Text.isIdentPart).length + 1) := by
  have hq : c ≠ '"' := by
    rintro rfl
    exact absurd hc (by decide)
  have hd : c.isDigit = false := by
    cases hd : c.isDigit
    · rfl
    · rw [isIdentStart_of_isDigit hd] at hc
      cases hc
  rw [lexemeAt, punctuationAt?_of_head (.inr (.inr hc))]
  simp [hq, isAsciiDigit_eq, hd, hc]

theorem lexemeAt_unexpected (hp : punctuationAt? (c :: cs) = none) (hq : c ≠ '"')
    (hd : c.isDigit = false) (hw : Text.isIdentStart c = false) :
    lexemeAt c cs = .error (.unexpected c) := by
  rw [lexemeAt, hp]
  simp [hq, isAsciiDigit_eq, hd, hw]

/-- **The ways the lexer reads at a character**: a mark; at a quote, a closed string
constant or an open one; a number; a word; or, at any other character that starts no mark,
the fault that it starts nothing. -/
theorem lexemeAt_cases (c : Char) (cs : List Char) :
    (∃ s n, punctuationAt? (c :: cs) = some (s, n) ∧ lexemeAt c cs = .ok (s, n)) ∨
      (c = '"' ∧ ∃ n, stringAt cs = .ok n ∧ lexemeAt c cs = .ok (.string, n)) ∨
      (c = '"' ∧ ∃ t, stringAt cs = .error t ∧ lexemeAt c cs = .error (.unterminated t)) ∨
      (c.isDigit = true ∧ lexemeAt c cs = .ok (.number, numberLength (c :: cs))) ∨
      (Text.isIdentStart c = true ∧ lexemeAt c cs = .ok ((Symbol.keyword? (String.ofList
        ((c :: cs).take ((cs.takeWhile Text.isIdentPart).length + 1)))).getD .ident,
        (cs.takeWhile Text.isIdentPart).length + 1)) ∨
      (c ≠ '"' ∧ lexemeAt c cs = .error (.unexpected c)) := by
  cases hp : punctuationAt? (c :: cs) with
  | some sn =>
    obtain ⟨s, n⟩ := sn
    exact .inl ⟨s, n, rfl, lexemeAt_of_punctuation hp⟩
  | none =>
    by_cases hq : c = '"'
    · subst hq
      cases hs : stringAt cs with
      | ok m => exact .inr (.inl ⟨rfl, m, rfl, lexemeAt_string hs⟩)
      | error t => exact .inr (.inr (.inl ⟨rfl, t, rfl, lexemeAt_unterminated hs⟩))
    by_cases hd : c.isDigit = true
    · exact .inr (.inr (.inr (.inl ⟨hd, lexemeAt_number hd⟩)))
    by_cases hw : Text.isIdentStart c = true
    · exact .inr (.inr (.inr (.inr (.inl ⟨hw, lexemeAt_word hw⟩))))
    · exact .inr (.inr (.inr (.inr (.inr
        ⟨hq, lexemeAt_unexpected hp hq (by simpa using hd) (by simpa using hw)⟩))))

/-- **What the lexer reads is a lexeme**, of the symbol it gives. -/
theorem lexemeAt_sound (h : lexemeAt c cs = .ok (s, n)) :
    Lexeme s ((c :: cs).take n) ((c :: cs).drop n) := by
  rcases lexemeAt_cases c cs with ⟨s', n', hp, hl⟩ | ⟨rfl, m, hs, hl⟩ | ⟨-, t, -, hl⟩ |
    ⟨hd, hl⟩ | ⟨hw, hl⟩ | ⟨-, hl⟩ <;> rw [hl] at h <;> cases h
  · obtain ⟨hkw, hsp, hlong⟩ := punctuationAt?_sound hp
    exact Lexeme.mark hkw hsp hlong
  · obtain ⟨body, r, rfl, hbq, hbn, rfl⟩ := stringAt_sound hs
    have htake : ('"' :: (body ++ '"' :: r)).take (body.length + 2) = '"' :: body ++ ['"'] := by
      simp [List.take_succ_cons, List.take_length_add_append]
    have hdrop : ('"' :: (body ++ '"' :: r)).drop (body.length + 2) = r := by
      simp [List.drop_succ_cons, List.drop_length_add_append]
    rw [htake, hdrop]
    exact Lexeme.string hbq hbn
  · exact Lexeme.number (numberLength_sound hd)
  · -- a word, which is a keyword exactly when one is spelled so
    have hlong : Longest IsWord
        ((c :: cs).take ((cs.takeWhile Text.isIdentPart).length + 1))
        ((c :: cs).drop ((cs.takeWhile Text.isIdentPart).length + 1)) := wordLength_sound hw
    cases hk : Symbol.keyword? (String.ofList
        ((c :: cs).take ((cs.takeWhile Text.isIdentPart).length + 1))) with
    | none => exact Lexeme.ident (keyword?_eq_none hk) hlong
    | some k =>
      obtain ⟨hkw, hsp⟩ := keyword?_sound hk
      exact Lexeme.keyword hkw hsp hlong

/-- A word at the front is read whole. -/
theorem wordLength_complete {x r : List Char} (h : Longest IsWord x r) (he : x ++ r = c :: cs) :
    (cs.takeWhile Text.isIdentPart).length + 1 = x.length := by
  obtain ⟨a, x', rfl⟩ : ∃ a x', x = a :: x' := List.exists_cons_of_ne_nil fun hx => by
    subst hx
    exact h.1
  obtain ⟨rfl, -⟩ := List.cons.inj he
  have hn : (cs.takeWhile Text.isIdentPart).length + 1 ≤ (a :: x' ++ r).length := by
    rw [he, List.length_cons]
    exact Nat.succ_le_succ (List.takeWhile_prefix _).length_le
  have hsound : Longest IsWord ((a :: cs).take ((cs.takeWhile Text.isIdentPart).length + 1))
      ((a :: cs).drop ((cs.takeWhile Text.isIdentPart).length + 1)) := wordLength_sound h.1.1
  rw [← he] at hsound
  exact Longest.take_length h hsound hn

theorem IsWord.head {x r : List Char} (h : IsWord x) (he : x ++ r = c :: cs) :
    Text.isIdentStart c = true := by
  cases x with
  | nil => exact h.elim
  | cons a x =>
    obtain ⟨rfl, -⟩ := List.cons.inj he
    exact h.1

theorem IsNumber.head {x r : List Char} (h : IsNumber x) (he : x ++ r = c :: cs) :
    c.isDigit = true := by
  -- both forms start with a run of digits
  obtain ⟨d, t, rfl, hd⟩ : ∃ d t, x = d ++ t ∧ Digits d := by
    cases h with
    | whole hd => exact ⟨_, [], (List.append_nil _).symm, hd⟩
    | point hd _ => exact ⟨_, _, rfl, hd⟩
  obtain ⟨a, d, rfl⟩ := List.exists_cons_of_ne_nil hd.1
  obtain ⟨rfl, -⟩ := List.cons.inj he
  exact hd.2 a List.mem_cons_self

/-- A number constant at the front is read whole. -/
theorem numberLength_complete {x r : List Char} (h : Longest IsNumber x r)
    (he : x ++ r = c :: cs) : numberLength (c :: cs) = x.length := by
  have hsound : Longest IsNumber ((c :: cs).take (numberLength (c :: cs)))
      ((c :: cs).drop (numberLength (c :: cs))) := numberLength_sound (h.1.head he)
  rw [← he] at hsound ⊢
  exact Longest.take_length h hsound (numberLength_le _)

/-- The longest mark at the front is found, as the symbol it spells. -/
theorem punctuationAt?_complete {x r : List Char} (hkw : s.isKeyword = false)
    (hsp : s.spelling? = some (String.ofList x)) (h : Longest IsMark x r) :
    punctuationAt? (x ++ r) = some (s, x.length) := by
  cases hp : punctuationAt? (x ++ r) with
  | none => exact absurd h.1 (punctuationAt?_eq_none hp x (List.prefix_append x r))
  | some sn =>
    obtain ⟨s', n⟩ := sn
    obtain ⟨hkw', hsp', hlong⟩ := punctuationAt?_sound hp
    obtain rfl := Longest.take_length h hlong (punctuationAt?_length hp).2
    rw [List.take_left] at hsp'
    -- one spelling, one mark
    have hs : (String.ofList x, s) ∈ Symbol.marks := mem_marks.2 ⟨hkw, hsp⟩
    have hs' : (String.ofList x, s') ∈ Symbol.marks := mem_marks.2 ⟨hkw', hsp'⟩
    rw [marks_unique hs hs']

/-- **The lexer reads every lexeme** whole, as its symbol. -/
theorem lexemeAt_complete {x r : List Char} (h : Lexeme s x r) (he : x ++ r = c :: cs) :
    lexemeAt c cs = .ok (s, x.length) := by
  cases h with
  | mark hkw hsp hlong =>
    rw [lexemeAt_of_punctuation (he ▸ punctuationAt?_complete hkw hsp hlong)]
  | keyword hkw hsp hlong =>
    rw [lexemeAt_word (hlong.1.head he), wordLength_complete hlong he, ← he, List.take_left,
      keyword?_complete hkw hsp]
    rfl
  | ident hno hlong =>
    rw [lexemeAt_word (hlong.1.head he), wordLength_complete hlong he, ← he, List.take_left]
    cases hk : Symbol.keyword? (String.ofList x) with
    | none => rfl
    | some k =>
      obtain ⟨hkw, hsp⟩ := keyword?_sound hk
      exact absurd hsp (hno k hkw)
  | number hlong =>
    rw [lexemeAt_number (hlong.1.head he), numberLength_complete hlong he]
  | @string body _ hbq hbn =>
    have he' : '"' :: (body ++ '"' :: r) = c :: cs := by simpa using he
    obtain ⟨rfl, rfl⟩ := List.cons.inj he'
    rw [lexemeAt_string (stringAt_complete hbq hbn)]
    simp

/-- **Where the lexer faults, no lexeme starts**, and the fault says why. -/
theorem lexemeAt_fault_sound (h : lexemeAt c cs = .error f) : Stuck (c :: cs) f := by
  rcases lexemeAt_cases c cs with ⟨s', n', -, hl⟩ | ⟨-, m, -, hl⟩ | ⟨rfl, t, hs, hl⟩ |
    ⟨-, hl⟩ | ⟨-, hl⟩ | ⟨hq, hl⟩ <;> rw [hl] at h <;> cases h
  · obtain ⟨hno, rfl⟩ := stringAt_fault_sound hs
    exact Stuck.unterminated hno
  · -- a lexeme here would have been read
    exact Stuck.unexpected hq fun s' x r' he hx => by
      rw [lexemeAt_complete hx he] at hl
      cases hl

/-- **Wherever no lexeme starts, the lexer faults**, with the fault that says why. -/
theorem lexemeAt_fault_complete (h : Stuck (c :: cs) f) : lexemeAt c cs = .error f := by
  cases h with
  | unexpected hq hno =>
    cases hl : lexemeAt c cs with
    | ok sn =>
      obtain ⟨s', n'⟩ := sn
      exact absurd (lexemeAt_sound hl) (hno s' _ _ (List.take_append_drop n' _))
    | error f' =>
      cases lexemeAt_fault_sound hl with
      | unexpected => rfl
      | unterminated => exact absurd rfl hq
  | unterminated hno => exact lexemeAt_unterminated (stringAt_fault_complete hno)

end Front

/-- No lexeme is empty. -/
theorem Lexeme.ne_nil {s : Symbol} {x r : List Char} (h : Lexeme s x r) : x ≠ [] := by
  cases h with
  | mark hkw hsp _ =>
    rintro rfl
    have hm : (String.ofList [], s) ∈ Symbol.marks := mem_marks.2 ⟨hkw, hsp⟩
    have hall : Symbol.marks.all (fun p => p.1 != "") = true := by decide
    simpa using List.all_eq_true.1 hall _ hm
  | keyword _ _ hlong =>
    rintro rfl
    exact hlong.1
  | ident _ hlong =>
    rintro rfl
    exact hlong.1
  | number hlong =>
    cases hlong.1 with
    | whole hd => exact hd.1
    | point _ _ => simp
  | string => simp

end ImpSyntax.Lexer
