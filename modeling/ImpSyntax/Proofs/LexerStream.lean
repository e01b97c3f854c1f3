import Mathlib
import ImpSyntax.Proofs.TextFeed

/-!
# The lexer as a cursor over its stream

What a lexer has left to give is a stream (`Lexer.stream`): the tokens up to the end of
input, which then repeats forever, or the tokens up to a fault, which then recurs on every
read. Every call on a lexer acts on that stream as a cursor would (`Lexer.call_refines`):
taking the next token gives the head of the stream and drops it, looking at it gives the
head and keeps it, binding a new text starts the stream of that text, and reading the rest
gives the whole stream and leaves only its end. A fault is therefore sticky: it is the head
of the stream until the next reset, and a read meets it again at the same place, since the
gap in front of it is already skipped (`Lexer.gapLength_drop`).

Over any sequence of calls, a lexer started on a text answers what the cursor over the
stream of that text answers (`Lexer.replies_eq_of_coherent`).
-/

namespace ImpSyntax

namespace Lexing

/-- **The head of a stream**: its first token, or how it ends. -/
def head (l : Lexing) : Except LexError Token :=
  match l.tokens with
  | t :: _ => .ok t
  | [] => l.stop

/-- **The stream after its head**; at its end, the same stream. -/
def tail (l : Lexing) : Lexing :=
  match l.tokens with
  | _ :: ts => ⟨ts, l.stop⟩
  | [] => l

@[simp] theorem head_cons (t : Token) (ts : List Token) (e : Except LexError Token) :
    head ⟨t :: ts, e⟩ = .ok t := rfl

@[simp] theorem head_nil (e : Except LexError Token) : head ⟨[], e⟩ = e := rfl

@[simp] theorem tail_cons (t : Token) (ts : List Token) (e : Except LexError Token) :
    tail ⟨t :: ts, e⟩ = ⟨ts, e⟩ := rfl

@[simp] theorem tail_nil (e : Except LexError Token) : tail ⟨[], e⟩ = ⟨[], e⟩ := rfl

end Lexing

/-- **The stream of a text** read from place `p`. -/
def lexAt (s : String) (p : Pos) : Lexing := (Lexer.start s p).drain.1

namespace Lexer

/-! ## Skipping the gap once is enough -/

/-- **After a gap there is no gap**: what is left once the gap in front of a text is
skipped starts with a lexeme or is empty, whether or not a comment was open. -/
theorem gapLength_drop (b : Bool) (cs : List Char) :
    gapLength false (cs.drop (gapLength b cs)) = 0 := by
  induction cs generalizing b with
  | nil => simp [gapLength]
  | cons c cs ih =>
    by_cases h₁ : (b && c != '\n') = true
    · have hg : gapLength b (c :: cs) = gapLength true cs + 1 := by rw [gapLength, if_pos h₁]
      rw [hg, List.drop_succ_cons]
      exact ih true
    by_cases h₂ : isBlank c = true
    · have hg : gapLength b (c :: cs) = gapLength false cs + 1 := by
        rw [gapLength, if_neg h₁, if_pos h₂]
      rw [hg, List.drop_succ_cons]
      exact ih false
    by_cases h₃ : (c == '-' && cs.head? == some '-') = true
    · have hg : gapLength b (c :: cs) = gapLength true cs + 1 := by
        rw [gapLength, if_neg h₁, if_neg h₂, if_pos h₃]
      rw [hg, List.drop_succ_cons]
      exact ih true
    -- the gap was empty, and the same tests find none without a comment open
    have hg : gapLength b (c :: cs) = 0 := by rw [gapLength, if_neg h₁, if_neg h₂, if_neg h₃]
    rw [hg, List.drop_zero]
    simp [gapLength, h₂, h₃]

/-! ## One read -/

variable {lx lx' : Lexer} {t : Token} {e : LexError}

/-- A read that gives the end of input is at the end of the text, and gives it again. -/
theorem read_again_of_eof (h : lx.read = (.ok t, lx')) (ht : t.symbol = .eof) :
    lx'.read = (.ok t, lx') := by
  unfold read at h
  dsimp only at h
  split at h
  · simp only [Prod.mk.injEq, Except.ok.injEq] at h
    obtain ⟨rfl, rfl⟩ := h
    rfl
  · split at h
    · simp at h
    · rename_i s n hl
      simp only [Prod.mk.injEq, Except.ok.injEq] at h
      obtain ⟨rfl, -⟩ := h
      exact absurd ht (lexemeAt_ne_eof hl)

/-- **A fault recurs**: the lexer stops in front of the offending character, past the gap,
so reading again meets the same fault at the same place. -/
theorem read_again_of_error (h : lx.read = (.error e, lx')) : lx'.read = (.error e, lx') := by
  unfold read at h
  dsimp only at h
  split at h
  · simp at h
  · rename_i c cs hd
    split at h
    · rename_i f hf
      simp only [Prod.mk.injEq, Except.error.injEq] at h
      obtain ⟨rfl, rfl⟩ := h
      -- nothing is skipped in front of the offending character
      have hgap : gapLength false (c :: cs) = 0 := hd ▸ gapLength_drop false lx.rest
      unfold read
      simp only [hgap, List.take_zero, Pos.past_nil, List.drop_zero, hf]
    · simp at h

theorem read_ahead_none (h : lx.read = (x, lx')) : lx'.ahead = none := by
  have := read_ahead lx
  rwa [h] at this

/-! ## Draining -/

theorem drainText_of_error (h : lx.read = (.error e, lx')) :
    lx.drainText = (⟨[], .error e⟩, lx') := by
  rw [drainText]
  split
  · rename_i e' lx'' h'
    rw [h] at h'
    simp only [Prod.mk.injEq, Except.error.injEq] at h'
    obtain ⟨rfl, rfl⟩ := h'
    rfl
  · rename_i t' lx'' h'
    rw [h] at h'
    simp at h'

theorem drainText_of_eof (h : lx.read = (.ok t, lx')) (ht : t.symbol = .eof) :
    lx.drainText = (⟨[], .ok t⟩, lx') := by
  rw [drainText]
  split
  · rename_i e' lx'' h'
    rw [h] at h'
    simp at h'
  · rename_i t' lx'' h'
    rw [h] at h'
    simp only [Prod.mk.injEq, Except.ok.injEq] at h'
    obtain ⟨rfl, rfl⟩ := h'
    simp [ht]

theorem drainText_of_token (h : lx.read = (.ok t, lx')) (ht : t.symbol ≠ .eof) :
    lx.drainText = (⟨t :: lx'.drainText.1.tokens, lx'.drainText.1.stop⟩, lx'.drainText.2) := by
  rw [drainText]
  split
  · rename_i e' lx'' h'
    rw [h] at h'
    simp at h'
  · rename_i t' lx'' h'
    rw [h] at h'
    simp only [Prod.mk.injEq, Except.ok.injEq] at h'
    obtain ⟨rfl, rfl⟩ := h'
    simp [ht]

/-- **Draining leaves only the end**: the lexer after the rest of a text has nothing read
ahead, and what it has left is the end of the stream. -/
theorem drainText_end (lx : Lexer) :
    lx.drainText.2.ahead = none ∧ lx.drainText.2.drainText.1 = ⟨[], lx.drainText.1.stop⟩ := by
  fun_induction drainText lx with
  | case1 lx e lx' h =>
    exact ⟨read_ahead_none h, by rw [drainText_of_error (read_again_of_error h)]⟩
  | case2 lx t lx' h ht =>
    exact ⟨read_ahead_none h, by rw [drainText_of_eof (read_again_of_eof h ht) ht]⟩
  | case3 lx t lx' h ht r ih => exact ih

/-! ## The stream of a lexer -/

/-- **What a lexer has left to give**: the token read ahead, then the rest of its text. -/
def stream (lx : Lexer) : Lexing := lx.drain.1

theorem stream_of_none (h : lx.ahead = none) : lx.stream = lx.drainText.1 := by
  rw [stream, drain, h]

/-- **A read takes the head of the stream** of a lexer with nothing read ahead. -/
theorem read_refines (h : lx.ahead = none) :
    lx.read.1 = lx.stream.head ∧ lx.read.2.stream = lx.stream.tail ∧ lx.read.2.ahead = none := by
  rw [stream_of_none h]
  rcases hr : lx.read with ⟨_ | t, lx'⟩
  · rename_i e
    have hnone := read_ahead_none hr
    rw [drainText_of_error hr, stream_of_none hnone, drainText_of_error (read_again_of_error hr)]
    exact ⟨rfl, rfl, hnone⟩
  · have hnone := read_ahead_none hr
    by_cases ht : t.symbol = .eof
    · rw [drainText_of_eof hr ht, stream_of_none hnone,
        drainText_of_eof (read_again_of_eof hr ht) ht]
      exact ⟨rfl, rfl, hnone⟩
    · rw [drainText_of_token hr ht, stream_of_none hnone]
      exact ⟨rfl, rfl, hnone⟩

/-- **A coherent lexer**: an end of input read ahead is what its text gives next. Every
lexer a caller can reach is coherent. -/
def Coherent (lx : Lexer) : Prop := ∀ t, lx.ahead = some t → t.symbol = .eof → lx.read.1 = .ok t

theorem coherent_of_none (h : lx.ahead = none) : lx.Coherent := by
  intro t ht
  rw [h] at ht
  cases ht

/-- A token read ahead, other than the end of input, comes before the rest of the text. -/
theorem stream_of_ahead (h : lx.ahead = some t) (ht : t.symbol ≠ .eof) :
    lx.stream = ⟨t :: ({ lx with ahead := none } : Lexer).stream.tokens,
      ({ lx with ahead := none } : Lexer).stream.stop⟩ := by
  rw [stream, drain, h, stream_of_none rfl]
  simp [ht]

/-- An end of input read ahead is the end of the stream. -/
theorem stream_of_ahead_eof (h : lx.ahead = some t) (ht : t.symbol = .eof) :
    lx.stream = ⟨[], .ok t⟩ := by
  rw [stream, drain, h]
  simp [ht]

/-- Behind an end of input read ahead, a coherent lexer's text gives the same end. -/
theorem stream_behind_eof (h : lx.ahead = some t) (ht : t.symbol = .eof) (hc : lx.Coherent) :
    ({ lx with ahead := none } : Lexer).stream = ⟨[], .ok t⟩ := by
  obtain ⟨lx', hr⟩ : ∃ lx', ({ lx with ahead := none } : Lexer).read = (.ok t, lx') :=
    ⟨_, Prod.ext (hc t h ht) rfl⟩
  rw [stream_of_none rfl, drainText_of_eof hr ht]

/-! ## The calls -/

/-- **The calls a caller makes on a lexer**: taking the next token, looking at it, binding
a new text read from a place, and reading all that is left. -/
inductive Call where
  | next
  | peek
  | reset (s : String) (p : Pos)
  | rest

/-- **What a call answers**: a token or a fault, nothing, or the tokens to the end. -/
inductive Reply where
  | token (r : Except LexError Token)
  | reset
  | rest (l : Lexing)

/-- **A call on a lexer**, and the lexer after it. -/
def call (lx : Lexer) : Call → Reply × Lexer
  | .next => (.token lx.next.1, lx.next.2)
  | .peek => (.token lx.peek.1, lx.peek.2)
  | .reset s p => (.reset, lx.reset s p)
  | .rest => (.rest lx.drain.1, lx.drain.2)

/-- The answers of a lexer to calls made one after another. -/
def replies (lx : Lexer) : List Call → List Reply
  | [] => []
  | k :: ks => (lx.call k).1 :: (lx.call k).2.replies ks

end Lexer

namespace Lexing

/-- **A call on the cursor over a stream**: the next token is the head, dropped; a look is
the head, kept; a reset starts the stream of the new text; the rest is the whole stream,
and only its end stays. -/
def call (l : Lexing) : Lexer.Call → Lexer.Reply × Lexing
  | .next => (.token l.head, l.tail)
  | .peek => (.token l.head, l)
  | .reset s p => (.reset, lexAt s p)
  | .rest => (.rest l, ⟨[], l.stop⟩)

/-- The answers of the cursor over a stream to calls made one after another. -/
def replies (l : Lexing) : List Lexer.Call → List Lexer.Reply
  | [] => []
  | k :: ks => (l.call k).1 :: (l.call k).2.replies ks

end Lexing

namespace Lexer

variable {lx : Lexer}

theorem next_refines (hc : lx.Coherent) :
    lx.next.1 = lx.stream.head ∧ lx.next.2.stream = lx.stream.tail ∧ lx.next.2.Coherent := by
  cases ha : lx.ahead with
  | none =>
    have hnext : lx.next = lx.read := by rw [next, ha]
    obtain ⟨h₁, h₂, h₃⟩ := read_refines ha
    rw [hnext]
    exact ⟨h₁, h₂, coherent_of_none h₃⟩
  | some t =>
    have hnext : lx.next = (.ok t, { lx with ahead := none }) := by rw [next, ha]
    rw [hnext]
    refine ⟨?_, ?_, coherent_of_none rfl⟩
    all_goals by_cases ht : t.symbol = .eof
    · rw [stream_of_ahead_eof ha ht]
      rfl
    · rw [stream_of_ahead ha ht]
      rfl
    · rw [stream_of_ahead_eof ha ht, stream_behind_eof ha ht hc]
      rfl
    · rw [stream_of_ahead ha ht]
      rfl

theorem peek_refines (hc : lx.Coherent) :
    lx.peek.1 = lx.stream.head ∧ lx.peek.2.stream = lx.stream ∧ lx.peek.2.Coherent := by
  cases ha : lx.ahead with
  | none =>
    obtain ⟨h₁, h₂, h₃⟩ := read_refines ha
    rcases hr : lx.read with ⟨_ | t, lx'⟩
    · -- a fault is not kept, and the stream after it is the same fault
      rename_i e
      have hpeek : lx.peek = (.error e, lx') := by rw [peek, ha, hr]
      rw [hr] at h₁ h₂ h₃
      rw [hpeek]
      refine ⟨h₁, ?_, coherent_of_none h₃⟩
      rw [h₂, stream_of_none ha, drainText_of_error hr]
      rfl
    · -- the token is kept ahead of the rest of the text
      have hpeek : lx.peek = (.ok t, { lx' with ahead := some t }) := by rw [peek, ha, hr]
      rw [hr] at h₁ h₃
      have hbehind : ({ ({ lx' with ahead := some t } : Lexer) with ahead := none } : Lexer) =
          lx' := by
        cases lx'
        simp only at h₃
        rw [h₃]
      rw [hpeek]
      refine ⟨h₁, ?_, ?_⟩
      · rw [stream_of_none ha]
        by_cases ht : t.symbol = .eof
        · rw [stream_of_ahead_eof rfl ht, drainText_of_eof hr ht]
        · rw [stream_of_ahead rfl ht, hbehind, drainText_of_token hr ht, stream_of_none h₃]
      · intro t' ht' heof
        cases ht'
        exact congrArg Prod.fst (read_again_of_eof hr heof)
  | some t =>
    have hpeek : lx.peek = (.ok t, lx) := by rw [peek, ha]
    rw [hpeek]
    refine ⟨?_, rfl, hc⟩
    by_cases ht : t.symbol = .eof
    · rw [stream_of_ahead_eof ha ht]
      rfl
    · rw [stream_of_ahead ha ht]
      rfl

theorem drain_refines (hc : lx.Coherent) :
    lx.drain.2.stream = ⟨[], lx.stream.stop⟩ ∧ lx.drain.2.Coherent := by
  -- draining the rest of a text leaves its end
  have hend : ∀ l : Lexer, l.drainText.2.stream = ⟨[], l.drainText.1.stop⟩ ∧
      l.drainText.2.Coherent := fun l => by
    obtain ⟨hnone, hdrain⟩ := drainText_end l
    exact ⟨by rw [stream_of_none hnone, hdrain], coherent_of_none hnone⟩
  cases ha : lx.ahead with
  | none =>
    have hd : lx.drain = lx.drainText := by rw [drain, ha]
    rw [hd, stream_of_none ha]
    exact hend lx
  | some t =>
    by_cases ht : t.symbol = .eof
    · have hd : lx.drain = (⟨[], .ok t⟩, { lx with ahead := none }) := by
        rw [drain, ha]
        simp [ht]
      rw [hd, stream_of_ahead_eof ha ht]
      exact ⟨stream_behind_eof ha ht hc, coherent_of_none rfl⟩
    · have hd : lx.drain.2 = ({ lx with ahead := none } : Lexer).drainText.2 := by
        rw [drain, ha]
        simp [ht]
      rw [hd, stream_of_ahead ha ht, @stream_of_none { lx with ahead := none } rfl]
      exact hend _

/-- **Every call acts on the stream as on a cursor**, and keeps the lexer coherent. -/
theorem call_refines (hc : lx.Coherent) (k : Call) :
    (lx.call k).1 = (lx.stream.call k).1 ∧ (lx.call k).2.stream = (lx.stream.call k).2 ∧
      (lx.call k).2.Coherent := by
  cases k with
  | next =>
    obtain ⟨h₁, h₂, h₃⟩ := next_refines hc
    exact ⟨by rw [call, Lexing.call, h₁], h₂, h₃⟩
  | peek =>
    obtain ⟨h₁, h₂, h₃⟩ := peek_refines hc
    exact ⟨by rw [call, Lexing.call, h₁], h₂, h₃⟩
  | reset s p => exact ⟨rfl, rfl, coherent_of_none rfl⟩
  | rest =>
    obtain ⟨h₂, h₃⟩ := drain_refines hc
    exact ⟨rfl, h₂, h₃⟩

/-- **A coherent lexer answers every sequence of calls as the cursor over its stream.** -/
theorem replies_eq_of_coherent (hc : lx.Coherent) (ks : List Call) :
    lx.replies ks = lx.stream.replies ks := by
  induction ks generalizing lx with
  | nil => rfl
  | cons k ks ih =>
    obtain ⟨h₁, h₂, h₃⟩ := call_refines hc k
    rw [replies, Lexing.replies, h₁, ih h₃, h₂]

end Lexer

end ImpSyntax
