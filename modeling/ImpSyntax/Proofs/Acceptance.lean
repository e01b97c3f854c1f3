import Mathlib
import ImpSyntax.Proofs.Lookahead
import ImpSyntax.Proofs.TextFeed
import ImpSyntax.Proofs.Nesting

/-!
# What the check accepts, and where it stops

A check accepts exactly the feeds that give a sentence: tokens whose symbols are a statement
part and then the end of input, and a token at the one pull made after it. Nothing after
that pull matters (`check_succeeds_iff`). For a text: the lexer reads it without a fault,
and its token list is a sentence.

Whatever the outcome, the tokens the check accepts are the tokens it pulled, in order, each
once, and they start a sentence. Where it stops at a mismatch, the mismatch is at the token
the next pull gave, and no sentence starts with the accepted tokens and that one: the check
stops at the earliest token it can, neither before nor after. For a text, the accepted
tokens are a prefix of the lexer's token list, and all of it when the check accepts
(`check_terminals_earliest`).

Both rest on two statements about the statement part, from any cursor: it reads soundly
(`sound_closed`), and its lookahead decides (`decides_closed`).
-/

namespace ImpSyntax

open Outcome Cursor

/-- **The statement part is read soundly and decided by its lookahead**, from any cursor. -/
theorem statementPart_decides (c : Cursor) :
    (Check.statementPart c).1.Sound Rule.statementPart.lang c ∧
      (Check.statementPart c).1.Decides Rule.statementPart.lang [.eof] :=
  decides_closed.step .statementPart c

/-! ## Pulls -/

theorem Cursor.start_of_pull {f : Feed} {t : Token} (h : f.pull.1 = .ok t) :
    Cursor.start f = .ok ⟨t, f.pull.2⟩ := by
  unfold Cursor.start
  rcases hp : f.pull with ⟨x, f'⟩
  rw [hp] at h
  subst h
  rfl

/-- **What the feed gave to a check** that read `ws` from its first cursor, reaching `d`:
those tokens, then the lookahead of `d`. -/
theorem pulls_of_reads {f : Feed} {c d : Cursor} {ws : List Token}
    (hs : Cursor.start f = .ok c) (hr : Reads c ws d) :
    f.pulls (ws.length + 1) = ws.map .ok ++ [.ok d.look] := by
  have hanswers := hr.answers 0
  rw [Nat.add_zero] at hanswers
  rw [Cursor.pulls_of_start hs, hanswers]
  rfl

/-- The same, with the lookahead of `d` taken as well: then the answer of the pull after
it. -/
theorem pulls_of_reads_look {f : Feed} {c d : Cursor} {ws : List Token}
    (hs : Cursor.start f = .ok c) (hr : Reads c ws d) :
    f.pulls ((ws ++ [d.look]).length + 1) = (ws ++ [d.look]).map .ok ++ [d.feed.pull.1] := by
  rw [List.length_append, List.length_singleton, Cursor.pulls_of_start hs, hr.answers]
  simp [Cursor.answers, Feed.pulls_succ]

theorem Feed.pulls_of_pulls_succ {f : Feed} {n : Nat} {xs : List (Except Fault Token)}
    {x : Except Fault Token} (h : f.pulls (n + 1) = xs ++ [x]) (hn : xs.length = n) :
    f.pulls n = xs := by
  have hp : f.pulls n <+: xs ++ [x] := h ▸ f.pulls_prefix (Nat.le_succ n)
  have hp' : f.pulls n <+: xs :=
    List.prefix_of_prefix_length_le hp (List.prefix_append _ _) (by simp [hn])
  exact hp'.eq_of_length (by simp [hn])

/-- A single token read: the lookahead, and the pull after it. -/
theorem Cursor.Reads.of_singleton {c d : Cursor} {x : Token} (h : Reads c [x] d) :
    c.look = x ∧ c.feed.pull = (.ok d.look, d.feed) := by
  cases h with
  | cons hp h' =>
    cases h' with
    | nil => exact ⟨rfl, hp⟩

/-! ## No sentence past a mismatch -/

/-- **A mismatch leaves no sentence**: what was accepted, then the lookahead, starts none. -/
theorem not_viable_of_mismatch {evs : List Event} {fr : List Rule} {t : Token} {x : Expected}
    (h : (Outcome.halted evs fr (.mismatch t x)).Decides Rule.statementPart.lang [.eof]) :
    ¬ Viable ((accepted evs).map Token.symbol ++ [t.symbol]) := by
  rintro ⟨s, hs⟩
  obtain ⟨u, hu, hus⟩ := mem_sentences.1 hs
  exact h u hu .eof (List.mem_singleton_self _) (.inl ⟨s, hus⟩)

/-- **A lookahead other than the end of input after the statement part leaves no
sentence.** -/
theorem not_viable_of_done {evs : List Event} {c : Cursor}
    (h : (Outcome.done evs c).Decides Rule.statementPart.lang [.eof])
    (hne : c.look.symbol ≠ .eof) :
    ¬ Viable ((accepted evs).map Token.symbol ++ [c.look.symbol]) := by
  rintro ⟨s, hs⟩
  obtain ⟨u, hu, hus⟩ := mem_sentences.1 hs
  have hseen := h u hu .eof (List.mem_singleton_self _) (.inl ⟨s, hus⟩)
  exact hne (List.singleton_inj.1 (List.append_inj' hseen rfl).2)

/-! ## What the check accepted -/

/-- **The tokens a check accepts are the tokens it pulled**, in order, each once, and the
pull after them gave `next`. They start a sentence. A check that accepts read a whole
sentence, and that pull gave a token; a fault is that pull's answer; a mismatch is at the
token it gave, and no sentence starts with the accepted tokens and that one. -/
theorem check_pulls (f : Feed) :
    ∃ next, f.pulls ((check f).terminals.length + 1) = (check f).terminals.map .ok ++ [next] ∧
      Viable ((check f).terminals.map Token.symbol) ∧
      match (check f).halt with
      | none => (∃ t, next = .ok t) ∧ (check f).terminals.map Token.symbol ∈ sentences
      | some ⟨_, .fault e⟩ => next = .error e
      | some ⟨_, .mismatch t _⟩ =>
        next = .ok t ∧ ¬ Viable ((check f).terminals.map Token.symbol ++ [t.symbol]) := by
  have viable_nil : Viable [] :=
    viable_of_mem (by rw [List.nil_append]; exact Rule.mem_statementPart)
  rcases check_cases f with ⟨e, hs, hcheck⟩ | ⟨c, evs, c', hs, hsp, hcheck⟩ |
    ⟨c, evs, fr, cause, hs, hsp, hcheck⟩
  · -- a fault at the first pull, before anything was accepted
    rw [hcheck]
    exact ⟨.error e, Cursor.pulls_of_start_error hs, viable_nil, rfl⟩
  · -- the statement part read, then the end of input expected
    have hsd := statementPart_decides c
    rw [hsp] at hsd
    obtain ⟨⟨hr, hw⟩, hdec⟩ := hsd
    have hsent : (accepted evs).map Token.symbol ++ [Symbol.eof] ∈ sentences :=
      mem_sentences.2 ⟨_, hw, rfl⟩
    rw [hcheck]
    rcases finish_cases evs c' with ⟨heof, t, f', hp, hfin⟩ | ⟨heof, e, f', hp, hfin⟩ |
      ⟨hne, hfin⟩
    · rw [hfin]
      simp only [Run.terminals_eq, accepted_append, accepted_cons_accept,
        accepted_cons_success, accepted_nil, List.map_append, List.map_singleton, heof]
      refine ⟨.ok t, ?_, Viable.of_mem hsent, ⟨t, rfl⟩, hsent⟩
      rw [pulls_of_reads_look hs hr, hp]
      simp
    · rw [hfin]
      simp only [Run.terminals_eq, accepted_append, accepted_cons_accept, accepted_nil,
        List.map_append, List.map_singleton, heof]
      refine ⟨.error e, ?_, Viable.of_mem hsent, rfl⟩
      rw [pulls_of_reads_look hs hr, hp]
      simp
    · rw [hfin]
      simp only [Run.terminals_eq, accepted_append, accepted_cons_reject, accepted_nil,
        List.append_nil]
      refine ⟨.ok c'.look, ?_, viable_of_mem (by rwa [List.append_nil]), rfl,
        not_viable_of_done hdec hne⟩
      exact pulls_of_reads hs hr
  · -- a stop inside the statement part
    have hsd := statementPart_decides c
    rw [hsp] at hsd
    rw [hcheck]
    cases cause with
    | mismatch t x =>
      obtain ⟨⟨⟨d, hr, hd⟩, v, hv⟩, hdec⟩ := hsd
      refine ⟨.ok t, ?_, viable_of_mem hv, rfl, not_viable_of_mismatch hdec⟩
      rw [Run.terminals_eq, pulls_of_reads hs hr, hd]
    | fault e =>
      obtain ⟨⟨⟨ws, d, hws, hr, he⟩, v, hv⟩, -⟩ := hsd
      refine ⟨.error e, ?_, viable_of_mem hv, rfl⟩
      rw [Run.terminals_eq, hws, pulls_of_reads_look hs hr, he]

/-- **A check that accepts read a sentence**, and the pull after it gave a token. -/
theorem check_success_pulls {f : Feed} (h : (check f).halt = none) :
    (check f).terminals.map Token.symbol ∈ sentences ∧ ∃ t,
      f.pulls ((check f).terminals.length + 1) = (check f).terminals.map .ok ++ [.ok t] := by
  obtain ⟨next, hpulls, -, hmatch⟩ := check_pulls f
  rw [h] at hmatch
  obtain ⟨⟨t, rfl⟩, hsent⟩ := hmatch
  exact ⟨hsent, t, hpulls⟩

/-- **Reading a sentence accepts it**: from the first cursor, tokens that form a statement
part, then the end of input, and then a pull that gives a token. -/
theorem check_succeeds_of_reads {f : Feed} {c d : Cursor} {us : List Token}
    (hs : Cursor.start f = .ok c) (hus : us.map Token.symbol ∈ Rule.statementPart.lang)
    (hr : Reads c us d) (heof : d.look.symbol = .eof)
    (hpull : ∃ t f', d.feed.pull = (.ok t, f')) : (check f).halt = none := by
  obtain ⟨hsound, hdec⟩ := statementPart_decides c
  rcases check_cases f with ⟨e, hs', -⟩ | ⟨c₁, evs, c', hs', hsp, hcheck⟩ |
    ⟨c₁, evs, fr, cause, hs', hsp, hcheck⟩
  · rw [hs] at hs'
    cases hs'
  · -- the statement part agrees with the sentence, so it read exactly its statement part
    rw [hs] at hs'
    cases hs'
    rw [hsp] at hsound hdec
    have hagree := (hsound.1.agree hr).map Token.symbol
    simp only [List.map_append, List.map_singleton, heof] at hagree
    have hseen := hdec _ hus .eof (List.mem_singleton_self _) hagree
    have hlen : (accepted evs).length = us.length := by
      simpa [seen] using congrArg List.length hseen
    obtain ⟨-, rfl⟩ := hsound.1.unique hr hlen
    rw [hcheck]
    rcases finish_cases evs c' with ⟨-, -, -, -, hfin⟩ | ⟨-, e, f', hp, -⟩ | ⟨hne, -⟩
    · rw [hfin]
    · obtain ⟨t, f'', hp'⟩ := hpull
      rw [hp'] at hp
      cases hp
    · exact absurd heof hne
  · -- a stop inside the statement part would disagree with the sentence
    rw [hs] at hs'
    cases hs'
    rw [hsp] at hsound hdec
    cases cause with
    | mismatch t x =>
      obtain ⟨⟨d', hr', rfl⟩, -⟩ := hsound
      have hagree := (hr'.agree hr).map Token.symbol
      simp only [List.map_append, List.map_singleton, heof] at hagree
      exact absurd hagree (hdec _ hus .eof (List.mem_singleton_self _))
    | fault e =>
      obtain ⟨⟨ws, d', hws, hr', he⟩, -⟩ := hsound
      have hp := (hr.isPrefix hr' (hr.length_le_of_fault hr' he)).map Token.symbol
      simp only [List.map_append, List.map_singleton, heof] at hp
      refine absurd ?_ (hdec _ hus .eof (List.mem_singleton_self _))
      show _ <+: (accepted evs).map Token.symbol
      rw [hws, List.map_append, List.map_singleton]
      exact hp

/-- **A check accepts exactly the feeds that give a sentence**, then a token at the next
pull. -/
theorem check_succeeds_iff_pulls (f : Feed) :
    (check f).halt = none ↔ ∃ (ts : List Token) (t : Token), ts.map Token.symbol ∈ sentences ∧
      f.pulls (ts.length + 1) = ts.map .ok ++ [.ok t] := by
  constructor
  · intro h
    obtain ⟨hsent, t, hpulls⟩ := check_success_pulls h
    exact ⟨_, t, hsent, hpulls⟩
  · rintro ⟨ts, t, hts, hpulls⟩
    -- the sentence is a statement part, then one end of input
    obtain ⟨u, hu, hsyms⟩ := mem_sentences.1 hts
    obtain ⟨us, es, rfl, rfl, hes⟩ := List.map_eq_append_iff.1 hsyms
    obtain ⟨e, rfl, he⟩ := List.map_eq_singleton_iff.1 hes
    -- the first pull gave a token, so the check started
    have hfirst : ∃ x, f.pull.1 = .ok x := by
      obtain ⟨x, xs, hx⟩ := List.exists_cons_of_ne_nil
        (List.append_ne_nil_of_right_ne_nil us (List.cons_ne_nil e []))
      rw [Feed.pulls_succ, hx] at hpulls
      simp only [List.map_cons, List.cons_append, List.cons.injEq] at hpulls
      exact ⟨x, hpulls.1⟩
    obtain ⟨x, hx⟩ := hfirst
    have hs := Cursor.start_of_pull hx
    rw [Cursor.pulls_of_start hs] at hpulls
    have hanswers : Cursor.answers ⟨x, f.pull.2⟩ (us ++ [e]).length =
        (us ++ [e] ++ [t]).map .ok := by
      rw [hpulls]
      simp
    obtain ⟨d, hr, rfl⟩ := reads_of_answers hanswers
    obtain ⟨d₁, hr₁, hr₂⟩ := hr.split
    obtain ⟨rfl, hp⟩ := hr₂.of_singleton
    exact check_succeeds_of_reads hs hu hr₁ he ⟨_, _, hp⟩

/-- **A text is accepted exactly when it lexes without a fault and its token list is a
sentence.** -/
theorem checkText_succeeds_iff (s : String) :
    (checkText s).halt = none ↔
      (lex s).toList.2 = none ∧ (lex s).toList.1.map Token.symbol ∈ sentences := by
  have hl := lex_wellEnded s
  rw [checkText, check_succeeds_iff_pulls]
  constructor
  · rintro ⟨ts, t, hts, hpulls⟩
    have hprefix := Feed.pulls_of_pulls_succ hpulls (by simp)
    rcases hl.prefix_of_pulls (Viable.of_mem hts).eof_not_mem_dropLast hprefix with hp | hto
    · exact absurd hp (hl.not_prefix_of_sentence hts)
    · rw [hto]
      exact ⟨rfl, hts⟩
  · rintro ⟨hnone, hsent⟩
    -- without a fault the lexer ended at a token
    obtain ⟨t, hstop⟩ : ∃ t, (lex s).stop = .ok t := by
      unfold Lexing.toList at hnone
      split at hnone
      · exact ⟨_, ‹_›⟩
      · cases hnone
    exact ⟨_, t, hsent, hl.pulls_toList hstop⟩

/-- **The tokens a text's check accepts** are a prefix of the lexer's token list, and all
of it when the check accepts. -/
theorem checkText_terminals (s : String) :
    (checkText s).terminals <+: (lex s).toList.1 ∧
      ((checkText s).halt = none → (checkText s).terminals = (lex s).toList.1) := by
  have hl := lex_wellEnded s
  obtain ⟨next, hpulls, hv, -⟩ := check_pulls (Feed.ofText s)
  have hprefix := Feed.pulls_of_pulls_succ hpulls (by simp)
  rcases hl.prefix_of_pulls hv.eof_not_mem_dropLast hprefix with hp | hto
  · refine ⟨hp.trans (Lexing.tokens_prefix _), fun hnone => ?_⟩
    exact absurd hp (hl.not_prefix_of_sentence (check_success_pulls hnone).1)
  · rw [hto]
    exact ⟨List.prefix_refl _, fun _ => rfl⟩

/-- **A check accepts exactly a sentence.** A feed is accepted exactly when it gives the
tokens of a sentence (a statement part, then the end of input) and a token at the one pull
after them; nothing after that pull is read. A text is accepted exactly when it lexes
without a fault and its token list is a sentence. -/
theorem check_succeeds_iff (f : Feed) (s : String) :
    ((check f).halt = none ↔ ∃ (ts : List Token) (t : Token), ts.map Token.symbol ∈ sentences ∧
        f.pulls (ts.length + 1) = ts.map .ok ++ [.ok t]) ∧
      ((checkText s).halt = none ↔
        (lex s).toList.2 = none ∧ (lex s).toList.1.map Token.symbol ∈ sentences) :=
  ⟨check_succeeds_iff_pulls f, checkText_succeeds_iff s⟩

/-- **The check stops at the earliest token it can.** The tokens it accepts are the first
tokens the feed gave, in order, each once, and they start a sentence; the pull after them
gave `next`. A check that accepts read a whole sentence. A fault is the answer of that
pull. A mismatch is at the token that pull gave, and no sentence starts with the accepted
tokens and that one. For a text, the accepted tokens are a prefix of the lexer's token
list, and all of it when the check accepts. -/
theorem check_terminals_earliest (f : Feed) (s : String) :
    (∃ next, f.pulls ((check f).terminals.length + 1) = (check f).terminals.map .ok ++ [next] ∧
      Viable ((check f).terminals.map Token.symbol) ∧
      match (check f).halt with
      | none => (∃ t, next = .ok t) ∧ (check f).terminals.map Token.symbol ∈ sentences
      | some ⟨_, .fault e⟩ => next = .error e
      | some ⟨_, .mismatch t _⟩ =>
        next = .ok t ∧ ¬ Viable ((check f).terminals.map Token.symbol ++ [t.symbol])) ∧
      (checkText s).terminals <+: (lex s).toList.1 ∧
      ((checkText s).halt = none → (checkText s).terminals = (lex s).toList.1) :=
  ⟨check_pulls f, checkText_terminals s⟩

end ImpSyntax
