import Mathlib
import ImpSyntax.Proofs.Places
import ImpSyntax.Proofs.Acceptance
import ImpSyntax.Cli.Commands
import ImpSyntax.Proofs.Snippet

/-!
# What a caret snippet shows

A check of a text that stops at a syntax error or a lexical error is reported with a chain,
and with a caret snippet at the place of the chain's innermost link: the token found at a
mismatch, or the lexical error. The main statement, `checkText_error_snippet`, says the
snippet shows what is at fault. Its first line is the line of the text that holds the
offending input, and the input starts there at the caret's column. At the end of input
the offending text is empty, and the caret stands just past the last line, which is empty
when the text ends with a line feed.

Two pictures of a place meet here. The lexer counts places as it goes (`Pos.past`), and
the snippet's search by offsets reads a line of the whole text split at line feeds
(`Source.lineAt_eq_lines`). `Source.lines_drop_past` joins them. Split at line feeds, `pre ++ rest` holds from line
number `(Pos.origin.past pre).line` on a line made of what follows the last line feed of
`pre` and the first line of `rest`. The column is one past the length of that part of
`pre`. The lexer's invariant (`lex_placed`) gives every token and fault such a `pre`, and
the check stops only at what the feed of the text answered.
-/

namespace ImpSyntax

namespace Source

/-! ## Places in a text and its lines -/

/-- **The place after `pre` is on the line that ends `pre` and goes on into `rest`**: from
line number `(Pos.origin.past pre).line` on, the lines of `pre ++ rest` are what follows the
last line feed of `pre` joined to the first line of `rest`, then the other lines of `rest`;
the column is one past the length of that part of `pre`. -/
theorem lines_drop_past (pre rest : List Char) :
    ∃ front, 1 ≤ (Pos.origin.past pre).line ∧ (Pos.origin.past pre).col = front.length + 1 ∧
      (lines (pre ++ rest)).drop ((Pos.origin.past pre).line - 1).toNat =
        (front ++ (lines rest).headD []) :: (lines rest).tail := by
  -- induction from the end of `pre`, the way the lexer moves its place
  induction pre using List.reverseRecOn generalizing rest with
  | nil =>
    obtain ⟨l, ls, h⟩ := List.exists_cons_of_ne_nil (lines_ne_nil rest)
    exact ⟨[], by simp [Pos.origin], by simp [Pos.origin], by simp [Pos.origin, h]⟩
  | append_singleton pre c ih =>
    obtain ⟨front, hline, hcol, hdrop⟩ := ih (c :: rest)
    rw [List.append_assoc, List.singleton_append, Pos.past_append, Pos.past_cons, Pos.past_nil]
    by_cases hc : c = '\n'
    · -- a line feed: the next line starts, at column 1
      subst hc
      rw [lines_cons_newline] at hdrop
      obtain ⟨l, ls, h⟩ := List.exists_cons_of_ne_nil (lines_ne_nil rest)
      refine ⟨[], ?_, ?_, ?_⟩
      · simp [Pos.next]; omega
      · simp [Pos.next]
      · have hk : ((Pos.origin.past pre).next '\n').line - 1 =
            ((Pos.origin.past pre).line - 1) + 1 := by simp [Pos.next]
        rw [hk, Int.toNat_add (by omega) (by omega), Int.toNat_one, ← List.drop_drop, hdrop]
        simp [h]
    · -- any other character: the same line, one column on
      rw [lines_cons_of_ne hc] at hdrop
      refine ⟨front ++ [c], ?_, ?_, ?_⟩
      · simpa [Pos.next, hc] using hline
      · simp [Pos.next, hc, hcol]
      · simpa [Pos.next, hc] using hdrop

/-- **The line shown at the place after `pre`** is the line that ends `pre` and goes on into
`rest`. -/
theorem lineAt_past {src : String} {pre rest : List Char} (h : src.toList = pre ++ rest) :
    ∃ front, 1 ≤ (Pos.origin.past pre).line ∧ 1 ≤ (Pos.origin.past pre).col ∧
      (Pos.origin.past pre).col = front.length + 1 ∧
      (lineAt src (Pos.origin.past pre).line).toList = front ++ (lines rest).headD [] ∧
      (lines src.toList).drop ((Pos.origin.past pre).line - 1).toNat =
        (front ++ (lines rest).headD []) :: (lines rest).tail := by
  obtain ⟨front, hline, hcol, hdrop⟩ := lines_drop_past pre rest
  rw [← h] at hdrop
  have hlen : ((Pos.origin.past pre).line - 1).toNat < (lines src.toList).length := by
    by_contra hge
    rw [List.drop_eq_nil_iff.2 (by omega)] at hdrop
    cases hdrop
  refine ⟨front, hline, by omega, hcol, ?_, hdrop⟩
  rw [lineAt_eq_drop hline hlen, hdrop]
  rfl

/-! ## What a snippet shows -/

/-- **The snippet at `p` shows `x` under its caret**: the snippet is a line `L`, a line feed
and the caret line, with the caret after `p.col - 1` spaces. `L` holds no line feed: it is
line number `p.line` of the source, counted from 1, and it holds `x` from column `p.col`
on. -/
def ShowsAt (src : String) (p : Pos) (x : String) : Prop :=
  ∃ L : String, snippet src p.line p.col =
      L ++ "\n" ++ String.ofList (List.replicate (p.col - 1).toNat ' ') ++ "^" ∧
    '\n' ∉ L.toList ∧ 1 ≤ p.line ∧ (lines src.toList)[(p.line - 1).toNat]? = some L.toList ∧
    1 ≤ p.col ∧ (p.col - 1).toNat ≤ L.length ∧
    (L.toList.drop (p.col - 1).toNat).take x.length = x.toList

/-- **The snippet at `p` shows the end of the source**: its line is the last line of the
source, and the caret stands just past it. -/
def ShowsEnd (src : String) (p : Pos) : Prop :=
  (lines src.toList).getLast? = some (lineAt src p.line).toList ∧
    (p.col - 1).toNat = (lineAt src p.line).length

/-- **Input that stands on one line at a place is shown there.** -/
theorem showsAt_of_standsAt {src : String} {p : Pos} {x : String}
    (h : StandsAt src.toList p x.toList) : ShowsAt src p x := by
  obtain ⟨pre, post, hsrc, rfl, hx⟩ := h
  obtain ⟨front, hline1, hcol1, hcol, hline, hdrop⟩ :=
    lineAt_past (hsrc.trans (List.append_assoc ..))
  -- the line shown is `front`, then `x`, then what follows `x` up to the next line feed
  have hshown : (lineAt src (Pos.origin.past pre).line).toList =
      front ++ x.toList ++ (lines post).headD [] := by
    rw [hline, lines_append_of_line hx, List.headD_cons, List.append_assoc]
  have hk : ((Pos.origin.past pre).col - 1).toNat = front.length := by omega
  refine ⟨_, rfl, newline_not_mem_lineAt src _, hline1, ?_, hcol1, ?_, ?_⟩
  · rw [← List.head?_drop, hdrop, hline]
    rfl
  · rw [hk, ← String.length_toList, hshown]
    simp
  · rw [hk, hshown, ← String.length_toList]
    simp

/-- **The snippet at the end of a source shows its end.** -/
theorem showsEnd_past (src : String) : ShowsEnd src (Pos.origin.past src.toList) := by
  obtain ⟨front, -, -, hcol, hline, hdrop⟩ := lineAt_past (List.append_nil src.toList).symm
  simp only [lines, List.headD_cons, List.append_nil, List.tail_cons] at hline hdrop
  refine ⟨?_, ?_⟩
  · rw [hline]
    have := congrArg List.getLast? hdrop
    rw [List.getLast?_drop] at this
    split at this
    · cases this
    · exact this
  · rw [← String.length_toList, hline]
    omega

end Source

/-! ## The innermost link of a chain -/

theorem getLast?_mismatchChain (source : String) (frames : List Rule) (t : Token)
    (x : Expected) :
    (Halt.mismatchChain source frames t x).getLast? =
      some (.parse (syntaxMessage source t.line x.text t.found) (some t) t.line) := by
  simp [Halt.mismatchChain]

theorem getLast?_lexicalChain (source : String) (frames : List Rule) (e : LexError) :
    (Halt.lexicalChain source frames e).getLast? = some (.lexical e) := by
  simp [Halt.lexicalChain]

/-- **The report of a syntax error ends with the snippet at its innermost link's place.** -/
theorem getLast?_syntaxErrorLines {chain : List Link} (p : Pos)
    (h : chain.getLast?.bind Link.place? = some p) (src : String) (b : Bool) :
    (Cli.syntaxErrorLines chain src b).getLast? = some (Source.snippet src p.line p.col) := by
  simp [Cli.syntaxErrorLines, h]

/-! ## Where a failing check of a text stops -/

/-- **A check of a text stops at what the lexer read**: at a mismatch, the token found is
placed in the text; at a fault, the fault is a lexical error of the lexer, placed in the
text. -/
theorem checkText_halt_placed {s : String} {h : Halt} (hh : (checkText s).halt = some h) :
    (∃ t x, h.cause = .mismatch t x ∧ Source.Placed s.toList (.ok t)) ∨
      ∃ e, h.cause = .fault (.lexical e) ∧ Source.Placed s.toList (.error e) := by
  obtain ⟨next, hpulls, -, hcause⟩ := check_pulls (Feed.ofText s)
  -- the check stops at the answer of the pull after what it accepted
  have hnext : next ∈ (Feed.ofText s).pulls ((check (Feed.ofText s)).terminals.length + 1) := by
    rw [hpulls]
    simp
  obtain ⟨y, hy, rfl⟩ := Feed.ofText_pulls_placed hnext
  change (check (Feed.ofText s)).halt = some h at hh
  rw [hh] at hcause
  obtain ⟨frames, cause⟩ := h
  cases cause with
  | mismatch t x =>
    obtain ⟨hy', -⟩ := hcause
    cases y with
    | ok t' =>
      cases hy'
      exact .inl ⟨_, x, rfl, hy⟩
    | error e => cases hy'
  | fault f =>
    cases y with
    | ok t' => cases hcause
    | error e =>
      cases hcause
      exact .inr ⟨e, rfl, hy⟩

/-- **A failing check of a text is reported with a snippet that shows what is at fault.**
The failure is a chain, whose innermost link points at the token found at a mismatch or at
the lexical error. The report ends with the snippet at its place, and the snippet's first
line holds the token's text, or the offending text of the lexical error, from the caret's
column on. At the end of input the text is empty, and the caret stands just past the last
line of the text. -/
theorem checkText_error_snippet (s source : String) (b : Bool) {h : Halt}
    (hh : (checkText s).halt = some h) :
    ∃ chain, h.failure source = .rejected chain ∧
      match chain.getLast? with
      | some (.parse _ (some t) _) =>
        (Cli.syntaxErrorLines chain s b).getLast? = some (Source.snippet s t.line t.col) ∧
          Source.ShowsAt s t.pos t.text ∧
          (t.symbol = .eof → t.text = "" ∧ Source.ShowsEnd s t.pos)
      | some (.lexical e) =>
        (Cli.syntaxErrorLines chain s b).getLast? = some (Source.snippet s e.line e.col) ∧
          Source.ShowsAt s ⟨e.line, e.col⟩ e.text
      | _ => False := by
  rcases checkText_halt_placed hh with ⟨t, x, hc, hstands, heof⟩ | ⟨e, hc, hstands⟩
  · -- a mismatch: the innermost link points at the token found
    refine ⟨Halt.mismatchChain source h.frames t x, by simp [Halt.failure, hc], ?_⟩
    rw [getLast?_mismatchChain]
    refine ⟨getLast?_syntaxErrorLines t.pos
      (by simp [getLast?_mismatchChain, Link.place?]) s b,
      Source.showsAt_of_standsAt hstands, fun hsym => ?_⟩
    obtain ⟨htext, hpos⟩ := heof hsym
    exact ⟨htext, hpos ▸ Source.showsEnd_past s⟩
  · -- a lexical error: the innermost link is the error itself
    refine ⟨Halt.lexicalChain source h.frames e, by simp [Halt.failure, hc], ?_⟩
    rw [getLast?_lexicalChain]
    exact ⟨getLast?_syntaxErrorLines ⟨e.line, e.col⟩
      (by simp [getLast?_lexicalChain, Link.place?]) s b,
      Source.showsAt_of_standsAt hstands⟩

/-- A program cut off after a `+` stops at the end of input, which stands at the start of
the empty line after the last line feed. -/
theorem cutOffSum_error_snippet :
    (checkText "begin\n  y := x +\n").halt = some ⟨[.statementPart, .statementList, .statement,
      .assignment, .expression, .term, .factor], .mismatch ⟨.eof, "", 3, 1⟩ .factor⟩ ∧
    ∃ chain, Halt.failure "sum.prog" ⟨[.statementPart, .statementList, .statement,
      .assignment, .expression, .term, .factor], .mismatch ⟨.eof, "", 3, 1⟩ .factor⟩ =
        .rejected chain ∧
      match chain.getLast? with
      | some (.parse _ (some t) _) =>
        (Cli.syntaxErrorLines chain "begin\n  y := x +\n" false).getLast? =
            some (Source.snippet "begin\n  y := x +\n" t.line t.col) ∧
          Source.ShowsAt "begin\n  y := x +\n" t.pos t.text ∧
          (t.symbol = .eof → t.text = "" ∧ Source.ShowsEnd "begin\n  y := x +\n" t.pos)
      | some (.lexical e) =>
        (Cli.syntaxErrorLines chain "begin\n  y := x +\n" false).getLast? =
            some (Source.snippet "begin\n  y := x +\n" e.line e.col) ∧
          Source.ShowsAt "begin\n  y := x +\n" ⟨e.line, e.col⟩ e.text
      | _ => False := by
  have hh : (checkText "begin\n  y := x +\n").halt = some ⟨[.statementPart, .statementList,
      .statement, .assignment, .expression, .term, .factor], .mismatch ⟨.eof, "", 3, 1⟩ .factor⟩ := by
    decide +kernel
  exact ⟨hh, checkText_error_snippet _ "sum.prog" false hh⟩

end ImpSyntax
