import Mathlib
import ImpSyntax.Report.Causes
import ImpSyntax.Report.Chain

/-!
# The chain of an error is the longest path of causes without a repeat

Following causes from an error `e` gives a sequence: `e`, its cause, its cause's cause, and
so on, until an error has no cause (`Causes.nthCause`). The chain of `e` is a start of that
sequence that lists no error twice and cannot go on without a repeat: the next error of the
sequence is none, or one the chain lists already. Every start of the sequence without a
repeat is a start of the chain, so the chain is the longest one (`prefix_errorChain`), and
it has at most one link per error, which is why the walk building it ends.

The walk keeps one invariant (`walk_spec`): what it has listed is a start of the sequence
without a repeat, and the error it looks at next is the next one of the sequence. Two
starts of one sequence agree as far as both go (`Follows.prefix`), which makes a start that
cannot go on the longest of all (`Follows.prefix_of_ends`).

The chains of the checker are of this kind: a stop raises one error per link, each from the
next one, and the text of its chain is the text of the chain of the outermost error
(`chainText_eq_formatErrorChain`).
-/

namespace ImpSyntax

namespace Causes

variable {α : Type} (g : Causes α)

/-- **The `n`-th error down the causes of `e`**: `e`, then its cause, and so on; none past an
error without a cause. -/
def nthCause (e : α) : Nat → Option α
  | 0 => some e
  | n + 1 => (nthCause e n).bind g.cause

/-- **`l` starts the causes of `e`**: its `i`-th error is the `i`-th one down the causes
of `e`. -/
def Follows (e : α) (l : List α) : Prop := ∀ i (h : i < l.length), g.nthCause e i = some l[i]

/-- **`l` cannot go on**: the next error down the causes of `e` is none, or one `l` lists. -/
def Ends (e : α) (l : List α) : Prop := ∀ a, g.nthCause e l.length = some a → a ∈ l

variable {g} {e : α}

theorem Follows.nil (e : α) : g.Follows e [] := fun _ h => absurd h (Nat.not_lt_zero _)

theorem Follows.append {l : List α} {a : α} (hl : g.Follows e l)
    (ha : g.nthCause e l.length = some a) : g.Follows e (l ++ [a]) := by
  intro i hi
  rw [List.length_append, List.length_singleton] at hi
  rcases Nat.lt_or_ge i l.length with h | h
  · rw [List.getElem_append_left h]
    exact hl i h
  · obtain rfl : i = l.length := by omega
    simpa using ha

/-- **Two starts of the causes of one error agree**: the shorter starts the longer. -/
theorem Follows.prefix {l₁ l₂ : List α} (h₁ : g.Follows e l₁) (h₂ : g.Follows e l₂)
    (hl : l₁.length ≤ l₂.length) : l₁ <+: l₂ := by
  rw [List.prefix_iff_eq_take]
  refine List.ext_getElem (by simp [hl]) fun i hi₁ hi₂ => ?_
  have hi : g.nthCause e i = some l₂[i] := h₂ i (by omega)
  rw [List.getElem_take]
  exact Option.some.inj ((h₁ i hi₁).symm.trans hi)

/-- **A start that cannot go on is the longest**: any start without a repeat is a start
of it. Were one longer, the error after the shorter would stand in the longer twice. -/
theorem Follows.prefix_of_ends {l l' : List α} (hf : g.Follows e l) (he : g.Ends e l)
    (hf' : g.Follows e l') (hn' : l'.Nodup) : l' <+: l := by
  rcases Nat.lt_or_ge l.length l'.length with hlt | hle
  · exfalso
    obtain ⟨d, rfl⟩ := hf.prefix hf' hlt.le
    have hd : l.length - l.length < d.length := by simpa using hlt
    -- the next error of the sequence is the first of `d`, and `l` lists it already
    have hnext : g.nthCause e l.length = some d[0] := by
      simpa [List.getElem_append_right] using hf' l.length hlt
    exact List.nodup_append.1 hn' |>.2.2 _ (he _ hnext) _ (List.getElem_mem (by omega)) rfl
  · exact hf'.prefix hf hle

variable [DecidableEq α]

/-- **What the walk keeps**: started after a start of the causes of `e` without a repeat and
looking at the next error of the sequence, it lists a start without a repeat that cannot
go on. -/
theorem walk_spec {chain : List α} {cur : Option α} (hf : g.Follows e chain)
    (hn : chain.Nodup) (hcur : g.nthCause e chain.length = cur) :
    g.Follows e (g.walk chain cur) ∧ (g.walk chain cur).Nodup ∧
      g.Ends e (g.walk chain cur) := by
  fun_induction g.walk chain cur with
  | case1 chain =>
    -- no next error
    exact ⟨hf, hn, fun a ha => by simp [hcur] at ha⟩
  | case2 chain cur hmem =>
    -- the next error is listed already
    refine ⟨hf, hn, fun a ha => ?_⟩
    rw [hcur, Option.some.injEq] at ha
    exact ha ▸ hmem
  | case3 chain cur hmem ih =>
    refine ih (hf.append hcur) (List.nodup_append.2 ⟨hn, List.nodup_singleton cur, ?_⟩) ?_
    · simp only [List.mem_singleton]
      intro a ha b hb hab
      exact hmem (hb ▸ hab ▸ ha)
    · rw [List.length_append, List.length_singleton, nthCause, hcur, Option.bind_some]

theorem errorChain_spec (e : α) :
    g.Follows e (g.errorChain e) ∧ (g.errorChain e).Nodup ∧ g.Ends e (g.errorChain e) :=
  walk_spec (Follows.nil e) List.nodup_nil rfl

/-- **No start of the causes without a repeat goes past the chain.** -/
theorem prefix_errorChain {l : List α} (hf : g.Follows e l) (hn : l.Nodup) :
    l <+: g.errorChain e :=
  (errorChain_spec e).1.prefix_of_ends (errorChain_spec e).2.2 hf hn

/-- **The chain is the one start of the causes without a repeat that cannot go on.** -/
theorem errorChain_eq_iff {l : List α} :
    g.errorChain e = l ↔ g.Follows e l ∧ l.Nodup ∧ g.Ends e l := by
  constructor
  · rintro rfl
    exact errorChain_spec e
  · rintro ⟨hf, hn, he⟩
    have hc := errorChain_spec (g := g) e
    exact (hf.prefix_of_ends he hc.1 hc.2.1).eq_of_length
      (Nat.le_antisymm (hf.prefix_of_ends he hc.1 hc.2.1).length_le
        (prefix_errorChain hf hn).length_le)

/-- **The chain of an error is the longest start of its causes without a repeat.** It
follows the causes from `e`, lists no error twice and stops at an error without a cause or
just before one it lists already; every start of the causes without a repeat is a start of
it. It has at most one link per error, its last link is the innermost error, and its text
is the text of its links, one per line, in order or from the innermost. -/
theorem errorChain_longest (g : Causes α) (e : α) (text : α → String) :
    (g.Follows e (g.errorChain e) ∧ (g.errorChain e).Nodup ∧ g.Ends e (g.errorChain e)) ∧
    (∀ l, g.Follows e l → l.Nodup → l <+: g.errorChain e) ∧
    (g.errorChain e).length ≤ g.all.length ∧
    (g.errorChain e).getLast? = some (g.innermost e) ∧
    g.formatErrorChain text e false = "\n".intercalate ((g.errorChain e).map text) ∧
    g.formatErrorChain text e true = "\n".intercalate ((g.errorChain e).reverse.map text) := by
  have hspec := errorChain_spec (g := g) e
  refine ⟨hspec, fun l hf hn => prefix_errorChain hf hn, ?_, ?_, rfl, rfl⟩
  · -- a list without repeats of errors is no longer than the list of all errors
    exact hspec.2.1.length_le_of_subset fun a _ => g.mem_all a
  · exact List.getLast?_eq_some_getLast (g.errorChain_ne_nil e)

end Causes

namespace Link

/-- **The errors a stop raises**: one per link of its chain, each raised from the next one,
the last from none. -/
def raised (chain : List Link) : Causes (Fin chain.length) where
  cause i := if h : i.val + 1 < chain.length then some ⟨i.val + 1, h⟩ else none
  all := List.finRange chain.length
  mem_all := List.mem_finRange

theorem nthCause_raised (chain : List Link) (h : 0 < chain.length) (i : Nat) :
    (raised chain).nthCause ⟨0, h⟩ i =
      if h' : i < chain.length then some ⟨i, h'⟩ else none := by
  induction i with
  | zero => simp [Causes.nthCause, h]
  | succ i ih =>
    rw [Causes.nthCause, ih]
    by_cases hi : i < chain.length
    · simp [hi, raised]
    · have hi' : ¬ i + 1 < chain.length := by omega
      simp [hi, hi']

/-- The chain of the outermost error a stop raises is every link, in order. -/
theorem errorChain_raised (chain : List Link) (h : 0 < chain.length) :
    (raised chain).errorChain ⟨0, h⟩ = List.finRange chain.length := by
  refine Causes.errorChain_eq_iff.2 ⟨fun i hi => ?_, List.nodup_finRange _, fun a ha => ?_⟩
  · rw [List.length_finRange] at hi
    simp [nthCause_raised chain h i, hi]
  · simp [nthCause_raised chain h] at ha

end Link

/-- **The text of a chain is the text of the chain of its outermost error**, with each link
raised from the next one. -/
theorem chainText_eq_formatErrorChain (chain : List Link) (h : 0 < chain.length)
    (innermostFirst : Bool) :
    chainText chain innermostFirst =
      (Link.raised chain).formatErrorChain (fun i => chain[i].text) ⟨0, h⟩ innermostFirst := by
  have hmap : (List.finRange chain.length).map (fun i => chain[i.val].text) =
      chain.map Link.text := by
    conv_rhs => rw [← List.map_getElem_finRange chain]
    rw [List.map_map]
    rfl
  cases innermostFirst <;>
    simp [chainText, Causes.formatErrorChain, Link.errorChain_raised chain h, hmap,
      List.map_reverse]

end ImpSyntax
