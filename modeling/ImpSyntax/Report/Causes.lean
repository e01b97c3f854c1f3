/-!
# Errors raised from errors

An error may be raised from another one, its *cause*, which may have a cause of its own.
The chain of an error lists it, its cause, its cause's cause and so on, outermost first;
the innermost error is the last one listed, and a chain is shown one error per line, from
either end.

Causes are links between errors and nothing keeps them from leading back to an error met
before, so the walk stops at an error without a cause or just before one already listed.
There are finitely many errors (`Causes.all` lists every one), and that is why the walk
ends: every step lists an error that was not listed yet (`Causes.unlisted_append`).
-/

namespace ImpSyntax

/-- **Errors and their causes**: each error with the error it was raised from, if any. -/
structure Causes (α : Type) where
  /-- The error an error was raised from. -/
  cause : α → Option α
  /-- Every error there is. -/
  all : List α
  /-- No error is left out of `all`. -/
  mem_all : ∀ a, a ∈ all

namespace Causes

variable {α : Type} [DecidableEq α] (g : Causes α)

/-- The number of errors not in `chain`: how many more the walk can list. -/
def unlisted (chain : List α) : Nat := (g.all.filter fun a => a ∉ chain).length

/-- **Listing an error not listed yet leaves fewer to list.** -/
theorem unlisted_append {chain : List α} {a : α} (h : a ∉ chain) :
    g.unlisted (chain ++ [a]) < g.unlisted chain := by
  have hsplit : (g.all.filter fun x => x ∉ chain ++ [a]) =
      (g.all.filter fun x => x ∉ chain).filter fun x => x ≠ a := by
    rw [List.filter_filter]
    congr 1
    funext x
    simp [and_comm]
  rw [unlisted, unlisted, hsplit]
  exact List.length_filter_lt_length_iff_exists.2 ⟨a, by simp [h, g.mem_all a], by simp⟩

set_option linter.unusedVariables false in
/-- **Following causes** from `cur`, after the errors `chain` already listed: at no error or
at one already listed the walk stops; otherwise it lists the error and goes on with its
cause. -/
def walk (chain : List α) : Option α → List α
  | none => chain
  | some cur => if h : cur ∈ chain then chain else walk (chain ++ [cur]) (g.cause cur)
termination_by g.unlisted chain
decreasing_by exact g.unlisted_append h

/-- The walk only adds to what was listed before it. -/
theorem prefix_walk (chain : List α) (cur : Option α) : chain <+: g.walk chain cur := by
  fun_induction g.walk chain cur with
  | case1 chain => exact List.prefix_refl chain
  | case2 chain cur _ => exact List.prefix_refl chain
  | case3 chain cur _ ih => exact (List.prefix_append chain [cur]).trans ih

/-- **The chain of an error**, outermost first: the error, its cause, and so on. -/
def errorChain (e : α) : List α := g.walk [] (some e)

theorem errorChain_ne_nil (e : α) : g.errorChain e ≠ [] := by
  have h : [e] <+: g.errorChain e := by
    rw [errorChain, walk, dif_neg List.not_mem_nil]
    exact g.prefix_walk [e] (g.cause e)
  obtain ⟨rest, hrest⟩ := h
  rw [← hrest]
  exact List.cons_ne_nil e rest

/-- **The innermost error**: the last of the chain. -/
def innermost (e : α) : α := (g.errorChain e).getLast (g.errorChain_ne_nil e)

/-- **A chain as text**: each error as `text` shows it, one per line, outermost first, or
innermost first when `innermostFirst` holds. -/
def formatErrorChain (text : α → String) (e : α) (innermostFirst : Bool) : String :=
  "\n".intercalate
    ((if innermostFirst then (g.errorChain e).reverse else g.errorChain e).map text)

end Causes

end ImpSyntax
