import ImpSyntax.Args.Spec

/-!
# How many strings an argument takes

Before any argument takes strings, every string of a command line is classified as an
*option*, a plain *argument*, or the `--` that makes every later string an argument. An
argument takes strings by a pattern over these kinds: a sequence of *pieces*, each a
number of strings, between a least and a most, whose kinds lie in a set.

* A flag, help: nothing.
* A value: one argument string. A positional value may also take `--` strings around it.
* A list: one argument string, then any arguments (a positional's also `--`).
* A command: one argument string, then every string after it.

Patterns match greedily, from the front: each piece takes as many strings as it can
such that the pieces after it still match, which is the first match a backtracking
search finds when it tries the longest run first. Positionals are matched together, as
many of the leading ones as can be.
-/

namespace ImpSyntax.Args

/-- **Kinds of command-line strings.** -/
inductive Kind where
  | arg
  | opt
  | dashes
  deriving DecidableEq, Repr, Inhabited

/-- **One piece of a pattern**: between `least` and `most` (no bound when `none`) strings
whose kinds are among `kinds`. -/
structure Piece where
  kinds : List Kind
  least : Nat
  most : Option Nat
  deriving Repr, Inhabited

namespace Piece

/-- Exactly one argument string. -/
def one : Piece := ⟨[.arg], 1, some 1⟩

/-- Any number of strings of the given kinds. -/
def many (ks : List Kind) : Piece := ⟨ks, 0, none⟩

end Piece

/-- **The pattern of an argument.** Dashes are allowed around a positional's strings. -/
def Argument.pattern (a : Argument) : List Piece :=
  let core : List Piece := match a.action with
    | .flag | .help => []
    | .value => [.one]
    | .list => [.one, .many (if a.isOption then [.arg] else [.arg, .dashes])]
    | .command => [.one, .many [.arg, .opt, .dashes]]
  if a.isOption then core
  else match core with
    | [] => [.many [.dashes], .many [.dashes]]
    | [p] => [.many [.dashes], p, .many [.dashes]]
    | p :: ps => .many [.dashes] :: p :: ps

/-- **Matching pieces** at the front of `ks`: how many strings each piece takes, in the
first match of a greedy backtracking search. -/
def matchPieces : List Piece → List Kind → Option (List Nat)
  | [], _ => some []
  | p :: ps, ks =>
    let avail := (ks.takeWhile (p.kinds.contains ·)).length
    let hi := match p.most with | some m => min m avail | none => avail
    (List.range (hi + 1)).reverse.findSome? fun n =>
      if n < p.least then none else (matchPieces ps (ks.drop n)).map (n :: ·)

/-- **How many strings the pieces take together.** -/
def taken (ns : List Nat) : Nat := ns.foldr (· + ·) 0

/-- **Matching arguments one after the other**: how many strings each takes. -/
def matchArguments (as : List Argument) (ks : List Kind) : Option (List Nat) :=
  (matchPieces (as.flatMap Argument.pattern) ks).map fun ns =>
    (as.foldl (fun (acc : List Nat × List Nat) a =>
      let k := a.pattern.length
      (acc.1 ++ [taken (acc.2.take k)], acc.2.drop k)) ([], ns)).1

/-- **Matching as many of the leading positionals as can be matched**: how many strings
each of them takes; none when not even the first matches. -/
def matchLeading (as : List Argument) (ks : List Kind) : List Nat :=
  ((List.range as.length).reverse.findSome? fun i => matchArguments (as.take (i + 1)) ks).getD []

/-- **How many strings an option takes** from the front of `ks`, if its pattern matches. -/
def matchOption (a : Argument) (ks : List Kind) : Option Nat :=
  (matchPieces a.pattern ks).map taken

/-- The message when an option's pattern does not match. -/
def Argument.countError (a : Argument) : String :=
  match a.action with
  | .list => "expected at least one argument"
  | _ => "expected one argument"

example : matchLeading [⟨"files", [], .list, true, none, [], ""⟩]
    [.arg, .dashes, .arg, .opt, .arg] = [3] := by
  decide +kernel

end ImpSyntax.Args
