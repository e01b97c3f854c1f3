import Mathlib
import ImpSyntax.Report.Record

/-!
# What a check reads

A feed answers pulls one at a time; `Feed.pulls f n` lists its first `n` answers, and the
answers of a cursor are its lookahead followed by those of its feed. A cursor *reads* a list
of tokens when they are its lookahead and the tokens its feed gives next, in order; it then
stands at the cursor after them (`Cursor.Reads`).

Readings are what the statements about a check are made of: the tokens a piece of the
check accepts are a reading from the cursor it started at. Two readings from one cursor
agree as far as both go (`Reads.agree`), and no reading goes past a pull that fails
(`Reads.length_le_of_fault`).
-/

namespace ImpSyntax

/-! ## Accepted tokens -/

/-- **The tokens accepted** in a list of events, in order. -/
def accepted (evs : List Event) : List Token :=
  evs.filterMap fun e => match e with | .accept t => some t | _ => none

@[simp] theorem accepted_nil : accepted [] = [] := rfl

@[simp] theorem accepted_append (evs evs' : List Event) :
    accepted (evs ++ evs') = accepted evs ++ accepted evs' := by
  simp [accepted, List.filterMap_append]

@[simp] theorem accepted_cons_accept (t : Token) (evs : List Event) :
    accepted (.accept t :: evs) = t :: accepted evs := rfl

@[simp] theorem accepted_cons_enter (r : Rule) (evs : List Event) :
    accepted (.enter r :: evs) = accepted evs := rfl

@[simp] theorem accepted_cons_exit (r : Rule) (evs : List Event) :
    accepted (.exit r :: evs) = accepted evs := rfl

@[simp] theorem accepted_cons_reject (t : Token) (x : Expected) (evs : List Event) :
    accepted (.reject t x :: evs) = accepted evs := rfl

@[simp] theorem accepted_cons_success (evs : List Event) :
    accepted (.success :: evs) = accepted evs := rfl

@[simp] theorem accepted_exits (rs : List Rule) : accepted (rs.map Event.exit) = [] := by
  induction rs with
  | nil => rfl
  | cons r rs ih => simpa using ih

theorem Run.terminals_eq (r : Run) : r.terminals = accepted r.events := rfl

/-! ## Words that agree -/

/-- **Two lists agree** as far as both go: one starts the other. -/
def Agree {α : Type} (u v : List α) : Prop := u <+: v ∨ v <+: u

namespace Agree

variable {α β : Type} {u v u' v' w : List α}

theorem symm (h : Agree u v) : Agree v u := Or.symm h

/-- Two starts of one list agree. -/
theorem of_prefix_of_prefix (hu : u <+: w) (hv : v <+: w) : Agree u v :=
  List.prefix_or_prefix_of_prefix hu hv

/-- Starts of lists that agree agree. -/
theorem of_prefix (h : Agree u v) (hu : u' <+: u) (hv : v' <+: v) : Agree u' v' := by
  rcases h with h | h
  · exact of_prefix_of_prefix (hu.trans h) hv
  · exact of_prefix_of_prefix hu (hv.trans h)

theorem map (f : α → β) (h : Agree u v) : Agree (u.map f) (v.map f) := by
  rcases h with h | h
  · exact .inl (h.map f)
  · exact .inr (h.map f)

@[simp] theorem append_left_iff (w : List α) : Agree (w ++ u) (w ++ v) ↔ Agree u v := by
  simp only [Agree, List.prefix_append_right_inj]

theorem eq_of_length (h : Agree u v) (hl : u.length = v.length) : u = v := by
  rcases h with h | h
  · exact h.eq_of_length hl
  · exact (h.eq_of_length hl.symm).symm

theorem head_eq {a b : α} (h : Agree (a :: u) (b :: v)) : a = b := by
  rcases h with h | h
  · exact (List.cons_prefix_cons.1 h).1
  · exact (List.cons_prefix_cons.1 h).1.symm

end Agree

/-! ## Answers of a feed -/

namespace Feed

/-- **The first `n` answers** of a feed. -/
def pulls (f : Feed) : Nat → List (Except Fault Token)
  | 0 => []
  | n + 1 => f.pull.1 :: f.pull.2.pulls n

@[simp] theorem pulls_zero (f : Feed) : f.pulls 0 = [] := rfl

theorem pulls_succ (f : Feed) (n : Nat) : f.pulls (n + 1) = f.pull.1 :: f.pull.2.pulls n := rfl

@[simp] theorem length_pulls (f : Feed) (n : Nat) : (f.pulls n).length = n := by
  induction n generalizing f with
  | zero => rfl
  | succ n ih => simp [pulls_succ, ih]

/-- Fewer pulls give the first of the answers of more. -/
theorem pulls_prefix (f : Feed) {m n : Nat} (h : m ≤ n) : f.pulls m <+: f.pulls n := by
  induction m generalizing f n with
  | zero => exact List.nil_prefix
  | succ m ih =>
    obtain ⟨n, rfl⟩ : ∃ k, n = k + 1 := ⟨n - 1, by omega⟩
    rw [pulls_succ, pulls_succ]
    exact (List.prefix_cons_inj _).2 (ih f.pull.2 (show m ≤ n by omega))

end Feed

namespace Cursor

/-- **The first answers of a cursor**: its lookahead, then `n` answers of its feed. -/
def answers (c : Cursor) (n : Nat) : List (Except Fault Token) := .ok c.look :: c.feed.pulls n

/-- The first cursor of a feed answers as the feed does. -/
theorem pulls_of_start {f : Feed} {c : Cursor} (h : Cursor.start f = .ok c) (n : Nat) :
    f.pulls (n + 1) = c.answers n := by
  unfold Cursor.start at h
  split at h
  · rename_i t f' hp
    cases h
    rw [Feed.pulls_succ, hp]
    rfl
  · cases h

/-- A fault on the first pull is the first answer of the feed. -/
theorem pulls_of_start_error {f : Feed} {e : Fault} (h : Cursor.start f = .error e) :
    f.pulls 1 = [.error e] := by
  unfold Cursor.start at h
  split at h
  · cases h
  · rename_i e' f' hp
    cases h
    rw [Feed.pulls_succ, hp]
    rfl

/-! ## Readings -/

/-- **Reading tokens**: `Reads c ws d` when `ws` are the lookahead of `c` followed by the
tokens its feed gives next, and `d` is the cursor after them. -/
inductive Reads : Cursor → List Token → Cursor → Prop where
  | nil (c : Cursor) : Reads c [] c
  | cons {c : Cursor} {t : Token} {f : Feed} {ws : List Token} {d : Cursor} :
      c.feed.pull = (.ok t, f) → Reads ⟨t, f⟩ ws d → Reads c (c.look :: ws) d

variable {c d e : Cursor} {xs ys : List Token}

theorem Reads.single {t : Token} {f : Feed} (h : c.feed.pull = (.ok t, f)) :
    Reads c [c.look] ⟨t, f⟩ :=
  .cons h (.nil _)

theorem Reads.append (h₁ : Reads c xs d) (h₂ : Reads d ys e) : Reads c (xs ++ ys) e := by
  induction h₁ with
  | nil => exact h₂
  | cons hp _ ih => exact .cons hp (ih h₂)

theorem Reads.split (h : Reads c (xs ++ ys) e) : ∃ d, Reads c xs d ∧ Reads d ys e := by
  induction xs generalizing c with
  | nil => exact ⟨c, .nil c, h⟩
  | cons x xs ih =>
    cases h with
    | cons hp h' =>
      obtain ⟨d, h₁, h₂⟩ := ih h'
      exact ⟨d, .cons hp h₁, h₂⟩

/-- **A reading is the first answers of the cursor**, and the cursor reached answers next. -/
theorem Reads.answers (h : Reads c xs d) (n : Nat) :
    c.answers (xs.length + n) = xs.map .ok ++ d.answers n := by
  induction h with
  | nil => simp
  | @cons c t f ws d hp _ ih =>
    rw [List.length_cons, Nat.add_right_comm, Cursor.answers, Feed.pulls_succ, hp]
    simp only [List.map_cons, List.cons_append]
    exact congrArg _ ih

/-- **First answers that are tokens are a reading.** -/
theorem reads_of_answers {t : Token} (h : c.answers xs.length = (xs ++ [t]).map .ok) :
    ∃ d, Reads c xs d ∧ d.look = t := by
  induction xs generalizing c with
  | nil =>
    simp only [Cursor.answers, List.length_nil, Feed.pulls_zero, List.nil_append,
      List.map_cons, List.map_nil, List.cons.injEq, Except.ok.injEq, and_true] at h
    exact ⟨c, .nil c, h⟩
  | cons x xs ih =>
    rcases hp : c.feed.pull with ⟨t', f'⟩
    rw [Cursor.answers, List.length_cons, Feed.pulls_succ, hp] at h
    simp only [List.cons_append, List.map_cons, List.cons.injEq, Except.ok.injEq] at h
    obtain ⟨rfl, h⟩ := h
    cases t' with
    | error => cases xs <;> simp at h
    | ok t₁ =>
      have h₁ : t₁ = (xs ++ [t]).head (by simp) := by
        cases xs <;> simp_all
      obtain ⟨d, hd, rfl⟩ := ih (c := ⟨t₁, f'⟩) (by
        rw [Cursor.answers]
        cases xs <;> simp_all)
      exact ⟨d, .cons hp hd, rfl⟩

/-- Two readings of the same length from one cursor are the same. -/
theorem Reads.unique (h₁ : Reads c xs d) (h₂ : Reads c ys e) (hl : xs.length = ys.length) :
    xs = ys ∧ d = e := by
  induction h₁ generalizing ys e with
  | nil =>
    cases h₂ with
    | nil => exact ⟨rfl, rfl⟩
    | cons => simp at hl
  | cons hp _ ih =>
    cases h₂ with
    | nil => simp at hl
    | cons hp' h₂' =>
      rw [hp] at hp'
      cases hp'
      obtain ⟨rfl, rfl⟩ := ih h₂' (by simpa using hl)
      exact ⟨rfl, rfl⟩

/-- **Two readings from one cursor agree as far as both go**: with the lookahead reached,
the shorter is the start of the longer. -/
theorem Reads.isPrefix (h₁ : Reads c xs d) (h₂ : Reads c ys e) (hl : xs.length ≤ ys.length) :
    xs ++ [d.look] <+: ys ++ [e.look] := by
  induction h₁ generalizing ys e with
  | nil =>
    cases h₂ with
    | nil => exact List.prefix_refl _
    | cons => exact List.prefix_cons_inj _ |>.2 List.nil_prefix
  | cons hp _ ih =>
    cases h₂ with
    | nil => simp at hl
    | cons hp' h₂' =>
      rw [hp] at hp'
      cases hp'
      exact (List.prefix_cons_inj _).2 (ih h₂' (by simpa using hl))

/-- A reading, with the lookahead it reaches, starts at the lookahead it starts from. -/
theorem Reads.head (h : Reads c xs d) : ∃ ys, xs ++ [d.look] = c.look :: ys := by
  cases h with
  | nil => exact ⟨[], rfl⟩
  | cons _ _ => exact ⟨_, rfl⟩

/-- **Two readings from one cursor agree**, each with the lookahead it reaches. -/
theorem Reads.agree (h₁ : Reads c xs d) (h₂ : Reads c ys e) :
    Agree (xs ++ [d.look]) (ys ++ [e.look]) := by
  rcases le_total xs.length ys.length with hl | hl
  · exact .inl (h₁.isPrefix h₂ hl)
  · exact .inr (h₂.isPrefix h₁ hl)

/-- **No reading goes past a pull that fails.** -/
theorem Reads.length_le_of_fault {x : Fault} (h₁ : Reads c xs d) (h₂ : Reads c ys e)
    (hf : e.feed.pull.1 = .error x) : xs.length ≤ ys.length := by
  induction h₁ generalizing ys e with
  | nil => exact Nat.zero_le _
  | cons hp h ih =>
    cases h₂ with
    | nil =>
      rw [hp] at hf
      cases hf
    | cons hp' h₂' =>
      rw [hp] at hp'
      cases hp'
      simpa using ih h₂' hf

end Cursor

end ImpSyntax
