import Mathlib.Logic.Function.Basic
import BoundSql.Value

/-! # Traces

Each call on a statement binds values for clauses of it; in the order of the
calls they are a trace.  Some calls replace what an earlier one said about a
clause, and then only the last of them survives. -/
set_option autoImplicit false
namespace BoundSql

variable {K J : Type}

def tagged (clause : K) (values : List Value) : List (K × Value) :=
  values.map fun v => (clause, v)

/-- A part of a statement has its own clauses in those of the whole. -/
def relabel (f : J → K) (trace : List (J × Value)) : List (K × Value) :=
  trace.map fun entry => (f entry.1, entry.2)

variable [DecidableEq K]

def valuesAt (clause : K) (trace : List (K × Value)) : List Value :=
  (trace.filter fun entry => entry.1 = clause).map Prod.snd

/-- The values clause by clause, within a clause in the order of the trace. -/
def arrange (order : List K) (trace : List (K × Value)) : List Value :=
  order.flatMap fun clause => valuesAt clause trace

/-- The calls without those that a later one replaces. -/
def surviving {C : Type} (replaces : C → Option K) : List C → List C
  | [] => []
  | call :: rest =>
    if (replaces call).isSome && rest.any fun later => replaces later = replaces call then
      surviving replaces rest
    else call :: surviving replaces rest

@[simp]
theorem valuesAt_nil (clause : K) : valuesAt clause [] = [] := rfl

@[simp]
theorem valuesAt_append (clause : K) (first second : List (K × Value)) :
    valuesAt clause (first ++ second) = valuesAt clause first ++ valuesAt clause second := by
  simp [valuesAt]

@[simp]
theorem valuesAt_tagged (clause own : K) (values : List Value) :
    valuesAt clause (tagged own values) = if own = clause then values else [] := by
  induction values with
  | nil => simp [tagged]
  | cons v rest ih =>
    have split : tagged own (v :: rest) = [(own, v)] ++ tagged own rest := rfl
    rw [split, valuesAt_append, ih]
    by_cases here : own = clause
    · simp [valuesAt, here]
    · simp [valuesAt, here]

theorem valuesAt_relabel [DecidableEq J] {f : J → K} (different : Function.Injective f) (part : J)
    (trace : List (J × Value)) : valuesAt (f part) (relabel f trace) = valuesAt part trace := by
  induction trace with
  | nil => rfl
  | cons entry rest ih =>
    obtain ⟨own, v⟩ := entry
    have left : relabel f ((own, v) :: rest) = tagged (f own) [v] ++ relabel f rest := rfl
    have right : (own, v) :: rest = tagged own [v] ++ rest := rfl
    rw [left, right, valuesAt_append, valuesAt_append, ih, valuesAt_tagged, valuesAt_tagged]
    by_cases here : own = part
    · rw [if_pos here, if_pos (congrArg f here)]
    · rw [if_neg here, if_neg fun equal => here (different equal)]

theorem valuesAt_relabel_other {f : J → K} {clause : K} (other : ∀ part, f part ≠ clause)
    (trace : List (J × Value)) : valuesAt clause (relabel f trace) = [] := by
  induction trace with
  | nil => rfl
  | cons entry rest ih =>
    have left : relabel f (entry :: rest) = tagged (f entry.1) [entry.2] ++ relabel f rest := rfl
    rw [left, valuesAt_append, ih, valuesAt_tagged, if_neg (other entry.1)]
    rfl

variable {C S : Type}

/-- Where the clauses of a part grow by a trace and the others stay as they are, the
whole grows by that trace under the names of the whole. -/
theorem grown_relabel [DecidableEq J] (valuesIn : K → S → List Value) {f : J → K}
    (different : Function.Injective f) {s t : S} {trace : List (J × Value)}
    (part : ∀ own, valuesIn (f own) t = valuesIn (f own) s ++ valuesAt own trace)
    (others : ∀ clause, (∀ own, f own ≠ clause) → valuesIn clause t = valuesIn clause s)
    (clause : K) :
    valuesIn clause t = valuesIn clause s ++ valuesAt clause (relabel f trace) := by
  by_cases inside : ∃ own, f own = clause
  · obtain ⟨own, rfl⟩ := inside
    rw [part, valuesAt_relabel different]
  · have other : ∀ own, f own ≠ clause := fun own equal => inside ⟨own, equal⟩
    rw [others clause other, valuesAt_relabel_other other, List.append_nil]

/-- Calls replace whole clauses: one that replaces a clause binds for no other, and
a clause that can be replaced gets its values from such calls only. -/
structure Replacing (trace : C → List (K × Value)) (replaces : C → Option K) : Prop where
  only : ∀ call own clause, replaces call = some own → own ≠ clause →
    valuesAt clause (trace call) = []
  alone : ∀ call later clause, replaces later = some clause → replaces call ≠ some clause →
    valuesAt clause (trace call) = []

theorem Replacing.surviving_cons {trace : C → List (K × Value)} {replaces : C → Option K}
    (h : Replacing trace replaces) (call : C) (rest : List C) (clause : K) :
    valuesAt clause ((surviving replaces (call :: rest)).flatMap trace) =
      (if rest.any fun later => replaces later = some clause then []
        else valuesAt clause (trace call))
        ++ valuesAt clause ((surviving replaces rest).flatMap trace) := by
  by_cases replaced : (rest.any fun later => replaces later = some clause) = true
  · rw [if_pos replaced, List.nil_append]
    obtain ⟨later, member, named⟩ := List.any_eq_true.mp replaced
    rw [decide_eq_true_eq] at named
    -- a later call replaces the clause, so this one counts for nothing there
    by_cases own : replaces call = some clause
    · have dropped : surviving replaces (call :: rest) = surviving replaces rest := by
        simp [surviving, own, replaced]
      rw [dropped]
    · have silent := h.alone call later clause named own
      rw [surviving]
      split
      · rfl
      · rw [List.flatMap_cons, valuesAt_append, silent, List.nil_append]
  · rw [if_neg replaced, surviving]
    split
    · -- this call is replaced, but in another clause
      rename_i dropped
      rw [Bool.and_eq_true, Option.isSome_iff_exists] at dropped
      obtain ⟨⟨own, named⟩, later⟩ := dropped
      have differs : own ≠ clause := by
        intro equal
        rw [named, equal] at later
        exact replaced later
      rw [h.only call own clause named differs, List.nil_append]
    · rw [List.flatMap_cons, valuesAt_append]

/-- Calls made one after the other on a state: what a clause holds at the end is
what the surviving calls bind for it, behind what it held before unless a call
replaces that. -/
theorem Replacing.foldl {trace : C → List (K × Value)} {replaces : C → Option K}
    (h : Replacing trace replaces) (apply : C → S → S) (valuesIn : K → S → List Value)
    (step : ∀ call s clause, valuesIn clause (apply call s) =
      (if replaces call = some clause then [] else valuesIn clause s)
        ++ valuesAt clause (trace call))
    (calls : List C) (s : S) (clause : K) :
    valuesIn clause (calls.foldl (fun s call => apply call s) s) =
      (if calls.any fun call => replaces call = some clause then [] else valuesIn clause s)
        ++ valuesAt clause ((surviving replaces calls).flatMap trace) := by
  induction calls generalizing s with
  | nil => simp [surviving]
  | cons call rest ih =>
    rw [List.foldl_cons, ih, step, h.surviving_cons, List.any_cons]
    by_cases replaced : (rest.any fun later => replaces later = some clause) = true
    · simp [replaced]
    · by_cases own : replaces call = some clause
      · simp [replaced, own]
      · simp [replaced, own]

/-- On a fresh state the calls leave the arranged trace of those that survive. -/
theorem Replacing.arrange_foldl {trace : C → List (K × Value)} {replaces : C → Option K}
    (h : Replacing trace replaces) (apply : C → S → S) (valuesIn : K → S → List Value)
    (step : ∀ call s clause, valuesIn clause (apply call s) =
      (if replaces call = some clause then [] else valuesIn clause s)
        ++ valuesAt clause (trace call))
    (calls : List C) {s : S} (fresh : ∀ clause, valuesIn clause s = []) (order : List K) :
    (order.flatMap fun clause => valuesIn clause (calls.foldl (fun s call => apply call s) s)) =
      arrange order ((surviving replaces calls).flatMap trace) := by
  have run := h.foldl apply valuesIn step calls s
  simp only [fresh, ite_self, List.nil_append] at run
  simp only [run, arrange]

end BoundSql
