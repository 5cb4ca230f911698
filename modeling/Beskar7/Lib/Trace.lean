import Mathlib.Data.List.Induction

/-!
# Runs of a deterministic system with effects

A system is a step function from a state and an event to the next state and
the effects the step emits. Nondeterminism (which event comes next, what the
outside world answers) lives in the events, so a run is determined by its
list of events: `run` folds the steps, `effects` collects what they emit.

The rules here carry a fact about one step to whole runs: an invariant kept
by every allowed event holds after any run of them (`run_invariant`), also
when which events are allowed depends on the state (`Guarded`,
`run_guarded`), and so does a property of every effect such a run emits
(`effects_guarded`) or of the state together with the effects so far
(`run_effects_invariant`). A loop over a list that sets flags and collects
values is a fold too; `foldl_flag`, `mem_foldl_collect`, `foldl_update` and
`foldl_count` say what it ends with from what one pass does.
-/

namespace Trace

variable {σ ε φ : Type} (step : σ → ε → σ × List φ)

/-- The state after the events, in order. -/
def run (s : σ) : List ε → σ
  | [] => s
  | e :: es => run (step s e).1 es

/-- The effects of the events, in order. -/
def effects (s : σ) : List ε → List φ
  | [] => []
  | e :: es => (step s e).2 ++ effects (step s e).1 es

@[simp] theorem run_nil (s : σ) : run step s [] = s := rfl

@[simp] theorem run_cons (s : σ) (e : ε) (es : List ε) :
    run step s (e :: es) = run step (step s e).1 es := rfl

@[simp] theorem effects_nil (s : σ) : effects step s [] = [] := rfl

@[simp] theorem effects_cons (s : σ) (e : ε) (es : List ε) :
    effects step s (e :: es) = (step s e).2 ++ effects step (step s e).1 es := rfl

-- ---------------------------------------------------------------------------
-- Invariants
-- ---------------------------------------------------------------------------

section
variable {allowed : ε → Prop} {inv : σ → Prop}

/-- Every step of the run from `s` satisfies `good` in the state it is
taken from: a condition on the run that may depend on the states. -/
def Guarded (good : σ → ε → Prop) : σ → List ε → Prop
  | _, [] => True
  | s, e :: es => good s e ∧ Guarded good (step s e).1 es

instance decidableGuarded (good : σ → ε → Prop) [∀ s e, Decidable (good s e)] :
    ∀ s es, Decidable (Guarded step good s es)
  | _, [] => isTrue trivial
  | s, e :: es =>
    have := decidableGuarded good (step s e).1 es
    inferInstanceAs (Decidable (good s e ∧ Guarded step good (step s e).1 es))

theorem guarded_of_forall {s : σ} {es : List ε} (hes : ∀ e ∈ es, allowed e) :
    Guarded step (fun _ e => allowed e) s es := by
  induction es generalizing s with
  | nil => trivial
  | cons e es ih => exact ⟨hes e List.mem_cons_self, ih fun e' he' => hes e' (List.mem_cons_of_mem _ he')⟩

/-- An invariant kept by every step that satisfies `good` holds after every
run whose steps all do. -/
theorem run_guarded {good : σ → ε → Prop} (keep : ∀ s e, good s e → inv s → inv (step s e).1)
    {s : σ} {es : List ε} (hrun : Guarded step good s es) (hs : inv s) : inv (run step s es) := by
  induction es generalizing s with
  | nil => exact hs
  | cons e es ih => exact ih hrun.2 (keep s e hrun.1 hs)

/-- Every effect of such a run satisfies `ok` when every effect of a step
from an invariant state does. -/
theorem effects_guarded {good : σ → ε → Prop} {ok : φ → Prop}
    (keep : ∀ s e, good s e → inv s → inv (step s e).1)
    (quiet : ∀ s e, good s e → inv s → ∀ x ∈ (step s e).2, ok x)
    {s : σ} {es : List ε} (hrun : Guarded step good s es) (hs : inv s) :
    ∀ x ∈ effects step s es, ok x := by
  induction es generalizing s with
  | nil => simp
  | cons e es ih =>
    intro x hx
    rcases List.mem_append.mp hx with hx | hx
    · exact quiet s e hrun.1 hs x hx
    · exact ih hrun.2 (keep s e hrun.1 hs) x hx

/-- An invariant kept by every allowed event holds after every run of them. -/
theorem run_invariant (keep : ∀ s e, allowed e → inv s → inv (step s e).1)
    {s : σ} {es : List ε} (hes : ∀ e ∈ es, allowed e) (hs : inv s) : inv (run step s es) :=
  run_guarded step (fun s e he => keep s e he) (guarded_of_forall step hes) hs

/-- An invariant of the state and of the effects emitted so far. -/
theorem run_effects_invariant {inv : σ → List φ → Prop}
    (keep : ∀ s e acc, allowed e → inv s acc → inv (step s e).1 (acc ++ (step s e).2))
    {s : σ} {es : List ε} {acc : List φ} (hes : ∀ e ∈ es, allowed e) (hs : inv s acc) :
    inv (run step s es) (acc ++ effects step s es) := by
  induction es generalizing s acc with
  | nil => simpa using hs
  | cons e es ih =>
    have h := ih (fun e' he' => hes e' (List.mem_cons_of_mem _ he'))
      (keep s e acc (hes e List.mem_cons_self) hs)
    simpa [List.append_assoc] using h

end

-- ---------------------------------------------------------------------------
-- Accumulating loops
-- ---------------------------------------------------------------------------

section
variable {α β : Type} (f : σ → α → σ)

/-- A flag that each element may set and none clears is set after the loop
exactly when it was before or some element sets it. -/
theorem foldl_flag (flag : σ → Bool) (sets : α → Bool) (hstep : ∀ s a, flag (f s a) = (flag s || sets a)) :
    ∀ (l : List α) (s : σ), flag (l.foldl f s) = (flag s || l.any sets)
  | [], s => by simp
  | a :: l, s => by
    rw [List.foldl_cons, foldl_flag flag sets hstep l (f s a), hstep, List.any_cons, Bool.or_assoc]

/-- What a loop collects, when each element adds to what is there. -/
theorem mem_foldl_collect (coll : σ → List β) (adds : α → β → Prop)
    (hstep : ∀ s a x, x ∈ coll (f s a) ↔ x ∈ coll s ∨ adds a x) :
    ∀ (l : List α) (s : σ) (x : β), x ∈ coll (l.foldl f s) ↔ x ∈ coll s ∨ ∃ a ∈ l, adds a x
  | [], s, x => by simp
  | a :: l, s, x => by
    rw [List.foldl_cons, mem_foldl_collect coll adds hstep l (f s a) x, hstep]
    simp only [List.mem_cons, exists_eq_or_imp, or_assoc]

/-- What a loop appends to one part of its state, when each element appends a
list of its own there and changes nothing else: `set` writes the part, with
the laws of a field update. -/
theorem foldl_update (get : σ → List β) (set : σ → List β → σ) (added : α → List β)
    (hstep : ∀ s a, f s a = set s (get s ++ added a)) (hget : ∀ s l, get (set s l) = l)
    (hset : ∀ s l l', set (set s l) l' = set s l') (hself : ∀ s, set s (get s) = s) :
    ∀ (l : List α) (s : σ), l.foldl f s = set s (get s ++ l.flatMap added)
  | [], s => by rw [List.foldl_nil, List.flatMap_nil, List.append_nil, hself]
  | a :: l, s => by
    rw [List.foldl_cons, foldl_update get set added hstep hget hset hself l (f s a), hstep, hget, hset,
      List.flatMap_cons, List.append_assoc]

theorem any_zipIdx_fst (l : List α) (p : α → Bool) : (l.zipIdx.any fun e => p e.1) = l.any p := by
  calc (l.zipIdx.any fun e => p e.1) = (l.zipIdx.map Prod.fst).any p := by rw [List.any_map]; rfl
    _ = l.any p := by rw [List.zipIdx_map_fst]

theorem exists_mem_zipIdx_fst (l : List α) (P : α → Prop) : (∃ e ∈ l.zipIdx, P e.1) ↔ ∃ x ∈ l, P x := by
  have hfst : (∃ e ∈ l.zipIdx, P e.1) ↔ ∃ x ∈ l.zipIdx.map Prod.fst, P x := by
    constructor
    · rintro ⟨e, he, hp⟩
      exact ⟨e.1, List.mem_map_of_mem he, hp⟩
    · rintro ⟨x, hx, hp⟩
      obtain ⟨e, he, rfl⟩ := List.mem_map.mp hx
      exact ⟨e, he, hp⟩
  rw [hfst, List.zipIdx_map_fst]

end

/-- A loop that counts its elements by a key, in a map whose missing keys read as 0. -/
theorem foldl_count {α κ : Type} [DecidableEq κ] (f : (κ → Nat) → α → κ → Nat) (k : α → κ)
    (hstep : ∀ c a x, f c a x = c x + if k a = x then 1 else 0) :
    ∀ (l : List α) (c : κ → Nat) (x : κ), l.foldl f c x = c x + l.countP (fun a => k a = x)
  | [], c, x => by simp
  | a :: l, c, x => by
    rw [List.foldl_cons, foldl_count f k hstep l (f c a) x, hstep, List.countP_cons]
    by_cases hk : k a = x <;> simp [hk, Nat.add_assoc, Nat.add_comm 1]

/-! A Go loop `for i, x := range l` is a fold over `l.zipIdx`; a pass that
sets a flag or adds values by the element alone, whatever its index, gives
the loop's result over `l`. -/

section
variable {α β : Type} (f : σ → α × Nat → σ)

theorem foldl_zipIdx_flag (flag : σ → Bool) (sets : α → Bool)
    (hstep : ∀ s x i, flag (f s (x, i)) = (flag s || sets x)) (l : List α) (s : σ) :
    flag (l.zipIdx.foldl f s) = (flag s || l.any sets) := by
  rw [foldl_flag f flag (fun e => sets e.1) (fun s e => hstep s e.1 e.2), any_zipIdx_fst]

theorem mem_foldl_zipIdx_collect (coll : σ → List β) (adds : α → β → Prop)
    (hstep : ∀ s x i y, y ∈ coll (f s (x, i)) ↔ y ∈ coll s ∨ adds x y) (l : List α) (s : σ) (y : β) :
    y ∈ coll (l.zipIdx.foldl f s) ↔ y ∈ coll s ∨ ∃ x ∈ l, adds x y := by
  rw [mem_foldl_collect f coll (fun e => adds e.1) (fun s e => hstep s e.1 e.2),
    exists_mem_zipIdx_fst l (fun x => adds x y)]

end

end Trace
