import Beskar7.Coordination.Workers
import Beskar7.Coordination.QueueLaws

/-!
# The BMC cooldown

`lastBMCOperation` is written when an operation completes, and
`getNextRequest` and `AcquireBMCPermit` start an operation only when its BMC
has cooled down since then. Nothing is checked against operations still
running, so two hosts behind one BMC run at once
(`shared_bmc_operations_overlap`), and the re-entrant path of
`AcquireBMCPermit` skips the check. What holds is the spacing after a
completion: an operation that starts through the check, on the BMC of one
that completed earlier in the run, starts at least `bmcCooldownPeriod` after
that completion (`cooldown_after_completion`).

A step writes a BMC time only when it finishes an operation, and then with
the current time (`step_bmcWrite`); so the time stored for a BMC never falls
below the completions on it (`Covers`).
-/

namespace Beskar7

namespace QueueSystem

open ProvisioningQueue

/-- What a step does to the BMC times: nothing, or an operation on `h`
finishes now and its BMC's time is now. -/
inductive BMCWrite (s : QueueSystem) : QueueSystem × List QueueEffect → Prop
  | keep {s' : QueueSystem} {effs : List QueueEffect}
      (hperiod : s'.pq.bmcCooldownPeriod = s.pq.bmcCooldownPeriod)
      (hlast : s'.pq.lastBMCOperation = s.pq.lastBMCOperation)
      (hnone : ∀ h t, QueueEffect.finish h t ∉ effs) : BMCWrite s (s', effs)
  | finish {s' : QueueSystem} (h : PhysicalHost)
      (hperiod : s'.pq.bmcCooldownPeriod = s.pq.bmcCooldownPeriod)
      (hlast : s'.pq.lastBMCOperation =
        (s.pq.setLastBMCOperation h.bmcAddress s.now).lastBMCOperation) :
      BMCWrite s (s', [.finish h s.now])

variable (s : QueueSystem) (e : QueueEvent)

theorem step_bmcWrite : BMCWrite s (step s e) := by
  cases e with
  | submit host operation =>
    rcases s.pq.SubmitRequest_spec s.now host operation with hpq | ⟨-, req, -, -, -, hpq⟩ <;>
      (simp only [step, hpq]; exact .keep rfl rfl (by simp))
  | next w =>
    cases hw : s.workers.get w with
    | some b =>
      simp only [step, hw]
      exact .keep rfl rfl (by simp)
    | none =>
      rcases s.pq.getNextRequest_spec s.now with hnext | ⟨l₁, r, l₂, -, -, -, hnext⟩ <;>
        (simp only [step, hw, hnext]; exact .keep rfl rfl (by simp))
  | complete w =>
    cases hw : s.workers.get w with
    | some b =>
      simp only [step, hw, processRequest_fst]
      exact .finish b.request.host rfl rfl
    | none =>
      simp only [step, hw]
      exact .keep rfl rfl (by simp)
  | acquire c host =>
    cases hc : s.permits.get c with
    | some p =>
      simp only [step, hc]
      exact .keep rfl rfl (by simp)
    | none =>
      rcases s.pq.AcquireBMCPermit_spec s.now host with ⟨-, hacq⟩ | ⟨-, -, -, hacq⟩ | hacq <;>
        (simp only [step, hc, hacq]; exact .keep rfl rfl (by simp))
  | release c =>
    cases hc : s.permits.get c with
    | some p =>
      simp only [step, hc, ReleaseBMCPermit_eq]
      exact .finish p.host rfl rfl
    | none =>
      simp only [step, hc]
      exact .keep rfl rfl (by simp)
  | cancel requestID =>
    cases hcancel : s.pq.CancelRequest requestID with
    | error msg =>
      simp only [step, hcancel]
      exact .keep rfl rfl (by simp)
    | ok result =>
      obtain ⟨pq', found⟩ := result
      simp only [step, hcancel]
      rcases s.pq.CancelRequest_spec hcancel with rfl | rfl <;> exact .keep rfl rfl (by simp)
  | tick d => exact .keep rfl rfl (by simp)

theorem now_le_step : s.now ≤ (step s e).1.now := by
  cases e with
  | tick d => simp [step]
  | _ =>
    -- every other event leaves the clock
    simp only [step]
    repeat' split
    all_goals simp

/-- An operation that starts through the cooldown check starts now, on a BMC
that has cooled down. -/
theorem step_start_checked {h : PhysicalHost} {t : Duration}
    (hx : QueueEffect.start h t true ∈ (step s e).2) :
    t = s.now ∧ s.pq.cooledDown s.now h.bmcAddress = true := by
  cases e with
  | next w =>
    cases hw : s.workers.get w with
    | some b => simp [step, hw] at hx
    | none =>
      rcases s.pq.getNextRequest_spec s.now with hnext | ⟨l₁, r, l₂, -, -, hcool, hnext⟩
      · simp [step, hw, hnext] at hx
      · simp only [step, hw, hnext, List.mem_singleton, QueueEffect.start.injEq] at hx
        obtain ⟨rfl, rfl, -⟩ := hx
        exact ⟨rfl, hcool⟩
  | acquire c host =>
    cases hc : s.permits.get c with
    | some p => simp [step, hc] at hx
    | none =>
      rcases s.pq.AcquireBMCPermit_spec s.now host with
        ⟨hproc, hacq⟩ | ⟨-, -, hcool, hacq⟩ | hacq
      · -- the re-entrant path reports an unchecked start
        simp [step, hc, hacq, hproc] at hx
      · simp only [step, hc, hacq, List.mem_singleton, QueueEffect.start.injEq] at hx
        obtain ⟨rfl, rfl, -⟩ := hx
        exact ⟨rfl, hcool⟩
      · simp [step, hc, hacq] at hx
  | _ =>
    simp only [step] at hx
    repeat' split at hx
    all_goals simp at hx

/-- Every time stored for a BMC is at most the current time. -/
def Clocked (s : QueueSystem) : Prop :=
  ∀ a l, s.pq.lastBMCOperation a = some l → l ≤ s.now

/-- The BMC at `a` has a stored time of `t` or later. -/
def LastAtLeast (s : QueueSystem) (a : String) (t : Duration) : Prop :=
  ∃ l, s.pq.lastBMCOperation a = some l ∧ t ≤ l

variable {s e}

theorem lastBMCOperation_after_step {a : String} {l : Duration}
    (hl : (step s e).1.pq.lastBMCOperation a = some l) :
    s.pq.lastBMCOperation a = some l ∨ l = s.now := by
  have hwrite := step_bmcWrite s e
  generalize step s e = out at hwrite hl
  cases hwrite with
  | keep _ hlast _ => exact .inl (hlast ▸ hl)
  | finish h _ hlast =>
    rw [hlast, setLastBMCOperation_lastBMCOperation] at hl
    split at hl
    · exact .inr (Option.some.inj hl).symm
    · exact .inl hl

theorem Clocked.after_step (hc : Clocked s) : Clocked (step s e).1 := by
  intro a l hl
  have hnow := now_le_step s e
  rcases lastBMCOperation_after_step hl with hold | rfl
  · exact Nat.le_trans (hc a l hold) hnow
  · exact hnow

/-- A stored time only grows. -/
theorem LastAtLeast.after_step (hc : Clocked s) {a : String} {t : Duration}
    (hlast : LastAtLeast s a t) : LastAtLeast (step s e).1 a t := by
  obtain ⟨l, hl, htl⟩ := hlast
  have hwrite := step_bmcWrite s e
  generalize step s e = out at hwrite ⊢
  cases hwrite with
  | keep _ hlast _ => exact ⟨l, hlast ▸ hl, htl⟩
  | finish h _ hlast =>
    rw [LastAtLeast, hlast, setLastBMCOperation_lastBMCOperation]
    split
    · exact ⟨s.now, rfl, Nat.le_trans htl (hc a l hl)⟩
    · exact ⟨l, hl, htl⟩

/-- An operation that finishes leaves its time on its BMC. -/
theorem LastAtLeast.of_finish {h : PhysicalHost} {t : Duration}
    (hx : QueueEffect.finish h t ∈ (step s e).2) : LastAtLeast (step s e).1 h.bmcAddress t := by
  have hwrite := step_bmcWrite s e
  generalize step s e = out at hwrite hx ⊢
  cases hwrite with
  | keep _ _ hnone => exact absurd hx (hnone h t)
  | finish h' _ hlast =>
    simp only [List.mem_singleton, QueueEffect.finish.injEq] at hx
    obtain ⟨rfl, rfl⟩ := hx
    refine ⟨s.now, ?_, Nat.le_refl _⟩
    simp [hlast, setLastBMCOperation_lastBMCOperation]

/-- A checked start on a BMC whose stored time is at least `t₁` is a
cooldown after `t₁`. -/
theorem start_after_cooldown (hc : Clocked s) {h : PhysicalHost} {t₁ t₂ : Duration}
    (hlast : LastAtLeast s h.bmcAddress t₁) (hx : QueueEffect.start h t₂ true ∈ (step s e).2) :
    t₁ + s.pq.bmcCooldownPeriod ≤ t₂ := by
  obtain ⟨rfl, hcool⟩ := step_start_checked s e hx
  obtain ⟨l, hl, htl⟩ := hlast
  have hle := hc _ l hl
  simp only [cooledDown, hl, Bool.not_eq_eq_eq_not, Bool.not_true, decide_eq_false_iff_not,
    Nat.not_lt] at hcool
  -- omega reads `Duration` only once it is unfolded to `Nat`
  simp only [Duration] at htl hle hcool ⊢
  omega

theorem bmcCooldownPeriod_after_step :
    (step s e).1.pq.bmcCooldownPeriod = s.pq.bmcCooldownPeriod := by
  have hwrite := step_bmcWrite s e
  generalize step s e = out at hwrite ⊢
  cases hwrite with
  | keep hperiod _ _ => exact hperiod
  | finish _ hperiod _ => exact hperiod

theorem run_bmcCooldownPeriod (s : QueueSystem) (es : List QueueEvent) :
    (run s es).pq.bmcCooldownPeriod = s.pq.bmcCooldownPeriod := by
  have keep : ∀ (s' : QueueSystem) (e : QueueEvent), True →
      s'.pq.bmcCooldownPeriod = s.pq.bmcCooldownPeriod →
      (step s' e).1.pq.bmcCooldownPeriod = s.pq.bmcCooldownPeriod :=
    fun _ _ _ hs => bmcCooldownPeriod_after_step.trans hs
  exact Trace.run_invariant step keep (fun _ _ => trivial) rfl

/-- The stored times cover the completions in `F`: each has a stored time on
its BMC at least its own. -/
structure Covers (F : List QueueEffect) (s : QueueSystem) : Prop where
  clocked : Clocked s
  finished : ∀ h t, QueueEffect.finish h t ∈ F → LastAtLeast s h.bmcAddress t

theorem Covers.after_step {F : List QueueEffect} (hcov : Covers F s) : Covers F (step s e).1 :=
  ⟨hcov.clocked.after_step, fun h t hx => (hcov.finished h t hx).after_step hcov.clocked⟩

/-- The completions of a run so far stay covered, the step's own included. -/
theorem Covers.after_step_effects {acc : List QueueEffect} (hcov : Covers acc s) :
    Covers (acc ++ (step s e).2) (step s e).1 := by
  refine ⟨hcov.clocked.after_step, fun h t hx => ?_⟩
  rcases List.mem_append.mp hx with hold | hnew
  · exact (hcov.finished h t hold).after_step hcov.clocked
  · exact LastAtLeast.of_finish hnew

theorem clocked_init (maxConcurrent maxQueueSize : Int) :
    Clocked (init maxConcurrent maxQueueSize) := by
  intro a l hl
  simp [init, NewProvisioningQueue] at hl

/-- From a state with no stored time in the future, an operation that starts
through the check after a completion on its BMC starts at least a cooldown
after it. -/
theorem Clocked.spaced {s₀ : QueueSystem} (hc : Clocked s₀) {es₁ es₂ : List QueueEvent}
    {h₁ h₂ : PhysicalHost} {t₁ t₂ : Duration}
    (hfinish : QueueEffect.finish h₁ t₁ ∈ effects s₀ es₁)
    (hstart : QueueEffect.start h₂ t₂ true ∈ effects (run s₀ es₁) es₂)
    (hbmc : h₁.bmcAddress = h₂.bmcAddress) :
    t₁ + s₀.pq.bmcCooldownPeriod ≤ t₂ := by
  -- the completions of the first part are covered after it ...
  have keep₁ : ∀ (s : QueueSystem) (e : QueueEvent) (acc : List QueueEffect), True →
      Covers acc s → Covers (acc ++ (step s e).2) (step s e).1 :=
    fun _ _ _ _ hcov => hcov.after_step_effects
  have hcov₁ : Covers ([] ++ effects s₀ es₁) (run s₀ es₁) :=
    Trace.run_effects_invariant step keep₁ (fun _ _ => trivial)
      ⟨hc, fun _ _ hx => absurd hx List.not_mem_nil⟩
  rw [List.nil_append] at hcov₁
  -- ... and through the second, in which every checked start is spaced from them
  have keep₂ : ∀ (s : QueueSystem) (e : QueueEvent), True →
      Covers (effects s₀ es₁) s ∧ s.pq.bmcCooldownPeriod = s₀.pq.bmcCooldownPeriod →
      Covers (effects s₀ es₁) (step s e).1 ∧
        (step s e).1.pq.bmcCooldownPeriod = s₀.pq.bmcCooldownPeriod :=
    fun _ _ _ hinv => ⟨hinv.1.after_step, bmcCooldownPeriod_after_step.trans hinv.2⟩
  have quiet₂ : ∀ (s : QueueSystem) (e : QueueEvent), True →
      Covers (effects s₀ es₁) s ∧ s.pq.bmcCooldownPeriod = s₀.pq.bmcCooldownPeriod →
      ∀ x ∈ (step s e).2, ∀ h t, x = QueueEffect.start h t true →
        h.bmcAddress = h₁.bmcAddress → t₁ + s₀.pq.bmcCooldownPeriod ≤ t := by
    rintro s e - ⟨hcov, hperiod⟩ x hx h t rfl hsame
    rw [← hperiod]
    exact start_after_cooldown hcov.clocked (hsame ▸ hcov.finished h₁ t₁ hfinish) hx
  exact Trace.effects_guarded step keep₂ quiet₂ (Trace.guarded_of_forall step (fun _ _ => trivial))
    ⟨hcov₁, run_bmcCooldownPeriod s₀ es₁⟩ _ hstart h₂ t₂ rfl hbmc.symm

end QueueSystem

open QueueSystem

/-- host-a and host-b share the BMC at 10.0.0.5. Both are queued and two
workers start them at once; host-a completes a second later, and a caller
asking for a permit for host-b, which is processing, goes on at once without
the cooldown check. -/
def sharedBMCRun : List QueueEvent :=
  [.submit (queueHost "host-a" "https://10.0.0.5") OperationClaim,
   .submit (queueHost "host-b" "https://10.0.0.5") OperationClaim, .next 1, .next 2]

theorem shared_bmc_operations_overlap :
    effects (init 2 10) sharedBMCRun =
      [.start (queueHost "host-a" "https://10.0.0.5") 0 true,
       .start (queueHost "host-b" "https://10.0.0.5") 0 true] ∧
    effects (run (init 2 10) sharedBMCRun)
        [.tick second, .complete 1, .acquire 7 (queueHost "host-b" "https://10.0.0.5")] =
      [.finish (queueHost "host-a" "https://10.0.0.5") second,
       .start (queueHost "host-b" "https://10.0.0.5") second false] := by
  decide

theorem cooldown_after_completion {maxConcurrent maxQueueSize : Int} {es₁ es₂ : List QueueEvent}
    {h₁ h₂ : PhysicalHost} {t₁ t₂ : Duration}
    (hfinish : QueueEffect.finish h₁ t₁ ∈ effects (init maxConcurrent maxQueueSize) es₁)
    (hstart : QueueEffect.start h₂ t₂ true ∈ effects (run (init maxConcurrent maxQueueSize) es₁) es₂)
    (hbmc : h₁.bmcAddress = h₂.bmcAddress) :
    t₁ + (init maxConcurrent maxQueueSize).pq.bmcCooldownPeriod ≤ t₂ :=
  (clocked_init maxConcurrent maxQueueSize).spaced hfinish hstart hbmc

/-- host-a is processed and completes at one second. -/
def hostACompletesRun : List QueueEvent :=
  [.submit (queueHost "host-a" "https://10.0.0.5") OperationClaim, .next 1, .tick second, .complete 1]

/-- host-b, on the same BMC, is queued at once but taken only ten seconds
later. -/
def hostBCoolsRun : List QueueEvent :=
  [.submit (queueHost "host-b" "https://10.0.0.5") OperationClaim, .next 2, .tick (10 * second),
   .next 2]

theorem host_b_starts_after_cooldown :
    QueueEffect.finish (queueHost "host-a" "https://10.0.0.5") second ∈
      effects (init 2 10) hostACompletesRun ∧
    QueueEffect.start (queueHost "host-b" "https://10.0.0.5") (11 * second) true ∈
      effects (run (init 2 10) hostACompletesRun) hostBCoolsRun ∧
    second + (init 2 10).pq.bmcCooldownPeriod ≤ 11 * second := by
  have hfinish : QueueEffect.finish (queueHost "host-a" "https://10.0.0.5") second ∈
      effects (init 2 10) hostACompletesRun := by
    decide
  have hstart : QueueEffect.start (queueHost "host-b" "https://10.0.0.5") (11 * second) true ∈
      effects (run (init 2 10) hostACompletesRun) hostBCoolsRun := by
    decide
  exact ⟨hfinish, hstart, cooldown_after_completion hfinish hstart rfl⟩

end Beskar7
