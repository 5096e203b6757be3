import Mathlib.Data.List.Basic
import Mathlib.Data.List.Forall2
import Mathlib.Data.List.Induction

/-! Finite executions of a deterministic event-driven system: guarded executions, the
invariant rule, what is observed of executions, and the simulation rule for two executions in
lockstep. -/
namespace EventSystem

variable {σ τ ε δ ω : Type*}

/-- The state after handling the events in order. -/
def run (step : σ → ε → σ) (s : σ) (es : List ε) : σ := es.foldl step s

@[simp] theorem run_nil (step : σ → ε → σ) (s : σ) : run step s [] = s := rfl

@[simp] theorem run_cons (step : σ → ε → σ) (s : σ) (e : ε) (es : List ε) :
    run step s (e :: es) = run step (step s e) es := rfl

theorem run_append (step : σ → ε → σ) (s : σ) (es fs : List ε) :
    run step s (es ++ fs) = run step (run step s es) fs := List.foldl_append

/-- Every event meets the condition `C` in the state in which it is handled. -/
def Guarded (step : σ → ε → σ) (C : σ → ε → Prop) : σ → List ε → Prop
  | _, [] => True
  | s, e :: es => C s e ∧ Guarded step C (step s e) es

@[simp] theorem guarded_nil (step : σ → ε → σ) (C : σ → ε → Prop) (s : σ) :
    Guarded step C s [] := trivial

@[simp] theorem guarded_cons (step : σ → ε → σ) (C : σ → ε → Prop) (s : σ) (e : ε)
    (es : List ε) : Guarded step C s (e :: es) ↔ C s e ∧ Guarded step C (step s e) es := Iff.rfl

theorem guarded_append {step : σ → ε → σ} {C : σ → ε → Prop} {s : σ} {es fs : List ε} :
    Guarded step C s (es ++ fs) ↔ Guarded step C s es ∧ Guarded step C (run step s es) fs := by
  induction es generalizing s with
  | nil => simp
  | cons e es ih => simp only [List.cons_append, guarded_cons, run_cons, ih, and_assoc]

theorem guarded_true (step : σ → ε → σ) (s : σ) (es : List ε) :
    Guarded step (fun _ _ => True) s es := by
  induction es generalizing s with
  | nil => trivial
  | cons e es ih => exact ⟨trivial, ih _⟩

theorem guarded_const {step : σ → ε → σ} {C : ε → Prop} {s : σ} {es : List ε} :
    Guarded step (fun _ e => C e) s es ↔ ∀ e ∈ es, C e := by
  induction es generalizing s with
  | nil => simp
  | cons e es ih => rw [guarded_cons, ih, List.forall_mem_cons]

/-- An invariant kept by every step that meets the condition holds after every guarded
execution; prefixes of guarded executions are guarded, so it holds in every state reached. -/
theorem invariant_run {step : σ → ε → σ} {C : σ → ε → Prop} {I : σ → Prop}
    (hstep : ∀ s e, I s → C s e → I (step s e)) {s : σ} {es : List ε}
    (hs : I s) (hg : Guarded step C s es) : I (run step s es) := by
  induction es generalizing s with
  | nil => exact hs
  | cons e es ih => exact ih (hstep s e hs hg.1) hg.2

theorem invariant_run' {step : σ → ε → σ} {I : σ → Prop} (hstep : ∀ s e, I s → I (step s e))
    {s : σ} (hs : I s) (es : List ε) : I (run step s es) :=
  invariant_run (fun s e hs _ => hstep s e hs) hs (guarded_true step s es)

/-- Conditions that agree wherever an invariant holds guard the same executions. -/
theorem guarded_congr {step : σ → ε → σ} {C D : σ → ε → Prop} {I : σ → Prop}
    (hstep : ∀ s e, I s → I (step s e)) (hCD : ∀ s e, I s → (C s e ↔ D s e)) {s : σ} {es : List ε}
    (hs : I s) : Guarded step C s es ↔ Guarded step D s es := by
  induction es generalizing s with
  | nil => exact Iff.rfl
  | cons e es ih => exact and_congr (hCD s e hs) (ih (hstep s e hs))

/-- A property of the past holds after an execution if and only if every step meets the condition,
when a step keeps the property exactly under its condition, which also keeps an invariant. -/
theorem run_iff_guarded {step : σ → ε → σ} {C : σ → ε → Prop} {I P : σ → Prop}
    (hkeep : ∀ s e, I s → C s e → I (step s e)) (hpast : ∀ s e, P (step s e) → P s)
    (hstep : ∀ s e, I s → P s → (P (step s e) ↔ C s e)) {s : σ} {es : List ε} (hs : I s)
    (hp : P s) : P (run step s es) ↔ Guarded step C s es := by
  have hback : ∀ es s, P (run step s es) → P s := by
    intro es
    induction es with
    | nil => exact fun s h => h
    | cons e es ih => exact fun s h => hpast s e (ih _ h)
  induction es generalizing s with
  | nil => exact iff_of_true hp trivial
  | cons e es ih =>
    constructor
    · intro h
      have he := (hstep s e hs hp).mp (hback es _ h)
      exact ⟨he, (ih (hkeep s e hs he) ((hstep s e hs hp).mpr he)).mp h⟩
    · intro h
      exact (ih (hkeep s e hs h.1) ((hstep s e hs hp).mpr h.1)).mpr h.2

/-- A property holds in every state reached if and only if every step meets the condition, when a step
that is taken where it holds keeps it exactly under the condition. -/
theorem guarded_iff_of_step {step : σ → ε → σ} {C : σ → ε → Prop} {I P : σ → Prop}
    (hkeep : ∀ s e, I s → I (step s e)) (hstep : ∀ s e, I s → P s → (P (step s e) ↔ C s e))
    {s : σ} {es : List ε} (hs : I s) (hp : P s) :
    Guarded step (fun s e => P (step s e)) s es ↔ Guarded step C s es := by
  induction es generalizing s with
  | nil => exact Iff.rfl
  | cons e es ih =>
    rw [guarded_cons, guarded_cons, hstep s e hs hp]
    apply and_congr_right
    intro hc
    exact ih (hkeep s e hs) ((hstep s e hs hp).mpr hc)

/-- What is observed of the events, each in the state in which it is handled. -/
def trace (step : σ → ε → σ) (out : σ → ε → ω) : σ → List ε → List ω
  | _, [] => []
  | s, e :: es => out s e :: trace step out (step s e) es

/-- Events that leave alone what is observed of the later ones are observed as in the first state. -/
theorem trace_eq_map {step : σ → ε → σ} {out : σ → ε → ω} {D : ε → ε → Prop}
    (hframe : ∀ s e e', D e e' → out (step s e) e' = out s e') {s : σ} {es : List ε}
    (hD : es.Pairwise D) : trace step out s es = es.map (out s) := by
  induction es generalizing s with
  | nil => rfl
  | cons e es ih =>
    obtain ⟨he, hes⟩ := List.pairwise_cons.mp hD
    unfold trace
    rw [ih hes, List.map_cons]
    have hmap : es.map (out (step s e)) = es.map (out s) :=
      List.map_congr_left fun e' hmem => hframe s e e' (he e' hmem)
    rw [hmap]

theorem flatten_map_eq_singleton_iff {out : ε → List ω} {C : ε → Prop} {P : ω → Prop}
    {es : List ε} (hnone : ∀ e, ¬ C e → out e = []) (hone : ∀ e, C e → ∃ a, P a ∧ out e = [a])
    (hnodup : es.Nodup) : (∃ a, P a ∧ (es.map out).flatten = [a]) ↔ ∃! e, e ∈ es ∧ C e := by
  have hnil : ∀ es : List ε, (es.map out).flatten = [] ↔ ∀ e ∈ es, ¬ C e := by
    intro es
    rw [List.flatten_eq_nil_iff, List.forall_mem_map]
    apply forall₂_congr
    intro e he
    constructor
    · intro hout hC
      obtain ⟨a, -, ha⟩ := hone e hC
      rw [ha] at hout
      cases hout
    · exact hnone e
  induction es with
  | nil =>
    constructor
    · rintro ⟨a, -, ha⟩
      cases ha
    · rintro ⟨e, ⟨he, -⟩, -⟩
      cases he
  | cons e es ih =>
    obtain ⟨hnotMem, hnodup⟩ := List.nodup_cons.mp hnodup
    rw [List.map_cons, List.flatten_cons]
    by_cases hC : C e
    · obtain ⟨a, hP, ha⟩ := hone e hC
      rw [ha]
      constructor
      · rintro ⟨b, -, hb⟩
        have hrest := (hnil es).mp (List.cons.inj hb).2
        refine ⟨e, ⟨List.mem_cons_self, hC⟩, ?_⟩
        rintro e' ⟨hmem, hC'⟩
        cases List.mem_cons.mp hmem with
        | inl heq => exact heq
        | inr hmem => exact absurd hC' (hrest e' hmem)
      · rintro ⟨e₀, -, hunique⟩
        refine ⟨a, hP, congrArg (a :: ·) ((hnil es).mpr ?_)⟩
        intro e' hmem hC'
        have heq : e' = e := (hunique e' ⟨List.mem_cons_of_mem _ hmem, hC'⟩).trans
          (hunique e ⟨List.mem_cons_self, hC⟩).symm
        exact hnotMem (heq ▸ hmem)
    · rw [hnone e hC, List.nil_append]
      refine (ih hnodup).trans (existsUnique_congr fun e' => ?_)
      constructor
      · exact fun h => ⟨List.mem_cons_of_mem _ h.1, h.2⟩
      · rintro ⟨hmem, hC'⟩
        cases List.mem_cons.mp hmem with
        | inl heq => exact absurd (heq ▸ hC') hC
        | inr hmem => exact ⟨hmem, hC'⟩

/-- Systems that take the same steps under a condition have the same guarded executions. -/
theorem run_eq_of_guarded {step step' : σ → ε → σ} {C : σ → ε → Prop}
    (hstep : ∀ s e, C s e → step s e = step' s e) {s : σ} {es : List ε}
    (hg : Guarded step C s es) : run step s es = run step' s es := by
  induction es generalizing s with
  | nil => rfl
  | cons e es ih =>
    rw [run_cons, run_cons, ← hstep s e hg.1]
    exact ih hg.2

theorem trace_eq_of_guarded {step step' : σ → ε → σ} {C : σ → ε → Prop} {out : σ → ε → ω}
    (hstep : ∀ s e, C s e → step s e = step' s e) {s : σ} {es : List ε}
    (hg : Guarded step C s es) : trace step out s es = trace step' out s es := by
  induction es generalizing s with
  | nil => rfl
  | cons e es ih =>
    unfold trace
    rw [← hstep s e hg.1, ih hg.2]

/-- Two executions over related events stay related when each pair of steps does. -/
theorem simulation_run {step : σ → ε → σ} {step' : τ → δ → τ} {R : σ → τ → Prop}
    {E : ε → δ → Prop} (hstep : ∀ s t e d, R s t → E e d → R (step s e) (step' t d))
    {s : σ} {t : τ} {es : List ε} {ds : List δ} (hR : R s t) (hE : List.Forall₂ E es ds) :
    R (run step s es) (run step' t ds) := by
  induction hE generalizing s t with
  | nil => exact hR
  | cons he _ ih => exact ih (hstep _ _ _ _ hR he)

theorem guarded_iff_forall {step : σ → ε → σ} {C : σ → ε → Prop} {s : σ} {es : List ε} :
    Guarded step C s es ↔
      ∀ before e after, es = before ++ e :: after → C (run step s before) e := by
  induction es generalizing s with
  | nil => simp
  | cons e es ih =>
    rw [guarded_cons, ih]
    constructor
    · intro h before e' after heq
      cases before with
      | nil =>
        obtain ⟨rfl, -⟩ := List.cons.inj heq
        exact h.1
      | cons e'' before =>
        obtain ⟨rfl, hes⟩ := List.cons.inj heq
        exact h.2 before e' after hes
    · intro h
      refine ⟨h [] e es rfl, fun before e' after heq => ?_⟩
      exact h (e :: before) e' after (congrArg (e :: ·) heq)

/-- Guarded executions of a system that another one projects to. -/
theorem guarded_map {step : σ → ε → σ} {step' : τ → ε → τ} {f : σ → τ} {C : τ → ε → Prop}
    (hf : ∀ s e, f (step s e) = step' (f s) e) {s : σ} {es : List ε} :
    Guarded step (fun s e => C (f s) e) s es ↔ Guarded step' C (f s) es := by
  induction es generalizing s with
  | nil => exact Iff.rfl
  | cons e es ih => rw [guarded_cons, guarded_cons, ih, hf]

theorem run_map {step : σ → ε → σ} {step' : τ → ε → τ} {f : σ → τ}
    (hf : ∀ s e, f (step s e) = step' (f s) e) (s : σ) (es : List ε) :
    f (run step s es) = run step' (f s) es := by
  induction es generalizing s with
  | nil => rfl
  | cons e es ih => rw [run_cons, run_cons, ih, hf]

/-- A property holds after every event, and at the start, if and only if every step meets the
condition. -/
theorem forall_run_iff_guarded {step : σ → ε → σ} {C : σ → ε → Prop} {I P : σ → Prop}
    (hkeep : ∀ s e, I s → I (step s e)) (hstep : ∀ s e, I s → P s → (P (step s e) ↔ C s e))
    {s : σ} {es : List ε} (hs : I s) (hp : P s) :
    (∀ before after, es = before ++ after → P (run step s before)) ↔ Guarded step C s es := by
  rw [← guarded_iff_of_step hkeep hstep hs hp, guarded_iff_forall]
  constructor
  · intro h before e after heq
    have hprefix := h (before ++ [e]) after (by rw [heq, List.append_assoc, List.singleton_append])
    rw [run_append] at hprefix
    exact hprefix
  · intro h before after heq
    rcases List.eq_nil_or_concat before with rfl | ⟨before, e, rfl⟩
    · exact hp
    · rw [List.concat_eq_append] at heq ⊢
      rw [List.append_assoc, List.singleton_append] at heq
      rw [run_append]
      exact h before e after heq

/-- A stronger condition under an invariant. -/
theorem Guarded.imp_of_invariant {step : σ → ε → σ} {C D : σ → ε → Prop} {I : σ → Prop}
    (hkeep : ∀ s e, I s → C s e → I (step s e)) (hCD : ∀ s e, I s → C s e → D s e) {s : σ}
    {es : List ε} (hs : I s) (h : Guarded step C s es) : Guarded step D s es := by
  induction es generalizing s with
  | nil => trivial
  | cons e es ih => exact ⟨hCD s e hs h.1, ih (hkeep s e hs h.1) h.2⟩

/-- An abstraction follows an execution at every event if and only if every step meets the condition
on which it follows the step. -/
theorem abstraction_run_iff {step : σ → ε → σ} {abstractStep : τ → ε → τ} {abstraction : σ → τ}
    {C : σ → ε → Prop} {I : σ → Prop} (hkeep : ∀ s e, I s → I (step s e))
    (hstep : ∀ s e, I s →
      (abstraction (step s e) = abstractStep (abstraction s) e ↔ C s e)) {s : σ} {es : List ε}
    (hs : I s) :
    (∀ before after, es = before ++ after →
        abstraction (run step s before) = run abstractStep (abstraction s) before) ↔
      Guarded step C s es := by
  induction es generalizing s with
  | nil =>
    apply iff_of_true _ trivial
    intro before after heq
    rw [(List.append_eq_nil_iff.mp heq.symm).1]
    rfl
  | cons e es ih =>
    rw [guarded_cons, ← ih (hkeep s e hs), ← hstep s e hs]
    constructor
    · intro h
      have hfirst : abstraction (step s e) = abstractStep (abstraction s) e := h [e] es rfl
      refine ⟨hfirst, fun before after heq => ?_⟩
      rw [hfirst]
      exact h (e :: before) after (congrArg (e :: ·) heq)
    · intro h before after heq
      cases before with
      | nil => rfl
      | cons e' before =>
        obtain ⟨rfl, hes⟩ := List.cons.inj heq
        rw [run_cons, run_cons, ← h.1]
        exact h.2 before after hes

section LastWrite

variable {κ ν : Type*}

/-- An event of the execution writes the value under the key, and no later one writes under it. -/
def LastWrite (step : σ → ε → σ) (write : σ → ε → Option (κ × ν)) (s : σ) (es : List ε) (k : κ)
    (v : ν) (before : List ε) (e : ε) (after : List ε) : Prop :=
  es = before ++ e :: after ∧ write (run step s before) e = some (k, v) ∧
    Guarded step (fun s e => ∀ v', write s e ≠ some (k, v')) (run step s (before ++ [e])) after

/-- Writes of a system that another one projects to. -/
theorem lastWrite_map {step : σ → ε → σ} {step' : τ → ε → τ} {f : σ → τ}
    {write : τ → ε → Option (κ × ν)} (hf : ∀ s e, f (step s e) = step' (f s) e) {s : σ} {es : List ε}
    {k : κ} {v : ν} {before : List ε} {e : ε} {after : List ε} :
    LastWrite step (fun s e => write (f s) e) s es k v before e after ↔
      LastWrite step' write (f s) es k v before e after := by
  have hguarded := @guarded_map _ _ _ step step' f (fun s e => ∀ v', write s e ≠ some (k, v')) hf
    (run step s (before ++ [e])) after
  rw [run_map hf] at hguarded
  unfold LastWrite
  rw [hguarded]
  dsimp only
  rw [run_map hf]

/-- A store that each event writes one value to, or none, holds under a key what was written last. -/
theorem lastWrite_run_iff [DecidableEq κ] {step : σ → ε → σ} {write : σ → ε → Option (κ × ν)}
    {store : σ → κ → Option ν}
    (hwrite : ∀ s e w, write s e = some w →
      store (step s e) = Function.update (store s) w.1 (some w.2))
    (hkept : ∀ s e, write s e = none → store (step s e) = store s) {s : σ} {es : List ε} {k : κ}
    {v : ν} (hs : store s k = none) :
    store (run step s es) k = some v ↔
      ∃ before e after, LastWrite step write s es k v before e after := by
  induction es using List.reverseRecOn with
  | nil =>
    rw [run_nil, hs]
    refine iff_of_false (fun h => by cases h) ?_
    rintro ⟨before, e, after, hsplit, -⟩
    exact List.append_ne_nil_of_right_ne_nil _ (List.cons_ne_nil _ _) hsplit.symm
  | append_singleton es e ih =>
    have hrun : run step s (es ++ [e]) = step (run step s es) e := run_append step s es [e]
    rw [hrun]
    by_cases hk : ∃ v', write (run step s es) e = some (k, v')
    · obtain ⟨v', hv'⟩ := hk
      rw [hwrite _ _ _ hv', Function.update_self]
      constructor
      · intro h
        exact ⟨es, e, [], rfl, Option.some.inj h ▸ hv', trivial⟩
      · rintro ⟨before, e', after, hsplit, hlast, hafter⟩
        rcases List.eq_nil_or_concat after with rfl | ⟨after, e'', rfl⟩
        · obtain ⟨rfl, heq⟩ := List.append_inj' hsplit rfl
          obtain rfl := (List.cons.inj heq).1
          exact congrArg (Option.map Prod.snd) (hv'.symm.trans hlast)
        · rw [List.concat_eq_append] at hsplit hafter
          have hsplit' : es ++ [e] = (before ++ e' :: after) ++ [e''] := by
            rw [hsplit, List.append_assoc, List.cons_append]
          obtain ⟨rfl, heq⟩ := List.append_inj' hsplit' rfl
          obtain rfl := (List.cons.inj heq).1
          have hnot := (guarded_append.mp hafter).2.1 v'
          rw [← run_append, List.append_assoc, List.singleton_append] at hnot
          exact absurd hv' hnot
    · have hkept' : store (step (run step s es) e) k = store (run step s es) k := by
        cases hw : write (run step s es) e with
        | none => rw [hkept _ _ hw]
        | some w =>
          have hne : k ≠ w.1 := fun heq => hk ⟨w.2, by rw [hw, heq]⟩
          rw [hwrite _ _ _ hw, Function.update_of_ne hne]
      rw [hkept', ih]
      constructor
      · rintro ⟨before, e', after, hsplit, hlast, hafter⟩
        refine ⟨before, e', after ++ [e], by rw [hsplit, List.append_assoc, List.cons_append], hlast,
          guarded_append.mpr ⟨hafter, fun v' hv' => hk ⟨v', ?_⟩, trivial⟩⟩
        rw [← run_append, List.append_assoc, List.singleton_append, ← hsplit] at hv'
        exact hv'
      · rintro ⟨before, e', after, hsplit, hlast, hafter⟩
        rcases List.eq_nil_or_concat after with rfl | ⟨after, e'', rfl⟩
        · obtain ⟨rfl, heq⟩ := List.append_inj' hsplit rfl
          obtain rfl := (List.cons.inj heq).1
          exact absurd ⟨v, hlast⟩ hk
        · rw [List.concat_eq_append] at hsplit hafter
          have hsplit' : es ++ [e] = (before ++ e' :: after) ++ [e''] := by
            rw [hsplit, List.append_assoc, List.cons_append]
          obtain ⟨hes, -⟩ := List.append_inj' hsplit' rfl
          exact ⟨before, e', after, hes, hlast, (guarded_append.mp hafter).1⟩

end LastWrite

end EventSystem
