import Curriculum.Proofs.Program.History

/-! # Mirrored runs

A program that makes calls of some kind only (`Program.Obeys`) cannot tell machines apart that reply
to those calls in the same way (`Mirrors`): it comes to the same result on them. -/

namespace Curriculum

variable {α β σ τ : Type} {allowed : Call → Prop}

/-- In states that are related, two machines reply to all allowed calls in the same way, and the
states that they go on to are related again. -/
def Mirrors (allowed : Call → Prop) (m₁ : Machine σ) (m₂ : Machine τ) (R : σ → τ → Prop) : Prop :=
  ∀ call, allowed call → ∀ s t, R s t →
    (m₁.reply call s).1 = (m₂.reply call t).1 ∧ R (m₁.reply call s).2 (m₂.reply call t).2

theorem Mirrors.refl (allowed : Call → Prop) (m : Machine σ) : Mirrors allowed m m Eq := by
  rintro call - s _ rfl
  exact ⟨rfl, rfl⟩

namespace Program

/-- Whatever a program is replied, all its calls are allowed and its result is as it should be. -/
def Obeys (allowed : Call → Prop) (after : α → Prop) : Program α → Prop
  | done a => after a
  | ask call next => allowed call ∧ ∀ reply, (next reply).Obeys allowed after

section
variable {p : Program α} {after : α → Prop} {after' : β → Prop}

theorem Obeys.bind {f : α → Program β} (h : p.Obeys allowed after)
    (hnext : ∀ a, after a → (f a).Obeys allowed after') : (p.bind f).Obeys allowed after' := by
  induction p with
  | done a => exact hnext a h
  | ask call next ih => exact ⟨h.1, fun reply => ih reply (h.2 reply)⟩

theorem Obeys.of_replays (h : p.Obeys allowed after) (hreplay : p.Replays events a) :
    (∀ event ∈ events, allowed event.call) ∧ after a := by
  induction hreplay with
  | done => exact ⟨nofun, h⟩
  | ask reply _ ih =>
    obtain ⟨hcalls, hresult⟩ := ih (h.2 reply)
    exact ⟨List.forall_mem_cons.2 ⟨h.1, hcalls⟩, hresult⟩

theorem Obeys.run_mirrored {m₁ : Machine σ} {m₂ : Machine τ} {R : σ → τ → Prop}
    (hp : p.Obeys allowed after) (h : Mirrors allowed m₁ m₂ R) (hst : R s t) :
    (p.run m₁ s).1 = (p.run m₂ t).1 ∧ R (p.run m₁ s).2 (p.run m₂ t).2 := by
  induction p generalizing s t with
  | done a => exact ⟨rfl, hst⟩
  | ask call next ih =>
    obtain ⟨hreply, hnext⟩ := h call hp.1 s t hst
    rw [run_ask, run_ask, hreply]
    exact ih _ (hp.2 _) hnext

end

end Program

end Curriculum
