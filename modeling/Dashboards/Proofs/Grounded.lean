import Mathlib.Data.Fintype.Card
import Mathlib.Data.Set.Finite.Basic
import Mathlib.Logic.Relation

/-!
# Grounded references

Where things refer to each other, one is grounded if it is known and all that it refers to is
grounded (`Grounded`). Over finitely many known things the others are exactly those from which the
references lead to something that is not known, or into a circle (`grounded_iff`).
-/

namespace Dashboards

open Relation

variable {α : Type} {known : α → Prop} {refers : α → α → Prop} {a b : α}

/-- A thing is grounded if it is known and refers to grounded things only. -/
inductive Grounded (known : α → Prop) (refers : α → α → Prop) : α → Prop where
  | mk {a : α} : known a → (∀ b, refers a b → Grounded known refers b) →
      Grounded known refers a

/-- What a grounded thing leads to is grounded. -/
theorem Grounded.of_reflTransGen (h : Grounded known refers a) (hab : ReflTransGen refers a b) :
    Grounded known refers b := by
  induction hab with
  | refl => exact h
  | tail _ hstep ih =>
    cases ih with
    | mk _ hrefs => exact hrefs _ hstep

/-- A grounded thing does not lead to itself. -/
theorem Grounded.not_cyclic (h : Grounded known refers a) : ¬ TransGen refers a a := by
  induction h with
  | @mk a _ _ ih =>
    -- A circle through `a` is also one through the first thing that `a` refers to on it.
    intro hcycle
    obtain ⟨b, hab, hba⟩ := TransGen.head'_iff.1 hcycle
    exact ih b hab (TransGen.tail' hba hab)

/-- A thing is grounded exactly if all it leads to is known and on no circle. -/
theorem grounded_iff (hfinite : {a | known a}.Finite) :
    Grounded known refers a ↔
      ∀ b, ReflTransGen refers a b → known b ∧ ¬ TransGen refers b b := by
  constructor
  · intro h b hab
    have hb := h.of_reflTransGen hab
    refine ⟨?_, hb.not_cyclic⟩
    cases hb with
    | mk hknown _ => exact hknown
  · intro h
    -- What `a` leads to is finite and has no circle, so its references end.
    let Reached := {b // ReflTransGen refers a b}
    have : Finite Reached := (hfinite.subset fun b hab => (h b hab).1).to_subtype
    let back : Reached → Reached → Prop := fun b c => TransGen refers c.1 b.1
    have : IsTrans Reached back := ⟨fun _ _ _ hbc hcd => hcd.trans hbc⟩
    have : Std.Irrefl back := ⟨fun b hb => (h b.1 b.2).2 hb⟩
    have hwf : WellFounded back := Finite.wellFounded_of_trans_of_irrefl back
    have grounded : ∀ b : Reached, Grounded known refers b.1 := by
      intro b
      induction b using hwf.induction with
      | _ b ih =>
        refine .mk (h b.1 b.2).1 fun c hbc => ?_
        exact ih ⟨c, b.2.tail hbc⟩ (.single hbc)
    exact grounded ⟨a, .refl⟩

end Dashboards
